import EponManager.Frames
import EponManager.Locks

/-!
# Start-up (`eponMgr_controller_init` and what it calls)

The subsystems are initialised one after another, and the first failure abandons the start-up. The
global pointer `g_controller` is set last, so that whoever finds it set finds the configuration and
the poller in place too: that is `init_initialised`.
-/

namespace EponManager

open Lib
open Lib.Prog (Ensures Keeps Respects)

/-- A call made during start-up that can fail. -/
def startupCall : M Bool := ask Env.startup

/-- A call to the outside changes nothing but the count of the calls. -/
theorem startupCall_ensures {P Q : World → Prop}
    (h : ∀ w, P w → Q { w with tick := w.tick + 1 }) : Ensures P startupCall (fun _ => Q) := by
  rintro env s _ _ hs ⟨⟩
  exact h _ hs

/-! ### The stages -/

/-- `eponMgr_rbus_init` -/
def Rbus.init : M Bool := do
  let initialized ← Prog.read World.rbusInitialized
  if initialized then
    return true
  else
    let ok ← startupCall
    if ok then
      Prog.write (fun w => { w with rbusInitialized := true })
      return true
    else
      return false

/-- What `eponMgr_statsData_init` and `eponMgr_onu_state_init` set after the `memset`. -/
def Data.initial (dpoeSupported : Bool) (cacheTtl : UInt32) : Data :=
  { Data.zero with
    statsData := { Data.zero.statsData with ttlSeconds := cacheTtl }
    onuState := { Data.zero.onuState with
      currentStatus := .los
      previousStatus := .los
      dpoeSupported
      halInitialized := false }
    dpoeSupported
    halInitialized := false }

/-- `eponMgr_data_init`; its four allocations and mutexes are one call that can fail. -/
def Data.init (dpoeSupported : Bool) (cacheTtl : UInt32) : M Bool := do
  let ok ← startupCall
  if ok then
    Prog.write (fun w => { w with eponData := ⟨true, Data.initial dpoeSupported cacheTtl⟩ })
    return true
  else
    return false

/-- `eponMgr_data_hal_init` -/
def Data.halInit : M HalReturn := do
  Prog.lock .data
  let ret ← ask Env.halInit
  if ret = .success then
    modifyData (fun d => { d with halInitialized := true })
    OnuState.setHalInitialized
    Prog.unlock .data
    return ret
  else
    Prog.unlock .data
    return ret

/-- The major number of a HAL API version. -/
def halMajor (version : UInt32) : UInt32 := (version >>> 24) &&& 0xFF

/-- `eponMgr_stats_poller_init` -/
def StatsPoller.init (enabled : Bool) (intervalSeconds : UInt32) : M Bool := do
  let ok ← startupCall
  if ok then
    modifyController (fun c => { c with
      statsPoller :=
        ⟨true, { enabled, intervalSeconds, running := false, shutdownRequested := false }⟩ })
    return true
  else
    return false

/-- `eponMgr_tr181_init`, given the number of data elements it registers. -/
def Tr181.init (params : Nat) : M Bool := do
  Prog.write (fun w =>
    { w with tr181 := { w.tr181 with rbusHandle := true, paramCount := params } })
  let ok ← startupCall
  if ok then
    let _ ← syncLlidTable
    let _ ← syncCpeTable
    let _ ← syncVeipTable
    return true
  else
    return false

/-- `eponMgr_rbus_register_tr181` -/
def Rbus.registerTr181 : M Bool := do
  let initialized ← Prog.read World.rbusInitialized
  if initialized then Tr181.init 76 else return false

namespace Controller

/-- Steps 1 to 6 of `eponMgr_controller_init`: logger, PSM, rbus, configuration, queue and data
context, together with the allocations, mutexes and the condition variable before them. -/
def initData : M Bool := do
  let ok ← startupCall
  if ok then
    let rbus ← Rbus.init
    if rbus then
      modifyController (fun c => { c with config := ⟨true, Persistence.initDefaults⟩ })
      let config ← Persistence.load Persistence.initDefaults
      modifyController (Controller.modifyConfig (fun _ => config))
      let queue ← startupCall
      if queue then Data.init config.dpoeEnabled config.cacheTtlSeconds else return false
    else
      return false
  else
    return false

/-- Step 7: the HAL, and its version. -/
def initHal (limits : HalLimits) : M Bool := do
  let ret ← Data.halInit
  if ret = .success then
    let version ← ask Env.halGetVersion
    return halMajor version = halMajor limits.apiVersion
  else
    Telemetry.raiseSimple
      (if ret = .errorWrongPonMode then .systemHalWrongPonMode else .errorHalCallFailed)
    return false

/-- `eponMgr_controller_init`; `false` is `NULL`. -/
def init (limits : HalLimits) : M Bool := do
  let data ← initData
  if data then
    let hal ← initHal limits
    if hal then
      let config ← readController (fun c => c.config.obj)
      let poller ← StatsPoller.init config.statsPollerEnabled config.statsPollerIntervalSeconds
      if poller then
        let tr181 ← Rbus.registerTr181
        if tr181 then
          Prog.write (fun w => { w with controller := { w.controller with isSet := true } })
          return true
        else
          return false
      else
        return false
    else
      return false
  else
    return false

/-! ### What a successful start-up leaves -/

/-- Which pointers are set: `g_eponData`, `g_controller`, `ctrl->config`, `ctrl->stats_poller`. -/
def pointers (w : World) : Bool × Bool × Bool × Bool :=
  (w.eponData.isSet, w.controller.isSet, w.controller.obj.config.isSet,
    w.controller.obj.statsPoller.isSet)

instance : ReportsRows (fun w w' => pointers w' = pointers w) (fun _ => True) :=
  ReportsRows.of_view (fun _ => rfl) (fun _ _ => rfl) (fun _ _ => rfl) (fun _ _ => rfl)

section Frames

variable {E : Effect → Prop} {R : World → World → Prop}

/-- The HAL's start-up sets two flags, one in the data context and one in the ONU state. -/
theorem halInit_respects [Reports R E]
    (hdata : ∀ w, R w { w with eponData := { w.eponData with
      obj := { w.eponData.obj with halInitialized := true } } })
    (honu : ∀ w, R w { w with eponData := { w.eponData with
      obj := { w.eponData.obj with
        onuState := { w.eponData.obj.onuState with halInitialized := true } } } }) :
    Respects R Data.halInit := by
  refine Respects.lock.bind fun _ => (ask_outside _).bind fun _ => Respects.ite ?_
    (Respects.unlock.bind fun _ => Respects.pure)
  refine Respects.bind (Respects.write hdata) fun _ => Respects.bind ?_ fun _ =>
    Respects.unlock.bind fun _ => Respects.pure
  exact Respects.lock.bind fun _ => Respects.bind (Respects.write honu) fun _ => Respects.unlock

/-- A start of the HAL that fails is reported, whatever the error. -/
theorem initHal_respects [Reports R E] (hE : ∀ event sent, E (.telemetry event none sent))
    (hhal : Respects R Data.halInit) (limits : HalLimits) : Respects R (initHal limits) :=
  hhal.bind fun _ => Respects.ite ((ask_outside _).bind fun _ => Respects.pure)
    ((Telemetry.dispatch_outside (hE _)).bind fun _ => Respects.pure)

/-- The flags are neither part of the lists nor of the statistics. -/
theorem initHal_outside [Reports R E] (hE : ∀ event sent, E (.telemetry event none sent))
    (hflags : ∀ w (f : Data → Data),
      (∀ d, (f d).lists = d.lists ∧ (f d).statsData = d.statsData) →
      R w { w with eponData := { w.eponData with obj := f w.eponData.obj } })
    (limits : HalLimits) : Respects R (initHal limits) :=
  initHal_respects hE
    (halInit_respects (fun w => hflags w (fun d => { d with halInitialized := true })
        fun _ => ⟨rfl, rfl⟩)
      (fun w => hflags w
        (fun d => { d with onuState := { d.onuState with halInitialized := true } })
        fun _ => ⟨rfl, rfl⟩)) limits

/-- The poller is created, with the settings of the configuration. -/
theorem pollerInit_respects [Reports R E]
    (hpoller : ∀ w poller, R w { w with controller := { w.controller with
      obj := { w.controller.obj with statsPoller := poller } } })
    (enabled : Bool) (intervalSeconds : UInt32) :
    Respects R (StatsPoller.init enabled intervalSeconds) :=
  (ask_outside _).bind fun _ => Respects.ite
    (Respects.bind (Respects.write fun w => hpoller w _) fun _ => Respects.pure) Respects.pure

/-- The three tables are synced once the elements are registered. -/
theorem registerTr181_outside [ReportsRows R E]
    (hE : ∀ table i ok, E (.registerRow table i ok)) : Respects R Rbus.registerTr181 := by
  refine Respects.read.bind fun _ => Respects.ite ?_ Respects.pure
  refine Respects.bind (Respects.write fun w => ReportsRows.tr181 w _) fun _ =>
    (ask_outside _).bind fun _ => Respects.ite ?_ Respects.pure
  exact (Tr181.syncLlidTable_outside (hE _)).bind fun _ =>
    (Tr181.syncCpeTable_outside (hE _)).bind fun _ =>
    (Tr181.syncVeipTable_outside (hE _)).bind fun _ => Respects.pure

end Frames

/-! ### The four pointers

Each stage sets its own pointer, and the stages behind it leave it alone.
-/

theorem initHal_pointers (limits : HalLimits) : Keeps pointers (initHal limits) :=
  initHal_outside (fun _ _ => trivial) (fun _ _ _ => rfl) limits

/-- The data context and the configuration are in place. -/
def DataReady (w : World) : Prop := w.eponData.isSet ∧ w.controller.obj.config.isSet

/-- The poller is in place, too. -/
def PollerReady (w : World) : Prop := DataReady w ∧ w.controller.obj.statsPoller.isSet

theorem ensures_dataReady {α : Type} {f : M α} (hf : Keeps pointers f) :
    Ensures DataReady f (fun _ => DataReady) :=
  hf.ensures fun _ _ h hw =>
    ⟨(congrArg (·.1) h).trans hw.1, (congrArg (·.2.2.1) h).trans hw.2⟩

theorem ensures_pollerReady {α : Type} {f : M α} (hf : Keeps pointers f) :
    Ensures PollerReady f (fun _ => PollerReady) :=
  hf.ensures fun _ _ h hw =>
    ⟨⟨(congrArg (·.1) h).trans hw.1.1, (congrArg (·.2.2.1) h).trans hw.1.2⟩,
      (congrArg (·.2.2.2) h).trans hw.2⟩

theorem ensures_config {α : Type} {f : M α} (hf : Keeps pointers f) :
    Ensures (fun w => w.controller.obj.config.isSet) f
      (fun _ w => w.controller.obj.config.isSet) :=
  hf.ensures fun _ _ h hw => (congrArg (·.2.2.1) h).trans hw

/-- A program of which nothing needs to be known. -/
theorem ensures_trivial {α : Type} {P : World → Prop} {f : M α} :
    Ensures P f (fun _ _ => True) :=
  fun _ _ _ _ _ _ => trivial

theorem ensures_abandon {P Q : World → Prop} :
    Ensures P (return false : M Bool) (fun ok w => ok = true → Q w) :=
  Ensures.pure (by simp)

/-- What holds whatever is returned. -/
theorem ensures_regardless {P Q : World → Prop} {f : M Bool} (hf : Ensures P f (fun _ => Q)) :
    Ensures P f (fun ok w => ok = true → Q w) :=
  hf.conseq (fun _ h => h) fun _ _ h _ => h

/-! ### The stages as rules

What holds after a stage, for any conditions on what its parts leave. The modules that follow a
field through the start-up supply the conditions.
-/

/-- **The rule of the first steps**, by what holds when the controller is allocated, when rbus is
open, when the configuration has its defaults, when it is loaded, and when it is stored. -/
theorem initData_rule {env : Env} {P A R S D : World → Prop} {L C : Persistence → World → Prop}
    (halloc : ∀ w, P w → A { w with tick := w.tick + 1 })
    (hrbus : Ensures A (Prog.within env Rbus.init) (fun ok w => ok = true → R w))
    (hdefaults : ∀ w, R w → S { w with controller := { w.controller with
      obj := { w.controller.obj with config := ⟨true, Persistence.initDefaults⟩ } } })
    (hload : Ensures S (Prog.within env Persistence.initDefaults.load) L)
    (hstore : ∀ config w, L config w → C config { w with controller := { w.controller with
      obj := Controller.modifyConfig (fun _ => config) w.controller.obj } })
    (hcall : ∀ config w, C config w → C config { w with tick := w.tick + 1 })
    (hdata : ∀ config w, C config w → D { w with
      eponData := ⟨true, Data.initial config.dpoeEnabled config.cacheTtlSeconds⟩ }) :
    Ensures P (Prog.within env initData) (fun ok w => ok = true → D w) := by
  have habandon {Q : World → Prop} :
      Ensures Q (Prog.within env (return false : M Bool)) (fun ok w => ok = true → D w) :=
    ensures_abandon.within env
  -- the calls in their order; each of the three tests may give up
  refine Ensures.within_bind ((startupCall_ensures halloc).within env) fun _ =>
    Ensures.within_ite (fun _ => ?_) (fun _ => habandon)
  refine Ensures.within_bind hrbus fun rbus => Ensures.within_ite (fun hok => ?_)
    (fun _ => habandon)
  refine Ensures.within_bind (Q := fun _ => S)
    ((Ensures.write fun w h => hdefaults w (h hok)).within env) fun _ => ?_
  refine Ensures.within_bind hload fun config => ?_
  refine Ensures.within_bind (Q := fun _ => C config)
    ((Ensures.write (hstore config)).within env) fun _ => ?_
  refine Ensures.within_bind ((startupCall_ensures (hcall config)).within env) fun _ =>
    Ensures.within_ite (fun _ => ?_) (fun _ => habandon)
  refine Ensures.within_bind ((startupCall_ensures (hcall config)).within env) fun _ =>
    Ensures.within_ite (fun _ => ?_) (fun _ => habandon)
  exact Ensures.within_bind (Q := fun _ => D) ((Ensures.write (hdata config)).within env) fun _ =>
    (Ensures.pure fun _ h _ => h).within env

theorem initData_ensures :
    Ensures (fun _ => True) initData (fun ok w => ok = true → DataReady w) := by
  refine Ensures.of_within fun env => initData_rule (A := fun _ => True) (R := fun _ => True)
    (S := fun w => w.controller.obj.config.isSet) (L := fun _ w => w.controller.obj.config.isSet)
    (C := fun _ w => w.controller.obj.config.isSet) (fun _ _ => trivial)
    (ensures_regardless ensures_trivial) (fun _ _ => rfl) ?_ (fun _ _ hw => hw)
    (fun _ _ hw => hw) (fun _ _ hw => ⟨rfl, hw⟩)
  exact (ensures_config (Persistence.load_outside _)).within env

/-- **The rule of the start-up**, by what holds when the data context is in place, when the poller
is, and when the TR-181 parameters are registered. -/
theorem init_rule {env : Env} {limits : HalLimits} {P A B C D : World → Prop}
    (hdata : Ensures P (Prog.within env initData) (fun ok w => ok = true → A w))
    (hhal : Ensures A (Prog.within env (initHal limits)) (fun _ => A))
    (hpoller : ∀ config : Persistence, Ensures (fun w => config = w.controller.obj.config.obj ∧ A w)
      (Prog.within env
        (StatsPoller.init config.statsPollerEnabled config.statsPollerIntervalSeconds))
      (fun ok w => ok = true → B w))
    (htr181 : Ensures B (Prog.within env Rbus.registerTr181) (fun ok w => ok = true → C w))
    (hpublish : ∀ w, C w → D { w with controller := { w.controller with isSet := true } }) :
    Ensures P (Prog.within env (init limits)) (fun ok w => ok = true → D w) := by
  have habandon {R : World → Prop} :
      Ensures R (Prog.within env (return false : M Bool)) (fun ok w => ok = true → D w) :=
    ensures_abandon.within env
  refine Ensures.within_bind hdata fun data => Ensures.within_ite (fun hok => ?_)
    (fun _ => habandon)
  refine Ensures.within_bind (hhal.conseq (fun _ h => h hok) fun _ _ h => h) fun _ =>
    Ensures.within_ite (fun _ => ?_) (fun _ => habandon)
  refine Ensures.within_bind (Q := fun config w => config = w.controller.obj.config.obj ∧ A w)
    ((Ensures.read fun _ h => ⟨rfl, h⟩).within env) fun config => ?_
  refine Ensures.within_bind (hpoller config) fun poller => Ensures.within_ite (fun hok => ?_)
    (fun _ => habandon)
  refine Ensures.within_bind (htr181.conseq (fun _ h => h hok) fun _ _ h => h) fun tr181 =>
    Ensures.within_ite (fun hok => ?_) (fun _ => habandon)
  exact Ensures.within_bind (Q := fun _ => D)
    ((Ensures.write fun w h => hpublish w (h hok)).within env) fun _ =>
    (Ensures.pure fun _ h _ => h).within env

theorem pollerInit_ensures (enabled : Bool) (intervalSeconds : UInt32) :
    Ensures DataReady (StatsPoller.init enabled intervalSeconds)
      (fun ok w => ok = true → PollerReady w) := by
  refine Ensures.bind (ensures_dataReady (ask_outside _)) fun _ =>
    Ensures.ite (fun _ => ?_) (fun _ => ensures_abandon)
  exact Ensures.bind (Q := fun _ => PollerReady) (Ensures.write fun _ hw => ⟨hw, rfl⟩) fun _ =>
    Ensures.pure (fun _ hw _ => hw)

/-- **Whoever finds `g_controller` set finds everything the handlers use in place.** -/
theorem init_initialised (limits : HalLimits) :
    Ensures (fun _ => True) (init limits) (fun ok w => ok = true → Initialised w) := by
  refine Ensures.of_within fun env => init_rule (B := PollerReady) (C := PollerReady)
    (initData_ensures.within env) ((ensures_dataReady (initHal_pointers limits)).within env)
    (fun config => ?_) ?_ (fun _ hw => ⟨hw.1.1, rfl, hw.1.2, hw.2⟩)
  · exact ((pollerInit_ensures _ _).conseq (fun _ hw => hw.2) fun _ _ h => h).within env
  · have htr181 := ensures_pollerReady (registerTr181_outside fun _ _ _ => trivial)
    exact (ensures_regardless htr181).within env

/-- When every call succeeds, so does the start-up. -/
theorem init_quiet :
    ∃ t, init HalLimits.small Env.quiet ⟨fun _ => 0, World.boot fun _ => none⟩ = .ok (true, t) :=
  Prog.result?_eq_some.mp (by decide +kernel)

end Controller

end EponManager
