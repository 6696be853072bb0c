import EponManager.Controller.Init
import EponManager.Tr181.Handlers

/-!
# Lock discipline of the TR-181 handlers

rbus calls a handler on a thread that holds none of the mutexes that cannot be locked twice. After
a successful start-up, every handler but one returns with the mutexes as it found them, whatever the
HAL, rbus and PSM answer. The exception is `stats_poller_set_handler`: it holds the controller mutex
while it calls `eponMgr_stats_poller_set_enabled` or `eponMgr_stats_poller_set_interval`, which lock
that mutex again to reach the configuration, so the thread waits for itself and the mutex stays
locked for ever.

* `get_moves` and `set_moves` are the discipline of the other handlers.
* `statsPollerSet_faults` is the deadlock.
* `handlers_keep_lock_discipline` puts both together: a request keeps the discipline exactly when it
  does not reach one of the two setters.
-/

namespace EponManager

open Lib
open Lib.Prog (Moves Faults)

namespace Tr181

variable {h : Held MutexId} {α : Type}

/-! ### GET handlers

A handler locks the data mutex, finds its value, and leaves through `answer`, which unlocks it.
-/

/-- The lock at the beginning and the unlock in the body belong together. -/
theorem withDataLock_moves {body : M GetAnswer}
    (hbody : Moves Initialised body (h.acquire .data) h (fun _ => True)) :
    Moves Initialised (withDataLock body) h h (fun _ => True) := by
  refine Data.lock_moves.bind fun locked hlocked => ?_
  rw [hlocked, if_pos rfl]
  exact hbody

/-- The way out of a handler, with a value or with an error. -/
theorem answer_moves (rc : RbusError) (value : Option RbusValue) :
    Moves Initialised (answer rc value) (h.acquire .data) h (fun _ => True) :=
  Data.unlock_moves.bind fun _ _ => Moves.pure trivial

/-- The record is fetched inside the lock: the data mutex is locked a second time. -/
theorem recordHandler_moves {fetch : M (Option α)} (value : α → RbusValue)
    (hfetch : ∀ h, Moves Initialised fetch h h (fun _ => True)) :
    Moves Initialised (recordHandler fetch value) h h (fun _ => True) := by
  refine withDataLock_moves ((hfetch _).bind fun record _ => ?_)
  cases record with
  | none => exact answer_moves _ _
  | some record => exact answer_moves _ _

/-- The ONU state is read under its own mutex, inside the data mutex. -/
theorem readOnuState_moves (ho : h .onuState = 0) {f : OnuState → M α}
    (hf : ∀ h state, Moves Initialised (f state) h h (fun _ => True)) :
    Moves Initialised (readOnuState f) h h (fun _ => True) :=
  (Moves.lock (.inr ho)).bind fun _ _ => (readData_moves _).bind fun _ _ =>
    (hf _ _).bind fun _ _ => Moves.unlock.bind fun _ _ => Moves.pure trivial

/-- A field that is read under the data mutex, and no other. -/
theorem readLocked_moves (f : Data → α) :
    Moves Initialised (readLocked f) h h (fun _ => True) :=
  locked_moves (.inl rfl) (readData_moves f)

/-! ### The handlers of single parameters -/

/-- The names are compared in turn; only two of them lock the mutex of the ONU state. -/
theorem baseParamValue_moves (hf : Free h) (name : String) :
    Moves Initialised (baseParamValue name) h h (fun _ => True) := by
  have ho : h .onuState = 0 := hf _ rfl
  refine Moves.ite (fun _ => Moves.pure trivial) (fun _ => ?_)
  refine Moves.ite (fun _ => readOnuState_moves ho fun _ _ => Moves.pure trivial) (fun _ => ?_)
  refine Moves.ite (fun _ => Moves.pure trivial) (fun _ => ?_)
  refine Moves.ite (fun _ => Moves.pure trivial) (fun _ => ?_)
  refine Moves.ite (fun _ => readOnuState_moves ho fun _ _ =>
    (ask_moves _).bind fun _ _ => Moves.pure trivial) (fun _ => ?_)
  refine Moves.ite (fun _ => Moves.pure trivial) (fun _ => ?_)
  refine Moves.ite (fun _ => Moves.pure trivial) (fun _ => ?_)
  refine Moves.ite (fun _ => ?_) (fun _ => Moves.pure trivial)
  refine Data.getLinkStats_moves.bind fun stats _ => ?_
  cases stats with
  | none => exact Moves.pure trivial
  | some stats => exact Moves.pure trivial

/-- The two answers that need the link information. -/
theorem linkInfo_moves {none' : M RbusValue} {some' : LinkInfo → M RbusValue}
    (hnone : Moves Initialised none' h h (fun _ => True))
    (hsome : ∀ info, Moves Initialised (some' info) h h (fun _ => True)) :
    Moves Initialised (do
      let info ← Data.getLinkInfo
      match info with
      | none      => none'
      | some info => some' info) h h (fun _ => True) := by
  refine Data.getLinkInfo_moves.bind fun info _ => ?_
  cases info with
  | none => exact hnone
  | some info => exact hsome info

theorem eponValue_moves (hf : Free h) (name : String) :
    Moves Initialised (eponValue name) h h (fun _ => True) := by
  have ho : h .onuState = 0 := hf _ rfl
  refine Moves.ite (fun _ => linkInfo_moves (Moves.pure trivial) fun _ => Moves.pure trivial)
    (fun _ => ?_)
  refine Moves.ite (fun _ => linkInfo_moves (Moves.pure trivial) fun _ => Moves.pure trivial)
    (fun _ => ?_)
  refine Moves.ite (fun _ => readOnuState_moves ho fun _ _ => Moves.pure trivial) (fun _ => ?_)
  refine Moves.ite (fun _ => (readData_moves _).bind fun _ _ => Moves.pure trivial) (fun _ => ?_)
  exact Moves.ite (fun _ => (readLocked_moves _).bind fun _ _ => Moves.pure trivial)
    (fun _ => Moves.pure trivial)

/-- The instance number is parsed and bounded before the row is read. -/
theorem rowAnswer_moves (name rowPrefix : String) (maxInstance : UInt32)
    {atIndex : UInt32 → M (Option α)} (value : α → RbusValue)
    (hat : ∀ h i, Moves Initialised (atIndex i) h h (fun _ => True)) :
    Moves Initialised (rowAnswer name rowPrefix maxInstance atIndex value) (h.acquire .data) h
      (fun _ => True) := by
  rw [rowAnswer]
  cases afterFirst name rowPrefix with
  | none => exact answer_moves _ _
  | some instanceStart =>
      refine Moves.ite (fun _ => answer_moves _ _) (fun _ => (hat _ _).bind fun entry _ => ?_)
      cases entry with
      | none => exact answer_moves _ _
      | some entry => exact answer_moves _ _

/-! ### The handlers of the tables -/

/-- The list is refreshed first, and its refresh may sync the table. -/
theorem llidTableHandler_moves (name : String) :
    Moves Initialised (llidTableHandler name) h h (fun _ => True) :=
  withDataLock_moves (Data.getLlidInfo_moves.bind fun _ _ => syncLlidTable_moves.bind fun _ _ =>
    Moves.ite (fun _ => (readData_moves _).bind fun _ _ => answer_moves _ _)
      (fun _ => rowAnswer_moves _ _ _ _ fun _ _ => Data.getAtIndex_moves _ _))

theorem cpeTableHandler_moves (name : String) :
    Moves Initialised (cpeTableHandler name) h h (fun _ => True) := by
  refine withDataLock_moves (Data.getCpeMacTable_moves.bind fun _ _ =>
    syncCpeTable_moves.bind fun _ _ => ?_)
  refine Moves.ite (fun _ => (readLocked_moves _).bind fun _ _ => answer_moves _ _) (fun _ => ?_)
  refine Moves.ite (fun _ => (readLocked_moves _).bind fun _ _ => answer_moves _ _) (fun _ => ?_)
  refine Moves.ite (fun _ => (readLocked_moves _).bind fun _ _ => answer_moves _ _) (fun _ => ?_)
  exact Moves.ite (fun _ => (readData_moves _).bind fun _ _ => answer_moves _ _)
    (fun _ => rowAnswer_moves _ _ _ _ fun _ _ => Data.getAtIndex_moves _ _)

/-- The VEIPs are found by name, so the row's name is read from the registered rows. -/
theorem veipTableHandler_moves (limits : HalLimits) (name : String) :
    Moves Initialised (veipTableHandler limits name) h h (fun _ => True) := by
  refine Moves.ite (fun _ => withDataLock_moves ((readData_moves _).bind fun _ _ =>
    answer_moves _ _)) (fun _ => ?_)
  cases veipInstance name with
  | none => exact Moves.pure trivial
  | some inst =>
      refine Moves.ite (fun _ => Moves.pure trivial) (fun _ => ?_)
      refine (read_moves _).bind fun _ _ => Moves.ite (fun _ => ?_) (fun _ => Moves.pure trivial)
      refine (read_moves _).bind fun _ _ => withDataLock_moves
        ((Data.getInterfaceByName_moves _ _).bind fun info _ => ?_)
      cases info with
      | none => exact answer_moves _ _
      | some info => exact answer_moves _ _

/-- The settings are read under the poller's mutex. -/
theorem statsPollerGetHandler_moves (hf : Free h) (name : String) :
    Moves Initialised (statsPollerGetHandler name) h h (fun _ => True) := by
  refine (Controller.lockAndGet_moves (hf _ rfl) fun _ hw => hw.config).bind
    fun config hconfig => ?_
  rw [hconfig, if_pos rfl]
  refine (readController_moves _).bind fun _ _ =>
    Moves.ite (fun _ => Controller.unlock_moves.bind fun _ _ => Moves.pure trivial) (fun _ => ?_)
  exact Moves.ite (fun _ => Controller.unlock_moves.bind fun _ _ => Moves.pure trivial)
    (fun _ => Controller.unlock_moves.bind fun _ _ => Moves.pure trivial)

/-- **Every GET handler returns with the mutexes as it found them.** -/
theorem get_moves (hf : Free h) (limits : HalLimits) (handler : GetHandler) (name : String) :
    Moves Initialised (handler.run limits name) h h (fun _ => True) := by
  cases handler with
  | baseParam =>
      exact withDataLock_moves ((baseParamValue_moves hf.acquire_data name).bind fun _ _ =>
        answer_moves _ _)
  | opticalParam => exact recordHandler_moves _ fun _ => Data.getTransceiverStats_moves
  | stats => exact recordHandler_moves _ fun _ => Data.getLinkStats_moves
  | transceiver => exact recordHandler_moves _ fun _ => Data.getTransceiverStats_moves
  | epon =>
      exact withDataLock_moves ((eponValue_moves hf.acquire_data name).bind fun _ _ =>
        answer_moves _ _)
  | manufacturer => exact recordHandler_moves _ fun _ => Data.getOnuManufacturerInfo_moves
  | olt => exact recordHandler_moves _ fun _ => Data.getOltInfo_moves
  | llidTable => exact llidTableHandler_moves name
  | cpeTable => exact cpeTableHandler_moves name
  | veipTable => exact veipTableHandler_moves limits name
  | statsPoller => exact statsPollerGetHandler_moves hf name

/-! ### SET handlers -/

/-- The request makes `stats_poller_set_handler` call one of the poller's two setters. -/
def ChangesPoller (request : SetRequest) : Prop :=
  strstr request.name ".Enable" ∨
    (strstr request.name ".PollingInterval" ∧ 60 ≤ request.asUInt32 ∧ request.asUInt32 ≤ 3600)

instance (request : SetRequest) : Decidable (ChangesPoller request) :=
  inferInstanceAs (Decidable (_ ∨ _))

/-! ### The setters that are called with the controller mutex locked -/

/-- The handler has locked the controller mutex, and the poller's setter locks it again. -/
theorem setPollerEnable_faults (hp : h .poller = 0) (hc : 0 < h .controller) (enabled : Bool) :
    Faults Initialised (setPollerEnable enabled) h (.selfDeadlock .controller) := by
  refine Faults.bind_right (StatsPoller.isRunning_moves hp) fun isRunning _ =>
    Faults.ite (fun _ => ?_) (fun _ => Faults.ite (fun _ => ?_) (fun _ => ?_))
  · exact Faults.bind_left (StatsPoller.setEnabled_faults hp hc true)
  · exact Faults.bind_right (StatsPoller.stop_moves hp) fun _ _ =>
      Faults.bind_left (StatsPoller.setEnabled_faults hp hc false)
  · exact Faults.bind_left (StatsPoller.setEnabled_faults hp hc enabled)

theorem setPollerInterval_faults (hp : h .poller = 0) (hc : 0 < h .controller) {interval : UInt32}
    (hlow : 60 ≤ interval) (hhigh : interval ≤ 3600) :
    Faults Initialised (setPollerInterval interval) h (.selfDeadlock .controller) := by
  have hne : interval ≠ 0 := by
    rintro rfl
    exact absurd hlow (by decide)
  have hrange : ¬ (interval < 60 ∨ interval > 3600) := by
    rintro (hlt | hgt)
    · exact UInt32.lt_irrefl _ (UInt32.lt_of_lt_of_le hlt hlow)
    · exact UInt32.lt_irrefl _ (UInt32.lt_of_lt_of_le hgt hhigh)
  rw [setPollerInterval, if_neg hrange]
  exact Faults.bind_left (StatsPoller.setInterval_faults hp hc hne)

/-- **The deadlock.** -/
theorem statsPollerSet_faults (hf : Free h) {request : SetRequest} (hr : ChangesPoller request) :
    Faults Initialised (statsPollerSetHandler request) h (.selfDeadlock .controller) := by
  have hp : h.acquire MutexId.controller .poller = 0 := by simpa using hf .poller rfl
  have hc : 0 < h.acquire MutexId.controller .controller := by simp
  refine Faults.bind_right (Controller.lockAndGet_moves (hf _ rfl) fun _ hw => hw.statsPoller)
    fun poller hpoller => ?_
  rw [hpoller, if_pos rfl]
  refine Faults.ite (fun _ => Faults.bind_left (setPollerEnable_faults hp hc _))
    (fun hname => Faults.ite (fun _ => ?_) (fun hname' => ?_))
  · obtain ⟨-, hlow, hhigh⟩ := hr.resolve_left hname
    exact Faults.bind_left (setPollerInterval_faults hp hc hlow hhigh)
  · exact absurd (hr.resolve_left hname).1 hname'

/-! ### The requests that reach no setter -/

/-- A request that the handler refuses reaches no setter. -/
theorem statsPollerSet_moves (hf : Free h) {request : SetRequest} (hr : ¬ ChangesPoller request) :
    Moves Initialised (statsPollerSetHandler request) h h (fun _ => True) := by
  refine (Controller.lockAndGet_moves (hf _ rfl) fun _ hw => hw.statsPoller).bind
    fun poller hpoller => ?_
  rw [hpoller, if_pos rfl]
  refine Moves.ite (fun hname => absurd (.inl hname) hr) (fun _ => Moves.ite (fun hname => ?_)
    (fun _ => Controller.unlock_moves.bind fun _ _ => Moves.pure trivial))
  -- the interval is out of range, so the setter is not reached
  have hrange : request.asUInt32 < 60 ∨ request.asUInt32 > 3600 := by
    by_contra hin
    rw [not_or] at hin
    exact hr (.inr ⟨hname, UInt32.not_lt.mp hin.1, UInt32.not_lt.mp hin.2⟩)
  rw [setPollerInterval, if_pos hrange]
  exact Moves.bind (R := fun _ => True) (Moves.pure trivial) fun _ _ =>
    Controller.unlock_moves.bind fun _ _ => Moves.pure trivial

/-- The other SET handlers do not touch the controller mutex. -/
theorem set_moves (hf : Free h) {handler : SetHandler} {request : SetRequest}
    (hr : ¬ (handler = .statsPoller ∧ ChangesPoller request)) :
    Moves Initialised (handler.run request) h h (fun _ => True) := by
  cases handler with
  | baseParam =>
      exact Moves.ite (fun _ => Moves.pure trivial)
        (fun _ => Moves.ite (fun _ => Moves.pure trivial) (fun _ => Moves.pure trivial))
  | stats =>
      exact Moves.ite (fun _ => Moves.ite (fun _ => (Data.clearStats_moves (hf _ rfl)).bind
        fun _ _ => Moves.pure trivial) (fun _ => Moves.pure trivial)) (fun _ => Moves.pure trivial)
  | statsPoller => exact statsPollerSet_moves hf fun hc => hr ⟨rfl, hc⟩

/-! ### Any request, in any state reached after start-up -/

/-- A request that rbus delivers. -/
inductive Request where
  | get (handler : GetHandler) (name : String)
  | set (handler : SetHandler) (request : SetRequest)

def Request.run (limits : HalLimits) : Request → M Unit
  | .get handler name    => do let _ ← handler.run limits name
  | .set handler request => do let _ ← handler.run request

/-- The request reaches one of the poller's setters. -/
def Request.ReachesSetter : Request → Prop
  | .get _ _             => False
  | .set handler request => handler = .statsPoller ∧ ChangesPoller request

/-- The worlds reached after a successful start-up. Requests run to their end; what the other
threads do in the meantime may change everything but the four pointers, which only start-up and
`eponMgr_controller_destroy` write. -/
inductive Reached (limits : HalLimits) : World → Prop where
  | init (env : Env) (s t : LockState MutexId World)
      (h : Controller.init limits env s = .ok (true, t)) : Reached limits t.mem
  | request (r : Request) (env : Env) (s t : LockState MutexId World)
      (hs : Reached limits s.mem) (hfree : Free s.held)
      (h : r.run limits env s = .ok ((), t)) : Reached limits t.mem
  | others (w w' : World) (hw : Reached limits w)
      (h : Controller.pointers w' = Controller.pointers w) : Reached limits w'

/-- A request that reaches no setter comes back with the mutexes as they were. -/
theorem request_moves (hf : Free h) (limits : HalLimits) {r : Request} (hr : ¬ r.ReachesSetter) :
    Moves Initialised (r.run limits) h h (fun _ => True) := by
  cases r with
  | get handler name => exact (get_moves hf limits handler name).bind fun _ _ => Moves.pure trivial
  | set handler request => exact (set_moves hf hr).bind fun _ _ => Moves.pure trivial

/-- A request that reaches one blocks, if the thread holds the controller mutex. -/
theorem request_faults (hf : Free h) (limits : HalLimits) {r : Request} (hr : r.ReachesSetter) :
    Faults Initialised (r.run limits) h (.selfDeadlock .controller) := by
  cases r with
  | get handler name => exact hr.elim
  | set handler request =>
      obtain ⟨rfl, hchange⟩ := hr
      exact Faults.bind_left (statsPollerSet_faults hf hchange)

/-- No request takes a pointer away. -/
theorem Reached.initialised {limits : HalLimits} {w : World} (hw : Reached limits w) :
    Initialised w := by
  induction hw with
  | init env s t h => exact Controller.init_initialised limits env s true t trivial h rfl
  | request r env s t _ hfree h ih =>
      by_cases hr : r.ReachesSetter
      · rw [request_faults hfree limits hr env s ih rfl] at h
        cases h
      · obtain ⟨_, t', hrun, hI, -⟩ := request_moves hfree limits hr env s ih rfl
        rw [hrun] at h
        cases h
        exact hI
  | others w w' _ h ih =>
      have h₁ := congrArg (·.1) h
      have h₂ := congrArg (·.2.1) h
      have h₃ := congrArg (·.2.2.1) h
      have h₄ := congrArg (·.2.2.2) h
      exact ⟨h₁.trans ih.eponData, h₂.trans ih.controller, h₃.trans ih.config,
        h₄.trans ih.statsPoller⟩

/-- **Lock discipline.** Whatever the environment answers, a request returns with the mutexes held
as on entry exactly when it does not reach one of the poller's setters. -/
theorem handlers_keep_lock_discipline (limits : HalLimits) {w : World} (hw : Reached limits w)
    {h : Held MutexId} (hf : Free h) (r : Request) (env : Env) :
    (∃ w', r.run limits env ⟨h, w⟩ = .ok ((), ⟨h, w'⟩)) ↔ ¬ r.ReachesSetter := by
  constructor
  · rintro ⟨w', hrun⟩ hr
    rw [request_faults hf limits hr env ⟨h, w⟩ hw.initialised rfl] at hrun
    cases hrun
  · intro hr
    obtain ⟨_, t, hrun, -, hheld, -⟩ := request_moves hf limits hr env ⟨h, w⟩ hw.initialised rfl
    exact ⟨t.mem, by rw [hrun, ← hheld]⟩

/-- Reading the interface's status right after start-up. -/
theorem handlers_keep_lock_discipline_status :
    ∃ w, Reached HalLimits.small w ∧
      ((∃ w', (Request.get .baseParam "Device.Optical.Interface.1.Status").run HalLimits.small
        Env.quiet ⟨fun _ => 0, w⟩ = .ok ((), ⟨fun _ => 0, w'⟩)) ↔
      ¬ (Request.get .baseParam "Device.Optical.Interface.1.Status").ReachesSetter) := by
  obtain ⟨t, ht⟩ := Controller.init_quiet
  have hw := Reached.init _ _ t ht
  exact ⟨t.mem, hw, handlers_keep_lock_discipline HalLimits.small hw (fun _ _ => rfl)
    (.get .baseParam "Device.Optical.Interface.1.Status") Env.quiet⟩

/-- Switching the poller on right after start-up: the thread waits for itself. -/
theorem setEnable_deadlocks :
    ∃ w, Reached HalLimits.small w ∧ ∀ env, (Request.set .statsPoller
        ⟨"Device.Optical.Interface.1.X_RDK_EPON.StatsPoller.Enable", true, 0⟩).run HalLimits.small
      env ⟨fun _ => 0, w⟩ = .error (.selfDeadlock .controller) := by
  obtain ⟨t, ht⟩ := Controller.init_quiet
  have hw := Reached.init _ _ t ht
  refine ⟨t.mem, hw, fun env => ?_⟩
  have hr : (Request.set .statsPoller
      ⟨"Device.Optical.Interface.1.X_RDK_EPON.StatsPoller.Enable", true, 0⟩).ReachesSetter :=
    ⟨rfl, .inl (by decide)⟩
  exact request_faults (fun _ _ => rfl) HalLimits.small hr env _ hw.initialised rfl

end Tr181

end EponManager
