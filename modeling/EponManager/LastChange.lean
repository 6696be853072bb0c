import EponManager.Controller.Init
import EponManager.Lib.StepSystem
import EponManager.Tr181.Handlers

/-!
# When the status last changed

`LastChange` is answered with the clock minus a stamp in the ONU state. Every status event sets that
stamp, also one that repeats the status, and the start-up leaves it zero.

* `StatusEvent.step` processes one event at the time it carries.
* `StatusEvent.changes` are the events of a history that change the status; `lastChanged` is when
  the last of them came, and `lastChanged_concat` how one more event moves it.
* `exec_status` is what a history leaves in the ONU state.
* `last_change_iff`: exactly which histories are answered with the time since the last change.
-/

namespace EponManager

open Lib
open Lib.Prog (Ensures Keeps)

/-- The same environment while the clock reads `t`. -/
def Env.clock (env : Env) (t : Int) : Env := { env with time := fun _ => t }

/-- An ONU status event, and what the clock reads while it is processed. -/
structure StatusEvent where
  status : OnuStatus
  time : Int
  deriving DecidableEq, Repr

namespace StatusEvent

/-- Process one event. -/
def step (env : Env) (w : World) (e : StatusEvent) : Option World :=
  (Prog.alone (Controller.processOnuStatusEvent e.status) (env.clock e.time) w).map Prod.snd

/-- The events that change the status, which is `status` before the first. -/
def changes : OnuStatus → List StatusEvent → List StatusEvent
  | _, []           => []
  | status, e :: es => if e.status = status then changes status es else e :: changes e.status es

/-- The status after a history that begins with `LOS`. -/
def statusAfter (events : List StatusEvent) : OnuStatus :=
  (events.getLast?.map StatusEvent.status).getD .los

/-- When the status last changed; it has been `LOS` since `t₀`. -/
def lastChanged (t₀ : Int) (events : List StatusEvent) : Int :=
  ((changes .los events).getLast?.map StatusEvent.time).getD t₀

/-! ### Histories -/

/-- The events that change the status are events of the history, in their order. -/
theorem changes_sublist (status : OnuStatus) (events : List StatusEvent) :
    (changes status events).Sublist events := by
  induction events generalizing status with
  | nil => exact List.Sublist.slnil
  | cons e es ih =>
      rw [changes]
      split
      · exact (ih _).cons e
      · exact (ih _).cons_cons e

/-- The status changed last at the start or at the time of an event. -/
theorem lastChanged_mem (t₀ : Int) (events : List StatusEvent) :
    lastChanged t₀ events ∈ t₀ :: events.map StatusEvent.time := by
  rw [lastChanged]
  cases hlast : (changes .los events).getLast? with
  | none => exact List.mem_cons_self
  | some e =>
      apply List.mem_cons_of_mem
      apply List.mem_map_of_mem
      apply (changes_sublist .los events).subset
      exact List.mem_of_getLast? hlast

/-- One more event counts as a change if it differs from the one before. -/
theorem changes_concat (status : OnuStatus) (es : List StatusEvent) (e : StatusEvent) :
    changes status (es ++ [e]) = changes status es ++
      if e.status = (es.getLast?.map StatusEvent.status).getD status then [] else [e] := by
  induction es generalizing status with
  | nil => rfl
  | cons x es ih =>
      have hlast : ((x :: es).getLast?.map StatusEvent.status).getD status =
          (es.getLast?.map StatusEvent.status).getD x.status := by
        rw [List.getLast?_cons]
        cases es.getLast? <;> rfl
      rw [hlast, List.cons_append, changes, changes]
      by_cases hx : x.status = status
      · rw [if_pos hx, if_pos hx, ih, hx]
      · rw [if_neg hx, if_neg hx, ih, List.cons_append]

/-- A repeat leaves the last change where it was; any other event is the last change. -/
theorem lastChanged_concat (t₀ : Int) (es : List StatusEvent) (e : StatusEvent) :
    lastChanged t₀ (es ++ [e]) =
      if e.status = statusAfter es then lastChanged t₀ es else e.time := by
  rw [lastChanged, changes_concat, ← statusAfter]
  by_cases he : e.status = statusAfter es
  · rw [if_pos he, if_pos he, List.append_nil, lastChanged]
  · rw [if_neg he, if_neg he, List.getLast?_concat]
    rfl

/-- The last event came when the status last changed, if it is that change or came in the same
second. -/
theorem time_eq_lastChanged_concat (t₀ : Int) (es : List StatusEvent) (e : StatusEvent) :
    e.time = lastChanged t₀ (es ++ [e]) ↔
      e.status ≠ statusAfter es ∨ e.time = lastChanged t₀ es := by
  rw [lastChanged_concat]
  by_cases he : e.status = statusAfter es
  · rw [if_pos he]
    exact (or_iff_right (not_not_intro he)).symm
  · rw [if_neg he]
    exact (iff_true_right (.inl he)).mpr rfl

/-! ### One event -/

variable {env : Env} {w : World}

theorem processOnuStatusEvent_alone (status : OnuStatus) :
    Prog.alone (Controller.processOnuStatusEvent status) env w = some ((), { w with
      tick := w.tick + 1
      trace := w.trace ++ (Controller.statusEvent status).toList.map fun event =>
        .telemetry event none w.telemetryInitialized
      eponData := { w.eponData with obj := { w.eponData.obj with
        onuState := { w.eponData.obj.onuState with
          previousStatus := w.eponData.obj.onuState.currentStatus
          currentStatus := status
          lastStatusChange := env.time w.tick } } } }) := by
  cases status with
  | other code =>
      -- the one status that raises no telemetry
      show some _ = _
      simp [Controller.statusEvent]
  | _ => rfl

end StatusEvent

/-- **What a history leaves in the ONU state**: the status and the time of its last event. -/
theorem exec_status (env : Env) (w : World) (events : List StatusEvent) :
    ∃ w', exec (StatusEvent.step env) w events = some w' ∧
      w'.eponData.isSet = w.eponData.isSet ∧
      w'.eponData.obj.onuState.currentStatus =
        (events.getLast?.map StatusEvent.status).getD w.eponData.obj.onuState.currentStatus ∧
      w'.eponData.obj.onuState.lastStatusChange =
        (events.getLast?.map StatusEvent.time).getD w.eponData.obj.onuState.lastStatusChange := by
  induction events generalizing w with
  | nil => exact ⟨w, rfl, rfl, rfl, rfl⟩
  | cons e es ih =>
      obtain ⟨v, hv⟩ : ∃ v, Prog.alone (Controller.processOnuStatusEvent e.status)
        (env.clock e.time) w = some ((), v) := ⟨_, StatusEvent.processOnuStatusEvent_alone _⟩
      have hstep : StatusEvent.step env w e = some v := by
        rw [StatusEvent.step, hv]
        rfl
      have hv' := hv
      rw [StatusEvent.processOnuStatusEvent_alone] at hv'
      obtain ⟨w', hrun, hset, hstatus, hstamp⟩ := ih v
      refine ⟨w', exec_cons_eq_some.mpr ⟨v, hstep, hrun⟩, ?_, ?_, ?_⟩
      · rw [hset]
        cases hv'
        rfl
      · rw [hstatus, List.getLast?_cons]
        cases hv'
        cases es.getLast? <;> rfl
      · rw [hstamp, List.getLast?_cons]
        cases hv'
        cases es.getLast? <;> rfl

/-! ### The start -/

/-- No event has been processed. -/
structure NoStatusYet (w : World) : Prop where
  eponData : w.eponData.isSet = true
  currentStatus : w.eponData.obj.onuState.currentStatus = .los
  lastStatusChange : w.eponData.obj.onuState.lastStatusChange = 0

/-- What the start-up leaves alone once the ONU state is there. -/
def World.statusView (w : World) : Bool × OnuStatus × Int :=
  (w.eponData.isSet, w.eponData.obj.onuState.currentStatus,
    w.eponData.obj.onuState.lastStatusChange)

instance : ReportsRows (fun w w' => World.statusView w' = World.statusView w) (fun _ => True) :=
  ReportsRows.of_view (fun _ => rfl) (fun _ _ => rfl) (fun _ _ => rfl) (fun _ _ => rfl)

theorem noStatusYet_ensures {α : Type} {f : M α} (hf : Keeps World.statusView f) :
    Ensures NoStatusYet f (fun _ => NoStatusYet) := by
  apply hf.ensures
  intro w w' hview hw
  obtain ⟨hset, hstatus, hstamp⟩ := (Prod.mk.injEq ..).mp hview |>.imp id Prod.mk.inj
  exact ⟨hset.trans hw.eponData, hstatus.trans hw.currentStatus, hstamp.trans hw.lastStatusChange⟩

/-- `eponMgr_onu_state_init` leaves the stamp zero. -/
theorem initData_noStatusYet :
    Ensures (fun _ => True) Controller.initData (fun ok w => ok = true → NoStatusYet w) := by
  refine Ensures.of_within fun env => Controller.initData_rule (A := fun _ => True)
    (R := fun _ => True) (S := fun _ => True) (L := fun _ _ => True) (C := fun _ _ => True)
    (fun _ _ => trivial) (Controller.ensures_regardless Controller.ensures_trivial)
    (fun _ _ => trivial) Controller.ensures_trivial (fun _ _ _ => trivial) (fun _ _ _ => trivial) ?_
  intro config w _
  exact ⟨rfl, rfl, rfl⟩

/-- **A successful start-up has processed no event.** -/
theorem init_noStatusYet (limits : HalLimits) :
    Ensures (fun _ => True) (Controller.init limits) (fun ok w => ok = true → NoStatusYet w) := by
  apply Ensures.of_within
  intro env
  have hflags : Keeps World.statusView Data.halInit := by
    apply Controller.halInit_respects
    · intro w
      rfl
    · intro w
      rfl
  have hhal : Keeps World.statusView (Controller.initHal limits) :=
    Controller.initHal_respects (fun _ _ => trivial) hflags limits
  have hrows : Keeps World.statusView Rbus.registerTr181 :=
    Controller.registerTr181_outside fun _ _ _ => trivial
  refine Controller.init_rule (B := NoStatusYet) (C := NoStatusYet)
    (initData_noStatusYet.within env) ((noStatusYet_ensures hhal).within env)
    (fun config => ?_) ?_ (fun w hw => ?_)
  · have h := noStatusYet_ensures (Controller.pollerInit_respects (fun _ _ => rfl)
      config.statsPollerEnabled config.statsPollerIntervalSeconds)
    exact (Controller.ensures_regardless (h.conseq (fun _ hw => hw.2) fun _ _ hw => hw)).within env
  · exact (Controller.ensures_regardless (noStatusYet_ensures hrows)).within env
  · exact ⟨hw.eponData, hw.currentStatus, hw.lastStatusChange⟩

/-! ### Reading the parameter -/

/-- The full name of the parameter. -/
def lastChangeParam : String := "Device.Optical.Interface.1.LastChange"

/-- The branch of `base_param_get_handler` that answers the name. -/
theorem baseParamValue_lastChange :
    Tr181.baseParamValue lastChangeParam = Tr181.readOnuState (fun state => do
      let now ← ask Env.time
      return .uint32 (UInt32.ofNat ((now - state.lastStatusChange) % 2 ^ 32).toNat)) := by
  have henable : strstr lastChangeParam ".Enable" = false := by decide +kernel
  have hstatus : strstr lastChangeParam ".Status" = false := by decide +kernel
  have halias : strstr lastChangeParam ".Alias" = false := by decide +kernel
  have hname : strstr lastChangeParam ".Name" = false := by decide +kernel
  have hchange : strstr lastChangeParam ".LastChange" = true := by decide +kernel
  simp [Tr181.baseParamValue, henable, hstatus, halias, hname, hchange]

/-- **The answer is the clock minus the stamp**, in 32 bits. -/
theorem lastChange_get (env : Env) {w : World} (hset : w.eponData.isSet = true) :
    ∃ v w', Prog.alone (Tr181.baseParamGetHandler lastChangeParam) env w =
        some (⟨.success, some (.uint32 v)⟩, w') ∧
      (v.toNat : Int) =
        (env.time w.tick - w.eponData.obj.onuState.lastStatusChange) % 2 ^ 32 := by
  refine ⟨UInt32.ofNat
    ((env.time w.tick - w.eponData.obj.onuState.lastStatusChange) % 2 ^ 32).toNat,
    { w with tick := w.tick + 1 }, ?_, ?_⟩
  · rw [Tr181.baseParamGetHandler, baseParamValue_lastChange]
    obtain ⟨tick, trace, ⟨isSet, d⟩, _, _, _, _, _, _⟩ := w
    subst hset
    rfl
  · rw [UInt32.toNat_ofNat']
    omega

/-! ### The time of a history -/

/-- The times of a history that begins at `t₀` and is read at `T`. -/
def StatusEvent.Ordered (t₀ : Int) (events : List StatusEvent) (T : Int) : Prop :=
  (t₀ :: events.map StatusEvent.time ++ [T]).Pairwise (· ≤ ·)

theorem StatusEvent.Ordered.le_read {t₀ T t : Int} {events : List StatusEvent}
    (h : StatusEvent.Ordered t₀ events T) (ht : t ∈ t₀ :: events.map StatusEvent.time) :
    t₀ ≤ t ∧ t ≤ T := by
  obtain ⟨hevents, -, hread⟩ := List.pairwise_append.mp h
  constructor
  · rcases List.mem_cons.mp ht with rfl | hmem
    · exact Int.le_refl t
    · exact (List.pairwise_cons.mp hevents).1 t hmem
  · exact hread t ht T List.mem_cons_self

/-- **When the clock minus the stamp is the time since the last change**: the stamp is the time of
the last event, or zero. -/
theorem StatusEvent.Ordered.stamp_iff {t₀ T : Int} {events : List StatusEvent}
    (h : StatusEvent.Ordered t₀ events T) (hspan : T - t₀ < 2 ^ 32) :
    (T - (events.getLast?.map StatusEvent.time).getD 0) % 2 ^ 32 =
        T - StatusEvent.lastChanged t₀ events ↔
      (events = [] ∧ 2 ^ 32 ∣ t₀) ∨ ∃ es e, events = es ++ [e] ∧
        (e.status ≠ StatusEvent.statusAfter es ∨ e.time = StatusEvent.lastChanged t₀ es) := by
  obtain ⟨hfirst, hlast⟩ := h.le_read (StatusEvent.lastChanged_mem t₀ events)
  rcases List.eq_nil_or_concat' events with rfl | ⟨es, e, rfl⟩
  · have hno : ¬ ∃ es e, ([] : List StatusEvent) = es ++ [e] ∧
        (e.status ≠ StatusEvent.statusAfter es ∨ e.time = StatusEvent.lastChanged t₀ es) := by
      rintro ⟨es, e, heq, -⟩
      simp at heq
    rw [eq_self, true_and, or_iff_left hno]
    have hchanged : StatusEvent.lastChanged t₀ [] = t₀ := rfl
    rw [hchanged] at hlast ⊢
    show (T - 0) % 2 ^ 32 = T - t₀ ↔ _
    omega
  · obtain ⟨he, he'⟩ := h.le_read (t := e.time)
      (List.mem_cons_of_mem _ (List.mem_map_of_mem (List.mem_append_right es List.mem_cons_self)))
    -- times less than 2 ^ 32 apart are told apart by their difference modulo 2 ^ 32
    have hsame : (T - e.time) % 2 ^ 32 = T - StatusEvent.lastChanged t₀ (es ++ [e]) ↔
        e.time = StatusEvent.lastChanged t₀ (es ++ [e]) := by omega
    rw [List.getLast?_concat]
    show (T - e.time) % 2 ^ 32 = _ ↔ _
    rw [hsame, StatusEvent.time_eq_lastChanged_concat]
    constructor
    · intro hcond
      exact .inr ⟨es, e, rfl, hcond⟩
    · rintro (⟨hnil, -⟩ | ⟨es', e', heq, hcond⟩)
      · simp at hnil
      · obtain ⟨rfl, rfl⟩ := List.append_singleton_inj.mp heq
        exact hcond

/-! ### The result -/

/-- **When `LastChange` is the time since the last change**: after every history of status events,
the status is that of the last event, and the answer is the time since the status last changed, if
and only if the last event changed the status, or came in the same second as the last change before
it, or there was none and the start was at a multiple of `2 ^ 32` seconds. -/
theorem last_change_iff {limits : HalLimits} {boot : Env} {psm : String → Option String}
    {w₀ : World} {t₀ : Int}
    (hinit : Prog.alone (Controller.init limits) (boot.clock t₀) (World.boot psm) = some (true, w₀))
    (env : Env) (events : List StatusEvent) {T : Int} (horder : StatusEvent.Ordered t₀ events T)
    (hspan : T - t₀ < 2 ^ 32) :
    ∃ w w' v, exec (StatusEvent.step env) w₀ events = some w ∧
      Prog.alone (Tr181.baseParamGetHandler lastChangeParam) (env.clock T) w =
        some (⟨.success, some (.uint32 v)⟩, w') ∧
      (w.eponData.obj.onuState.currentStatus = StatusEvent.statusAfter events ∧
          (v.toNat : Int) = T - StatusEvent.lastChanged t₀ events ↔
        (events = [] ∧ 2 ^ 32 ∣ t₀) ∨
          ∃ es e, events = es ++ [e] ∧
            (e.status ≠ StatusEvent.statusAfter es ∨ e.time = StatusEvent.lastChanged t₀ es)) := by
  have hstart : NoStatusYet w₀ := (init_noStatusYet limits).alone trivial hinit rfl
  obtain ⟨w, hrun, hset, hstatus, hstamp⟩ := exec_status env w₀ events
  rw [hstart.currentStatus] at hstatus
  rw [hstart.lastStatusChange] at hstamp
  obtain ⟨v, w', hget, hv⟩ := lastChange_get (env.clock T) (hset.trans hstart.eponData)
  refine ⟨w, w', v, hrun, hget, ?_⟩
  have hlaw : w.eponData.obj.onuState.currentStatus = StatusEvent.statusAfter events := hstatus
  rw [and_iff_right hlaw, hv, hstamp]
  exact horder.stamp_iff hspan

/-- A registration at time 150, read at time 160. -/
theorem last_change_after_registration :
    ∃ w₀ w w' v, Prog.alone (Controller.init HalLimits.small) (Env.quiet.clock 100)
        (World.boot fun _ => none) = some (true, w₀) ∧
      exec (StatusEvent.step Env.quiet) w₀ [⟨.registration, 150⟩] = some w ∧
      Prog.alone (Tr181.baseParamGetHandler lastChangeParam) (Env.quiet.clock 160) w =
        some (⟨.success, some (.uint32 v)⟩, w') ∧ v.toNat = 10 := by
  have h : (Prog.alone (Controller.init HalLimits.small) (Env.quiet.clock 100)
      (World.boot fun _ => none)).map Prod.fst = some true := by decide +kernel
  obtain ⟨⟨ok, w₀⟩, hinit, rfl⟩ := Option.map_eq_some_iff.mp h
  obtain ⟨w, w', v, hrun, hget, hiff⟩ := last_change_iff hinit Env.quiet [⟨.registration, 150⟩]
    (T := 160) (by simp [StatusEvent.Ordered]) (by decide)
  have hchange : OnuStatus.registration ≠ StatusEvent.statusAfter [] := by decide
  have hv : (v.toNat : Int) = 160 - 150 := (hiff.mpr (.inr ⟨[], _, rfl, .inl hchange⟩)).2
  exact ⟨w₀, w, w', v, hinit, hrun, hget, by omega⟩

/-- A second `LOS` resets the answer, and before any event it is the clock itself: the status has
been `LOS` for a minute in both cases. -/
theorem last_change_reset_by_repeat :
    ∃ w₀ w w' w'', Prog.alone (Controller.init HalLimits.small) (Env.quiet.clock 100)
        (World.boot fun _ => none) = some (true, w₀) ∧
      exec (StatusEvent.step Env.quiet) w₀ [⟨.los, 150⟩] = some w ∧
      w.eponData.obj.onuState.currentStatus = .los ∧
      StatusEvent.lastChanged 100 [⟨.los, 150⟩] = 100 ∧
      Prog.alone (Tr181.baseParamGetHandler lastChangeParam) (Env.quiet.clock 160) w =
        some (⟨.success, some (.uint32 10)⟩, w') ∧
      Prog.alone (Tr181.baseParamGetHandler lastChangeParam) (Env.quiet.clock 160) w₀ =
        some (⟨.success, some (.uint32 160)⟩, w'') := by
  have h : ((Prog.alone (Controller.init HalLimits.small) (Env.quiet.clock 100)
        (World.boot fun _ => none)).bind fun a =>
      (exec (StatusEvent.step Env.quiet) a.2 [⟨.los, 150⟩]).bind fun w =>
      (Prog.alone (Tr181.baseParamGetHandler lastChangeParam) (Env.quiet.clock 160) w).bind fun b =>
      (Prog.alone (Tr181.baseParamGetHandler lastChangeParam)
        (Env.quiet.clock 160) a.2).map fun c =>
          (a.1, w.eponData.obj.onuState.currentStatus, b.1, c.1)) =
      some (true, .los, ⟨.success, some (.uint32 10)⟩, ⟨.success, some (.uint32 160)⟩) := by
    decide +kernel
  simp only [Option.bind_eq_some_iff, Option.map_eq_some_iff, Prod.mk.injEq] at h
  obtain ⟨⟨ok, w₀⟩, hinit, w, hrun, ⟨b, w'⟩, hget, ⟨c, w''⟩, hget₀, rfl, hstatus, rfl, rfl⟩ := h
  exact ⟨w₀, w, w', w'', hinit, hrun, hstatus, rfl, hget, hget₀⟩

end EponManager
