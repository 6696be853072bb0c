import EponManager.Lib.StepSystem
import EponManager.Telemetry

/-!
# T2 while telemetry is initialised and cleaned up (`eponMgr_telemetry.c`)

`eponMgr_telemetry_init` sets `initialized` under the mutex and calls `t2_init` after it;
`eponMgr_telemetry_cleanup` clears the flag under the mutex and calls `t2_uninit` after it; and a
raise reads the flag under the mutex and calls T2 after it. Nothing orders the three calls of T2.

* `lookup` and `formatValue` are the table and the text of an event; `TelemetryRun.step` interleaves
  any number of calls, and keeps the calls of T2 in a trace.
* `Timely` is the condition on a step; `T2Invariant` is what a run of such steps keeps.
* `pending_of_not_open` says where the flag is set and T2 is not open.
-/

namespace EponManager.Telemetry

open Lib

/-! ### The events -/

/-- `fmt_t` -/
inductive Fmt where
  | none
  | intf
  | alarm
  deriving DecidableEq, Repr

/-- An entry of `k_table`. Its priority is only logged. -/
structure EventDesc where
  marker : String
  fmt : Fmt
  deriving DecidableEq, Repr

/-- The entries for the standard alarms. -/
def alarmStdMarker : HalAlarm → Option String
  | .lofi              => some "EPON_ALARM_STD_LOFI"
  | .errorSymbolPeriod => some "EPON_ALARM_STD_ERROR_SYMBOL_PERIOD"
  | .errorFrame        => some "EPON_ALARM_STD_ERROR_FRAME"
  | .errorFramePeriod  => some "EPON_ALARM_STD_ERROR_FRAME_PERIOD"
  | .errorFrameSeconds => some "EPON_ALARM_STD_ERROR_FRAME_SECONDS"
  | .oamSessionLost    => some "EPON_ALARM_STD_OAM_SESSION_LOST"
  | .equipmentFailure  => some "EPON_ALARM_STD_EQUIPMENT_FAILURE"
  | .other _           => none

/-- The entries for the vendor alarms. -/
def alarmVendorMarker : VendorAlarm → Option String
  | .los              => some "EPON_ALARM_VENDOR_LOS"
  | .dyingGasp        => some "EPON_ALARM_VENDOR_DYING_GASP"
  | .powerLow         => some "EPON_ALARM_VENDOR_POWER_LOW"
  | .powerHigh        => some "EPON_ALARM_VENDOR_POWER_HIGH"
  | .temperature      => some "EPON_ALARM_VENDOR_TEMPERATURE"
  | .fecThreshold     => some "EPON_ALARM_VENDOR_FEC_THRESHOLD"
  | .laserBiasCurrent => some "EPON_ALARM_VENDOR_LASER_BIAS_CURRENT"
  | .supplyVoltage    => some "EPON_ALARM_VENDOR_SUPPLY_VOLTAGE"
  | .other _          => none

/-- `lookup`; an id outside the table is one of an alarm that has no entry. -/
def lookup : TelemetryEvent → Option EventDesc
  | .onuLos                      => some ⟨"EPON_ONU_LOS", .none⟩
  | .onuDownstreamSignalDetected => some ⟨"EPON_ONU_DOWNSTREAM_SIGNAL_DETECTED", .none⟩
  | .onuRegistration             => some ⟨"EPON_ONU_REGISTRATION", .none⟩
  | .onuDeregistration           => some ⟨"EPON_ONU_DEREGISTRATION", .none⟩
  | .intfLinkUp                  => some ⟨"EPON_INTF_LINK_UP", .intf⟩
  | .intfLinkDown                => some ⟨"EPON_INTF_LINK_DOWN", .intf⟩
  | .phyStatusUp                 => some ⟨"EPON_PHY_STATUS_UP", .none⟩
  | .phyStatusDown               => some ⟨"EPON_PHY_STATUS_DOWN", .none⟩
  | .alarmStd alarm              => (alarmStdMarker alarm).map (⟨·, .alarm⟩)
  | .alarmVendor alarm           => (alarmVendorMarker alarm).map (⟨·, .alarm⟩)
  | .systemInitSuccess           => some ⟨"EPON_SYSTEM_INIT_SUCCESS", .none⟩
  | .systemInitFailure           => some ⟨"EPON_SYSTEM_INIT_FAILURE", .none⟩
  | .systemShutdown              => some ⟨"EPON_SYSTEM_SHUTDOWN", .none⟩
  | .systemHalWrongPonMode       => some ⟨"EPON_SYSTEM_HAL_WRONG_PON_MODE", .none⟩
  | .systemFactoryReset          => some ⟨"EPON_SYSTEM_FACTORY_RESET", .none⟩
  | .systemOnuReset              => some ⟨"EPON_SYSTEM_ONU_RESET", .none⟩
  | .errorHalCallFailed          => some ⟨"EPON_ERROR_HAL_CALL_FAILED", .none⟩
  | .errorEventQueueFull         => some ⟨"EPON_ERROR_EVENT_QUEUE_FULL", .none⟩
  | .errorStatsCollectionFailed  => some ⟨"EPON_ERROR_STATS_COLLECTION_FAILED", .none⟩
  | .errorRbusPublishFailed      => some ⟨"EPON_ERROR_RBUS_PUBLISH_FAILED", .none⟩
  | .errorPsmAccessFailed        => some ⟨"EPON_ERROR_PSM_ACCESS_FAILED", .none⟩

/-- `ctx_t` -/
structure Ctx where
  ifname : Option CharBuf
  raised : Bool
  llid : UInt16
  deriving DecidableEq, Repr

section Events

-- `na` is `EPON_LLID_NOT_APPLICABLE`, which the HAL defines.
variable (na : UInt16)

/-- The text that `format_value` prints. -/
def valueText (ctx : Option Ctx) : Fmt → CharBuf
  | .none  => []
  | .intf  => "Interface=".toList ++ ((ctx.bind Ctx.ifname).elim "unknown".toList cstr)
  | .alarm =>
      match ctx with
      | none     => "CLEARED".toList
      | some ctx =>
          (if ctx.raised then "RAISED" else "CLEARED").toList ++
            if ctx.llid ≠ na then (s!",LLID={ctx.llid.toNat}").toList else []

/-- `format_value`, with the 256 characters that `dispatch` has for it. -/
def formatValue (desc : EventDesc) (ctx : Option Ctx) : Option CharBuf :=
  let value := valueText na ctx desc.fmt
  if value.length < 256 then some value else none

/-- A call of one of the functions that raise an event. -/
inductive Raise where
  | simple (id : TelemetryEvent)
  | intf (id : TelemetryEvent) (ifname : Option CharBuf)
  | alarm (info : Option AlarmInfo)
  deriving DecidableEq, Repr

/-- What is given to `dispatch`; `none` if −1 is returned before. -/
def Raise.args : Raise → Option (TelemetryEvent × Option Ctx)
  | .simple id          => some (id, none)
  | .intf id ifname     => some (id, some ⟨ifname, false, na⟩)
  | .alarm none         => none
  | .alarm (some info)  => (mapAlarm info).map (·, some ⟨none, info.isActive, info.llid⟩)

/-- What the flag is read for: the entry of a known id. -/
def Raise.event (r : Raise) : Option (EventDesc × Option Ctx) :=
  (r.args na).bind fun (id, ctx) => (lookup id).map (·, ctx)

end Events

/-! ### The calls of T2 -/

inductive T2Call (ι : Type) where
  /-- `t2_init(g_state.component)` is called -/
  | init (component : CharBuf)
  | initReturned
  | uninit
  /-- `t2_event_d(marker, 1)`, called by the raise `i` -/
  | eventD (i : ι) (marker : String)
  | eventS (i : ι) (marker : String) (value : CharBuf)
  deriving DecidableEq, Repr

/-- `t2_send` -/
def t2Send {ι : Type} (i : ι) (marker : String) (value : CharBuf) : T2Call ι :=
  if value.isEmpty then .eventD i marker else .eventS i marker value

namespace T2Call

variable {ι : Type}

def sender : T2Call ι → Option ι
  | .eventD i _ | .eventS i _ _ => some i
  | _ => none

/-- Whether a `t2_init` has returned and no `t2_uninit` was called since, the last call first. -/
def isOpen : List (T2Call ι) → Bool
  | []                 => false
  | .initReturned :: _ => true
  | .uninit :: _       => false
  | _ :: trace         => isOpen trace

/-- **T2 is used only while it is open.** -/
def EventsInside : List (T2Call ι) → Prop
  | []         => True
  | c :: trace => (c.sender.isSome → isOpen trace = true) ∧ EventsInside trace

@[simp] theorem sender_t2Send (i : ι) (marker : String) (value : CharBuf) :
    (t2Send i marker value).sender = some i := by
  unfold t2Send
  split <;> rfl

@[simp] theorem isOpen_t2Send (i : ι) (marker : String) (value : CharBuf)
    (trace : List (T2Call ι)) : isOpen (t2Send i marker value :: trace) = isOpen trace := by
  unfold t2Send
  split <;> rfl

end T2Call

/-! ### The interleaving -/

inductive TelemetryCall where
  | init (componentName : Option CharBuf)
  | cleanup
  | raise (r : Raise)
  deriving DecidableEq, Repr

/-- Where a call is. -/
inductive TelemetryPhase where
  | notCalled
  /-- init and cleanup: the flag is changed, T2 is not called yet -/
  | changed
  /-- raise: `ready` is true -/
  | ready (desc : EventDesc) (ctx : Option Ctx)
  /-- until T2 answers -/
  | inT2
  | returned (rc : Int)
  deriving DecidableEq, Repr

/-- The flag was read as set, and the value fits. -/
def TelemetryPhase.sends (na : UInt16) : TelemetryPhase → Bool
  | .ready desc ctx => (formatValue na desc ctx).isSome
  | _ => false

/-- `g_state`, the calls on it and the calls of T2, the last one first. -/
structure TelemetryRun (ι : Type) where
  initialized : Bool
  component : CharBuf
  phase : ι → TelemetryPhase
  /-- whether T2 has been open at some time since the raise read the flag -/
  inside : ι → Bool
  trace : List (T2Call ι)

namespace TelemetryRun

variable {ι : Type}

open T2Call

def start : TelemetryRun ι where
  initialized := false
  component := []
  phase _ := .notCalled
  inside _ := false
  trace := []

variable [DecidableEq ι]

/-! ### The steps -/

def setPhase (s : TelemetryRun ι) (i : ι) (phase : TelemetryPhase) : TelemetryRun ι :=
  { s with phase := Function.update s.phase i phase }

/-- `eponMgr_telemetry_init` -/
def initStep (componentName : Option CharBuf) (s : TelemetryRun ι) (i : ι) :
    Option (TelemetryRun ι) :=
  match s.phase i with
  | .notCalled =>
      match componentName with
      | none      => some (s.setPhase i (.returned (-1)))
      | some name =>
          if s.initialized then some (s.setPhase i (.returned 0))
          else some { s.setPhase i .changed with
            initialized := true
            component := (cstr name).take 127 }
  -- the name is read without the mutex; a cleanup may have emptied it
  | .changed => some { s.setPhase i .inT2 with trace := .init s.component :: s.trace }
  | .inT2    =>
      some { s.setPhase i (.returned 0) with
        inside := fun _ => true
        trace := .initReturned :: s.trace }
  | .ready .. | .returned _ => none

/-- `eponMgr_telemetry_cleanup` -/
def cleanupStep (s : TelemetryRun ι) (i : ι) : Option (TelemetryRun ι) :=
  match s.phase i with
  | .notCalled =>
      if s.initialized then
        some { s.setPhase i .changed with initialized := false, component := [] }
      else some (s.setPhase i (.returned 0))
  | .changed => some { s.setPhase i .inT2 with trace := .uninit :: s.trace }
  | .inT2    => some (s.setPhase i (.returned 0))
  | .ready .. | .returned _ => none

/-- A raise; `ok` is the answer of T2. -/
def raiseStep (na : UInt16) (r : Raise) (ok : Bool) (s : TelemetryRun ι) (i : ι) :
    Option (TelemetryRun ι) :=
  match s.phase i with
  | .notCalled =>
      match r.event na with
      | none             => some (s.setPhase i (.returned (-1)))
      | some (desc, ctx) =>
          some { s.setPhase i (if s.initialized then .ready desc ctx else .returned 0) with
            inside := Function.update s.inside i (isOpen s.trace) }
  | .ready desc ctx =>
      -- the flag may have been cleared since, and T2 closed
      match formatValue na desc ctx with
      | none       => some (s.setPhase i (.returned (-1)))
      | some value =>
          some { s.setPhase i .inT2 with trace := t2Send i desc.marker value :: s.trace }
  | .inT2 => some (s.setPhase i (.returned (if ok then 0 else -1)))
  | .changed | .returned _ => none

/-- The next step of a call, with the answer of T2 if it returns from it. -/
def step (na : UInt16) (calls : ι → TelemetryCall) (s : TelemetryRun ι) (a : ι × Bool) :
    Option (TelemetryRun ι) :=
  match calls a.1 with
  | .init name => s.initStep name a.1
  | .cleanup   => s.cleanupStep a.1
  | .raise r   => s.raiseStep na r a.2 a.1

/-! ### Use of T2 -/

/-- A raise that has read the flag and has yet to call T2. -/
def Sends (na : UInt16) (s : TelemetryRun ι) (i : ι) : Prop := (s.phase i).sends na = true

/-- **The condition on a step.** No raise of a known id reads the flag as set while T2 is not open,
and no cleanup calls `t2_uninit` while a raise that has read the flag has yet to call T2. -/
def Timely (na : UInt16) (calls : ι → TelemetryCall) (s : TelemetryRun ι) (a : ι × Bool) : Prop :=
  match calls a.1, s.phase a.1 with
  | .raise r, .notCalled =>
      (r.event na).isSome = true → s.initialized = true → isOpen s.trace = true
  | .cleanup, .changed   => ∀ j, ¬ s.Sends na j
  | _, _                 => True

/-- **T2 is used only while it is open**, and a raise of a known id that lies outside of such a
period returns 0 and does not call it. -/
def UsedWhileOpen (na : UInt16) (calls : ι → TelemetryCall) (s : TelemetryRun ι) : Prop :=
  EventsInside s.trace ∧
    ∀ i r rc, calls i = .raise r → (r.event na).isSome = true → s.inside i = false →
      s.phase i = .returned rc → rc = 0 ∧ ∀ c ∈ s.trace, c.sender ≠ some i

/-! ### The invariant -/

/-- What holds of one call. -/
structure CallInvariant (na : UInt16) (calls : ι → TelemetryCall) (s : TelemetryRun ι) (i : ι) :
    Prop where
  sends : s.Sends na i → isOpen s.trace = true
  ready : ∀ desc ctx, s.phase i = .ready desc ctx →
    s.inside i = true ∧ ∃ r, calls i = .raise r ∧ r.event na = some (desc, ctx)
  outside : ∀ r, calls i = .raise r → (r.event na).isSome = true → s.inside i = false →
    s.phase i = .notCalled ∨ s.phase i = .returned 0
  senders : ∀ c ∈ s.trace, c.sender = some i → s.inside i = true ∧ s.phase i ≠ .notCalled

structure T2Invariant (na : UInt16) (calls : ι → TelemetryCall) (s : TelemetryRun ι) : Prop where
  events : EventsInside s.trace
  calls : ∀ i, s.CallInvariant na calls i

variable {na : UInt16} {calls : ι → TelemetryCall} {s t : TelemetryRun ι} {i : ι}

omit [DecidableEq ι] in
/-- A call that is about to send has formatted its value. -/
theorem exists_of_sends (h : s.Sends na i) :
    ∃ desc ctx, s.phase i = .ready desc ctx ∧ (formatValue na desc ctx).isSome = true := by
  unfold Sends at h
  cases hphase : s.phase i with
  | ready desc ctx => exact ⟨desc, ctx, rfl, by rwa [hphase] at h⟩
  | _ =>
      rw [hphase] at h
      cases h

omit [DecidableEq ι] in
/-- Before the first call T2 is closed, and nobody uses it. -/
theorem start_invariant : T2Invariant na calls (start : TelemetryRun ι) where
  events := trivial
  calls _ :=
    { sends := nofun
      ready := nofun
      outside := fun _ _ _ _ => .inl rfl
      senders := nofun }

omit [DecidableEq ι] in
/-- A call that has not been answered by what follows. -/
theorem CallInvariant.other (h : s.CallInvariant na calls i) (hphase : t.phase i = s.phase i)
    (hinside : s.inside i = true → t.inside i = true)
    (hopen : s.Sends na i → isOpen t.trace = true)
    (htrace : ∀ c ∈ t.trace, c.sender = some i → c ∈ s.trace) : t.CallInvariant na calls i where
  sends hsends := hopen (by rw [Sends, ← hphase]; exact hsends)
  ready desc ctx hpc := (h.ready desc ctx (hphase ▸ hpc)).imp_left hinside
  outside r hcall hknown hno := by
    rw [hphase]
    refine h.outside r hcall hknown (Bool.eq_false_iff.mpr fun hyes => ?_)
    rw [hinside hyes] at hno
    cases hno
  senders c hc hsender := by
    obtain ⟨hyes, hcalled⟩ := h.senders c (htrace c hc hsender) hsender
    exact ⟨hinside hyes, hphase ▸ hcalled⟩

omit [DecidableEq ι] in
/-- A call that goes on without a value for T2. -/
theorem CallInvariant.goes_on (h : s.CallInvariant na calls i) {q : TelemetryPhase}
    (hphase : t.phase i = q) (hready : ∀ desc ctx, q ≠ .ready desc ctx) (hcalled : q ≠ .notCalled)
    (hinside : s.inside i = true → t.inside i = true)
    (hout : ∀ r, calls i = .raise r → (r.event na).isSome = true → t.inside i = false →
      q = .returned 0)
    (htrace : ∀ c ∈ t.trace, c.sender = some i → c ∈ s.trace) : t.CallInvariant na calls i where
  sends hsends := by
    obtain ⟨desc, ctx, hpc, -⟩ := exists_of_sends hsends
    exact absurd (hphase ▸ hpc) (hready desc ctx)
  ready desc ctx hpc := absurd (hphase ▸ hpc) (hready desc ctx)
  outside r hcall hknown hno := .inr (hphase.trans (hout r hcall hknown hno))
  senders c hc hsender :=
    ⟨hinside (h.senders c (htrace c hc hsender) hsender).1, hphase ▸ hcalled⟩

/-- A step of init or cleanup. -/
theorem T2Invariant.control (hs : T2Invariant na calls s) (hcall : ∀ r, calls i ≠ .raise r)
    {q : TelemetryPhase} (hphase : t.phase = Function.update s.phase i q)
    (hready : ∀ desc ctx, q ≠ .ready desc ctx) (hcalled : q ≠ .notCalled)
    (hinside : ∀ j, s.inside j = true → t.inside j = true)
    (htrace : t.trace = s.trace ∨ ∃ c, c.sender = none ∧ t.trace = c :: s.trace)
    (hopen : ∀ j, s.Sends na j → isOpen t.trace = true) : T2Invariant na calls t := by
  -- what is new in the trace is no event
  have hmem (c : T2Call ι) (hc : c ∈ t.trace) (j : ι) (hsender : c.sender = some j) :
      c ∈ s.trace := by
    rcases htrace with htrace | ⟨d, hd, htrace⟩
    · exact htrace ▸ hc
    · rw [htrace] at hc
      rcases List.mem_cons.mp hc with rfl | hc
      · cases hd.symm.trans hsender
      · exact hc
  constructor
  · rcases htrace with htrace | ⟨d, hd, htrace⟩
    · rw [htrace]
      exact hs.events
    · rw [htrace]
      constructor
      · intro hsome
        rw [hd] at hsome
        cases hsome
      · exact hs.events
  · intro j
    by_cases hji : j = i
    · subst hji
      refine (hs.calls j).goes_on (q := q) ?_ hready hcalled (hinside j) ?_ ?_
      · rw [hphase, Function.update_self]
      · intro r hr
        exact absurd hr (hcall r)
      · intro c hc
        exact hmem c hc j
    · apply (hs.calls j).other
      · rw [hphase, Function.update_of_ne hji]
      · exact hinside j
      · exact hopen j
      · intro c hc
        exact hmem c hc j

/-! ### The invariant, call by call

Three kinds of calls step; the hypothesis on each is what `Timely` says of it.
-/

/-- `init` sets the flag first and opens T2 afterwards. -/
theorem T2Invariant.initStep (hs : T2Invariant na calls s) {name : Option CharBuf}
    (hcall : calls i = .init name) (h : s.initStep name i = some t) : T2Invariant na calls t := by
  have hcall' (r : Raise) : calls i ≠ .raise r := by rw [hcall]; nofun
  have hopen (j : ι) : s.Sends na j → isOpen s.trace = true := (hs.calls j).sends
  unfold TelemetryRun.initStep at h
  split at h
  · split at h
    · cases h
      exact hs.control hcall' rfl nofun nofun (fun _ => id) (.inl rfl) hopen
    · split at h
      · cases h
        exact hs.control hcall' rfl nofun nofun (fun _ => id) (.inl rfl) hopen
      · cases h
        exact hs.control hcall' rfl nofun nofun (fun _ => id) (.inl rfl) hopen
  · cases h
    exact hs.control hcall' rfl nofun nofun (fun _ => id) (.inr ⟨_, rfl, rfl⟩) hopen
  · cases h
    exact hs.control hcall' rfl nofun nofun (fun _ _ => rfl) (.inr ⟨_, rfl, rfl⟩) fun _ _ => rfl
  · cases h
  · cases h

/-- `cleanup` may close T2 when no call is about to send. -/
theorem T2Invariant.cleanupStep (hs : T2Invariant na calls s) (hcall : calls i = .cleanup)
    (hquiet : s.phase i = .changed → ∀ j, ¬ s.Sends na j) (h : s.cleanupStep i = some t) :
    T2Invariant na calls t := by
  have hcall' (r : Raise) : calls i ≠ .raise r := by rw [hcall]; nofun
  have hopen (j : ι) : s.Sends na j → isOpen s.trace = true := (hs.calls j).sends
  unfold TelemetryRun.cleanupStep at h
  split at h
  · split at h
    · cases h
      exact hs.control hcall' rfl nofun nofun (fun _ => id) (.inl rfl) hopen
    · cases h
      exact hs.control hcall' rfl nofun nofun (fun _ => id) (.inl rfl) hopen
  · rename_i hphase
    cases h
    exact hs.control hcall' rfl nofun nofun (fun _ => id) (.inr ⟨_, rfl, rfl⟩)
      fun j hj => absurd hj (hquiet hphase j)
  · cases h
    exact hs.control hcall' rfl nofun nofun (fun _ => id) (.inl rfl) hopen
  · cases h
  · cases h

/-- A step of a raise that leaves T2 alone. -/
theorem T2Invariant.setPhase (hs : T2Invariant na calls s) {q : TelemetryPhase}
    (hi : (s.setPhase i q).CallInvariant na calls i) : T2Invariant na calls (s.setPhase i q) := by
  constructor
  · exact hs.events
  · intro j
    by_cases hji : j = i
    · subst hji
      exact hi
    · apply (hs.calls j).other
      · exact Function.update_of_ne hji ..
      · exact id
      · exact (hs.calls j).sends
      · intro c hc _
        exact hc

/-- A raise of a known id reads the flag. -/
theorem CallInvariant.reads (hi : s.CallInvariant na calls i) {r : Raise} {desc : EventDesc}
    {ctx : Option Ctx} (hcall : calls i = .raise r) (hevent : r.event na = some (desc, ctx))
    (hphase : s.phase i = .notCalled) (hread : s.initialized = true → isOpen s.trace = true) :
    CallInvariant na calls
      { s.setPhase i (if s.initialized then .ready desc ctx else .returned 0) with
        inside := Function.update s.inside i (isOpen s.trace) } i := by
  have hinside : Function.update s.inside i (isOpen s.trace) i = isOpen s.trace :=
    Function.update_self ..
  -- it has not called T2 yet
  have hnotSender : ∀ c ∈ s.trace, c.sender ≠ some i := by
    intro c hc hsender
    exact (hi.senders c hc hsender).2 hphase
  cases hflag : s.initialized with
  | true =>
      have hopen := hread hflag
      have hready : Function.update s.phase i (.ready desc ctx) i = .ready desc ctx :=
        Function.update_self ..
      constructor
      · intro _
        exact hopen
      · intro desc' ctx' hpc
        cases hready.symm.trans hpc
        exact ⟨hinside.trans hopen, r, hcall, hevent⟩
      · intro _ _ _ hno
        cases hopen.symm.trans (hinside.symm.trans hno)
      · intro c hc hsender
        exact absurd hsender (hnotSender c hc)
  | false =>
      have hreturned : Function.update s.phase i (.returned 0) i = .returned 0 :=
        Function.update_self ..
      constructor
      · intro hsends
        obtain ⟨_, _, hpc, -⟩ := exists_of_sends hsends
        cases hreturned.symm.trans hpc
      · intro desc' ctx' hpc
        cases hreturned.symm.trans hpc
      · intro _ _ _ _
        exact .inr hreturned
      · intro c hc hsender
        exact absurd hsender (hnotSender c hc)

/-- A raise calls T2. -/
theorem T2Invariant.sends (hs : T2Invariant na calls s) {desc : EventDesc} {ctx : Option Ctx}
    (hphase : s.phase i = .ready desc ctx) {value : CharBuf}
    (hvalue : formatValue na desc ctx = some value) :
    T2Invariant na calls
      { s.setPhase i .inT2 with trace := t2Send i desc.marker value :: s.trace } := by
  have hi := hs.calls i
  have hyes := (hi.ready desc ctx hphase).1
  have hsends : s.Sends na i := by
    rw [Sends, hphase, TelemetryPhase.sends, hvalue]
    rfl
  have hopen := hi.sends hsends
  have hopen' : isOpen (t2Send i desc.marker value :: s.trace) = true := by
    rw [isOpen_t2Send, hopen]
  constructor
  · exact ⟨fun _ => hopen, hs.events⟩
  · intro j
    -- the caller has sent and owes nothing more; the others are not touched
    by_cases hji : j = i
    · subst hji
      have hsent : Function.update s.phase j .inT2 j = .inT2 := Function.update_self ..
      constructor
      · intro _
        exact hopen'
      · intro _ _ hpc
        cases hsent.symm.trans hpc
      · intro _ _ _ hno
        cases hyes.symm.trans hno
      · intro _ _ _
        refine ⟨hyes, ?_⟩
        intro hpc
        cases hsent.symm.trans hpc
    · apply (hs.calls j).other
      · exact Function.update_of_ne hji ..
      · exact id
      · intro _
        exact hopen'
      · intro c hc hsender
        rcases List.mem_cons.mp hc with rfl | hc
        · rw [sender_t2Send] at hsender
          exact absurd (Option.some.inj hsender).symm hji
        · exact hc

/-- `raise` may read the flag where a flag that is set means that T2 is open. -/
theorem T2Invariant.raiseStep (hs : T2Invariant na calls s) {r : Raise} {ok : Bool}
    (hcall : calls i = .raise r)
    (hread : s.phase i = .notCalled → (r.event na).isSome = true → s.initialized = true →
      isOpen s.trace = true)
    (h : s.raiseStep na r ok i = some t) : T2Invariant na calls t := by
  have hi := hs.calls i
  have hsame {r' : Raise} (hr' : calls i = .raise r') : r' = r :=
    (TelemetryCall.raise.inj (hcall.symm.trans hr')).symm
  unfold TelemetryRun.raiseStep at h
  split at h
  · rename_i hphase
    split at h
    · -- the id is not known
      rename_i hevent
      cases h
      apply hs.setPhase
      refine hi.goes_on (Function.update_self ..) nofun nofun id ?_ fun _ hc _ => hc
      intro r' hr' hknown
      rw [hsame hr', hevent] at hknown
      cases hknown
    · rename_i desc ctx hevent
      cases h
      have hknown : (r.event na).isSome = true := by rw [hevent]; rfl
      constructor
      · exact hs.events
      · intro j
        by_cases hji : j = i
        · subst hji
          exact hi.reads hcall hevent hphase (hread hphase hknown)
        · apply (hs.calls j).other
          · exact Function.update_of_ne hji ..
          · intro hyes
            exact (Function.update_of_ne hji ..).trans hyes
          · exact (hs.calls j).sends
          · intro c hc _
            exact hc
  · rename_i desc ctx hphase
    split at h
    · -- the value does not fit
      cases h
      apply hs.setPhase
      refine hi.goes_on (Function.update_self ..) nofun nofun id ?_ fun _ hc _ => hc
      intro _ _ _ hno
      cases (hi.ready desc ctx hphase).1.symm.trans hno
    · rename_i value hvalue
      cases h
      exact hs.sends hphase hvalue
  · rename_i hphase
    cases h
    apply hs.setPhase
    refine hi.goes_on (Function.update_self ..) nofun nofun id ?_ fun _ hc _ => hc
    -- a raise that has called T2 read the flag while T2 was open
    intro r' hr' hknown hno
    rcases hi.outside r' hr' hknown hno with hbefore | hbefore
    · cases hphase.symm.trans hbefore
    · cases hphase.symm.trans hbefore
  · cases h
  · cases h

/-! ### The invariant in a run -/

/-- **Step lemma.** -/
theorem T2Invariant.step (hs : T2Invariant na calls s) {a : ι × Bool}
    (htimely : s.Timely na calls a) (h : s.step na calls a = some t) :
    T2Invariant na calls t := by
  unfold TelemetryRun.step at h
  unfold Timely at htimely
  cases hcall : calls a.1 with
  | init name =>
      simp only [hcall] at h
      exact hs.initStep hcall h
  | cleanup =>
      simp only [hcall] at h htimely
      refine hs.cleanupStep hcall (fun hphase => ?_) h
      simpa only [hphase] using htimely
  | raise r =>
      simp only [hcall] at h htimely
      refine hs.raiseStep hcall (fun hphase => ?_) h
      simpa only [hphase] using htimely

/-- **Run lemma.** -/
theorem T2Invariant.exec {as : List (ι × Bool)} (hs : T2Invariant na calls s)
    (has : Along (TelemetryRun.step na calls) (Timely na calls) s as)
    (h : Lib.exec (TelemetryRun.step na calls) s as = some t) : T2Invariant na calls t :=
  exec_invariant_along (fun _ _ _ hs htimely hstep => hs.step htimely hstep) hs has h

omit [DecidableEq ι] in
theorem T2Invariant.usedWhileOpen (hs : T2Invariant na calls s) : s.UsedWhileOpen na calls := by
  constructor
  · exact hs.events
  · intro i r rc hcall hknown hno hrc
    constructor
    · rcases (hs.calls i).outside r hcall hknown hno with hbefore | hbefore
      · cases hrc.symm.trans hbefore
      · cases hrc.symm.trans hbefore
        rfl
    · intro c hc hsender
      cases hno.symm.trans ((hs.calls i).senders c hc hsender).1

/-! ### Where the flag is set and T2 is not open -/

/-- An init has set the flag, and its `t2_init` has not returned. -/
def Pending (calls : ι → TelemetryCall) (s : TelemetryRun ι) : Prop :=
  ∃ i name, calls i = .init name ∧ (s.phase i = .changed ∨ s.phase i = .inT2)

/-- No cleanup calls `t2_uninit` when an init has set the flag again. -/
def UninitInOrder (calls : ι → TelemetryCall) (s : TelemetryRun ι) (a : ι × Bool) : Prop :=
  calls a.1 = .cleanup → s.phase a.1 = .changed → s.initialized = false

def OpenOrPending (calls : ι → TelemetryCall) (s : TelemetryRun ι) : Prop :=
  s.initialized = true → isOpen s.trace = true ∨ s.Pending calls

/-- A step of a call that is no init under way. -/
theorem OpenOrPending.other (hs : s.OpenOrPending calls)
    (hi : ∀ name, calls i = .init name → s.phase i = .notCalled) {q : TelemetryPhase}
    (hphase : t.phase = Function.update s.phase i q)
    (hflag : t.initialized = true → s.initialized = true)
    (htrace : t.initialized = true → isOpen s.trace = true → isOpen t.trace = true) :
    t.OpenOrPending calls := by
  intro hset
  refine (hs (hflag hset)).imp (htrace hset) ?_
  rintro ⟨j, name, hcall, hj⟩
  have hji : j ≠ i := by
    rintro rfl
    rw [hi name hcall] at hj
    rcases hj with hj | hj <;> cases hj
  refine ⟨j, name, hcall, ?_⟩
  rw [hphase, Function.update_of_ne hji]
  exact hj

/-! ### The flag and T2

The second invariant is for the exactness: where the flag is set and T2 is not open, a call of
`init` or `cleanup` is on its way between the two.
-/

theorem OpenOrPending.initStep (hs : s.OpenOrPending calls) {name : Option CharBuf}
    (hcall : calls i = .init name) (h : s.initStep name i = some t) : t.OpenOrPending calls := by
  unfold TelemetryRun.initStep at h
  split at h
  · rename_i hphase
    split at h
    · cases h
      exact hs.other (fun _ _ => hphase) rfl id fun _ => id
    · split at h
      · cases h
        exact hs.other (fun _ _ => hphase) rfl id fun _ => id
      · cases h
        exact fun _ => .inr ⟨i, _, hcall, .inl (Function.update_self ..)⟩
  · cases h
    exact fun _ => .inr ⟨i, _, hcall, .inr (Function.update_self ..)⟩
  · cases h
    exact fun _ => .inl rfl
  · cases h
  · cases h

/-- `cleanup` clears the flag before it closes T2. -/
theorem OpenOrPending.cleanupStep (hs : s.OpenOrPending calls) (hcall : calls i = .cleanup)
    (horder : s.phase i = .changed → s.initialized = false) (h : s.cleanupStep i = some t) :
    t.OpenOrPending calls := by
  have hno (name : Option CharBuf) (hinit : calls i = .init name) : s.phase i = .notCalled := by
    cases hcall.symm.trans hinit
  unfold TelemetryRun.cleanupStep at h
  split at h
  · split at h
    · cases h
      intro hset
      cases hset
    · cases h
      exact hs.other hno rfl id fun _ => id
  · rename_i hphase
    cases h
    intro hset
    cases (horder hphase).symm.trans hset
  · cases h
    exact hs.other hno rfl id fun _ => id
  · cases h
  · cases h

theorem OpenOrPending.raiseStep (hs : s.OpenOrPending calls) {r : Raise} {ok : Bool}
    (hcall : calls i = .raise r) (h : s.raiseStep na r ok i = some t) :
    t.OpenOrPending calls := by
  have hno (name : Option CharBuf) (hinit : calls i = .init name) : s.phase i = .notCalled := by
    cases hcall.symm.trans hinit
  unfold TelemetryRun.raiseStep at h
  split at h
  · split at h
    · cases h
      exact hs.other hno rfl id fun _ => id
    · cases h
      exact hs.other hno rfl id fun _ => id
  · split at h
    · cases h
      exact hs.other hno rfl id fun _ => id
    · cases h
      refine hs.other hno rfl id ?_
      intro _ hopen
      rw [isOpen_t2Send]
      exact hopen
  · cases h
    exact hs.other hno rfl id fun _ => id
  · cases h
  · cases h

theorem OpenOrPending.step (hs : s.OpenOrPending calls) {a : ι × Bool}
    (ha : s.UninitInOrder calls a) (h : s.step na calls a = some t) : t.OpenOrPending calls := by
  unfold TelemetryRun.step at h
  cases hcall : calls a.1 with
  | init name =>
      simp only [hcall] at h
      exact hs.initStep hcall h
  | cleanup =>
      simp only [hcall] at h
      exact hs.cleanupStep hcall (ha hcall) h
  | raise r =>
      simp only [hcall] at h
      exact hs.raiseStep hcall h

/-- **Between the critical section of an init and the return of its `t2_init`**: in a run in which
no `t2_uninit` comes after the flag was set again, that is where the flag is set and T2 is not
open. -/
theorem pending_of_not_open {as : List (ι × Bool)}
    (has : Along (TelemetryRun.step na calls) (UninitInOrder calls) start as)
    (hrun : Lib.exec (TelemetryRun.step na calls) start as = some s) (hset : s.initialized = true)
    (hclosed : isOpen s.trace = false) : s.Pending calls := by
  have hstart : OpenOrPending calls (start : TelemetryRun ι) := nofun
  have hs : s.OpenOrPending calls :=
    exec_invariant_along (fun _ _ _ hs ha hstep => hs.step ha hstep) hstart has hrun
  rcases hs hset with hopen | hpending
  · cases hclosed.symm.trans hopen
  · exact hpending

/-! ### What comes too early or too late -/

/-- Some run goes on to a state in which T2 was not used only while it was open. -/
def CanMisuse (na : UInt16) (calls : ι → TelemetryCall) (s : TelemetryRun ι) : Prop :=
  ∃ as t, Lib.exec (step na calls) s as = some t ∧ ¬ t.UsedWhileOpen na calls

/-- A raise goes on after it has read the flag, while T2 is not open. -/
theorem canMisuse_of_ready {r : Raise} {desc : EventDesc} {ctx : Option Ctx}
    (hcall : calls i = .raise r) (hevent : r.event na = some (desc, ctx))
    (hphase : s.phase i = .ready desc ctx) (hopen : isOpen s.trace = false)
    (hoff : formatValue na desc ctx = none → s.inside i = false) : CanMisuse na calls s := by
  have hstep : s.step na calls (i, true) = s.raiseStep na r true i := by
    simp only [step, hcall]
  unfold raiseStep at hstep
  simp only [hphase] at hstep
  cases hvalue : formatValue na desc ctx with
  | none =>
      rw [hvalue] at hstep
      refine ⟨[(i, true)], _, exec_cons_eq_some.mpr ⟨_, hstep, rfl⟩, fun hused => ?_⟩
      obtain ⟨hrc, -⟩ :=
        hused.2 i r (-1) hcall (by rw [hevent]; rfl) (hoff hvalue) (Function.update_self ..)
      cases hrc
  | some value =>
      rw [hvalue] at hstep
      refine ⟨[(i, true)], _, exec_cons_eq_some.mpr ⟨_, hstep, rfl⟩, fun hused => ?_⟩
      have hinside := hused.1.1 (by rw [sender_t2Send]; rfl)
      cases hopen.symm.trans hinside

/-- **A step that is not timely can be followed by a misuse of T2.** -/
theorem canMisuse_of_not_timely (hs : T2Invariant na calls s) {a : ι × Bool}
    (ha : ¬ s.Timely na calls a) (h : s.step na calls a = some t) : CanMisuse na calls t := by
  obtain ⟨i, ok⟩ := a
  unfold step at h
  unfold Timely at ha
  cases hcall : calls i with
  | init name => simp only [hcall] at ha; exact absurd trivial ha
  | cleanup =>
      simp only [hcall] at h ha
      unfold cleanupStep at h
      cases hphase : s.phase i with
      | changed =>
          simp only [hphase, not_forall, not_not] at h ha
          -- T2 is closed under a call that is about to send
          obtain ⟨j, hsends⟩ := ha
          obtain ⟨desc, ctx, hready, hvalue⟩ := exists_of_sends hsends
          cases h
          have hji : j ≠ i := by
            rintro rfl
            cases hready.symm.trans hphase
          obtain ⟨-, r, hraise, hevent⟩ := (hs.calls j).ready desc ctx hready
          refine canMisuse_of_ready hraise hevent ?_ rfl fun hnone => ?_
          · exact (Function.update_of_ne hji ..).trans hready
          · rw [hnone] at hvalue
            cases hvalue
      | _ => simp only [hphase] at ha; exact absurd trivial ha
  | raise r =>
      simp only [hcall] at h ha
      unfold raiseStep at h
      cases hphase : s.phase i with
      | notCalled =>
          simp only [hphase, Classical.not_imp] at h ha
          obtain ⟨hknown, hflag, hopen⟩ := ha
          obtain ⟨⟨desc, ctx⟩, hevent⟩ := Option.isSome_iff_exists.mp hknown
          simp only [hevent, hflag, if_true] at h
          cases h
          -- the flag is set while T2 is not open: the call is misled
          have hclosed : isOpen s.trace = false := Bool.eq_false_iff.mpr hopen
          refine canMisuse_of_ready hcall hevent (Function.update_self ..) hclosed fun _ => ?_
          exact (Function.update_self ..).trans hclosed
      | _ => simp only [hphase] at ha; exact absurd trivial ha

/-! ### The result -/

/-- **When T2 is used only while it is open.** In a run whose steps are timely, every event is sent
after a `t2_init` has returned and before the next `t2_uninit` is called, and a raise of a known id
outside of such a period returns 0 without a call of T2. A step that is not timely can be continued
to a state of which this is false. -/
theorem t2_used_while_open_when_timely (na : UInt16) (calls : ι → TelemetryCall)
    {as : List (ι × Bool)} (has : Along (step na calls) (Timely na calls) start as)
    (hrun : Lib.exec (step na calls) start as = some s) :
    s.UsedWhileOpen na calls ∧
      ∀ a t, ¬ s.Timely na calls a → s.step na calls a = some t → CanMisuse na calls t :=
  have hs : T2Invariant na calls s := start_invariant.exec has hrun
  ⟨hs.usedWhileOpen, fun _ _ => canMisuse_of_not_timely hs⟩

/-- The condition on a step, for finitely many calls. -/
def checkTimely {n : Nat} (na : UInt16) (calls : Fin n → TelemetryCall) (s : TelemetryRun (Fin n))
    (a : Fin n × Bool) : Bool :=
  match calls a.1, s.phase a.1 with
  | .raise r, .notCalled => !(r.event na).isSome || !s.initialized || isOpen s.trace
  | .cleanup, .changed   => decide (∀ j, (s.phase j).sends na = false)
  | _, _                 => true

/-- A step that passes the check is timely. -/
theorem timely_of_check {n : Nat} {calls : Fin n → TelemetryCall} {s : TelemetryRun (Fin n)}
    {a : Fin n × Bool} (h : checkTimely na calls s a = true) : s.Timely na calls a := by
  unfold checkTimely at h
  unfold Timely
  split
  · rename_i r hcall hphase
    simp only [hcall, hphase] at h
    intro hknown hflag
    simpa [hknown, hflag] using h
  · rename_i hcall hphase
    simp only [hcall, hphase] at h
    intro j hj
    rw [Sends, of_decide_eq_true h j] at hj
    cases hj
  · trivial

/-- An init, a raise, a raise that names an interface, a cleanup, and a raise after it. -/
def fiveCalls : Fin 5 → TelemetryCall
  | 0 => .init (some "EponManager".toList)
  | 1 => .raise (.simple .systemInitSuccess)
  | 2 => .raise (.intf .intfLinkUp (some "veip0".toList))
  | 3 => .cleanup
  | 4 => .raise (.simple .systemShutdown)

def oneAfterAnother : List (Fin 5 × Bool) :=
  [(0, true), (0, true), (0, true), (1, true), (2, true), (1, true), (2, true), (2, true),
    (1, false), (3, true), (3, true), (3, true), (4, true)]

/-- Two raises between an init and a cleanup, one of them refused by T2, and a raise after both. -/
theorem t2_used_one_after_another :
    ∃ s, Lib.exec (step 65535 fiveCalls) start oneAfterAnother = some s ∧
      s.phase 1 = .returned (-1) ∧ s.phase 4 = .returned 0 ∧ s.UsedWhileOpen 65535 fiveCalls := by
  have hmap : (Lib.exec (step 65535 fiveCalls) start oneAfterAnother).map
      (fun s => (s.phase 1, s.phase 4)) = some (.returned (-1), .returned 0) := by
    decide +kernel
  obtain ⟨s, hs, heq⟩ := Option.map_eq_some_iff.mp hmap
  obtain ⟨hfirst, hlast⟩ := Prod.mk.inj heq
  have hchecked : checked (step 65535 fiveCalls) (checkTimely 65535 fiveCalls) start
      oneAfterAnother = true := by
    decide +kernel
  have has : Along (step 65535 fiveCalls) (Timely 65535 fiveCalls) start oneAfterAnother :=
    along_of_checked (P := fun _ => True) (fun _ _ _ _ _ => trivial)
      (fun _ _ _ => timely_of_check) trivial hchecked
  exact ⟨s, hs, hfirst, hlast, (t2_used_while_open_when_timely 65535 fiveCalls has hs).1⟩

/-- The flag is set, but `t2_init` has not been called. -/
def raiseDuringInit : List (Fin 5 × Bool) := [(0, true), (1, true), (1, true)]

/-- The raise reads the flag before the cleanup, and calls T2 after `t2_uninit`. -/
def raiseDuringCleanup : List (Fin 5 × Bool) :=
  [(0, true), (0, true), (0, true), (1, true), (3, true), (3, true), (3, true), (1, true)]

/-- Calls at the same time: a message before T2 is open, and one after it was closed. -/
theorem t2_used_while_closed :
    (∃ s, Lib.exec (step 65535 fiveCalls) start raiseDuringInit = some s ∧
      s.trace = [.eventD 1 "EPON_SYSTEM_INIT_SUCCESS"] ∧ ¬ s.UsedWhileOpen 65535 fiveCalls) ∧
    ∃ s, Lib.exec (step 65535 fiveCalls) start raiseDuringCleanup = some s ∧
      s.trace = [.eventD 1 "EPON_SYSTEM_INIT_SUCCESS", .uninit, .initReturned,
        .init "EponManager".toList] ∧ ¬ s.UsedWhileOpen 65535 fiveCalls := by
  have hinit : (Lib.exec (step 65535 fiveCalls) start raiseDuringInit).map TelemetryRun.trace =
      some [.eventD 1 "EPON_SYSTEM_INIT_SUCCESS"] := by
    decide +kernel
  have hcleanup : (Lib.exec (step 65535 fiveCalls) start raiseDuringCleanup).map
      TelemetryRun.trace = some [.eventD 1 "EPON_SYSTEM_INIT_SUCCESS", .uninit, .initReturned,
        .init "EponManager".toList] := by
    decide +kernel
  obtain ⟨s, hs, htrace⟩ := Option.map_eq_some_iff.mp hinit
  obtain ⟨u, hu, hutrace⟩ := Option.map_eq_some_iff.mp hcleanup
  refine ⟨⟨s, hs, htrace, fun hused => ?_⟩, u, hu, hutrace, fun hused => ?_⟩
  · have hevents := hused.1
    rw [htrace] at hevents
    cases hevents.1 rfl
  · have hevents := hused.1
    rw [hutrace] at hevents
    cases hevents.1 rfl

end TelemetryRun

end EponManager.Telemetry
