import EponManager.Frames
import EponManager.Lib.BoundedFifo
import EponManager.Lib.Decimal
import EponManager.Lib.Replica
import EponManager.Lib.StepSystem
import EponManager.Locks
import EponManager.Telemetry.Backend

/-!
# The alarms that T2 knows of

The HAL calls back when an alarm is raised or cleared; the callback pushes an event on a queue of
bounded length, and the controller's thread turns the event into a message for T2, which consists of
a marker and a text. Someone who reads the messages keeps a table of the alarms.

* `T2Call.alarmReport` reads a message. `alarmReport_message` is the round trip: what is read from
  the message of an alarm is what the HAL said, but for alarms that no marker stands for.
* `TelemetrySystem` is the queue, the manager and the messages; its steps come in any order.
* `Informed` says that the messages, and the events that wait in the queue, leave the table that the
  callbacks leave. `alarms_told_iff` is the condition for that, over all runs.
-/

namespace EponManager.Telemetry

open Lib
open Lib.Prog (Ensures Respects)

/-! ### Reading a message -/

/-- What is said of an alarm. -/
structure AlarmReport where
  alarm : TelemetryEvent
  llid : Option UInt16
  raised : Bool
  deriving DecidableEq, Repr

/-- An alarm is raised and cleared for each LLID by itself. -/
def AlarmReport.key (report : AlarmReport) : TelemetryEvent × Option UInt16 :=
  (report.alarm, report.llid)

/-- The alarms that have a marker. -/
def namedAlarms : List TelemetryEvent :=
  [.alarmStd .lofi, .alarmStd .errorSymbolPeriod, .alarmStd .errorFrame,
    .alarmStd .errorFramePeriod, .alarmStd .errorFrameSeconds, .alarmStd .oamSessionLost,
    .alarmStd .equipmentFailure, .alarmVendor .los, .alarmVendor .dyingGasp,
    .alarmVendor .powerLow, .alarmVendor .powerHigh, .alarmVendor .temperature,
    .alarmVendor .fecThreshold, .alarmVendor .laserBiasCurrent, .alarmVendor .supplyVoltage]

/-- The alarm that a marker stands for. -/
def alarmOfMarker (marker : String) : Option TelemetryEvent :=
  namedAlarms.find? fun alarm => (lookup alarm).map EventDesc.marker = some marker

/-- The text after the state. -/
def readLlid (text : CharBuf) : Option (Option UInt16) :=
  if text = [] then some none
  else if ",LLID=".toList.isPrefixOf text then
    (numeralValue (text.drop 6)).map fun n => some (UInt16.ofNat n)
  else none

/-- Whether the alarm is raised, and for which LLID. -/
def readValue (text : CharBuf) : Option (Bool × Option UInt16) :=
  if "RAISED".toList.isPrefixOf text then (readLlid (text.drop 6)).map (true, ·)
  else if "CLEARED".toList.isPrefixOf text then (readLlid (text.drop 7)).map (false, ·)
  else none

/-- What a message says of an alarm, if it is about one. -/
def T2Call.alarmReport {ι : Type} : T2Call ι → Option AlarmReport
  | .eventS _ marker text =>
      (alarmOfMarker marker).bind fun alarm =>
        (readValue text).map fun (raised, llid) => ⟨alarm, llid, raised⟩
  | _ => none

section Message

-- `na` is `EPON_LLID_NOT_APPLICABLE`, which the HAL defines.
variable (na : UInt16)

/-! ### The messages of an alarm -/

/-- The message of a raise, if it has one. -/
def Raise.message (raise : Raise) : Option (T2Call Unit) :=
  (raise.event na).bind fun (desc, ctx) =>
    (formatValue na desc ctx).map fun value => t2Send () desc.marker value

/-- What the HAL says of an alarm. -/
def reportOf (info : AlarmInfo) : Option AlarmReport :=
  (mapAlarm info).map fun alarm =>
    ⟨alarm, if info.llid = na then none else some info.llid, info.isActive⟩

/-- An alarm is found by its marker. -/
theorem alarmOfMarker_of_mapAlarm {info : AlarmInfo} {alarm : TelemetryEvent}
    (h : mapAlarm info = some alarm) :
    ∃ marker, lookup alarm = some ⟨marker, .alarm⟩ ∧ alarmOfMarker marker = some alarm := by
  unfold mapAlarm at h
  cases htype : info.alarmType with
  | standard =>
      rw [htype] at h
      cases halarm : info.standardAlarm <;> rw [halarm] at h <;> cases h <;>
        exact ⟨_, rfl, by decide⟩
  | vendorSpecific =>
      rw [htype] at h
      cases halarm : info.vendorAlarm <;> rw [halarm] at h <;> cases h <;>
        exact ⟨_, rfl, by decide⟩
  | other code =>
      rw [htype] at h
      cases h

theorem readLlid_numeral (llid : UInt16) :
    readLlid (",LLID=".toList ++ Nat.toDigits 10 llid.toNat) = some (some llid) := by
  have hprefix : ",LLID=".toList.isPrefixOf (",LLID=".toList ++ Nat.toDigits 10 llid.toNat) :=
    List.isPrefixOf_iff_prefix.mpr (List.prefix_append _ _)
  have hdrop : (",LLID=".toList ++ Nat.toDigits 10 llid.toNat).drop 6 =
      Nat.toDigits 10 llid.toNat := List.drop_left' rfl
  rw [readLlid, if_neg (by simp), if_pos hprefix, hdrop, numeralValue_numeral, Option.map_some,
    UInt16.ofNat_toNat]

/-- The text of an alarm: raised or cleared, and the LLID unless it does not apply. -/
theorem valueText_alarm (ctx : Ctx) :
    valueText na (some ctx) .alarm = (if ctx.raised then "RAISED" else "CLEARED").toList ++
      if ctx.llid = na then [] else ",LLID=".toList ++ Nat.toDigits 10 ctx.llid.toNat := by
  have htext (n : Nat) : (s!",LLID={n}").toList = ",LLID=".toList ++ Nat.toDigits 10 n := by
    have hdigits : (toString n).toList = Nat.toDigits 10 n := by
      rw [Nat.toString_eq_ofList_toDigits, String.toList_ofList]
    show (",LLID=" ++ toString n).toList = _
    rw [String.toList_append, hdigits]
  show _ ++ (if ctx.llid ≠ na then (s!",LLID={ctx.llid.toNat}").toList else []) = _
  rw [htext, ite_not]

/-- **The text of an alarm is read as it was meant.** -/
theorem readValue_valueText (ctx : Ctx) :
    readValue (valueText na (some ctx) .alarm) =
      some (ctx.raised, if ctx.llid = na then none else some ctx.llid) := by
  have hllid : readLlid (if ctx.llid = na then [] else
      ",LLID=".toList ++ Nat.toDigits 10 ctx.llid.toNat) =
      some (if ctx.llid = na then none else some ctx.llid) := by
    split_ifs
    · rfl
    · exact readLlid_numeral ctx.llid
  rw [valueText_alarm]
  generalize (if ctx.llid = na then [] else ",LLID=".toList ++ Nat.toDigits 10 ctx.llid.toNat) =
    rest at hllid
  cases ctx.raised with
  | true =>
      have hread : readValue ("RAISED".toList ++ rest) = (readLlid rest).map (true, ·) := rfl
      exact hread.trans (congrArg _ hllid)
  | false =>
      have hread : readValue ("CLEARED".toList ++ rest) = (readLlid rest).map (false, ·) := rfl
      exact hread.trans (congrArg _ hllid)

/-- The text of an alarm is never too long. -/
theorem length_valueText_alarm (ctx : Ctx) : (valueText na (some ctx) .alarm).length < 256 := by
  rw [valueText_alarm, List.length_append]
  have hstate : (if ctx.raised then "RAISED" else "CLEARED").toList.length ≤ 7 := by
    cases ctx.raised <;> decide
  have hllid : (if ctx.llid = na then [] else
      ",LLID=".toList ++ Nat.toDigits 10 ctx.llid.toNat).length ≤ 6 + 5 := by
    split_ifs
    · exact Nat.zero_le _
    · have hlt : ctx.llid.toNat < 10 ^ 5 := by
        have := ctx.llid.toNat_lt
        omega
      have hdigits := (Nat.length_toDigits_le_iff (by decide) (by decide)).mpr hlt
      rw [List.length_append]
      exact Nat.add_le_add (by decide) hdigits
  omega

/-- The message of an alarm has a text. -/
theorem message_alarm {info : AlarmInfo} {alarm : TelemetryEvent} {marker : String}
    (hmap : mapAlarm info = some alarm) (hlookup : lookup alarm = some ⟨marker, .alarm⟩) :
    (Raise.alarm (some info)).message na = some (.eventS () marker
      (valueText na (some ⟨none, info.isActive, info.llid⟩) .alarm)) := by
  have hevent : (Raise.alarm (some info)).event na =
      some (⟨marker, .alarm⟩, some ⟨none, info.isActive, info.llid⟩) := by
    rw [Raise.event, Raise.args, hmap]
    simp [hlookup]
  have hformat : formatValue na ⟨marker, .alarm⟩ (some ⟨none, info.isActive, info.llid⟩) =
      some (valueText na (some ⟨none, info.isActive, info.llid⟩) .alarm) :=
    if_pos (length_valueText_alarm na _)
  have hne : (valueText na (some ⟨none, info.isActive, info.llid⟩) .alarm).isEmpty = false := by
    have hstate : (if info.isActive then "RAISED" else "CLEARED").toList ≠ [] := by
      cases info.isActive <;> decide
    rw [valueText_alarm, List.isEmpty_eq_false_iff]
    exact List.append_ne_nil_of_left_ne_nil hstate _
  rw [Raise.message, hevent, Option.bind_some]
  show (formatValue na _ _).map _ = _
  rw [hformat, Option.map_some, t2Send, hne]
  rfl

/-- An alarm that no marker stands for is not raised. -/
theorem message_of_unmapped {info : AlarmInfo} (hmap : mapAlarm info = none) :
    (Raise.alarm (some info)).message na = none := by
  have hevent : (Raise.alarm (some info)).event na = none := by
    rw [Raise.event, Raise.args, hmap]
    rfl
  rw [Raise.message, hevent]
  rfl

/-- The message of an alarm says what the HAL said. -/
theorem alarmReport_bind (info : AlarmInfo) :
    ((Raise.alarm (some info)).message na).bind T2Call.alarmReport = reportOf na info := by
  cases hmap : mapAlarm info with
  | none =>
      rw [message_of_unmapped na hmap, reportOf, hmap]
      rfl
  | some alarm =>
      obtain ⟨marker, hlookup, hfound⟩ := alarmOfMarker_of_mapAlarm hmap
      rw [message_alarm na hmap hlookup, Option.bind_some, T2Call.alarmReport, hfound,
        Option.bind_some, readValue_valueText, reportOf, hmap]
      rfl

/-- **Round trip**: the message of an alarm says what the HAL said, and the alarms that have no
message are those that no marker stands for. -/
theorem alarmReport_message (info : AlarmInfo) :
    ((Raise.alarm (some info)).message na).bind T2Call.alarmReport = reportOf na info ∧
      ((Raise.alarm (some info)).message na = none ↔ mapAlarm info = none) := by
  refine ⟨alarmReport_bind na info, ?_, message_of_unmapped na⟩
  intro hnone
  cases hmap : mapAlarm info with
  | none => rfl
  | some alarm =>
      obtain ⟨marker, hlookup, -⟩ := alarmOfMarker_of_mapAlarm hmap
      rw [message_alarm na hmap hlookup] at hnone
      cases hnone

end Message

/-! ### The messages of one event -/

/-- The alarms among the telemetry events. -/
def isAlarm : TelemetryEvent → Bool
  | .alarmStd _ | .alarmVendor _ => true
  | _                            => false

/-- An effect that tells T2 of no alarm. -/
def Unalarming : Effect → Prop
  | .telemetry id _ _ => isAlarm id = false
  | _                 => True

/-- The call that an effect stands for while an event is processed. -/
def raiseOf (event : Event) (id : TelemetryEvent) (ifname : Option CharBuf) : Raise :=
  match event, ifname with
  | .alarm info, _ => .alarm (some info)
  | _, some name   => .intf id (some name)
  | _, none        => .simple id

section Process

variable (na : UInt16)

def messageOf (event : Event) : Effect → Option (T2Call Unit)
  | .telemetry id ifname true => (raiseOf event id ifname).message na
  | _                         => none

/-- What the HAL says of an alarm in an event. -/
def eventReport : Event → Option AlarmReport
  | .alarm info => reportOf na info
  | _           => none

/-- A marker of another event is none of an alarm. -/
theorem alarmOfMarker_of_not_alarm {id : TelemetryEvent} {desc : EventDesc}
    (hid : isAlarm id = false) (h : lookup id = some desc) :
    alarmOfMarker desc.marker = none := by
  cases id with
  | alarmStd alarm => cases hid
  | alarmVendor alarm => cases hid
  | _ =>
      cases h
      decide

/-- A message with the marker of another event says nothing of an alarm. -/
theorem alarmReport_of_not_alarm {raise : Raise} {id : TelemetryEvent} {ctx : Option Ctx}
    (hargs : raise.args na = some (id, ctx)) (hid : isAlarm id = false) :
    (raise.message na).bind T2Call.alarmReport = none := by
  cases hlookup : lookup id with
  | none =>
      have hevent : raise.event na = none := by
        rw [Raise.event, hargs]
        simp [hlookup]
      rw [Raise.message, hevent]
      rfl
  | some desc =>
      have hmarker := alarmOfMarker_of_not_alarm hid hlookup
      have hevent : raise.event na = some (desc, ctx) := by
        rw [Raise.event, hargs]
        simp [hlookup]
      rw [Raise.message, hevent, Option.bind_some]
      show ((formatValue na desc ctx).map _).bind _ = _
      cases formatValue na desc ctx with
      | none => rfl
      | some value =>
          rw [Option.map_some, Option.bind_some, t2Send]
          split
          · rfl
          · rw [T2Call.alarmReport, hmarker]
            rfl

/-- What is raised for an event that is no alarm is not read as one. -/
theorem messageOf_unalarming {event : Event} (hevent : ∀ info, event ≠ .alarm info) {e : Effect}
    (he : Unalarming e) : (messageOf na event e).bind T2Call.alarmReport = none := by
  cases e with
  | telemetry id ifname sent =>
      cases sent with
      | false => rfl
      | true =>
          cases event with
          | alarm info => exact absurd rfl (hevent info)
          | onuStatus status =>
              cases ifname with
              | none => exact alarmReport_of_not_alarm na rfl he
              | some name => exact alarmReport_of_not_alarm na rfl he
          | interfaceStatus info =>
              cases ifname with
              | none => exact alarmReport_of_not_alarm na rfl he
              | some name => exact alarmReport_of_not_alarm na rfl he
  | _ => rfl

/-! ### What processing an event adds to the trace

Everything that an event does besides its alarm adds no alarm: WanManager, the rows and the other
reports.
-/

/-- Telemetry stays initialised or not, and the trace has grown by effects in `E`. -/
structure Adds (E : Effect → Prop) (w w' : World) : Prop where
  telemetryInitialized : w'.telemetryInitialized = w.telemetryInitialized
  trace : ∃ l, w'.trace = w.trace ++ l ∧ ∀ e ∈ l, E e

variable {E : Effect → Prop} {α : Type}

theorem Adds.of_trace_eq {w w' : World} (htelem : w'.telemetryInitialized = w.telemetryInitialized)
    (htrace : w'.trace = w.trace) : Adds E w w' :=
  ⟨htelem, [], by rw [htrace, List.append_nil], fun _ he => absurd he List.not_mem_nil⟩

instance : IsPreorder World (Adds E) where
  refl _ := Adds.of_trace_eq rfl rfl
  trans w₁ w₂ w₃ h₁ h₂ := by
    obtain ⟨l₁, ht₁, hl₁⟩ := h₁.trace
    obtain ⟨l₂, ht₂, hl₂⟩ := h₂.trace
    refine ⟨h₂.telemetryInitialized.trans h₁.telemetryInitialized, l₁ ++ l₂, ?_, fun e he => ?_⟩
    · rw [ht₂, ht₁, List.append_assoc]
    · exact (List.mem_append.mp he).elim (hl₁ e) (hl₂ e)

theorem respects_adds {f : M α} (hf : Respects (Outside E) f) : Respects (Adds E) f :=
  hf.mono fun _ _ h => ⟨h.telemetryInitialized, h.trace⟩

theorem modifyData_adds (f : Data → Data) : Respects (Adds E) (modifyData f) :=
  Respects.write fun _ => Adds.of_trace_eq rfl rfl

open Controller in
theorem processOnuStatusEvent_adds (status : OnuStatus) :
    Respects (Adds Unalarming) (processOnuStatusEvent status) := by
  refine Respects.bind ?_ fun _ => ?_
  · exact Respects.lock.bind fun _ => (respects_adds (ask_outside _)).bind fun _ =>
      (modifyData_adds _).bind fun _ => Respects.unlock
  · cases status with
    | other code => exact Respects.pure
    | _ => exact respects_adds (Telemetry.dispatch_outside fun _ => rfl)

open Controller in
theorem processInterfaceStatusEvent_adds (limits : HalLimits) (info : InterfaceInfo) :
    Respects (Adds Unalarming) (processInterfaceStatusEvent limits info) := by
  have hreport (rc : Int) : Respects (Adds Unalarming) (reportFailure rc) :=
    respects_adds (reportFailure_outside (fun _ => rfl) rc)
  have hraise {event : TelemetryEvent} (ifname : Option CharBuf) (hevent : isAlarm event = false) :
      Respects (Adds Unalarming) (Telemetry.dispatch event ifname) :=
    respects_adds (Telemetry.dispatch_outside fun _ => hevent)
  have hupdate : Respects (Adds Unalarming)
      (WanManager.updateVirtualInterface info.name (info.status = .linkUp)) :=
    respects_adds (WanManager.updateVirtualInterface_outside _ fun _ _ _ => trivial)
  have hnotify (phyIsUp : Bool) : Respects (Adds Unalarming) (WanManager.notifyPhyStatus phyIsUp) :=
    respects_adds (WanManager.notifyPhyStatus_outside trivial fun _ _ => trivial)
  refine (modifyData_adds _).bind fun _ => Respects.bind ?_ fun _ =>
    Respects.read.bind fun phyIsUp => Respects.bind ?_ fun _ => ?_
  · exact hupdate.bind fun _ => (hreport _).bind fun _ => hraise _ (by split_ifs <;> rfl)
  · exact (hnotify phyIsUp).bind fun _ => (hreport _).bind fun _ =>
      hraise _ (by split_ifs <;> rfl)
  · refine Respects.read.bind fun _ => Respects.ite ?_ Respects.pure
    exact (respects_adds (Tr181.syncVeipTable_outside fun _ _ => trivial)).bind fun _ =>
      (hreport _).bind fun _ => modifyData_adds _

theorem getInterfaceList_adds : Respects (Adds Unalarming) Data.getInterfaceList := by
  have hdone {found : Bool} : Respects (Adds Unalarming) (do
      Prog.unlock .data
      return found : M Bool) :=
    Respects.unlock.bind fun _ => Respects.pure
  have hemit (ret : HalReturn) : Respects (Adds Unalarming) (emit (.halGetInterfaceList ret)) :=
    respects_adds (emit_outside trivial)
  refine Respects.lock.bind fun _ => Respects.read.bind fun before =>
    (respects_adds (ask_outside _)).bind fun answer => (modifyData_adds _).bind fun _ =>
    (hemit answer.1).bind fun _ => ?_
  refine Respects.ite (Respects.read.bind fun _ => Respects.ite ?_ hdone) hdone
  exact (modifyData_adds _).bind fun _ => Respects.unlock.bind fun _ =>
    (respects_adds (Tr181.syncVeipTable_outside fun _ _ => trivial)).bind fun _ => Respects.pure

theorem dispatch_trace (event : TelemetryEvent) (ifname : Option CharBuf) (ready : Bool)
    (trace : List Effect) :
    Ensures (fun w : World => w.telemetryInitialized = ready ∧ w.trace = trace)
      (Telemetry.dispatch event ifname) (fun _ w => w.telemetryInitialized = ready ∧
        w.trace = trace ++ [.telemetry event ifname ready]) := by
  refine Ensures.lock.bind fun _ => Ensures.bind
    (Q := fun sent w => sent = ready ∧ w.telemetryInitialized = ready ∧ w.trace = trace)
    (Ensures.read fun w hw => ⟨hw.1, hw⟩) fun sent => Ensures.unlock.bind fun _ => ?_
  refine Ensures.write fun w hw => ⟨hw.2.1, ?_⟩
  show w.trace ++ [_] = _
  rw [hw.1, hw.2.2]

/-- **An event tells T2 of its alarm**, and of no other. -/
theorem processEvent_reports {limits : HalLimits} {event : Event} {env : Env} {w w' : World}
    (hready : w.telemetryInitialized = true)
    (h : Prog.alone (Controller.processEvent limits event) env w = some ((), w')) :
    w'.telemetryInitialized = true ∧ ∃ new, w'.trace = w.trace ++ new ∧
      (new.filterMap (messageOf na event)).filterMap T2Call.alarmReport =
        (eventReport na event).toList := by
  -- the two events that are no alarm add nothing that is read as one
  have hquiet (hevent : ∀ info, event ≠ .alarm info) (hnone : eventReport na event = none)
      (hadds : Adds Unalarming w w') : w'.telemetryInitialized = true ∧
        ∃ new, w'.trace = w.trace ++ new ∧
          (new.filterMap (messageOf na event)).filterMap T2Call.alarmReport =
            (eventReport na event).toList := by
    obtain ⟨new, htrace, hnew⟩ := hadds.trace
    refine ⟨hadds.telemetryInitialized.trans hready, new, htrace, ?_⟩
    rw [hnone, List.filterMap_filterMap, Option.toList_none, List.filterMap_eq_nil_iff]
    exact fun e he => messageOf_unalarming na hevent (hnew e he)
  cases event with
  | onuStatus status =>
      have hadds := (processOnuStatusEvent_adds status).alone h
      exact hquiet (fun _ hne => Event.noConfusion hne) rfl hadds
  | interfaceStatus info =>
      have hadds := (processInterfaceStatusEvent_adds limits info).alone h
      exact hquiet (fun _ hne => Event.noConfusion hne) rfl hadds
  | alarm info =>
      have hread := alarmReport_bind na info
      show _ ∧ ∃ new, _ ∧ _ = (reportOf na info).toList
      rw [← hread]
      have hrun : Prog.alone (Telemetry.raiseAlarm info) env w = some ((), w') := h
      rw [Telemetry.raiseAlarm] at hrun
      cases hmap : mapAlarm info with
      | none =>
          rw [hmap] at hrun
          cases hrun
          refine ⟨hready, [], (List.append_nil _).symm, ?_⟩
          rw [message_of_unmapped na hmap]
          rfl
      | some alarm =>
          rw [hmap] at hrun
          obtain ⟨hkept, htrace⟩ :=
            (dispatch_trace alarm none true w.trace).alone ⟨hready, rfl⟩ hrun
          refine ⟨hkept, _, htrace, ?_⟩
          show ((Raise.alarm (some info)).message na).toList.filterMap _ = _
          cases (Raise.alarm (some info)).message na with
          | none => rfl
          | some message => rfl

end Process

/-! ### The queue, the manager and the messages -/

structure TelemetrySystem (cap : Nat) where
  queue : BoundedFifo Event cap
  manager : World
  /-- the messages that T2 was sent, the oldest first -/
  stream : List (T2Call Unit)
  /-- the events that the HAL called back for, the oldest first -/
  called : List Event

inductive TelemetryAction where
  /-- one of the HAL's callbacks -/
  | callback (event : Event)
  /-- the controller's thread processes the oldest event -/
  | process (env : Env)
  /-- the poller's thread refreshes the interface list, which raises nothing -/
  | refresh (env : Env)

namespace TelemetrySystem

variable {cap : Nat} (limits : HalLimits) (na : UInt16)

/-- Nothing has been called back. -/
def start (manager : World) : TelemetrySystem cap := ⟨BoundedFifo.empty Event cap, manager, [], []⟩

/-- A raise, by a callback. -/
def raise (r : Raise) (s : TelemetrySystem cap) : TelemetrySystem cap :=
  if s.manager.telemetryInitialized then
    { s with stream := s.stream ++ (r.message na).toList }
  else s

def step (s : TelemetrySystem cap) : TelemetryAction → Option (TelemetrySystem cap)
  | .callback event =>
      match s.queue.push event with
      | (.push true, queue) => some { s with queue, called := s.called ++ [event] }
      | _                   =>
          some { s.raise na (.simple .errorEventQueueFull) with called := s.called ++ [event] }
  | .process env =>
      match s.queue.pop with
      | (.pop (some event), queue) =>
          (Prog.alone (Controller.processEvent limits event) env s.manager).map fun (_, manager) =>
            { s with
              queue
              manager
              stream := s.stream ++
                (manager.trace.drop s.manager.trace.length).filterMap (messageOf na event) }
      | _ => none
  | .refresh env =>
      (Prog.alone Data.getInterfaceList env s.manager).map fun (_, manager) => { s with manager }

/-- What the messages say of alarms. -/
def told (s : TelemetrySystem cap) : List AlarmReport := s.stream.filterMap T2Call.alarmReport

/-- What the events in the queue say of alarms. -/
def pending (s : TelemetrySystem cap) : List AlarmReport :=
  s.queue.contents.filterMap (eventReport na)

/-- What the HAL said of alarms. -/
def reported (s : TelemetrySystem cap) : List AlarmReport := s.called.filterMap (eventReport na)

/-! ### What T2 knows of -/

/-- **The messages leave the table that the callbacks leave**, once the events in the queue have
been processed. -/
def Informed (s : TelemetrySystem cap) : Prop :=
  ∀ k, latest AlarmReport.key k (s.told ++ s.pending na) =
    latest AlarmReport.key k (s.reported na)

/-- **The condition on a step.** A callback that finds the queue full says nothing new. -/
def Keeps (s : TelemetrySystem cap) : TelemetryAction → Prop
  | .callback event => ∀ report ∈ eventReport na event, s.queue.contents.length = cap →
      latest AlarmReport.key report.key (s.reported na) = some report
  | _               => True

instance (s : TelemetrySystem cap) (a : TelemetryAction) : Decidable (s.Keeps na a) :=
  match a with
  | .callback event => inferInstanceAs (Decidable (∀ report ∈ eventReport na event,
      s.queue.contents.length = cap →
        latest AlarmReport.key report.key (s.reported na) = some report))
  | .process _ | .refresh _ => inferInstanceAs (Decidable True)

/-- What holds between the steps. -/
structure Following (s : TelemetrySystem cap) : Prop where
  ready : s.manager.telemetryInitialized = true
  informed : s.Informed na

variable {na} {s t : TelemetrySystem cap} {event : Event}

/-- At the start nothing is queued and nothing told. -/
theorem start_following {w : World} (hw : w.telemetryInitialized = true) :
    (start w : TelemetrySystem cap).Following na := ⟨hw, fun _ => rfl⟩

/-- One more event is one more report, if it is an alarm. -/
theorem reports_concat (events : List Event) (event : Event) :
    (events ++ [event]).filterMap (eventReport na) =
      events.filterMap (eventReport na) ++ (eventReport na event).toList := by
  rw [List.filterMap_append]
  cases hreport : eventReport na event with
  | none => simp [hreport]
  | some report => simp [hreport]

/-- An event that is pushed. -/
theorem step_callback_room (event : Event) (hroom : s.queue.contents.length < cap)
    (hready : s.manager.telemetryInitialized = true) :
    ∃ t, step limits na s (.callback event) = some t ∧
      t.manager.telemetryInitialized = true ∧ t.told = s.told ∧
      t.pending na = s.pending na ++ (eventReport na event).toList ∧
      t.reported na = s.reported na ++ (eventReport na event).toList := by
  have hpush : s.queue.push event =
      (.push true, ⟨s.queue.contents ++ [event], BoundedFifo.length_push_le hroom event⟩) :=
    dif_pos hroom
  refine ⟨{ s with
    queue := ⟨s.queue.contents ++ [event], BoundedFifo.length_push_le hroom event⟩
    called := s.called ++ [event] }, ?_, hready, rfl, reports_concat s.queue.contents event,
      reports_concat s.called event⟩
  rw [step, hpush]

/-- An event that is dropped. -/
theorem step_callback_full (event : Event) (hfull : s.queue.contents.length = cap)
    (hready : s.manager.telemetryInitialized = true) :
    ∃ t, step limits na s (.callback event) = some t ∧
      t.manager.telemetryInitialized = true ∧ t.told = s.told ∧ t.pending na = s.pending na ∧
      t.reported na = s.reported na ++ (eventReport na event).toList := by
  have hpush : s.queue.push event = (.push false, s.queue) := dif_neg (by omega)
  have hraise : s.raise na (.simple .errorEventQueueFull) =
      { s with stream := s.stream ++
        ((Raise.simple .errorEventQueueFull).message na).toList } := if_pos hready
  refine ⟨{ s.raise na (.simple .errorEventQueueFull) with called := s.called ++ [event] }, ?_, ?_,
    ?_, ?_, reports_concat s.called event⟩
  · rw [step, hpush]
  · rw [hraise]
    exact hready
  · rw [hraise]
    show (s.stream ++ _).filterMap _ = _
    have hread : ((Raise.simple .errorEventQueueFull).message na).bind T2Call.alarmReport = none :=
      alarmReport_of_not_alarm na rfl rfl
    rw [List.filterMap_append]
    cases hmessage : (Raise.simple .errorEventQueueFull).message na with
    | none => exact List.append_nil _
    | some message =>
        rw [hmessage, Option.bind_some] at hread
        rw [Option.toList_some, List.filterMap_cons, hread]
        exact List.append_nil _
  · rw [hraise]
    rfl

/-- The oldest event is processed. -/
theorem step_process {env : Env} (hready : s.manager.telemetryInitialized = true)
    (h : step limits na s (.process env) = some t) :
    t.manager.telemetryInitialized = true ∧ t.told ++ t.pending na = s.told ++ s.pending na ∧
      t.reported na = s.reported na := by
  rw [step] at h
  split at h
  · next event queue hpop =>
    obtain ⟨⟨u, manager⟩, hrun, rfl⟩ := Option.map_eq_some_iff.mp h
    obtain ⟨hready', new, htrace, hreports⟩ := processEvent_reports na hready hrun
    refine ⟨hready', ?_, rfl⟩
    have hnew : manager.trace.drop s.manager.trace.length = new := by
      rw [htrace, List.drop_left]
    have hpending : s.pending na = (eventReport na event).toList ++
        queue.contents.filterMap (eventReport na) := by
      rw [pending, BoundedFifo.contents_of_pop hpop, ← List.singleton_append,
        List.filterMap_append]
      cases hreport : eventReport na event with
      | none => simp [hreport]
      | some report => simp [hreport]
    show (s.stream ++ (manager.trace.drop _).filterMap _).filterMap _ ++ _ = _
    rw [hnew, List.filterMap_append, hreports, hpending, List.append_assoc]
    rfl
  · cases h

/-- The interface list is refreshed. -/
theorem step_refresh {env : Env} (hready : s.manager.telemetryInitialized = true)
    (h : step limits na s (.refresh env) = some t) :
    t.manager.telemetryInitialized = true ∧ t.told = s.told ∧ t.pending na = s.pending na ∧
      t.reported na = s.reported na := by
  obtain ⟨⟨found, manager⟩, hrun, rfl⟩ := Option.map_eq_some_iff.mp h
  exact ⟨(getInterfaceList_adds.alone hrun).telemetryInitialized.trans hready, rfl, rfl, rfl⟩

/-! ### The result -/

/-- **Step lemma.** -/
theorem Following.informed_iff (hs : s.Following na) (a : TelemetryAction) :
    (∀ t, step limits na s a = some t → t.Informed na) ↔ s.Keeps na a := by
  cases a with
  | process env =>
      refine iff_of_true (fun t ht => ?_) trivial
      obtain ⟨-, htold, hreported⟩ := step_process limits hs.ready ht
      intro k
      rw [htold, hreported]
      exact hs.informed k
  | refresh env =>
      refine iff_of_true (fun t ht => ?_) trivial
      obtain ⟨-, htold, hpending, hreported⟩ := step_refresh limits hs.ready ht
      intro k
      rw [htold, hpending, hreported]
      exact hs.informed k
  | callback event =>
      have hbound := s.queue.bounded
      -- a callback is lost only if the queue is full
      rcases Nat.lt_or_eq_of_le hbound with hroom | hfull
      · obtain ⟨t, ht, -, htold, hpending, hreported⟩ :=
          step_callback_room limits event hroom hs.ready
        refine iff_of_true (fun t' ht' => ?_) fun _ _ hfull => absurd hfull hroom.ne
        rw [ht] at ht'
        cases ht'
        intro k
        rw [htold, hpending, hreported, ← List.append_assoc,
          latest_append k (s.told ++ s.pending na), hs.informed k, ← latest_append]
      · obtain ⟨t, ht, -, htold, hpending, hreported⟩ :=
          step_callback_full limits event hfull hs.ready
        have hiff : (∀ t', step limits na s (.callback event) = some t' → t'.Informed na) ↔
            ∀ k, latest AlarmReport.key k (s.reported na ++ (eventReport na event).toList) =
              latest AlarmReport.key k (s.reported na) := by
          constructor
          · intro h k
            have hk := h t ht k
            rw [htold, hpending, hreported, hs.informed k] at hk
            exact hk.symm
          · intro h t' ht' k
            rw [ht] at ht'
            cases ht'
            rw [htold, hpending, hreported, h k]
            exact hs.informed k
        rw [hiff]
        cases hreport : eventReport na event with
        | none =>
            refine iff_of_true (fun k => ?_) fun report hmem => ?_
            · rw [Option.toList_none, List.append_nil]
            · rw [hreport] at hmem
              cases hmem
        | some report =>
            -- the report that is lost does not matter if it repeats the latest one of its alarm
            rw [Option.toList_some, latest_append_eq_iff]
            constructor
            · intro h report' hmem _
              rw [hreport] at hmem
              cases hmem
              exact h
            · exact fun h => h report hreport hfull

/-- **One step keeps the table and the messages together**, if the step is informed. -/
theorem Following.step {a : TelemetryAction} (hs : s.Following na) (hinformed : t.Informed na)
    (h : step limits na s a = some t) : t.Following na := by
  refine ⟨?_, hinformed⟩
  -- one case per action: a callback, a turn of the loop, a call
  cases a with
  | process env => exact (step_process limits hs.ready h).1
  | refresh env => exact (step_refresh limits hs.ready h).1
  | callback event =>
      rcases Nat.lt_or_eq_of_le s.queue.bounded with hroom | hfull
      · obtain ⟨t', ht, hready, -⟩ := step_callback_room limits event hroom hs.ready
        rw [ht] at h
        cases h
        exact hready
      · obtain ⟨t', ht, hready, -⟩ := step_callback_full limits event hfull hs.ready
        rw [ht] at h
        cases h
        exact hready

/-- **Which alarms T2 knows of**: in every run of callbacks, processed events and refreshes, the
table that the messages leave is the HAL's, in every state that the run gets to, if and only if no
callback that finds the queue full says something new. -/
theorem alarms_told_iff {w : World} (hw : w.telemetryInitialized = true)
    (as : List TelemetryAction) :
    (∀ done t, done <+: as → exec (step limits na) (start w : TelemetrySystem cap) done = some t →
        t.Informed na) ↔
      Along (step limits na) (Keeps na) (start w : TelemetrySystem cap) as := by
  have hs : (start w : TelemetrySystem cap).Following na := start_following hw
  rw [forall_reached_iff]
  have hiff : Along (step limits na)
        (fun s a => ∀ t, step limits na s a = some t → t.Informed na)
        (start w : TelemetrySystem cap) as ↔
      Along (step limits na) (Keeps na) (start w : TelemetrySystem cap) as :=
    along_iff (P := Following na) (D := fun _ _ => True)
      (fun s a t hs _ hinformed h => hs.step limits (hinformed t h) h)
      (fun s a hs _ => hs.informed_iff limits a) hs (along_of_forall fun _ _ => trivial)
  rw [← hiff]
  exact and_iff_right hs.informed

/-- An alarm of one LLID is raised and cleared again, while the queue holds one event at a time; the
second callback that it is raised is dropped. -/
def raisedAndCleared : List TelemetryAction :=
  [.callback (.alarm ⟨.standard, .lofi, .los, true, 3⟩),
    .callback (.alarm ⟨.standard, .lofi, .los, true, 3⟩), .process Env.quiet,
    .callback (.alarm ⟨.standard, .lofi, .los, false, 3⟩), .process Env.quiet]

/-- An alarm that is raised and cleared again. -/
theorem alarms_told_raised_and_cleared :
    ∃ t : TelemetrySystem 1, exec (step HalLimits.small 0xFFFF)
        (start { World.ready with telemetryInitialized := true }) raisedAndCleared = some t ∧
      t.told = [⟨.alarmStd .lofi, some 3, true⟩, ⟨.alarmStd .lofi, some 3, false⟩] ∧
      t.Informed 0xFFFF := by
  have hrun : (exec (step HalLimits.small 0xFFFF)
      (start { World.ready with telemetryInitialized := true } : TelemetrySystem 1)
      raisedAndCleared).map told =
        some [⟨.alarmStd .lofi, some 3, true⟩, ⟨.alarmStd .lofi, some 3, false⟩] := by
    decide +kernel
  obtain ⟨t, hrun, htold⟩ := Option.map_eq_some_iff.mp hrun
  have hchecked : checked (step HalLimits.small 0xFFFF) (fun s a => decide (s.Keeps 0xFFFF a))
      (start { World.ready with telemetryInitialized := true } : TelemetrySystem 1)
      raisedAndCleared = true := by
    decide +kernel
  have halong : Along (step HalLimits.small 0xFFFF) (Keeps 0xFFFF)
      (start { World.ready with telemetryInitialized := true } : TelemetrySystem 1)
      raisedAndCleared :=
    along_of_checked (P := fun _ => True) (fun _ _ _ _ _ => trivial)
      (fun _ _ _ h => of_decide_eq_true h) trivial hchecked
  exact ⟨t, hrun, htold, (alarms_told_iff HalLimits.small rfl raisedAndCleared).mpr halong _ _
    (List.prefix_refl _) hrun⟩

end TelemetrySystem

end EponManager.Telemetry
