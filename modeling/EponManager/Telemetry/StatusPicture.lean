import EponManager.Controller.InterfaceStatus
import EponManager.LastChange
import EponManager.Telemetry.AlarmTable

/-!
# The picture of the link that T2 gives

Each status event and each interface event that the controller's thread processes is followed by
messages for T2: the status of the ONU, the state of one interface, and whether any interface is up.
Someone who reads them keeps a picture of the link.

* `T2Call.statusReport` reads a message. `statusReport_message` is the round trip, for every raise:
  an interface whose name is too long for the text has no message.
* `Picture.apply` is what a reader does with a report, `World.picture` is what the manager itself
  would draw.
* `processEvent_says`: what an event does to the manager, and what the messages say of it.
* `status_told_iff` is the condition under which the two pictures are the same, over all runs.
-/

namespace EponManager.Telemetry

open Lib
open Lib.Prog (Ensures Keeps Respects)

/-! ### Reading a message -/

/-- What is said of the link. -/
inductive StatusReport where
  | onuStatus (status : OnuStatus)
  | link (name : CharBuf) (isUp : Bool)
  /-- whether some interface is up -/
  | phy (isUp : Bool)
  deriving DecidableEq, Repr

/-- The events that are said by a marker alone. -/
def markedStatuses : List (TelemetryEvent × StatusReport) :=
  [(.onuLos, .onuStatus .los),
    (.onuDownstreamSignalDetected, .onuStatus .downstreamSignalDetected),
    (.onuRegistration, .onuStatus .registration),
    (.onuDeregistration, .onuStatus .deregistration),
    (.phyStatusUp, .phy true), (.phyStatusDown, .phy false)]

/-- What an event without a text reports. -/
def markedStatus (id : TelemetryEvent) : Option StatusReport :=
  (markedStatuses.find? fun p => p.1 = id).map (·.2)

/-- What a marker alone reports. -/
def statusOfMarker (marker : String) : Option StatusReport :=
  (markedStatuses.find? fun p => (lookup p.1).map EventDesc.marker = some marker).map (·.2)

/-- What a marker with a name reports of the interface. -/
def linkOfMarker (marker : String) : Option Bool :=
  if marker = "EPON_INTF_LINK_UP" then some true
  else if marker = "EPON_INTF_LINK_DOWN" then some false
  else none

def readName (text : CharBuf) : Option CharBuf :=
  if "Interface=".toList.isPrefixOf text then some (text.drop 10) else none

/-- What a message reports of the link, if anything. -/
def T2Call.statusReport {ι : Type} : T2Call ι → Option StatusReport
  | .eventD _ marker      => statusOfMarker marker
  | .eventS _ marker text =>
      (linkOfMarker marker).bind fun isUp => (readName text).map (.link · isUp)
  | _                     => none

/-- The text with this name is short enough. -/
def NameFits (name : CharBuf) : Prop := ("Interface=".toList ++ name).length < 256

instance (name : CharBuf) : Decidable (NameFits name) := inferInstanceAs (Decidable (_ < _))

/-- What is said of an interface. -/
def linkReport (name : CharBuf) (isUp : Bool) : Option StatusReport :=
  if NameFits name then some (.link name isUp) else none

/-- What a raise reports of the link. -/
def statusOf (id : TelemetryEvent) (ifname : Option CharBuf) : Option StatusReport :=
  match id with
  | .intfLinkUp   => linkReport (ifname.elim "unknown".toList cstr) true
  | .intfLinkDown => linkReport (ifname.elim "unknown".toList cstr) false
  | id            => markedStatus id

/-! ### The markers -/

section Markers

variable {id : TelemetryEvent} {marker : String}

/-- A marker that comes alone reports what its event does. -/
theorem statusOfMarker_eq (h : lookup id = some ⟨marker, .none⟩) (ifname : Option CharBuf) :
    statusOfMarker marker = statusOf id ifname := by
  cases id with
  | intfLinkUp | intfLinkDown => cases h
  | alarmStd alarm | alarmVendor alarm =>
      obtain ⟨marker, -, hdesc⟩ := Option.map_eq_some_iff.mp h
      cases hdesc
  | _ =>
      cases h
      show _ = markedStatus _
      decide

/-- So does the marker of an interface. -/
theorem linkOfMarker_eq (h : lookup id = some ⟨marker, .intf⟩) :
    ∃ isUp, linkOfMarker marker = some isUp ∧
      ∀ ifname, statusOf id ifname = linkReport (ifname.elim "unknown".toList cstr) isUp := by
  cases id with
  | intfLinkUp =>
      cases h
      exact ⟨true, by decide, fun _ => rfl⟩
  | intfLinkDown =>
      cases h
      exact ⟨false, by decide, fun _ => rfl⟩
  | alarmStd alarm | alarmVendor alarm =>
      obtain ⟨marker, -, hdesc⟩ := Option.map_eq_some_iff.mp h
      cases hdesc
  | _ => cases h

/-- The marker of an alarm reports nothing of the link. -/
theorem markers_of_alarm (h : lookup id = some ⟨marker, .alarm⟩) :
    linkOfMarker marker = none ∧ statusOfMarker marker = none := by
  cases id with
  | alarmStd alarm =>
      cases alarm with
      | other code => cases h
      | _ =>
          cases h
          decide
  | alarmVendor alarm =>
      cases alarm with
      | other code => cases h
      | _ =>
          cases h
          decide
  | _ => cases h

/-- An alarm is mapped to the event of an alarm. -/
theorem isAlarm_of_mapAlarm {info : AlarmInfo} {alarm : TelemetryEvent}
    (h : mapAlarm info = some alarm) : isAlarm alarm = true := by
  obtain ⟨marker, hlookup, -⟩ := alarmOfMarker_of_mapAlarm h
  cases alarm with
  | alarmStd alarm | alarmVendor alarm => rfl
  | _ => cases hlookup

/-- An alarm says nothing of the status. -/
theorem statusOf_of_alarm (h : isAlarm id = true) (ifname : Option CharBuf) :
    statusOf id ifname = none := by
  cases id with
  | alarmStd alarm | alarmVendor alarm => rfl
  | _ => cases h

end Markers

/-! ### The round trip -/

section Message

variable (na : UInt16)

/-- The name is read back from its message. -/
theorem readName_text (name : CharBuf) : readName ("Interface=".toList ++ name) = some name := by
  have hprefix : "Interface=".toList.isPrefixOf ("Interface=".toList ++ name) :=
    List.isPrefixOf_iff_prefix.mpr (List.prefix_append _ _)
  rw [readName, if_pos hprefix]
  exact congrArg some (List.drop_left' rfl)

/-- The message about an interface. -/
theorem statusReport_intf {marker : String} {isUp : Bool} (ctx : Option Ctx)
    (hmarker : linkOfMarker marker = some isUp) :
    ((formatValue na ⟨marker, .intf⟩ ctx).map (t2Send () marker)).bind T2Call.statusReport =
      linkReport ((ctx.bind Ctx.ifname).elim "unknown".toList cstr) isUp := by
  rw [formatValue, linkReport]
  show ((if NameFits _ then _ else _ : Option CharBuf).map _).bind _ = _
  split_ifs with hfits
  · -- the text is not empty, whatever the name is
    show T2Call.statusReport (.eventS () marker ("Interface=".toList ++ _)) = _
    rw [T2Call.statusReport, hmarker, Option.bind_some, readName_text]
    rfl
  · rfl

/-- The message about an alarm. -/
theorem statusReport_alarm {marker : String} (ctx : Option Ctx)
    (hlink : linkOfMarker marker = none) (hstatus : statusOfMarker marker = none) :
    ((formatValue na ⟨marker, .alarm⟩ ctx).map (t2Send () marker)).bind T2Call.statusReport =
      none := by
  cases formatValue na ⟨marker, .alarm⟩ ctx with
  | none => rfl
  | some value =>
      rw [Option.map_some, Option.bind_some, t2Send]
      split
      · exact hstatus
      · rw [T2Call.statusReport, hlink]
        rfl

/-- The message of a raise reports of the link what the raise reports. -/
theorem statusReport_bind (raise : Raise) :
    (raise.message na).bind T2Call.statusReport =
      (raise.args na).bind fun p => statusOf p.1 (p.2.bind Ctx.ifname) := by
  cases hargs : raise.args na with
  | none =>
      rw [Raise.message, Raise.event, hargs]
      rfl
  | some args =>
      obtain ⟨id, ctx⟩ := args
      rw [Raise.message, Raise.event, hargs]
      show (((lookup id).map fun desc => (desc, ctx)).bind _).bind _ =
        statusOf id (ctx.bind Ctx.ifname)
      cases hlookup : lookup id with
      | none =>
          -- only an alarm can have no entry
          refine (statusOf_of_alarm ?_ _).symm
          cases id with
          | alarmStd alarm | alarmVendor alarm => rfl
          | _ => cases hlookup
      | some desc =>
          obtain ⟨marker, fmt⟩ := desc
          show ((formatValue na ⟨marker, fmt⟩ ctx).map _).bind _ = _
          cases fmt with
          | none => exact statusOfMarker_eq hlookup _
          | intf =>
              obtain ⟨isUp, hmarker, hreports⟩ := linkOfMarker_eq hlookup
              rw [hreports]
              exact statusReport_intf na ctx hmarker
          | alarm =>
              obtain ⟨hlink, hstatus⟩ := markers_of_alarm hlookup
              rw [statusOf_of_alarm]
              · exact statusReport_alarm na ctx hlink hstatus
              · cases id with
                | alarmStd alarm | alarmVendor alarm => rfl
                | _ => cases hlookup

/-- An interface whose name does not fit the text has no message. -/
theorem message_of_long_name {raise : Raise} {id : TelemetryEvent} {ctx : Option Ctx}
    (hargs : raise.args na = some (id, ctx)) (hid : id = .intfLinkUp ∨ id = .intfLinkDown)
    (hlong : ¬ NameFits ((ctx.bind Ctx.ifname).elim "unknown".toList cstr)) :
    raise.message na = none := by
  have hformat (marker : String) : formatValue na ⟨marker, .intf⟩ ctx = none := if_neg hlong
  rw [Raise.message, Raise.event, hargs]
  rcases hid with rfl | rfl
  · show (formatValue na ⟨_, .intf⟩ ctx).map _ = none
    rw [hformat]
    rfl
  · show (formatValue na ⟨_, .intf⟩ ctx).map _ = none
    rw [hformat]
    rfl

/-- **Round trip**: the message of a raise reports of the link what the raise reports, and a raise
for an interface whose name does not fit the text has no message. -/
theorem statusReport_message (raise : Raise) :
    ((raise.message na).bind T2Call.statusReport =
      (raise.args na).bind fun p => statusOf p.1 (p.2.bind Ctx.ifname)) ∧
    ∀ id ctx, raise.args na = some (id, ctx) → id = .intfLinkUp ∨ id = .intfLinkDown →
      ¬ NameFits ((ctx.bind Ctx.ifname).elim "unknown".toList cstr) → raise.message na = none :=
  ⟨statusReport_bind na raise, fun _ _ hargs hid hlong => message_of_long_name na hargs hid hlong⟩

/-! ### What an effect reports -/

/-- What an effect reports, while an event that is no alarm is processed. -/
def effectReport : Effect → Option StatusReport
  | .telemetry id ifname true => statusOf id ifname
  | _                         => none

/-- The message of an effect says what the effect reports. -/
theorem statusReport_messageOf {event : Event} (hevent : ∀ info, event ≠ .alarm info)
    (e : Effect) : (messageOf na event e).bind T2Call.statusReport = effectReport e := by
  cases e with
  | telemetry id ifname sent =>
      cases sent with
      | false => rfl
      | true =>
          cases event with
          | alarm info => exact absurd rfl (hevent info)
          | onuStatus status | interfaceStatus info =>
              cases ifname with
              | none => exact statusReport_bind na (.simple id)
              | some name => exact statusReport_bind na (.intf id (some name))
  | _ => rfl

end Message

/-! ### The pictures -/

structure Picture where
  onuStatus : OnuStatus
  phyIsUp : Bool
  /-- the interfaces, and which of them are up -/
  links : List (CharBuf × Bool)
  deriving DecidableEq, Repr

namespace Picture

/-- Before the first message. -/
def boot : Picture := ⟨.los, false, []⟩

def apply (p : Picture) : StatusReport → Picture
  | .onuStatus status => { p with onuStatus := status }
  | .link name isUp   => { p with links := upsert Prod.fst (name, isUp) p.links }
  | .phy isUp         => { p with phyIsUp := isUp }

end Picture

/-- The interfaces of a list, and which of them are up. -/
def linksOf (l : InterfaceList) : List (CharBuf × Bool) :=
  l.entries.map fun e => (e.key, decide (e.status = .linkUp))

/-- What the manager would draw. -/
def pictureOf (w : World) : Picture :=
  ⟨w.eponData.obj.onuState.currentStatus, w.interfaceList.hasAnyInterfaceUp,
    linksOf w.interfaceList⟩

/-- Whether some interface is up can be seen from the interfaces. -/
theorem hasAnyInterfaceUp_eq (l : InterfaceList) :
    l.hasAnyInterfaceUp = (linksOf l).any (·.2) := by
  rw [InterfaceList.hasAnyInterfaceUp, linksOf, List.any_map]
  rfl

section Update

variable {limits : HalLimits} {l : InterfaceList} {info : InterfaceInfo}

/-- There is a cell for the event. -/
def HasCell (limits : HalLimits) (l : InterfaceList) (info : InterfaceInfo) : Prop :=
  info.key ∈ l.entries.map InterfaceInfo.key ∨ l.interfaceCount < limits.maxInterfaces

instance (limits : HalLimits) (l : InterfaceList) (info : InterfaceInfo) :
    Decidable (HasCell limits l info) :=
  inferInstanceAs (Decidable (_ ∨ _))

/-- The interfaces are a table of the latest states. -/
theorem linksOf_update (hl : ∀ e ∈ l.entries, Terminated limits.interfaceNameLen e.name)
    (hinfo : Terminated limits.interfaceNameLen info.name) (hcell : HasCell limits l info) :
    linksOf (l.update limits info) =
      upsert Prod.fst (info.key, decide (info.status = .linkUp)) (linksOf l) := by
  rw [linksOf, InterfaceList.update_entries hl hinfo hcell]
  apply map_upsert_of_key
  intro e
  rfl

/-- A new interface does not fit in a full list. -/
theorem update_of_full (hl : ∀ e ∈ l.entries, Terminated limits.interfaceNameLen e.name)
    (hinfo : Terminated limits.interfaceNameLen info.name) (hfull : ¬ HasCell limits l info) :
    l.update limits info = l := by
  obtain ⟨hnew, hcount⟩ := not_or.mp hfull
  rw [InterfaceList.update]
  cases hfind : l.find limits info.name with
  | some i =>
      obtain ⟨hi, hmatch, -⟩ := InterfaceList.find_eq_some hfind
      have hmem := InterfaceList.mem_entries.mpr ⟨i, hi, rfl⟩
      have hkey := (strncmpEq_iff (hl _ hmem) hinfo).mp hmatch
      exact absurd (List.mem_map.mpr ⟨_, hmem, hkey⟩) hnew
  | none => exact if_neg hcount

theorem terminated_update (hl : ∀ e ∈ l.entries, Terminated limits.interfaceNameLen e.name)
    (hinfo : Terminated limits.interfaceNameLen info.name) :
    ∀ e ∈ (l.update limits info).entries, Terminated limits.interfaceNameLen e.name := by
  by_cases hcell : HasCell limits l info
  · rw [InterfaceList.update_entries hl hinfo hcell]
    exact forall_mem_upsert hinfo hl
  · rw [update_of_full hl hinfo hcell]
    exact hl

end Update

/-! ### What one event reports -/

/-- The reports that follow an event, in a manager with this list. -/
def reportsOfEvent (limits : HalLimits) (l : InterfaceList) : Event → List StatusReport
  | .onuStatus status     => ((Controller.statusEvent status).bind markedStatus).toList
  | .interfaceStatus info =>
      (linkReport info.key (info.status = .linkUp)).toList ++
        [.phy (l.update limits info).hasAnyInterfaceUp]
  | .alarm _              => []

/-- The status after an event. -/
def statusThen (status : OnuStatus) : Event → OnuStatus
  | .onuStatus new => new
  | _              => status

/-- The interface list after an event. -/
def listThen (limits : HalLimits) (l : InterfaceList) : Event → InterfaceList
  | .interfaceStatus info => l.update limits info
  | _                     => l

/-- Telemetry is initialised; the status, the interface list, and what has been said. -/
structure Said (status : OnuStatus) (l : InterfaceList) (reports : List StatusReport) (w : World) :
    Prop where
  ready : w.telemetryInitialized = true
  status : w.eponData.obj.onuState.currentStatus = status
  list : w.interfaceList = l
  reports : w.trace.filterMap effectReport = reports

section Said

variable {status : OnuStatus} {l : InterfaceList} {reports : List StatusReport} {α : Type}

/-- What reports nothing of the link and leaves the data context alone. -/
theorem said_frame {f : M α} (hf : Respects (Outside fun e => effectReport e = none) f) :
    Ensures (Said status l reports) f (fun _ => Said status l reports) := by
  refine hf.ensures fun w w' hout hw => ?_
  obtain ⟨es, htrace, hes⟩ := hout.trace
  refine ⟨hout.telemetryInitialized.trans hw.ready, ?_, ?_, ?_⟩
  · rw [hout.eponData]
    exact hw.status
  · rw [World.interfaceList, hout.eponData]
    exact hw.list
  · rw [htrace, List.filterMap_append, List.filterMap_eq_nil_iff.mpr hes, List.append_nil]
    exact hw.reports

theorem said_dispatch (id : TelemetryEvent) (ifname : Option CharBuf) :
    Ensures (Said status l reports) (dispatch id ifname)
      (fun _ => Said status l (reports ++ (statusOf id ifname).toList)) := by
  refine Ensures.lock.bind fun _ => Ensures.bind
    (Q := fun sent w => sent = true ∧ Said status l reports w)
    (Ensures.read fun w hw => ⟨hw.ready, hw⟩) fun sent => Ensures.unlock.bind fun _ => ?_
  refine Ensures.write fun w hw => ⟨hw.2.ready, hw.2.status, hw.2.list, ?_⟩
  rw [hw.1]
  show (w.trace ++ [_]).filterMap effectReport = _
  rw [List.filterMap_append, hw.2.reports]
  show reports ++ [_].filterMap _ = reports ++ (effectReport (.telemetry id ifname true)).toList
  cases hreport : effectReport (.telemetry id ifname true) with
  | none => simp [hreport]
  | some report => simp [hreport]

/-- A report of a failure says nothing of the status. -/
theorem reportFailure_said (rc : Int) :
    Ensures (Said status l reports) (Controller.reportFailure rc)
      (fun _ => Said status l reports) := by
  refine said_frame (Controller.reportFailure_outside (fun sent => ?_) rc)
  cases sent with
  | false => rfl
  | true => rfl

/-! ### The events -/

/-- **An interface event** reports the state of its interface, if its name is short enough, and then
whether any interface of the updated list is up. -/
theorem processInterfaceStatusEvent_said (limits : HalLimits) (info : InterfaceInfo) :
    Ensures (Said status l reports) (Controller.processInterfaceStatusEvent limits info)
      (fun _ => Said status (l.update limits info)
        (reports ++ reportsOfEvent limits l (.interfaceStatus info))) := by
  -- the event in its order: the list, the interface, the PHY, the rows
  have hstore : Ensures (Said status l reports) (Controller.storeInterface limits info)
      (fun _ => Said status (l.update limits info) reports) := by
    unfold Controller.storeInterface modifyData
    refine Ensures.write fun w hw => ⟨hw.ready, hw.status, ?_, hw.reports⟩
    show w.interfaceList.update limits info = _
    rw [hw.list]
  have hlink : Ensures (Said status (l.update limits info) reports)
      (Controller.announceInterface info) (fun _ => Said status (l.update limits info)
        (reports ++ (linkReport info.key (info.status = .linkUp)).toList)) := by
    have hupdate : Respects (Outside fun e => effectReport e = none)
        (WanManager.updateVirtualInterface info.name (info.status = .linkUp)) :=
      WanManager.updateVirtualInterface_outside _ fun _ _ _ => rfl
    refine (said_frame hupdate).bind fun rc => (reportFailure_said rc).bind fun _ => ?_
    by_cases hup : info.status = .linkUp
    · rw [if_pos hup, decide_eq_true hup]
      exact said_dispatch .intfLinkUp (some info.name)
    · rw [if_neg hup, decide_eq_false hup]
      exact said_dispatch .intfLinkDown (some info.name)
  have hphy (phyIsUp : Bool) {reports : List StatusReport} :
      Ensures (Said status (l.update limits info) reports) (Controller.announcePhy phyIsUp)
        (fun _ => Said status (l.update limits info) (reports ++ [.phy phyIsUp])) := by
    have hnotify : Respects (Outside fun e => effectReport e = none)
        (WanManager.notifyPhyStatus phyIsUp) :=
      WanManager.notifyPhyStatus_outside (E := fun e => effectReport e = none) rfl fun _ _ => rfl
    refine (said_frame hnotify).bind fun rc => (reportFailure_said rc).bind fun _ => ?_
    cases phyIsUp with
    | true => exact said_dispatch .phyStatusUp none
    | false => exact said_dispatch .phyStatusDown none
  have hsync {reports : List StatusReport} :
      Ensures (Said status (l.update limits info) reports) Controller.syncIfCountChanged
        (fun _ => Said status (l.update limits info) reports) := by
    refine Ensures.bind (Ensures.read fun _ hw => hw) fun _ => Ensures.ite (fun _ => ?_)
      (fun _ => Ensures.pure fun _ hw => hw)
    exact (said_frame (Tr181.syncVeipTable_outside fun _ _ => rfl)).bind fun rc =>
      (reportFailure_said rc).bind fun _ =>
      Ensures.write fun w hw => ⟨hw.ready, hw.status, hw.list, hw.reports⟩
  refine hstore.bind fun _ => hlink.bind fun _ => Ensures.bind
    (Q := fun phyIsUp w => phyIsUp = (l.update limits info).hasAnyInterfaceUp ∧
      Said status (l.update limits info)
        (reports ++ (linkReport info.key (info.status = .linkUp)).toList) w)
    (Ensures.read fun w hw => ⟨?_, hw⟩) fun phyIsUp => Ensures.of_and fun hup => ?_
  · show w.interfaceList.hasAnyInterfaceUp = _
    rw [hw.list]
  · rw [reportsOfEvent, ← List.append_assoc reports, ← hup]
    exact (hphy phyIsUp).bind fun _ => hsync

end Said

/-- The messages of an event that is no alarm report what its effects do. -/
theorem reports_of_messages (na : UInt16) {event : Event} (hevent : ∀ info, event ≠ .alarm info)
    (es : List Effect) :
    (es.filterMap (messageOf na event)).filterMap T2Call.statusReport =
      es.filterMap effectReport := by
  rw [List.filterMap_filterMap]
  congr 1
  funext e
  exact statusReport_messageOf na hevent e

/-- **What an event does** to the manager, and what its messages report. -/
theorem processEvent_said (na : UInt16) {limits : HalLimits} {event : Event} {env : Env}
    {w w' : World} (hready : w.telemetryInitialized = true)
    (h : Prog.alone (Controller.processEvent limits event) env w = some ((), w')) :
    w'.telemetryInitialized = true ∧
      w'.eponData.obj.onuState.currentStatus =
        statusThen w.eponData.obj.onuState.currentStatus event ∧
      w'.interfaceList = listThen limits w.interfaceList event ∧
      ∃ new, w'.trace = w.trace ++ new ∧
        (new.filterMap (messageOf na event)).filterMap T2Call.statusReport =
          reportsOfEvent limits w.interfaceList event := by
  cases event with
  | onuStatus status =>
      have hrun := (StatusEvent.processOnuStatusEvent_alone status).symm.trans h
      cases hrun
      refine ⟨hready, rfl, rfl, _, rfl, ?_⟩
      rw [reports_of_messages na (fun _ hne => Event.noConfusion hne), hready]
      cases status with
      | other code => rfl
      | _ => rfl
  | interfaceStatus info =>
      have hsaid := (processInterfaceStatusEvent_said limits info).alone
        ⟨hready, rfl, rfl, rfl⟩ h
      obtain ⟨new, htrace, -⟩ := ((processInterfaceStatusEvent_adds limits info).alone h).trace
      have hreports := hsaid.reports
      rw [htrace, List.filterMap_append] at hreports
      refine ⟨hsaid.ready, hsaid.status, hsaid.list, new, htrace, ?_⟩
      rw [reports_of_messages na (fun _ hne => Event.noConfusion hne)]
      exact List.append_cancel_left hreports
  | alarm info =>
      have hout := (raiseAlarm_outside (R := Outside fun _ => True) (fun _ _ => trivial)
        info).alone h
      refine ⟨hout.telemetryInitialized.trans hready, ?_, ?_, ?_⟩
      · rw [hout.eponData]
        rfl
      · rw [World.interfaceList, hout.eponData]
        rfl
      · have hrun : Prog.alone (raiseAlarm info) env w = some ((), w') := h
        rw [raiseAlarm] at hrun
        cases hmap : mapAlarm info with
        | none =>
            rw [hmap] at hrun
            cases hrun
            exact ⟨[], (List.append_nil _).symm, rfl⟩
        | some alarm =>
            rw [hmap] at hrun
            obtain ⟨-, htrace⟩ := (dispatch_trace alarm none true w.trace).alone ⟨hready, rfl⟩ hrun
            refine ⟨_, htrace, ?_⟩
            -- the message of an alarm is not read as a status
            have hsilent : statusOf alarm none = none :=
              statusOf_of_alarm (isAlarm_of_mapAlarm hmap) none
            have hread := statusReport_bind na (.alarm (some info))
            rw [Raise.args, hmap] at hread
            show ((Raise.alarm (some info)).message na).toList.filterMap _ = []
            cases hmessage : (Raise.alarm (some info)).message na with
            | none => rfl
            | some message =>
                rw [hmessage] at hread
                have hnone : message.statusReport = none := hread.trans hsilent
                exact List.filterMap_cons_none hnone

/-- **A refresh** takes the HAL's list. -/
theorem getInterfaceList_said {env : Env} {found : Bool} {w w' : World}
    (hready : w.telemetryInitialized = true)
    (h : Prog.alone Data.getInterfaceList env w = some (found, w')) :
    w'.telemetryInitialized = true ∧
      w'.eponData.obj.onuState.currentStatus = w.eponData.obj.onuState.currentStatus ∧
      w'.interfaceList = (env.halGetInterfaceList w.tick w.interfaceList).2 := by
  let status := w.eponData.obj.onuState.currentStatus
  let l := (env.halGetInterfaceList w.tick w.interfaceList).2
  let reports := w.trace.filterMap effectReport
  have hdone {found : Bool} : Ensures (Said status l reports) (do
      Prog.unlock .data
      return found : M Bool) (fun _ => Said status l reports) :=
    Ensures.unlock.bind fun _ => Ensures.pure fun _ hw => hw
  have hall : Ensures (fun v => v = w) (Prog.within env Data.getInterfaceList)
      (fun _ => Said status l reports) := by
    refine (Ensures.lock.within env).within_bind fun _ =>
      ((Ensures.read (Q := fun before v => before = w.interfaceList ∧ v = w)
        fun v hv => ⟨by rw [hv]; rfl, hv⟩).within env).within_bind fun before =>
      Ensures.of_and fun hbefore => Ensures.within_bind
        (Q := fun answer v => answer.2 = l ∧ Said status w.interfaceList reports v)
        (Ensures.within_call fun v hv => ?_) fun answer => Ensures.of_and fun hl => ?_
    · -- what the HAL answers is known in this environment; the rest holds in any
      rw [hv, hbefore]
      exact ⟨rfl, hready, rfl, rfl, rfl⟩
    refine Ensures.within ?_ env
    refine Ensures.bind (Q := fun _ => Said status l reports)
      (Ensures.write fun v hv => ⟨hv.ready, hv.status, hl, hv.reports⟩) fun _ => ?_
    refine (said_frame (emit_outside (E := fun e => effectReport e = none) rfl)).bind fun _ =>
      Ensures.ite (fun _ => ?_) (fun _ => hdone)
    refine Ensures.bind (Ensures.read fun _ hv => hv) fun _ => Ensures.ite (fun _ => ?_)
      (fun _ => hdone)
    refine Ensures.bind (Q := fun _ => Said status l reports)
      (Ensures.write fun v hv => ⟨hv.ready, hv.status, hv.list, hv.reports⟩) fun _ =>
      Ensures.unlock.bind fun _ => ?_
    exact (said_frame (Tr181.syncVeipTable_outside fun _ _ => rfl)).bind fun _ =>
      Ensures.pure fun _ hv => hv
  have hsaid := hall.alone_within rfl h
  exact ⟨hsaid.ready, hsaid.status, hsaid.list⟩

/-! ### The two pictures after one event -/

/-- **The condition on an event**: a status has a marker, and the name of an interface is short
enough exactly if there is a cell for it. -/
def EventTold (limits : HalLimits) (l : InterfaceList) : Event → Prop
  | .onuStatus status     => (Controller.statusEvent status).isSome
  | .interfaceStatus info => NameFits info.key ↔ HasCell limits l info
  | .alarm _              => True

instance (limits : HalLimits) (l : InterfaceList) (event : Event) :
    Decidable (EventTold limits l event) :=
  match event with
  | .onuStatus status     => inferInstanceAs (Decidable ((Controller.statusEvent status).isSome))
  | .interfaceStatus info => inferInstanceAs (Decidable (NameFits info.key ↔ HasCell limits l info))
  | .alarm _              => inferInstanceAs (Decidable True)

/-- A picture that messages can give. -/
structure Sayable (p : Picture) : Prop where
  named : (Controller.statusEvent p.onuStatus).isSome
  fits : ∀ link ∈ p.links, NameFits link.1

/-! ### Pictures that can be said -/

theorem sayable_boot : Sayable Picture.boot := ⟨rfl, fun _ h => absurd h List.not_mem_nil⟩

/-- The events that mark a status mark the one they are raised for. -/
theorem statusEvent_marked {status : OnuStatus} (h : (Controller.statusEvent status).isSome) :
    (Controller.statusEvent status).bind markedStatus = some (.onuStatus status) := by
  cases status with
  | other code => cases h
  | _ => rfl

section Event

variable {limits : HalLimits} {l : InterfaceList} {p : Picture}

/-- The picture after the messages of an event. -/
def Picture.after (limits : HalLimits) (l : InterfaceList) (event : Event) (p : Picture) :
    Picture :=
  (reportsOfEvent limits l event).foldl Picture.apply p

theorem after_named {status : OnuStatus} (h : (Controller.statusEvent status).isSome) :
    p.after limits l (.onuStatus status) = { p with onuStatus := status } := by
  rw [Picture.after, reportsOfEvent, statusEvent_marked h]
  rfl

theorem after_unnamed {status : OnuStatus} (h : ¬ (Controller.statusEvent status).isSome) :
    p.after limits l (.onuStatus status) = p := by
  rw [Picture.after, reportsOfEvent, Option.not_isSome_iff_eq_none.mp h]
  rfl

/-- An interface whose name fits into a message is seen. -/
theorem after_fits {info : InterfaceInfo} (h : NameFits info.key) :
    p.after limits l (.interfaceStatus info) =
      ⟨p.onuStatus, (l.update limits info).hasAnyInterfaceUp,
        upsert Prod.fst (info.key, decide (info.status = .linkUp)) p.links⟩ := by
  rw [Picture.after, reportsOfEvent, linkReport, if_pos h]
  rfl

/-- One whose name does not fit changes the PHY at most. -/
theorem after_not_fits {info : InterfaceInfo} (h : ¬ NameFits info.key) :
    p.after limits l (.interfaceStatus info) =
      ⟨p.onuStatus, (l.update limits info).hasAnyInterfaceUp, p.links⟩ := by
  rw [Picture.after, reportsOfEvent, linkReport, if_neg h]
  rfl

theorem Sayable.after (hp : Sayable p) (event : Event) : Sayable (p.after limits l event) := by
  cases event with
  | onuStatus status =>
      by_cases hnamed : (Controller.statusEvent status).isSome
      · rw [after_named hnamed]
        exact ⟨hnamed, hp.fits⟩
      · rw [after_unnamed hnamed]
        exact hp
  | interfaceStatus info =>
      by_cases hfits : NameFits info.key
      · rw [after_fits hfits]
        refine ⟨hp.named, ?_⟩
        apply forall_mem_upsert
        · exact hfits
        · exact hp.fits
      · rw [after_not_fits hfits]
        exact ⟨hp.named, hp.fits⟩
  | alarm info => exact hp

/-- The name of an interface is the one of a link. -/
theorem key_mem_of_link {name : CharBuf} {isUp : Bool} (h : (name, isUp) ∈ linksOf l) :
    name ∈ l.entries.map InterfaceInfo.key := by
  obtain ⟨e, he, hlink⟩ := List.mem_map.mp h
  cases hlink
  exact List.mem_map_of_mem he

/-! ### When the picture is right again -/

/-- **After an event the pictures are the same** exactly if it meets the condition. -/
theorem after_eq_iff {status : OnuStatus} (event : Event) (hp : Sayable p)
    (hstatus : p.onuStatus = status) (hphy : p.phyIsUp = l.hasAnyInterfaceUp)
    (hlinks : p.links = linksOf l)
    (hl : ∀ e ∈ l.entries, Terminated limits.interfaceNameLen e.name)
    (hevent : ∀ info, event = .interfaceStatus info →
      Terminated limits.interfaceNameLen info.name) :
    p.after limits l event = ⟨statusThen status event, (listThen limits l event).hasAnyInterfaceUp,
      linksOf (listThen limits l event)⟩ ↔ EventTold limits l event := by
  have hp_eq : p = ⟨status, l.hasAnyInterfaceUp, linksOf l⟩ := by
    rw [← hstatus, ← hphy, ← hlinks]
  cases event with
  | alarm info => exact iff_of_true hp_eq trivial
  | onuStatus new =>
      by_cases hnamed : (Controller.statusEvent new).isSome
      · refine iff_of_true ?_ hnamed
        rw [after_named hnamed, hp_eq]
        rfl
      · refine iff_of_false (fun h => ?_) hnamed
        rw [after_unnamed hnamed] at h
        have hsame : p.onuStatus = new := congrArg Picture.onuStatus h
        apply hnamed
        rw [← hsame]
        exact hp.named
  | interfaceStatus info =>
      have hinfo := hevent info rfl
      show _ = (⟨status, (l.update limits info).hasAnyInterfaceUp,
        linksOf (l.update limits info)⟩ : Picture) ↔ (NameFits info.key ↔ HasCell limits l info)
      by_cases hfits : NameFits info.key
      · rw [after_fits hfits, hstatus, iff_true_left hfits, Picture.mk.injEq, hlinks]
        constructor
        · rintro ⟨-, -, h⟩
          -- otherwise the list stays, and the interface is in it
          by_contra hfull
          rw [update_of_full hl hinfo hfull] at h
          have hmem : (info.key, decide (info.status = .linkUp)) ∈
              upsert Prod.fst (info.key, decide (info.status = .linkUp)) (linksOf l) :=
            mem_upsert_self _ _
          rw [h] at hmem
          exact hfull (.inl (key_mem_of_link hmem))
        · intro hcell
          exact ⟨rfl, rfl, (linksOf_update hl hinfo hcell).symm⟩
      · rw [after_not_fits hfits, hstatus, iff_false_left hfits, Picture.mk.injEq, hlinks]
        constructor
        · rintro ⟨-, -, h⟩ hcell
          -- otherwise the new interface is among those that were said
          rw [linksOf_update hl hinfo hcell] at h
          have hmem : (info.key, decide (info.status = .linkUp)) ∈
              upsert Prod.fst (info.key, decide (info.status = .linkUp)) (linksOf l) :=
            mem_upsert_self _ _
          rw [← h, ← hlinks] at hmem
          exact hfits (hp.fits _ hmem)
        · intro hfull
          rw [update_of_full hl hinfo hfull]
          exact ⟨rfl, rfl, rfl⟩

end Event

/-! ### The start -/

section Start

open Controller

instance : ReportsRows (fun w w' => pictureOf w' = pictureOf w) (fun _ => True) :=
  ReportsRows.of_view (fun _ => rfl) (fun _ _ => rfl) (fun _ _ => rfl) (fun _ _ => rfl)

theorem boot_ensures {α : Type} {f : M α} (hf : Keeps pictureOf f) :
    Ensures (fun w => pictureOf w = Picture.boot) f (fun _ w => pictureOf w = Picture.boot) := by
  apply hf.ensures
  intro w w' hsame hw
  exact Eq.trans hsame hw

/-- The data context begins without an interface. -/
theorem initData_boot :
    Ensures (fun _ => True) initData (fun ok w => ok = true → pictureOf w = Picture.boot) := by
  refine Ensures.of_within fun env => initData_rule (A := fun _ => True)
    (R := fun _ => True) (S := fun _ => True) (L := fun _ _ => True) (C := fun _ _ => True)
    (fun _ _ => trivial) (ensures_regardless ensures_trivial)
    (fun _ _ => trivial) ensures_trivial (fun _ _ _ => trivial) (fun _ _ _ => trivial) ?_
  intro config w _
  rfl

/-- **A successful start-up** leaves the manager with the picture that a reader begins with. -/
theorem init_boot (limits : HalLimits) :
    Ensures (fun _ => True) (Controller.init limits)
      (fun ok w => ok = true → pictureOf w = Picture.boot) := by
  apply Ensures.of_within
  intro env
  have hflags : Keeps pictureOf Data.halInit := by
    apply halInit_respects
    · intro w
      rfl
    · intro w
      rfl
  have hhal : Keeps pictureOf (initHal limits) :=
    initHal_respects (fun _ _ => trivial) hflags limits
  have hrows : Keeps pictureOf Rbus.registerTr181 := registerTr181_outside fun _ _ _ => trivial
  refine init_rule (B := fun w => pictureOf w = Picture.boot)
    (C := fun w => pictureOf w = Picture.boot)
    (initData_boot.within env) ((boot_ensures hhal).within env) (fun config => ?_) ?_ ?_
  · have h := boot_ensures (pollerInit_respects (fun _ _ => rfl)
      config.statsPollerEnabled config.statsPollerIntervalSeconds)
    exact (ensures_regardless (h.conseq (fun _ hw => hw.2) fun _ _ hw => hw)).within env
  · exact (ensures_regardless (boot_ensures hrows)).within env
  · intro w hw
    exact hw

end Start

/-! ### All runs -/

/-- The names that the HAL gives are terminated. -/
def TelemetryAction.Terminates (limits : HalLimits) : TelemetryAction → Prop
  | .callback event => ∀ info, event = .interfaceStatus info →
      Terminated limits.interfaceNameLen info.name
  | .process _      => True
  | .refresh env    => ∀ n before,
      (∀ e ∈ before.entries, Terminated limits.interfaceNameLen e.name) →
      ∀ e ∈ (env.halGetInterfaceList n before).2.entries,
        Terminated limits.interfaceNameLen e.name

namespace TelemetrySystem

variable {cap : Nat} (limits : HalLimits) {na : UInt16}

/-- The picture that the messages give. -/
def picture (s : TelemetrySystem cap) : Picture :=
  (s.stream.filterMap T2Call.statusReport).foldl Picture.apply Picture.boot

/-- **The condition on a step.** The event that is processed meets its condition, and a refresh
brings no news. -/
def Tells (s : TelemetrySystem cap) : TelemetryAction → Prop
  | .callback _  => True
  | .process _   => ∀ event ∈ s.queue.contents.head?,
      EventTold limits s.manager.interfaceList event
  | .refresh env =>
      linksOf (env.halGetInterfaceList s.manager.tick s.manager.interfaceList).2 =
        linksOf s.manager.interfaceList

instance (s : TelemetrySystem cap) (a : TelemetryAction) : Decidable (s.Tells limits a) :=
  match a with
  | .callback _  => inferInstanceAs (Decidable True)
  | .process _   => inferInstanceAs (Decidable (∀ event ∈ s.queue.contents.head?,
      EventTold limits s.manager.interfaceList event))
  | .refresh env => inferInstanceAs (Decidable
      (linksOf (env.halGetInterfaceList s.manager.tick s.manager.interfaceList).2 =
        linksOf s.manager.interfaceList))

/-- What holds between the steps, whether or not the pictures are the same. -/
structure Telling (s : TelemetrySystem cap) : Prop where
  ready : s.manager.telemetryInitialized = true
  initialised : Initialised s.manager
  sayable : Sayable s.picture
  list : ∀ e ∈ s.manager.interfaceList.entries, Terminated limits.interfaceNameLen e.name
  queue : ∀ info, Event.interfaceStatus info ∈ s.queue.contents →
    Terminated limits.interfaceNameLen info.name

variable {limits} {s t : TelemetrySystem cap}

/-! ### The steps -/

/-- A callback changes nothing that a picture shows. -/
theorem step_callback (limits : HalLimits) (na : UInt16) (s : TelemetrySystem cap)
    (event : Event) :
    ∃ t, step limits na s (.callback event) = some t ∧ t.manager = s.manager ∧
      t.picture = s.picture ∧
      (t.queue.contents = s.queue.contents ++ [event] ∨ t.queue.contents = s.queue.contents) := by
  rcases Nat.lt_or_eq_of_le s.queue.bounded with hroom | hfull
  · have hpush : s.queue.push event =
        (.push true, ⟨s.queue.contents ++ [event], BoundedFifo.length_push_le hroom event⟩) :=
      dif_pos hroom
    refine ⟨{ s with
      queue := ⟨s.queue.contents ++ [event], BoundedFifo.length_push_le hroom event⟩
      called := s.called ++ [event] }, ?_, rfl, rfl, .inl rfl⟩
    rw [step, hpush]
  · have hpush : s.queue.push event = (.push false, s.queue) := dif_neg (by omega)
    refine ⟨{ s.raise na (.simple .errorEventQueueFull) with called := s.called ++ [event] },
      ?_, ?_, ?_, ?_⟩
    · rw [step, hpush]
    · rw [raise]
      split <;> rfl
    · -- the message about the full queue is not about the link
      rw [raise]
      split
      · show ((s.stream ++ _).filterMap _).foldl _ _ = _
        rw [List.filterMap_append]
        exact congrArg (fun reports => List.foldl Picture.apply Picture.boot reports)
          (List.append_nil _)
      · rfl
    · rw [raise]
      split
      · exact .inr rfl
      · exact .inr rfl

/-- The loop has no turn while nothing is queued. -/
theorem step_process_empty {env : Env} (hqueue : s.queue.contents = []) :
    step limits na s (.process env) = none := by
  rw [step, BoundedFifo.pop_of_empty hqueue]

/-- The oldest event is processed. -/
theorem step_process_event (na : UInt16) (env : Env) {event : Event} {rest : List Event}
    (hs : s.Telling limits) (hqueue : s.queue.contents = event :: rest) :
    ∃ t, step limits na s (.process env) = some t ∧ t.queue.contents = rest ∧
      t.manager.telemetryInitialized = true ∧ Initialised t.manager ∧
      t.picture = s.picture.after limits s.manager.interfaceList event ∧
      t.manager.eponData.obj.onuState.currentStatus =
        statusThen s.manager.eponData.obj.onuState.currentStatus event ∧
      t.manager.interfaceList = listThen limits s.manager.interfaceList event := by
  obtain ⟨queue, hpop, hrest⟩ := BoundedFifo.pop_of_contents hqueue
  obtain ⟨⟨⟩, manager, hrun, hinit, -⟩ := (Controller.processEvent_moves (h := fun _ => 0)
    (fun _ _ => rfl) limits event).alone hs.initialised env
  obtain ⟨hready, hstatus, hlist, new, htrace, hreports⟩ := processEvent_said na hs.ready hrun
  refine ⟨{ s with
    queue
    manager
    stream := s.stream ++
      (manager.trace.drop s.manager.trace.length).filterMap (messageOf na event) },
    ?_, hrest, hready, hinit, ?_, hstatus, hlist⟩
  · rw [step, hpop]
    show (Prog.alone (Controller.processEvent limits event) env s.manager).map _ = _
    rw [hrun]
    rfl
  · show ((s.stream ++ (manager.trace.drop _).filterMap _).filterMap _).foldl _ _ = _
    rw [htrace, List.drop_left, List.filterMap_append, hreports, List.foldl_append]
    rfl

/-- The interface list is refreshed. -/
theorem step_refresh_list (na : UInt16) (env : Env) (hs : s.Telling limits) :
    ∃ t, step limits na s (.refresh env) = some t ∧ t.queue = s.queue ∧
      t.manager.telemetryInitialized = true ∧ Initialised t.manager ∧ t.picture = s.picture ∧
      t.manager.eponData.obj.onuState.currentStatus =
        s.manager.eponData.obj.onuState.currentStatus ∧
      t.manager.interfaceList =
        (env.halGetInterfaceList s.manager.tick s.manager.interfaceList).2 := by
  obtain ⟨found, manager, hrun, hinit, -⟩ :=
    (Data.getInterfaceList_moves (h := fun _ => 0)).alone hs.initialised env
  obtain ⟨hready, hstatus, hlist⟩ := getInterfaceList_said hs.ready hrun
  refine ⟨{ s with manager }, ?_, rfl, hready, hinit, rfl, hstatus, hlist⟩
  rw [step, hrun]
  rfl

/-- The two pictures are the same. -/
def Pictured (s : TelemetrySystem cap) : Prop := s.picture = pictureOf s.manager

/-! ### The invariant and the condition -/

/-- **Step lemma for the condition.** -/
theorem Telling.pictured_iff (hs : s.Telling limits) (hpictured : s.Pictured)
    (a : TelemetryAction) :
    (∀ t, step limits na s a = some t → t.Pictured) ↔ s.Tells limits a := by
  cases a with
  | callback event =>
      obtain ⟨t, ht, hmanager, hpicture, -⟩ := step_callback limits na s event
      refine iff_of_true (fun t' ht' => ?_) trivial
      rw [ht] at ht'
      cases ht'
      rw [Pictured, hpicture, hmanager]
      exact hpictured
  | process env =>
      cases hqueue : s.queue.contents with
      | nil =>
          refine iff_of_true (fun t ht => ?_) fun event hevent => ?_
          · rw [step_process_empty hqueue] at ht
            cases ht
          · rw [hqueue] at hevent
            cases hevent
      | cons event rest =>
          obtain ⟨t, ht, -, -, -, hpicture, hstatus, hlist⟩ :=
            step_process_event na env hs hqueue
          have hiff := after_eq_iff event hs.sayable
            (congrArg Picture.onuStatus hpictured) (congrArg Picture.phyIsUp hpictured)
            (congrArg Picture.links hpictured) hs.list fun info hinfo => hs.queue info <| by
              rw [hqueue, hinfo]
              exact List.mem_cons_self
          -- only the event at the front of the queue counts
          have htells : s.Tells limits (.process env) ↔
              EventTold limits s.manager.interfaceList event := by
            show (∀ event ∈ s.queue.contents.head?, _) ↔ _
            rw [hqueue]
            exact ⟨fun h => h event rfl, fun h event' hevent' => by
              cases hevent'
              exact h⟩
          rw [htells, ← hiff]
          constructor
          · intro h
            have ht' := h t ht
            rw [Pictured, hpicture, pictureOf, hstatus, hlist] at ht'
            exact ht'
          · intro h t' ht'
            rw [ht] at ht'
            cases ht'
            rw [Pictured, hpicture, pictureOf, hstatus, hlist]
            exact h
  | refresh env =>
      obtain ⟨t, ht, -, -, -, hpicture, hstatus, hlist⟩ :=
        step_refresh_list na env hs
      -- a refresh reports nothing, so the picture must agree already
      have hpictured_iff : t.Pictured ↔ s.Tells limits (.refresh env) := by
        have hs_eq : s.picture = pictureOf s.manager := hpictured
        rw [Pictured, hpicture, hs_eq, pictureOf, pictureOf, hstatus, hlist, hasAnyInterfaceUp_eq,
          hasAnyInterfaceUp_eq, Picture.mk.injEq]
        constructor
        · rintro ⟨-, -, hlinks⟩
          exact hlinks.symm
        · intro hlinks
          rw [Tells] at hlinks
          rw [hlinks]
          exact ⟨rfl, rfl, rfl⟩
      rw [← hpictured_iff]
      constructor
      · exact fun h => h t ht
      · intro h t' ht'
        rw [ht] at ht'
        cases ht'
        exact h

/-- **Step lemma.** -/
theorem Telling.step {a : TelemetryAction} (hs : s.Telling limits) (ha : a.Terminates limits)
    (h : step limits na s a = some t) : t.Telling limits := by
  cases a with
  | callback event =>
      obtain ⟨t', ht, hmanager, hpicture, hqueue⟩ :=
        step_callback limits na s event
      rw [ht] at h
      cases h
      refine ⟨?_, ?_, ?_, ?_, fun info hinfo => ?_⟩
      · rw [hmanager]
        exact hs.ready
      · rw [hmanager]
        exact hs.initialised
      · rw [hpicture]
        exact hs.sayable
      · rw [hmanager]
        exact hs.list
      · -- hqueue
        rcases hqueue with hqueue | hqueue
        · rw [hqueue, List.mem_append, List.mem_singleton] at hinfo
          rcases hinfo with hinfo | hinfo
          · exact hs.queue info hinfo
          · exact ha info hinfo.symm
        · rw [hqueue] at hinfo
          exact hs.queue info hinfo
  | process env =>
      cases hqueue : s.queue.contents with
      | nil =>
          rw [step_process_empty hqueue] at h
          cases h
      | cons event rest =>
          obtain ⟨t', ht, hrest, hready, hinit, hpicture, -, hlist⟩ :=
            step_process_event na env hs hqueue
          rw [ht] at h
          cases h
          refine ⟨hready, hinit, ?_, ?_, fun info hinfo => hs.queue info ?_⟩
          · rw [hpicture]
            exact hs.sayable.after event
          · rw [hlist]
            cases event with
            | interfaceStatus info =>
                apply terminated_update hs.list
                apply hs.queue
                rw [hqueue]
                exact List.mem_cons_self
            | onuStatus status => exact hs.list
            | alarm info => exact hs.list
          · rw [hrest] at hinfo
            rw [hqueue]
            exact List.mem_cons_of_mem _ hinfo
  | refresh env =>
      obtain ⟨t', ht, hqueue, hready, hinit, hpicture, -, hlist⟩ :=
        step_refresh_list na env hs
      rw [ht] at h
      cases h
      refine ⟨hready, hinit, ?_, ?_, ?_⟩
      · rw [hpicture]
        exact hs.sayable
      · rw [hlist]
        exact ha _ _ hs.list
      · rw [hqueue]
        exact hs.queue

/-! ### The result -/

/-- **When T2 has the right picture**: in every run of callbacks, processed events and refreshes of
a manager that starts with telemetry initialised and no interface, the messages give the manager's
own picture of the link in every state that the run gets to, if and only if every status that is
processed has a marker, the name of every interface is short enough exactly if there is a cell for
it, and no refresh brings news. -/
theorem status_told_iff {w : World} (hready : w.telemetryInitialized = true)
    (hinit : Initialised w) (hboot : pictureOf w = Picture.boot) (as : List TelemetryAction)
    (has : ∀ a ∈ as, a.Terminates limits) :
    (∀ done t, done <+: as → exec (step limits na) (start w : TelemetrySystem cap) done = some t →
        t.Pictured) ↔
      Along (step limits na) (Tells limits) (start w : TelemetrySystem cap) as := by
  have hlinks : linksOf w.interfaceList = [] := congrArg Picture.links hboot
  have hentries : w.interfaceList.entries = [] := List.map_eq_nil_iff.mp hlinks
  have hpictured : (start w : TelemetrySystem cap).Pictured := hboot.symm
  have hs : (start w : TelemetrySystem cap).Telling limits := by
    refine ⟨hready, hinit, sayable_boot, fun e he => ?_, fun info hinfo => ?_⟩
    · have hnil : e ∈ w.interfaceList.entries := he
      rw [hentries] at hnil
      cases hnil
    · cases hinfo
  rw [forall_reached_iff]
  -- at each step the invariant turns "the picture is right again" into the condition on the step
  have hiff : Along (step limits na)
        (fun s a => ∀ t, step limits na s a = some t → t.Pictured)
        (start w : TelemetrySystem cap) as ↔
      Along (step limits na) (Tells limits) (start w : TelemetrySystem cap) as := by
    apply along_iff (P := fun s => s.Telling limits ∧ s.Pictured)
      (D := fun _ a => a.Terminates limits)
    · rintro s a t ⟨hs, -⟩ ha hpictured ht
      exact ⟨hs.step ha ht, hpictured t ht⟩
    · rintro s a ⟨hs, hpictured⟩ -
      exact hs.pictured_iff hpictured a
    · exact ⟨hs, hpictured⟩
    · exact along_of_forall has
  rw [← hiff]
  exact and_iff_right hpictured

/-- The ONU registers, and an interface comes up. -/
def registeredAndUp : List TelemetryAction :=
  [.callback (.onuStatus .registration),
    .callback (.interfaceStatus ⟨"veip0\x00".toList, .linkUp⟩), .process Env.quiet,
    .process Env.quiet]

/-- `main` has initialised telemetry, and calls `eponMgr_controller_init` next. -/
def withTelemetry : World := { World.boot (fun _ => none) with telemetryInitialized := true }

/-- From the start-up on: the ONU registers, and its interface comes up. -/
theorem status_told_registered_and_up :
    ∃ (w : World) (t : TelemetrySystem 4),
      Prog.alone (Controller.init HalLimits.small) Env.quiet withTelemetry = some (true, w) ∧
      exec (step HalLimits.small 0xFFFF) (start w) registeredAndUp = some t ∧
      t.picture = ⟨.registration, true, [("veip0".toList, true)]⟩ ∧ t.Pictured := by
  have hrun : (Prog.alone (Controller.init HalLimits.small) Env.quiet withTelemetry).bind (fun a =>
      (exec (step HalLimits.small 0xFFFF) (start a.2 : TelemetrySystem 4) registeredAndUp).map
        fun t => (a.1, a.2.telemetryInitialized, checked (step HalLimits.small 0xFFFF)
          (fun s a => decide (s.Tells HalLimits.small a)) (start a.2 : TelemetrySystem 4)
          registeredAndUp, t.picture)) =
      some (true, true, true, ⟨.registration, true, [("veip0".toList, true)]⟩) := by
    decide +kernel
  simp only [Option.bind_eq_some_iff, Option.map_eq_some_iff, Prod.mk.injEq] at hrun
  obtain ⟨⟨ok, w⟩, hstart, t, hrun, rfl, hready, hchecked, hpicture⟩ := hrun
  have hboot : pictureOf w = Picture.boot := (init_boot HalLimits.small).alone trivial hstart rfl
  have hinit : Initialised w :=
    (Controller.init_initialised HalLimits.small).alone trivial hstart rfl
  have halong : Along (step HalLimits.small 0xFFFF) (Tells HalLimits.small)
      (start w : TelemetrySystem 4) registeredAndUp :=
    along_of_checked (P := fun _ => True) (fun _ _ _ _ _ => trivial)
      (fun _ _ _ h => of_decide_eq_true h) trivial hchecked
  have hnames : ∀ a ∈ registeredAndUp, a.Terminates HalLimits.small := by
    simp only [registeredAndUp, List.forall_mem_cons, List.not_mem_nil, false_imp_iff,
      implies_true, and_true]
    refine ⟨fun info h => Event.noConfusion h, fun info h => ?_, trivial, trivial⟩
    cases h
    decide +kernel
  exact ⟨w, t, hstart, hrun, hpicture, (status_told_iff hready hinit hboot registeredAndUp
    hnames).mpr halong _ _ (List.prefix_refl _) hrun⟩

end TelemetrySystem

end EponManager.Telemetry
