import EponManager.HalMock.Interfaces
import EponManager.HalMock.Trigger

/-!
# What the trigger asks for is what the mock calls back with

The utility writes a command with `snprintf` and the mock reads it with `strtok_r` and `atoi`, each
with a buffer of 256 characters. A field survives if it is not empty, holds no `:`, and the whole
command fits.

* `receive_command` is the reading of any command that fits.
* `receive_of_type` is what is left of one that may not fit: its type.
* `Options.requested` are the callbacks that the options ask for; `trigger_delivers` says that the
  commands which are sent for them make the mock call exactly these, in this order.
-/

namespace EponManager.HalMock

open Lib

/-! ### Reading a command -/

/-- A text that is one field of a command. -/
structure IsField (t : CharBuf) : Prop where
  ne_nil : t ≠ []
  colon : ':' ∉ t
  nul : '\x00' ∉ t

theorem isField_decimal (n : Int) : IsField (decimal n) where
  ne_nil := decimal_ne_nil n
  colon h := by
    rcases mem_decimal h with hc | hc
    · exact absurd hc (by decide)
    · exact absurd hc (by decide)
  nul h := by
    rcases mem_decimal h with hc | hc
    · exact absurd hc (by decide)
    · exact absurd hc (by decide)

theorem isField_unsigned (n : UInt32) : IsField (unsigned n) := isField_decimal (.ofNat n.toNat)

/-- The text of a command, before it is cut off. -/
def command (fields : List CharBuf) : CharBuf := [':'].intercalate fields

section Receive

variable (setting : Setting) {type : CharBuf} {args : List CharBuf} (s : State)

/-- A command that is not empty is processed, cut to the buffer of the socket. -/
theorem receive_of_ne_nil {sent : CharBuf} (h : sent.take 255 ≠ []) :
    receive setting sent s = processCommand setting (sent.take 255) s := by
  rw [receive]
  obtain ⟨c, cs, hcons⟩ := List.exists_cons_of_ne_nil h
  rw [hcons]

/-- **A command that fits is read as it was written.** -/
theorem receive_command (hfields : ∀ t ∈ type :: args, IsField t)
    (hlen : (command (type :: args)).length ≤ 255) :
    receive setting (snprintf 256 (command (type :: args))) s = dispatch setting args s type := by
  have htake : (command (type :: args)).take 255 = command (type :: args) :=
    List.take_of_length_le hlen
  have htokens : tokens ':' (command (type :: args)) = type :: args :=
    tokens_intercalate (fun t ht => (hfields t ht).colon) (fun t ht => (hfields t ht).ne_nil)
  have hnul : '\x00' ∉ command (type :: args) := by
    intro h
    rcases mem_intercalate h with hc | ⟨t, ht, hc⟩
    · exact absurd hc (by decide)
    · exact (hfields t ht).nul hc
  have hne : command (type :: args) ≠ [] := by
    intro hnil
    rw [hnil] at htokens
    cases htokens
  rw [snprintf, receive_of_ne_nil setting s (by rw [htake, htake]; exact hne), htake, htake,
    processCommand, cstr_of_notMem hnul, htake, htokens]

/-- **The type of a command is read, whatever follows it.** -/
theorem receive_of_type (htype : IsField type) (hlen : type.length < 255) (rest : CharBuf) :
    ∃ args, receive setting (snprintf 256 (type ++ ':' :: rest)) s =
      dispatch setting args s type := by
  have hcut (rest : CharBuf) :
      (type ++ ':' :: rest).take 255 = type ++ ':' :: rest.take (254 - type.length) := by
    rw [List.take_append, List.take_of_length_le (by omega),
      show 255 - type.length = (254 - type.length) + 1 by omega, List.take_succ_cons]
  have hcstr (rest : CharBuf) : cstr (type ++ ':' :: rest) = type ++ ':' :: cstr rest := by
    have hall : ∀ c ∈ type, decide (c ≠ '\x00') = true := fun c hc => by
      simpa using ne_of_mem_of_not_mem hc htype.nul
    rw [cstr, List.takeWhile_append_of_pos hall, ← cstr, cstr_cons, if_neg (by decide)]
  refine ⟨tokens ':' ((cstr ((rest.take (254 - type.length)).take (254 - type.length))).take
    (254 - type.length)), ?_⟩
  rw [snprintf, receive_of_ne_nil setting s (by rw [hcut, hcut]; simp), hcut, hcut, processCommand,
    hcstr, hcut, tokens_append_delimiter htype.colon htype.ne_nil]

end Receive

/-! ### What no command changes

Commands change the interfaces and the statistics. The initialised flag and the settings stay, so a
mock that is ready stays ready.
-/

/-- The mock is initialised and all callbacks are set. -/
structure Ready (s : State) : Prop where
  initialized : s.initialized = true
  config : s.config = ⟨true, true, true⟩

/-- **No command changes the configuration.** -/
theorem dispatch_config (setting : Setting) (args : List CharBuf) (s : State) (type : CharBuf) :
    (dispatch setting args s type).1.initialized = s.initialized ∧
      (dispatch setting args s type).1.config = s.config := by
  have hstatus : (statusCommand setting args s).1 = s := by
    unfold statusCommand
    split <;> rfl
  have halarm : (alarmCommand setting args s).1 = s := by
    unfold alarmCommand
    split <;> rfl
  have hinterface : (interfaceCommand setting args s).1.initialized = s.initialized ∧
      (interfaceCommand setting args s).1.config = s.config := by
    unfold interfaceCommand
    split
    · dsimp only
      split
      · exact ⟨rfl, rfl⟩
      · exact ⟨rfl, rfl⟩
    · exact ⟨rfl, rfl⟩
  have hlink : (linkStatsCommand args s).1.initialized = s.initialized ∧
      (linkStatsCommand args s).1.config = s.config := by
    unfold linkStatsCommand
    split <;> exact ⟨rfl, rfl⟩
  have htransceiver : (transceiverStatsCommand setting args s).1.initialized = s.initialized ∧
      (transceiverStatsCommand setting args s).1.config = s.config := by
    unfold transceiverStatsCommand
    split <;> exact ⟨rfl, rfl⟩
  have hincrement : (incrementCommand args s).1.initialized = s.initialized ∧
      (incrementCommand args s).1.config = s.config := by
    unfold incrementCommand
    split <;> exact ⟨rfl, rfl⟩
  -- the words are compared in the source's order
  unfold dispatch
  split
  · rw [hstatus]
    exact ⟨rfl, rfl⟩
  split
  · rw [halarm]
    exact ⟨rfl, rfl⟩
  split
  · exact hinterface
  split
  · exact hlink
  split
  · exact htransceiver
  split
  · exact hincrement
  split
  · exact ⟨rfl, rfl⟩
  · exact ⟨rfl, rfl⟩

/-- Each command leaves the configuration as it was. -/
theorem receive_config (setting : Setting) (sent : CharBuf) (s : State) :
    (receive setting sent s).1.initialized = s.initialized ∧
      (receive setting sent s).1.config = s.config := by
  unfold receive
  split
  · exact ⟨rfl, rfl⟩
  · unfold processCommand
    split
    · exact ⟨rfl, rfl⟩
    · exact dispatch_config setting _ s _

theorem Ready.receive {s : State} (hs : Ready s) (setting : Setting) (sent : CharBuf) :
    Ready (receive setting sent s).1 where
  initialized := (receive_config setting sent s).1.trans hs.initialized
  config := (receive_config setting sent s).2.trans hs.config

/-! ### Serving several clients -/

/-- Commands are served in the order in which they come. -/
theorem serve_append (setting : Setting) (xs ys : List CharBuf) (s : State) :
    serve setting (xs ++ ys) s =
      ((serve setting ys (serve setting xs s).1).1,
        (serve setting xs s).2 ++ (serve setting ys (serve setting xs s).1).2) := by
  induction xs generalizing s with
  | nil => rfl
  | cons x xs ih => simp only [List.cons_append, serve, ih, List.append_assoc]

theorem Ready.serve {s : State} (hs : Ready s) (setting : Setting) (sent : List CharBuf) :
    Ready (serve setting sent s).1 := by
  induction sent generalizing s with
  | nil => exact hs
  | cons x sent ih => exact ih (hs.receive setting x)

/-- A command that has the same outcome when it is repeated. -/
theorem serve_replicate {setting : Setting} {cmd : CharBuf} {s t : State} {events : List Event}
    (hfirst : receive setting cmd s = (t, events)) (hnext : receive setting cmd t = (t, events))
    (n : Nat) : (serve setting (List.replicate n cmd) s).2 = (List.replicate n events).flatten := by
  have hrest (n : Nat) :
      (serve setting (List.replicate n cmd) t).2 = (List.replicate n events).flatten := by
    induction n with
    | zero => rfl
    | succ n ih => simp only [List.replicate_succ, serve, hnext, ih, List.flatten_cons]
  cases n with
  | zero => rfl
  | succ n => simp only [List.replicate_succ, serve, hfirst, hrest, List.flatten_cons]

/-! ### The commands of the utility

Each word leads to its own branch of the mock's chain of comparisons.
-/

section Dispatch

variable (setting : Setting) (args : List CharBuf) (s : State)

theorem dispatch_status :
    dispatch setting args s "STATUS".toList = statusCommand setting args s := by
  rw [dispatch, if_pos rfl]

theorem dispatch_alarm :
    dispatch setting args s "ALARM".toList = alarmCommand setting args s := by
  rw [dispatch, if_neg (by decide), if_pos rfl]

theorem dispatch_interface :
    dispatch setting args s "INTERFACE".toList = interfaceCommand setting args s := by
  rw [dispatch, if_neg (by decide), if_neg (by decide), if_pos rfl]

theorem dispatch_linkStats :
    dispatch setting args s "LINKSTATS".toList = linkStatsCommand args s := by
  rw [dispatch, if_neg (by decide), if_neg (by decide), if_neg (by decide), if_pos rfl]

theorem dispatch_transceiverStats :
    dispatch setting args s "TRANSCVRSTATS".toList = transceiverStatsCommand setting args s := by
  rw [dispatch, if_neg (by decide), if_neg (by decide), if_neg (by decide), if_neg (by decide),
    if_pos rfl]

theorem dispatch_increment :
    dispatch setting args s "INCREMENT".toList = incrementCommand args s := by
  rw [dispatch, if_neg (by decide), if_neg (by decide), if_neg (by decide), if_neg (by decide),
    if_neg (by decide), if_pos rfl]

theorem dispatch_invalidate :
    dispatch setting args s "INVALIDATE".toList = invalidateCommand s := by
  rw [dispatch, if_neg (by decide), if_neg (by decide), if_neg (by decide), if_neg (by decide),
    if_neg (by decide), if_neg (by decide), if_pos rfl]

end Dispatch

section Texts

variable (setting : Setting) {s : State} (hs : Ready s)

include hs

theorem callStatus_of_ready (status : OnuStatus) : callStatus s status = [.onuStatus status] := by
  rw [callStatus, hs.initialized, hs.config]
  rfl

/-- **A status that the utility sends arrives as the callback of that status.** -/
theorem receive_statusText {status : OnuStatus} (hstatus : status.isNamed = true) :
    receive setting (statusText setting.codes status) s = (s, [.onuStatus status]) := by
  have hlen := length_decimal_le (setting.codes.onuStatus.code status)
  have hfields : ∀ t ∈ ["STATUS".toList, decimal (setting.codes.onuStatus.code status).toInt],
      IsField t := by
    simp only [List.mem_cons, List.not_mem_nil, or_false, forall_eq_or_imp, forall_eq]
    exact ⟨⟨by decide, by decide, by decide⟩, isField_decimal _⟩
  have htext : statusText setting.codes status = snprintf 256 (command
      ["STATUS".toList, decimal (setting.codes.onuStatus.code status).toInt]) := by
    simp [statusText, command]
  rw [htext, receive_command setting s hfields]
  · rw [dispatch_status, statusCommand, atoi_decimal,
      setting.codes.onuStatus.ofCode_code status hstatus, callStatus_of_ready hs]
  · simp [command]
    omega

end Texts

/-! ### Alarms -/

/-- The alarm is one of the enumerators. -/
def Alarm.isNamed : Alarm → Bool
  | .standard alarm => alarm.isNamed
  | .vendor alarm   => alarm.isNamed

/-- The callback for an alarm that the utility sends. -/
def Alarm.info (setting : Setting) (alarm : Alarm) (clear : Bool) : AlarmInfo :=
  match alarm with
  | .standard standardAlarm =>
      { setting.stack with
        standardAlarm, alarmType := .standard, llid := 0xFFFF, isActive := !clear }
  | .vendor vendorAlarm     =>
      { setting.stack with
        vendorAlarm, alarmType := .vendorSpecific, llid := 0xFFFF, isActive := !clear }

/-- A 32-bit number has at most ten digits. -/
theorem length_unsigned_le (n : UInt32) : (unsigned n).length ≤ 10 := by
  have hn := n.toNat_lt
  exact (Nat.length_toDigits_le_iff (by decide) (by decide)).mpr (by omega)

section Texts

variable (setting : Setting) {s : State} (hs : Ready s)

include hs

/-- The alarm is called back with its own number; one that is cleared is not active. -/
theorem triggerAlarm_of_ready {alarm : Alarm} (halarm : alarm.isNamed = true) (clear : Bool) :
    triggerAlarm setting s alarm.type (alarm.value setting.codes) 0xFFFF (!clear) =
      [.alarm (alarm.info setting clear)] := by
  have hready : (s.initialized && s.config.alarmCallback) = true := by
    rw [hs.initialized, hs.config]
    rfl
  rw [triggerAlarm, if_pos hready]
  cases alarm with
  | standard alarm =>
      have hcode := setting.codes.halAlarm.ofCode_code alarm halarm
      simp only [Alarm.type, Alarm.value, if_pos, hcode, Alarm.info]
  | vendor alarm =>
      have hcode := setting.codes.vendorAlarm.ofCode_code alarm halarm
      have hne : AlarmType.vendorSpecific ≠ .standard := by decide
      simp only [Alarm.type, Alarm.value, if_neg hne, hcode, Alarm.info]

/-- **An alarm that the utility sends arrives as the callback of that alarm.** -/
theorem receive_alarmText {alarm : Alarm} (halarm : alarm.isNamed = true) (clear : Bool) :
    receive setting (alarmText setting.codes alarm clear) s =
      (s, [.alarm (alarm.info setting clear)]) := by
  have htype : alarm.type.isNamed = true := by
    cases alarm <;> rfl
  have hlenType := length_decimal_le (setting.codes.alarmType.code alarm.type)
  have hlenValue := length_unsigned_le (alarm.value setting.codes)
  have hlenLlid := length_unsigned_le 0xFFFF
  have hlenActive : (decimal (if clear then 0 else 1)).length ≤ 1 := by
    cases clear <;> decide
  -- the utility sends 0 for a cleared alarm
  have hactive : (decide (atoi (decimal (if clear then 0 else 1)) ≠ 0)) = !clear := by
    cases clear <;> decide
  have hfields : ∀ t ∈ ["ALARM".toList, decimal (setting.codes.alarmType.code alarm.type).toInt,
      unsigned (alarm.value setting.codes), unsigned 0xFFFF,
      decimal (if clear then 0 else 1)], IsField t := by
    simp only [List.mem_cons, List.not_mem_nil, or_false, forall_eq_or_imp, forall_eq]
    exact ⟨⟨by decide, by decide, by decide⟩, isField_decimal _, isField_unsigned _,
      isField_unsigned _, isField_decimal _⟩
  have htext : alarmText setting.codes alarm clear = snprintf 256 (command
      ["ALARM".toList, decimal (setting.codes.alarmType.code alarm.type).toInt,
        unsigned (alarm.value setting.codes), unsigned 0xFFFF,
        decimal (if clear then 0 else 1)]) := by
    simp [alarmText, command]
  rw [htext, receive_command setting s hfields]
  · rw [dispatch_alarm, alarmCommand, atoi_decimal,
      setting.codes.alarmType.ofCode_code alarm.type htype, unsigned, toUInt32_atoi_numeral,
      unsigned, toUInt32_atoi_numeral, hactive]
    exact congrArg (Prod.mk s) (triggerAlarm_of_ready setting hs halarm clear)
  · simp only [command, List.intercalate_cons_cons, List.intercalate_singleton, List.length_append,
      List.length_singleton]
    -- the longest numbers still fit into the buffer
    have hword : "ALARM".toList.length = 5 := by decide
    omega

/-! ### The other commands -/

/-- **The name of an interface arrives** if it is a field and the command fits. -/
theorem receive_interfaceText {name : CharBuf} (hname : IsField name) {status : InterfaceStatus}
    (hstatus : status.isNamed = true)
    (hlen : 11 + name.length +
      (decimal (setting.codes.interfaceStatus.code status).toInt).length ≤ 255)
    {l : InterfaceList}
    (hl : updateInterface setting.limits name status s.interfaceList = some l) :
    receive setting (interfaceText setting.codes name status) s =
      ({ s with interfaceList := l },
        [.interfaceStatus ⟨interfaceName setting.limits name, status⟩]) := by
  have hready : (s.initialized && s.config.interfaceStatusCallback) = true := by
    rw [hs.initialized, hs.config]
    rfl
  have hfields : ∀ t ∈ ["INTERFACE".toList, name,
      decimal (setting.codes.interfaceStatus.code status).toInt], IsField t := by
    simp only [List.mem_cons, List.not_mem_nil, or_false, forall_eq_or_imp, forall_eq]
    exact ⟨⟨by decide, by decide, by decide⟩, hname, isField_decimal _⟩
  have htext : interfaceText setting.codes name status = snprintf 256 (command
      ["INTERFACE".toList, name, decimal (setting.codes.interfaceStatus.code status).toInt]) := by
    simp [interfaceText, command]
  rw [htext, receive_command setting s hfields]
  · rw [dispatch_interface, interfaceCommand, atoi_decimal,
      setting.codes.interfaceStatus.ofCode_code status hstatus]
    simp only [hl, triggerInterfaceStatus, if_pos hready]
  · simp only [command, List.intercalate_cons_cons, List.intercalate_singleton, List.length_append,
      List.length_singleton]
    have hword : "INTERFACE".toList.length = 9 := by decide
    omega

/-- The `INVALIDATE` command calls back a deregistration and then a registration. -/
theorem receive_invalidate :
    receive setting (snprintf 256 "INVALIDATE".toList) s =
      (s, [.onuStatus .deregistration, .onuStatus .registration]) := by
  have hfields : ∀ t ∈ ["INVALIDATE".toList], IsField t := by
    simp only [List.mem_singleton, forall_eq]
    exact ⟨by decide, by decide, by decide⟩
  have htext : "INVALIDATE".toList = command ["INVALIDATE".toList] := by
    simp [command]
  have hread := receive_command setting s hfields (by decide)
  rw [← htext] at hread
  rw [hread, dispatch_invalidate, invalidateCommand, callStatus_of_ready hs,
    callStatus_of_ready hs]
  rfl

end Texts

/-- The types of the commands that set statistics. -/
def IsStatsType (type : String) : Prop :=
  type = "LINKSTATS" ∨ type = "TRANSCVRSTATS" ∨ type = "INCREMENT"

/-- **Setting statistics makes no callback and leaves the interfaces alone**, whatever the field
and the value are. -/
theorem receive_statsText (setting : Setting) {type : String} (htype : IsStatsType type)
    (field value : CharBuf) (s : State) :
    (receive setting (statsText type field value) s).2 = [] ∧
      (receive setting (statsText type field value) s).1.interfaceList = s.interfaceList := by
  have htext : statsText type field value =
      snprintf 256 (type.toList ++ ':' :: (field ++ ":".toList ++ value)) := by
    simp [statsText]
  rw [htext]
  rcases htype with rfl | rfl | rfl
  · have hfield : IsField "LINKSTATS".toList := ⟨by decide, by decide, by decide⟩
    obtain ⟨args, hargs⟩ := receive_of_type setting s hfield (by decide)
      (field ++ ":".toList ++ value)
    rw [hargs, dispatch_linkStats]
    unfold linkStatsCommand
    split <;> exact ⟨rfl, rfl⟩
  · have hfield : IsField "TRANSCVRSTATS".toList := ⟨by decide, by decide, by decide⟩
    obtain ⟨args, hargs⟩ := receive_of_type setting s hfield (by decide)
      (field ++ ":".toList ++ value)
    rw [hargs, dispatch_transceiverStats]
    unfold transceiverStatsCommand
    split <;> exact ⟨rfl, rfl⟩
  · have hfield : IsField "INCREMENT".toList := ⟨by decide, by decide, by decide⟩
    obtain ⟨args, hargs⟩ := receive_of_type setting s hfield (by decide)
      (field ++ ":".toList ++ value)
    rw [hargs, dispatch_increment]
    unfold incrementCommand
    split <;> exact ⟨rfl, rfl⟩

/-! ### What the options ask for -/

namespace Options

variable (o : Options)

def statusChoice : Option OnuStatus := o.status.bind parseStatus

def alarmChoice : Option AlarmChoice := o.alarmText.bind parseAlarm

def interfaceChoice : Option (CharBuf × InterfaceStatus) := o.interface.bind parseInterface

/-- The statistics are changed, or the caches are to be invalidated anyway. -/
def invalidates : Bool :=
  o.invalidateCache || o.linkstats.isSome || o.transcvrstats.isSome || o.increment.isSome

/-- The callbacks that the options ask for. -/
def requested (setting : Setting) : List Event :=
  o.statusChoice.elim [] (fun status => List.replicate o.repeatCount (.onuStatus status)) ++
  o.alarmChoice.elim [] (fun choice => List.replicate o.repeatCount
    (.alarm (choice.alarm.info setting o.alarmClear))) ++
  o.interfaceChoice.elim [] (fun choice => List.replicate o.repeatCount
    (.interfaceStatus ⟨interfaceName setting.limits choice.1, choice.2⟩)) ++
  (if o.invalidates then [.onuStatus .deregistration, .onuStatus .registration] else [])

/-- The commands that set statistics. -/
def statsCommands (type : String) (option : Option CharBuf) : List CharBuf :=
  (option.bind (splitAtChar '=')).elim []
    (fun choice => List.replicate o.repeatCount (statsText type choice.1 choice.2))

/-- The commands that are sent. -/
def commands (codes : HalCodes) : List CharBuf :=
  o.statusChoice.elim [] (fun status => List.replicate o.repeatCount (statusText codes status)) ++
  o.alarmChoice.elim [] (fun choice => List.replicate o.repeatCount
    (HalMock.alarmText codes choice.alarm o.alarmClear)) ++
  o.interfaceChoice.elim [] (fun choice => List.replicate o.repeatCount
    (interfaceText codes choice.1 choice.2)) ++
  o.statsCommands "LINKSTATS" o.linkstats ++ o.statsCommands "TRANSCVRSTATS" o.transcvrstats ++
  o.statsCommands "INCREMENT" o.increment ++
  (if o.invalidates then [snprintf 256 "INVALIDATE".toList] else [])

/-- The interface that is named, if one is, is a field that fits into a command and into the
interface list, and there is an entry for it or space for one. -/
def Deliverable (setting : Setting) (s : State) : Prop :=
  ∀ name status, o.interfaceChoice = some (name, status) →
    IsField name ∧ name.length < setting.limits.interfaceNameLen ∧
      11 + name.length + (decimal (setting.codes.interfaceStatus.code status).toInt).length ≤ 255 ∧
      (updateInterface setting.limits name status s.interfaceList).isSome

end Options

/-! ### The commands that are sent

Each option adds its command, as often as the repeat count says, behind those before it.
-/

/-- A branch of a chain of tests. -/
theorem of_ite_eq_some {α : Type} {c : Prop} [Decidable c] {a b : α} {x : Option α} {P : α → Prop}
    (h : (if c then some a else x) = some b) (ha : P a) (hx : x = some b → P b) : P b := by
  by_cases hc : c
  · rw [if_pos hc] at h
    cases h
    exact ha
  · rw [if_neg hc] at h
    exact hx h

/-- What the utility accepts as a status has a name. -/
theorem parseStatus_isNamed {text : CharBuf} {status : OnuStatus}
    (h : parseStatus text = some status) : status.isNamed = true := by
  exact of_ite_eq_some (P := fun status => status.isNamed = true) h rfl fun h =>
    of_ite_eq_some (P := fun status => status.isNamed = true) h rfl fun h =>
    of_ite_eq_some (P := fun status => status.isNamed = true) h rfl fun h =>
    of_ite_eq_some (P := fun status => status.isNamed = true) h rfl fun h =>
    absurd h (Option.some_ne_none _).symm

/-- The choices of `parse_alarm`, one by one. -/
theorem parseAlarm_induction {text : CharBuf} {choice : AlarmChoice} {P : AlarmChoice → Prop}
    (h : parseAlarm text = some choice)
    (hstandard : P ⟨.standard .lofi, "LOFI"⟩ ∧
      P ⟨.standard .errorSymbolPeriod, "ERROR_SYMBOL_PERIOD"⟩ ∧
      P ⟨.standard .errorFrame, "ERROR_FRAME"⟩ ∧
      P ⟨.standard .oamSessionLost, "OAM_SESSION_LOST"⟩ ∧
      P ⟨.standard .equipmentFailure, "EQUIPMENT_FAILURE"⟩)
    (hvendor : P ⟨.vendor .los, "LOS"⟩ ∧ P ⟨.vendor .dyingGasp, "DYING_GASP"⟩ ∧
      P ⟨.vendor .powerLow, "POWER_LOW"⟩ ∧ P ⟨.vendor .powerHigh, "POWER_HIGH"⟩ ∧
      P ⟨.vendor .temperature, "TEMPERATURE"⟩ ∧ P ⟨.vendor .fecThreshold, "FEC_THRESHOLD"⟩ ∧
      P ⟨.vendor .laserBiasCurrent, "LASER_BIAS_CURRENT"⟩ ∧
      P ⟨.vendor .supplyVoltage, "SUPPLY_VOLTAGE"⟩) : P choice := by
  obtain ⟨h1, h2, h3, h4, h5⟩ := hstandard
  obtain ⟨h6, h7, h8, h9, h10, h11, h12, h13⟩ := hvendor
  exact of_ite_eq_some h h1 fun h => of_ite_eq_some h h2 fun h => of_ite_eq_some h h3 fun h =>
    of_ite_eq_some h h4 fun h => of_ite_eq_some h h5 fun h => of_ite_eq_some h h6 fun h =>
    of_ite_eq_some h h7 fun h => of_ite_eq_some h h8 fun h => of_ite_eq_some h h9 fun h =>
    of_ite_eq_some h h10 fun h => of_ite_eq_some h h11 fun h => of_ite_eq_some h h12 fun h =>
    of_ite_eq_some h h13 fun h => absurd h (Option.some_ne_none _).symm

theorem parseAlarm_isNamed {text : CharBuf} {choice : AlarmChoice}
    (h : parseAlarm text = some choice) : choice.alarm.isNamed = true :=
  parseAlarm_induction (P := fun choice => choice.alarm.isNamed = true) h
    ⟨rfl, rfl, rfl, rfl, rfl⟩ ⟨rfl, rfl, rfl, rfl, rfl, rfl, rfl, rfl⟩

theorem parseInterface_isNamed {text name : CharBuf} {status : InterfaceStatus}
    (h : parseInterface text = some (name, status)) : status.isNamed = true := by
  obtain ⟨p, -, hp⟩ := Option.bind_eq_some_iff.mp h
  obtain ⟨st, hst, heq⟩ := Option.map_eq_some_iff.mp hp
  cases heq
  exact of_ite_eq_some (P := fun status => status.isNamed = true) hst rfl fun h =>
    of_ite_eq_some (P := fun status => status.isNamed = true) h rfl fun h =>
    absurd h (Option.some_ne_none _).symm

section Sending

variable {answers : Nat → Bool} (hanswers : ∀ n, answers n = true)

include hanswers

/-- When every send is answered, the command is sent as often as asked. -/
theorem sendRepeated_eq (cmd : CharBuf) (n : Nat) (sent : List CharBuf) :
    sendRepeated answers cmd n sent = .ok (sent ++ List.replicate n cmd) := by
  -- the counter runs up, so the commands sent before stand first
  induction n generalizing sent with
  | zero => simp [sendRepeated]
  | succ n ih =>
      have hsend : sendCommand answers cmd sent = .ok (sent ++ [cmd]) := by
        rw [sendCommand, if_pos (hanswers _)]
      rw [sendRepeated, hsend]
      show sendRepeated answers cmd n (sent ++ [cmd]) = _
      rw [ih, List.replicate_succ, List.append_assoc, List.singleton_append]

/-- An option whose text is parsed into a command, which is sent as often as the options say. -/
theorem sent_of_choice {α : Type} {option : Option CharBuf} {parse : CharBuf → Option α}
    {command : α → CharBuf} {n : Nat} {send : List CharBuf → Sending} {sent sent' : List CharBuf}
    (hnone : option = none → send sent = .ok sent)
    (hrefused : ∀ text, option = some text → parse text = none → send sent = .error sent)
    (hsends : ∀ text choice, option = some text → parse text = some choice →
      send sent = sendRepeated answers (command choice) n sent)
    (h : send sent = .ok sent') :
    sent' = sent ++ (option.bind parse).elim []
      (fun choice => List.replicate n (command choice)) := by
  cases hoption : option with
  | none =>
      rw [hnone hoption] at h
      cases h
      exact (List.append_nil _).symm
  | some text =>
      rw [Option.bind_some]
      cases hparse : parse text with
      | none =>
          rw [hrefused text hoption hparse] at h
          cases h
      | some choice =>
          rw [hsends text choice hoption hparse, sendRepeated_eq hanswers] at h
          cases h
          rfl

section Options

variable {codes : HalCodes} {o : Options} {sent sent' : List CharBuf}

theorem sendStatus_eq (h : sendStatus codes answers o sent = .ok sent') :
    sent' = sent ++ o.statusChoice.elim []
      (fun status => List.replicate o.repeatCount (statusText codes status)) :=
  sent_of_choice hanswers (fun hopt => by rw [sendStatus, hopt])
    (fun text hopt hparse => by simp only [sendStatus, hopt, hparse])
    (fun text status hopt hparse => by simp only [sendStatus, hopt, hparse]) h

theorem sendAlarm_eq (h : sendAlarm codes answers o sent = .ok sent') :
    sent' = sent ++ o.alarmChoice.elim [] (fun choice => List.replicate o.repeatCount
      (HalMock.alarmText codes choice.alarm o.alarmClear)) :=
  sent_of_choice hanswers (fun hopt => by rw [sendAlarm, hopt])
    (fun text hopt hparse => by simp only [sendAlarm, hopt, hparse])
    (fun text choice hopt hparse => by simp only [sendAlarm, hopt, hparse]) h

theorem sendInterface_eq (h : sendInterface codes answers o sent = .ok sent') :
    sent' = sent ++ o.interfaceChoice.elim [] (fun choice =>
      List.replicate o.repeatCount (interfaceText codes choice.1 choice.2)) :=
  sent_of_choice hanswers (fun hopt => by rw [sendInterface, hopt])
    (fun text hopt hparse => by simp only [sendInterface, hopt, hparse])
    (fun text choice hopt hparse => by simp only [sendInterface, hopt, hparse]) h

theorem sendStats_eq {type : String} {option : Option CharBuf}
    (h : sendStats answers o type option sent = .ok sent') :
    sent' = sent ++ o.statsCommands type option :=
  sent_of_choice hanswers (fun hopt => by simp only [sendStats, hopt])
    (fun text hopt hparse => by simp only [sendStats, hopt, hparse])
    (fun text choice hopt hparse => by simp only [sendStats, hopt, hparse]) h

/-- The invalidation is sent whenever the statistics are changed. -/
theorem sendInvalidate_eq (h : sendInvalidate answers o sent = .ok sent') :
    sent' = sent ++ if o.invalidates then [snprintf 256 "INVALIDATE".toList] else [] := by
  unfold sendInvalidate at h
  rw [sendCommand, if_pos (hanswers _)] at h
  show sent' = sent ++ if (o.invalidateCache || o.linkstats.isSome || o.transcvrstats.isSome ||
    o.increment.isSome) = true then _ else _
  split at h
  · cases h
    rw [if_pos ‹_›]
  · cases h
    rw [if_neg ‹_›, List.append_nil]

/-! ### The commands of one call -/

/-- **What is sent** if the utility does not report an error. -/
theorem main_eq (h : main codes answers o = .ok sent) : sent = o.commands codes := by
  have hbind {x : Sending} {f : List CharBuf → Sending} {b : List CharBuf}
      (hx : (x >>= f) = .ok b) : ∃ a, x = .ok a ∧ f a = .ok b := by
    cases x with
    | error e => cases hx
    | ok a => exact ⟨a, rfl, hx⟩
  obtain ⟨s₁, h₁, h⟩ := hbind h
  obtain ⟨s₂, h₂, h⟩ := hbind h
  obtain ⟨s₃, h₃, h⟩ := hbind h
  obtain ⟨s₄, h₄, h⟩ := hbind h
  obtain ⟨s₅, h₅, h⟩ := hbind h
  obtain ⟨s₆, h₆, h⟩ := hbind h
  obtain ⟨s₇, h₇, h⟩ := hbind h
  have hend : sent = s₇ := by
    unfold checkOptions at h
    split at h
    · cases h
    · cases h
      rfl
  rw [hend, sendInvalidate_eq hanswers h₇, sendStats_eq hanswers h₆, sendStats_eq hanswers h₅,
    sendStats_eq hanswers h₄, sendInterface_eq hanswers h₃, sendAlarm_eq hanswers h₂,
    sendStatus_eq hanswers h₁, List.nil_append, Options.commands]

end Options

end Sending

/-! ### The callbacks that are made -/

section Serve

variable (setting : Setting) {s : State} (hs : Ready s)

include hs

omit hs in
/-- A command that changes nothing and is repeated. -/
theorem serve_replicate_of_unchanged {cmd : CharBuf} {event : Event}
    (h : receive setting cmd s = (s, [event])) (n : Nat) :
    serve setting (List.replicate n cmd) s = (s, List.replicate n event) := by
  induction n with
  | zero => rfl
  | succ n ih => simp only [List.replicate_succ, serve, h, ih, List.singleton_append]

/-- Every copy of the status command calls back, and the mock's state stays. -/
theorem serve_statusChoice (o : Options) :
    serve setting (o.statusChoice.elim []
      (fun status => List.replicate o.repeatCount (statusText setting.codes status))) s =
      (s, o.statusChoice.elim []
        (fun status => List.replicate o.repeatCount (.onuStatus status))) := by
  cases hchoice : o.statusChoice with
  | none => rfl
  | some status =>
      obtain ⟨text, -, hparse⟩ := Option.bind_eq_some_iff.mp hchoice
      exact serve_replicate_of_unchanged setting
        (receive_statusText setting hs (parseStatus_isNamed hparse)) _

theorem serve_alarmChoice (o : Options) :
    serve setting (o.alarmChoice.elim [] (fun choice => List.replicate o.repeatCount
      (alarmText setting.codes choice.alarm o.alarmClear))) s =
      (s, o.alarmChoice.elim [] (fun choice => List.replicate o.repeatCount
        (.alarm (choice.alarm.info setting o.alarmClear)))) := by
  cases hchoice : o.alarmChoice with
  | none => rfl
  | some choice =>
      obtain ⟨text, -, hparse⟩ := Option.bind_eq_some_iff.mp hchoice
      exact serve_replicate_of_unchanged setting
        (receive_alarmText setting hs (parseAlarm_isNamed hparse) _) _

/-- The interfaces differ: the first copy may append the entry, the others find it. -/
theorem serve_interfaceChoice (hlen : 0 < setting.limits.interfaceNameLen)
    (hcanonical : Canonical setting.limits s.interfaceList) {o : Options}
    (ho : o.Deliverable setting s) :
    (serve setting (o.interfaceChoice.elim [] (fun choice => List.replicate o.repeatCount
      (interfaceText setting.codes choice.1 choice.2))) s).2 =
      o.interfaceChoice.elim [] (fun choice => List.replicate o.repeatCount
        (.interfaceStatus ⟨interfaceName setting.limits choice.1, choice.2⟩)) := by
  cases hchoice : o.interfaceChoice with
  | none => rfl
  | some choice =>
      obtain ⟨name, status⟩ := choice
      obtain ⟨hname, hshort, hfits, haccepted⟩ := ho name status hchoice
      obtain ⟨text, -, hparse⟩ := Option.bind_eq_some_iff.mp hchoice
      have hstatus := parseInterface_isNamed hparse
      obtain ⟨l, hl⟩ := Option.isSome_iff_exists.mp haccepted
      have hl' : updateInterface setting.limits name status l = some l :=
        updateInterface_again hlen hcanonical hl (by rw [cstr_of_notMem hname.nul]; exact hshort)
      have hfirst := receive_interfaceText setting hs hname hstatus hfits hl
      have hready : Ready { s with interfaceList := l } := ⟨hs.initialized, hs.config⟩
      have hnext := receive_interfaceText setting hready hname hstatus hfits hl'
      show (serve setting (List.replicate o.repeatCount _) s).2 = List.replicate o.repeatCount _
      rw [serve_replicate hfirst hnext, List.flatten_replicate_singleton]

omit hs in
/-- The commands of the statistics call nobody back. -/
theorem serve_statsCommands (o : Options) {type : String} (htype : IsStatsType type)
    (option : Option CharBuf) : (serve setting (o.statsCommands type option) s).2 = [] := by
  have hrepeat (field value : CharBuf) (n : Nat) (s : State) :
      (serve setting (List.replicate n (statsText type field value)) s).2 = [] := by
    induction n generalizing s with
    | zero => rfl
    | succ n ih =>
        simp only [List.replicate_succ, serve, (receive_statsText setting htype field value s).1,
          ih, List.append_nil]
  unfold Options.statsCommands
  cases option.bind (splitAtChar '=') with
  | none => rfl
  | some choice => exact hrepeat choice.1 choice.2 o.repeatCount s

end Serve

/-! ### What arrives -/

/-- **What the trigger asks for is what the mock calls back with.** Whatever the options are, if the
utility sends its commands without an error, the mock makes the callbacks that they ask for, as
often as they ask for it and in their order, and no others. -/
theorem trigger_delivers (setting : Setting) (hlen : 0 < setting.limits.interfaceNameLen)
    {answers : Nat → Bool} (hanswers : ∀ n, answers n = true) {o : Options} {sent : List CharBuf}
    (hsent : main setting.codes answers o = .ok sent) {s : State} (hs : Ready s)
    (hcanonical : Canonical setting.limits s.interfaceList) (ho : o.Deliverable setting s) :
    (serve setting sent s).2 = o.requested setting := by
  rw [main_eq hanswers hsent, Options.commands]
  simp only [serve_append, serve_statusChoice setting hs, serve_alarmChoice setting hs]
  have hready := hs.serve setting (o.interfaceChoice.elim [] (fun choice =>
    List.replicate o.repeatCount (interfaceText setting.codes choice.1 choice.2)))
  rw [serve_interfaceChoice setting hs hlen hcanonical ho, serve_statsCommands setting o (.inl rfl),
    serve_statsCommands setting o (.inr (.inl rfl)),
    serve_statsCommands setting o (.inr (.inr rfl)), List.append_nil, List.append_nil,
    List.append_nil, Options.requested]
  congr 1
  by_cases hinvalidates : o.invalidates = true
  · rw [if_pos hinvalidates, if_pos hinvalidates]
    have hlast := ((hready.serve setting (o.statsCommands "LINKSTATS" o.linkstats)).serve setting
      (o.statsCommands "TRANSCVRSTATS" o.transcvrstats)).serve setting
      (o.statsCommands "INCREMENT" o.increment)
    simp only [serve, receive_invalidate setting hlast, List.append_nil]
  · rw [if_neg hinvalidates, if_neg hinvalidates]
    rfl

/-- The ONU is registered, an alarm is cleared, and an interface goes down, each of them twice. -/
def exampleOptions : Options :=
  { Options.none with
    status := some "register".toList
    clear := some "DYING_gasp".toList
    interface := some "veip1:down".toList
    repeatArg := some "2".toList }

theorem trigger_delivers_example :
    ∃ sent, main HalCodes.small (fun _ => true) exampleOptions = .ok sent ∧ sent.length = 6 ∧
      (serve Setting.small sent (init HalLimits.small ⟨true, true, true⟩ State.zero)).2 =
        exampleOptions.requested Setting.small := by
  obtain ⟨sent, hsent, hlength⟩ :
      ∃ sent, main HalCodes.small (fun _ => true) exampleOptions = .ok sent ∧ sent.length = 6 :=
    ⟨_, rfl, by decide⟩
  refine ⟨sent, hsent, hlength, trigger_delivers Setting.small (by decide) (fun _ => rfl) hsent
    ⟨rfl, rfl⟩ ?_ fun name status h => ?_⟩
  · intro e he
    rw [show e = ⟨interfaceName HalLimits.small "veip0".toList, .linkUp⟩ from
      List.mem_singleton.mp he]
    rfl
  · have hchoice : exampleOptions.interfaceChoice = some ("veip1".toList, .linkDown) := by decide
    rw [hchoice] at h
    cases h
    exact ⟨⟨by decide, by decide, by decide⟩, by decide, by decide, rfl⟩

end EponManager.HalMock
