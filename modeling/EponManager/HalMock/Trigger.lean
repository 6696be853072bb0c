import EponManager.HalMock.Mock

/-!
# The trigger utility (`tests/hal_mock/epon_hal_trigger.c`)

The utility turns its options into commands and sends them to the mock one by one. `Options` is what
`getopt_long` has found on the command line; `main` is what is sent for it, and `requested` are the
callbacks that the options ask for.
-/

namespace EponManager.HalMock

open Lib

/-! ### Words -/

/-- `parse_status`; `none` is the return `-1`. -/
def parseStatus (text : CharBuf) : Option OnuStatus :=
  if strcasecmpEq text "los".toList then some .los
  else if strcasecmpEq text "signal".toList then some .downstreamSignalDetected
  else if strcasecmpEq text "register".toList then some .registration
  else if strcasecmpEq text "deregister".toList then some .deregistration
  else none

/-- What the fields `type` and `value` of `struct alarm_info` say. -/
inductive Alarm where
  | standard (alarm : HalAlarm)
  | vendor (alarm : VendorAlarm)
  deriving DecidableEq, Repr

/-- `struct alarm_info` -/
structure AlarmChoice where
  alarm : Alarm
  name : String
  deriving DecidableEq, Repr

/-- `parse_alarm`; `none` is the value `-1`. -/
def parseAlarm (text : CharBuf) : Option AlarmChoice :=
  if strcasecmpEq text "lofi".toList then some ⟨.standard .lofi, "LOFI"⟩
  else if strcasecmpEq text "error_symbol".toList then
    some ⟨.standard .errorSymbolPeriod, "ERROR_SYMBOL_PERIOD"⟩
  else if strcasecmpEq text "error_frame".toList then some ⟨.standard .errorFrame, "ERROR_FRAME"⟩
  else if strcasecmpEq text "oam_lost".toList then
    some ⟨.standard .oamSessionLost, "OAM_SESSION_LOST"⟩
  else if strcasecmpEq text "equipment".toList then
    some ⟨.standard .equipmentFailure, "EQUIPMENT_FAILURE"⟩
  else if strcasecmpEq text "los".toList then some ⟨.vendor .los, "LOS"⟩
  else if strcasecmpEq text "dying_gasp".toList then some ⟨.vendor .dyingGasp, "DYING_GASP"⟩
  else if strcasecmpEq text "power_low".toList then some ⟨.vendor .powerLow, "POWER_LOW"⟩
  else if strcasecmpEq text "power_high".toList then some ⟨.vendor .powerHigh, "POWER_HIGH"⟩
  else if strcasecmpEq text "temperature".toList then some ⟨.vendor .temperature, "TEMPERATURE"⟩
  else if strcasecmpEq text "fec".toList then some ⟨.vendor .fecThreshold, "FEC_THRESHOLD"⟩
  else if strcasecmpEq text "laser_bias".toList then
    some ⟨.vendor .laserBiasCurrent, "LASER_BIAS_CURRENT"⟩
  else if strcasecmpEq text "voltage".toList then some ⟨.vendor .supplyVoltage, "SUPPLY_VOLTAGE"⟩
  else none

/-- The link status that is written after the interface's name. -/
def parseLinkStatus (text : CharBuf) : Option InterfaceStatus :=
  if strcasecmpEq text "up".toList then some .linkUp
  else if strcasecmpEq text "down".toList then some .linkDown
  else none

/-- `<name>:<up|down>` -/
def parseInterface (text : CharBuf) : Option (CharBuf × InterfaceStatus) :=
  (splitAtChar ':' text).bind fun (name, status) => (parseLinkStatus status).map (name, ·)

/-! ### Options -/

/-- The options. -/
structure Options where
  status : Option CharBuf
  alarm : Option CharBuf
  clear : Option CharBuf
  clearFlag : Bool
  interface : Option CharBuf
  linkstats : Option CharBuf
  transcvrstats : Option CharBuf
  increment : Option CharBuf
  invalidateCache : Bool
  repeatArg : Option CharBuf
  deriving DecidableEq, Repr

/-- No option is given. -/
def Options.none : Options :=
  ⟨.none, .none, .none, false, .none, .none, .none, .none, false, .none⟩

namespace Options

variable (o : Options)

/-- `repeat_count` -/
def repeatCount : Nat :=
  match o.repeatArg with
  | .none     => 1
  | .some arg => if atoi arg < 1 then 1 else (atoi arg).toInt.toNat

/-- `alarm_clear` -/
def alarmClear : Bool := o.clear.isSome || o.clearFlag

/-- `alarm_str`, after `-c` was taken for `-a` where `-a` is missing. -/
def alarmText : Option CharBuf := o.alarm.or o.clear

end Options

/-! ### Commands -/

/-- `%u` -/
def unsigned (n : UInt32) : CharBuf := Nat.toDigits 10 n.toNat

section Commands

variable (codes : HalCodes)

/-- `"STATUS:%d"` -/
def statusText (status : OnuStatus) : CharBuf :=
  snprintf 256 ("STATUS:".toList ++ decimal (codes.onuStatus.code status).toInt)

/-- The field `type` of `struct alarm_info`. -/
def Alarm.type : Alarm → AlarmType
  | .standard _ => .standard
  | .vendor _   => .vendorSpecific

/-- The field `value` of `struct alarm_info`. -/
def Alarm.value : Alarm → UInt32
  | .standard alarm => codes.halAlarm.code alarm
  | .vendor alarm   => codes.vendorAlarm.code alarm

/-- `"ALARM:%d:%u:%u:%d"` -/
def alarmText (alarm : Alarm) (clear : Bool) : CharBuf :=
  snprintf 256 ("ALARM:".toList ++ decimal (codes.alarmType.code alarm.type).toInt ++
    ":".toList ++ unsigned (alarm.value codes) ++ ":".toList ++ unsigned 0xFFFF ++
    ":".toList ++ decimal (if clear then 0 else 1))

/-- `"INTERFACE:%s:%d"` -/
def interfaceText (name : CharBuf) (status : InterfaceStatus) : CharBuf :=
  snprintf 256 ("INTERFACE:".toList ++ name ++
    ":".toList ++ decimal (codes.interfaceStatus.code status).toInt)

/-- `"LINKSTATS:%s:%s"` and the like -/
def statsText (type : String) (field value : CharBuf) : CharBuf :=
  snprintf 256 (type.toList ++ ":".toList ++ field ++ ":".toList ++ value)

end Commands

/-! ### Sending -/

/-- The commands that were sent: `ok` if the utility goes on, `error` if it returned 1. -/
abbrev Sending := Except (List CharBuf) (List CharBuf)

section Sending

-- `answers` says which of the calls of `send_command` succeed.
variable (codes : HalCodes) (answers : Nat → Bool)

/-- `send_command` -/
def sendCommand (command : CharBuf) (sent : List CharBuf) : Sending :=
  if answers sent.length then .ok (sent ++ [command]) else .error sent

/-- The loop that sends a command `repeat_count` times. -/
def sendRepeated (command : CharBuf) : Nat → List CharBuf → Sending
  | 0, sent     => .ok sent
  | n + 1, sent => do
      let sent ← sendCommand answers command sent
      sendRepeated command n sent

variable (o : Options)

/-- `-s` -/
def sendStatus (sent : List CharBuf) : Sending :=
  match o.status with
  | .none      => .ok sent
  | .some text =>
      match parseStatus text with
      | .none        => .error sent
      | .some status => sendRepeated answers (statusText codes status) o.repeatCount sent

/-- `-a` and `-c` -/
def sendAlarm (sent : List CharBuf) : Sending :=
  match o.alarmText with
  | .none      => .ok sent
  | .some text =>
      match parseAlarm text with
      | .none        => .error sent
      | .some choice =>
          sendRepeated answers (alarmText codes choice.alarm o.alarmClear) o.repeatCount sent

/-- `-i` -/
def sendInterface (sent : List CharBuf) : Sending :=
  match o.interface with
  | .none      => .ok sent
  | .some text =>
      match parseInterface text with
      | .none                => .error sent
      | .some (name, status) =>
          sendRepeated answers (interfaceText codes name status) o.repeatCount sent

/-- `-L`, `-T` and `-I`, which differ in the type of the command. -/
def sendStats (type : String) (option : Option CharBuf) (sent : List CharBuf) : Sending :=
  match option with
  | .none      => .ok sent
  | .some text =>
      match splitAtChar '=' text with
      | .none                => .error sent
      | .some (field, value) =>
          sendRepeated answers (statsText type field value) o.repeatCount sent

/-- The invalidation that follows every update of the statistics; only a warning is printed if it
cannot be sent. -/
def sendInvalidate (sent : List CharBuf) : Sending :=
  if o.invalidateCache || o.linkstats.isSome || o.transcvrstats.isSome || o.increment.isSome then
    match sendCommand answers (snprintf 256 "INVALIDATE".toList) sent with
    | .ok sent    => .ok sent
    | .error sent => .ok sent
  else
    .ok sent

/-- The end of `main`, where something must have been asked for. -/
def checkOptions (sent : List CharBuf) : Sending :=
  if o.status.isNone && o.alarmText.isNone && o.interface.isNone && o.linkstats.isNone &&
      o.transcvrstats.isNone && o.increment.isNone && !o.invalidateCache then
    .error sent
  else
    .ok sent

/-- `main`, after the options were read. -/
def main : Sending := do
  let sent ← sendStatus codes answers o []
  let sent ← sendAlarm codes answers o sent
  let sent ← sendInterface codes answers o sent
  let sent ← sendStats answers o "LINKSTATS" o.linkstats sent
  let sent ← sendStats answers o "TRANSCVRSTATS" o.transcvrstats sent
  let sent ← sendStats answers o "INCREMENT" o.increment sent
  let sent ← sendInvalidate answers o sent
  checkOptions o sent

end Sending

end EponManager.HalMock
