import EponManager.Controller.Events
import EponManager.Lib.Decimal
import EponManager.Lib.Strtok

/-!
# The mock HAL (`tests/hal_mock/epon_hal_mock.c`)

The mock keeps the data that the HAL functions return and takes commands over a socket. A command is
a text of fields with `:` between them. It changes the data, and it makes the mock call the
callbacks that were registered with `epon_hal_init`; the calls are the events of
`EponManager.Hal`.

A field that holds an enumerator is its number, which `epon_hal.h` fixes (`HalCodes`). The answers
of `rand` and `atof`, and what the stack holds where a variable is not initialised, are parameters.
-/

namespace EponManager

open Lib

/-! ### The numbers of the enumerators -/

def OnuStatus.isNamed : OnuStatus → Bool
  | .other _ => false
  | _        => true

def InterfaceStatus.isNamed : InterfaceStatus → Bool
  | .other _ => false
  | _        => true

def AlarmType.isNamed : AlarmType → Bool
  | .other _ => false
  | _        => true

def HalAlarm.isNamed : HalAlarm → Bool
  | .other _ => false
  | _        => true

def VendorAlarm.isNamed : VendorAlarm → Bool
  | .other _ => false
  | _        => true

/-- The conversions of a C enumeration to a number of the type `κ` and back; the enumerators have
different numbers. -/
structure EnumCode (κ α : Type) (isNamed : α → Bool) where
  code : α → κ
  ofCode : κ → α
  ofCode_code : ∀ a, isNamed a = true → ofCode (code a) = a

/-- The conversions of the enumerations that commands carry. -/
structure HalCodes where
  onuStatus : EnumCode Int32 OnuStatus OnuStatus.isNamed
  interfaceStatus : EnumCode Int32 InterfaceStatus InterfaceStatus.isNamed
  alarmType : EnumCode Int32 AlarmType AlarmType.isNamed
  halAlarm : EnumCode UInt32 HalAlarm HalAlarm.isNamed
  vendorAlarm : EnumCode UInt32 VendorAlarm VendorAlarm.isNamed

/-- The enumerators are counted from 0, and every other number is `other`. -/
def EnumCode.counted {κ α : Type} [DecidableEq α] {isNamed : α → Bool} (toNat : κ → Nat)
    (ofNat : Nat → κ) (names : List α) (other : α)
    (h : ∀ a, isNamed a = true → names.getD (toNat (ofNat (names.idxOf a))) other = a) :
    EnumCode κ α isNamed where
  code a := ofNat (names.idxOf a)
  ofCode n := names.getD (toNat n) other
  ofCode_code := h

/-- Numbers to run examples with. -/
def HalCodes.small : HalCodes where
  onuStatus := .counted Int32.toNatClampNeg .ofNat
    [.los, .downstreamSignalDetected, .registration, .deregistration] (.other 4)
    fun a ha => by cases a <;> first | rfl | cases ha
  interfaceStatus := .counted Int32.toNatClampNeg .ofNat [.linkUp, .linkDown] (.other 2)
    fun a ha => by cases a <;> first | rfl | cases ha
  alarmType := .counted Int32.toNatClampNeg .ofNat [.standard, .vendorSpecific] (.other 2)
    fun a ha => by cases a <;> first | rfl | cases ha
  halAlarm := .counted UInt32.toNat .ofNat [.lofi, .errorSymbolPeriod, .errorFrame,
    .errorFramePeriod, .errorFrameSeconds, .oamSessionLost, .equipmentFailure] (.other 7)
    fun a ha => by cases a <;> first | rfl | cases ha
  vendorAlarm := .counted UInt32.toNat .ofNat [.los, .dyingGasp, .powerLow, .powerHigh,
    .temperature, .fecThreshold, .laserBiasCurrent, .supplyVoltage] (.other 8)
    fun a ha => by cases a <;> first | rfl | cases ha

namespace HalMock

/-! ### The data -/

/-- `epon_hal_config_t`: which callbacks are set. -/
structure Config where
  statusCallback : Bool
  interfaceStatusCallback : Bool
  alarmCallback : Bool
  deriving DecidableEq, Repr

/-- The globals of the mock. -/
structure State where
  initialized : Bool
  config : Config
  linkStats : LinkStats
  transceiverStats : TransceiverStats
  interfaceList : InterfaceList
  linkStatsTriggered : Bool
  transceiverStatsTriggered : Bool

/-- The globals when the process starts. -/
def State.zero : State :=
  ⟨false, ⟨false, false, false⟩, default, default, ⟨0, default⟩, false, false⟩

/-- What the commands need from outside: the limits and numbers of `epon_hal.h`, `atof`, and the
bytes of `alarm_info` before its fields are assigned. -/
structure Setting where
  limits : HalLimits
  codes : HalCodes
  atof : CharBuf → Float32
  stack : AlarmInfo

/-- What examples are run with. -/
def Setting.small : Setting := ⟨HalLimits.small, HalCodes.small, fun _ => 0, default⟩

/-- What `strncpy` leaves in an interface name, with the last character set to NUL. -/
def interfaceName (limits : HalLimits) (name : CharBuf) : CharBuf :=
  (cstr name).take (limits.interfaceNameLen - 1) ++ ['\x00']

/-- The link statistics of `init_default_data`. -/
def defaultLinkStats : LinkStats where
  bytesSent := 64000
  bytesReceived := 128000
  packetsSent := 1000
  packetsReceived := 2000
  errorsSent := 5
  errorsReceived := 3
  discardPacketsSent := 2
  discardPacketsReceived := 1
  broadcastPacketsSent := 50
  broadcastPacketsReceived := 75
  multicastPacketsSent := 25
  multicastPacketsReceived := 40
  maxBitRate := 1000
  fecCorrected := 128
  fecUncorrectable := 2
  rangingResyncs := 0
  macResets := 0

/-- The transceiver statistics of `init_default_data`. -/
def defaultTransceiverStats : TransceiverStats where
  opticalSignalLevel := -15.0
  transmitOpticalLevel := -2.5
  lowerOpticalThreshold := -25.0
  upperOpticalThreshold := -5.0
  lowerTransmitPowerThreshold := -5.0
  upperTransmitPowerThreshold := 3.0
  temperature := 45.0
  supplyVoltage := 3.3
  biasCurrent := 35.5

/-- The interface list of `init_default_data`: `veip0`, which is up. -/
def defaultInterfaceList (limits : HalLimits) : InterfaceList where
  interfaceCount := 1
  interface := Function.update (fun _ => ⟨[], .linkDown⟩) 0
    ⟨interfaceName limits "veip0".toList, .linkUp⟩

/-- `init_default_data` -/
def initDefaultData (limits : HalLimits) (s : State) : State :=
  { s with
    linkStats := defaultLinkStats
    transceiverStats := defaultTransceiverStats
    interfaceList := defaultInterfaceList limits }

/-- `epon_hal_init`, for a configuration of the right size. -/
def init (limits : HalLimits) (config : Config) (s : State) : State :=
  { initDefaultData limits { s with config } with initialized := true }

/-! ### Callbacks -/

/-- A call of `status_callback`, if the mock is initialised and it is set. -/
def callStatus (s : State) (status : OnuStatus) : List Event :=
  if s.initialized && s.config.statusCallback then [.onuStatus status] else []

/-- `epon_hal_mock_trigger_alarm` -/
def triggerAlarm (setting : Setting) (s : State) (type : AlarmType) (alarmValue : UInt32)
    (llid : UInt16) (isActive : Bool) : List Event :=
  if s.initialized && s.config.alarmCallback then
    let info : AlarmInfo :=
      if type = .standard then
        { setting.stack with standardAlarm := setting.codes.halAlarm.ofCode alarmValue }
      else
        { setting.stack with vendorAlarm := setting.codes.vendorAlarm.ofCode alarmValue }
    [.alarm { info with alarmType := type, llid, isActive }]
  else
    []

/-- `epon_hal_mock_trigger_interface_status`, and the end of the `INTERFACE` command. -/
def triggerInterfaceStatus (limits : HalLimits) (s : State) (name : CharBuf)
    (status : InterfaceStatus) : List Event :=
  if s.initialized && s.config.interfaceStatusCallback then
    [.interfaceStatus ⟨interfaceName limits name, status⟩]
  else
    []

/-! ### Commands -/

section Commands

variable (setting : Setting) (args : List CharBuf) (s : State)

/-- `STATUS:<status>` -/
def statusCommand : State × List Event :=
  match args with
  | status :: _ => (s, callStatus s (setting.codes.onuStatus.ofCode (atoi status)))
  | _           => (s, [])

/-- `ALARM:<type>:<value>:<llid>:<active>` -/
def alarmCommand : State × List Event :=
  match args with
  | type :: value :: llid :: active :: _ =>
      (s, triggerAlarm setting s (setting.codes.alarmType.ofCode (atoi type))
        (atoi value).toUInt32 (atoi llid).toUInt32.toUInt16 (atoi active ≠ 0))
  | _ => (s, [])

/-- `interface[i].status = status` -/
def setStatus (l : InterfaceList) (i : Nat) (status : InterfaceStatus) : InterfaceList :=
  l.store i { l.interface i with status }

/-- The update of the mock's interface list; `none` if there is no space for a new name. -/
def updateInterface (limits : HalLimits) (name : CharBuf) (status : InterfaceStatus)
    (l : InterfaceList) : Option InterfaceList :=
  match l.find limits name with
  | some i => some (setStatus l i status)
  | none   =>
      if l.interfaceCount < limits.maxInterfaces then
        some { l.store l.interfaceCount.toNat ⟨interfaceName limits name, status⟩ with
          interfaceCount := l.interfaceCount + 1 }
      else
        none

/-- `INTERFACE:<name>:<status>` -/
def interfaceCommand : State × List Event :=
  match args with
  | name :: statusText :: _ =>
      let status := setting.codes.interfaceStatus.ofCode (atoi statusText)
      match updateInterface setting.limits name status s.interfaceList with
      | some l => ({ s with interfaceList := l },
          triggerInterfaceStatus setting.limits s name status)
      | none   => (s, [])
  | _ => (s, [])

/-- The fields that `LINKSTATS` sets. -/
def setLinkStat (field : CharBuf) (value : UInt64) (l : LinkStats) : LinkStats :=
  if field = "packets_sent".toList then { l with packetsSent := value }
  else if field = "packets_received".toList then { l with packetsReceived := value }
  else if field = "bytes_sent".toList then { l with bytesSent := value }
  else if field = "bytes_received".toList then { l with bytesReceived := value }
  else if field = "errors_sent".toList then { l with errorsSent := value }
  else if field = "errors_received".toList then { l with errorsReceived := value }
  else if field = "fec_corrected".toList then { l with fecCorrected := value }
  else if field = "fec_uncorrectable".toList then { l with fecUncorrectable := value }
  else l

/-! ### Commands for the statistics -/

/-- `LINKSTATS:<field>:<value>` -/
def linkStatsCommand : State × List Event :=
  match args with
  | field :: value :: _ =>
      ({ s with linkStats := setLinkStat field (strtoull value) s.linkStats }, [])
  | _ => (s, [])

/-- The fields that `TRANSCVRSTATS` sets. -/
def setTransceiverStat (field : CharBuf) (value : Float32) (t : TransceiverStats) :
    TransceiverStats :=
  if field = "tx_power".toList then { t with transmitOpticalLevel := value }
  else if field = "rx_power".toList then { t with opticalSignalLevel := value }
  else if field = "temperature".toList then { t with temperature := value }
  else if field = "bias_current".toList then { t with biasCurrent := value }
  else if field = "voltage".toList then { t with supplyVoltage := value }
  else t

/-- `TRANSCVRSTATS:<field>:<value>` -/
def transceiverStatsCommand : State × List Event :=
  match args with
  | field :: value :: _ =>
      ({ s with transceiverStats :=
          setTransceiverStat field (setting.atof value) s.transceiverStats }, [])
  | _ => (s, [])

/-- The fields that `INCREMENT` adds to. -/
def incrementLinkStat (field : CharBuf) (inc : UInt64) (l : LinkStats) : LinkStats :=
  if field = "packets_sent".toList then { l with packetsSent := l.packetsSent + inc }
  else if field = "packets_received".toList then
    { l with packetsReceived := l.packetsReceived + inc }
  else if field = "bytes_sent".toList then { l with bytesSent := l.bytesSent + inc }
  else if field = "bytes_received".toList then { l with bytesReceived := l.bytesReceived + inc }
  else if field = "errors_sent".toList then { l with errorsSent := l.errorsSent + inc }
  else if field = "errors_received".toList then { l with errorsReceived := l.errorsReceived + inc }
  else l

/-- `INCREMENT:<field>:<value>` -/
def incrementCommand : State × List Event :=
  match args with
  | field :: value :: _ =>
      ({ s with linkStats := incrementLinkStat field (strtoull value) s.linkStats }, [])
  | _ => (s, [])

/-- `INVALIDATE` -/
def invalidateCommand : State × List Event :=
  (s, callStatus s .deregistration ++ callStatus s .registration)

/-! ### The commands as a whole -/

/-- The dispatch of `process_command` on the first token. -/
def dispatch (type : CharBuf) : State × List Event :=
  if type = "STATUS".toList then statusCommand setting args s
  else if type = "ALARM".toList then alarmCommand setting args s
  else if type = "INTERFACE".toList then interfaceCommand setting args s
  else if type = "LINKSTATS".toList then linkStatsCommand args s
  else if type = "TRANSCVRSTATS".toList then transceiverStatsCommand setting args s
  else if type = "INCREMENT".toList then incrementCommand args s
  else if type = "INVALIDATE".toList then invalidateCommand s
  else (s, [])

end Commands

/-- `process_command`, which copies the command into 256 characters first. -/
def processCommand (setting : Setting) (cmd : CharBuf) (s : State) : State × List Event :=
  match tokens ':' ((cstr cmd).take 255) with
  | []           => (s, [])
  | type :: args => dispatch setting args s type

/-- What `control_thread_func` does with the bytes that a client has written: it reads at most 255
of them and takes them as one command. -/
def receive (setting : Setting) (sent : CharBuf) (s : State) : State × List Event :=
  match sent.take 255 with
  | []     => (s, [])
  | buffer => processCommand setting buffer s

/-- One client after the other. -/
def serve (setting : Setting) : List CharBuf → State → State × List Event
  | [], s           => (s, [])
  | sent :: rest, s =>
      let (t, events) := receive setting sent s
      let (u, more) := serve setting rest t
      (u, events ++ more)

/-! ### The statistics that are returned -/

/-- The link statistics after `generate_random_stats`; `rand` are the answers of `rand()`. -/
def randomLinkStats (rand : Nat → UInt64) (l : LinkStats) : LinkStats :=
  { l with
    packetsSent := l.packetsSent + rand 0 % 500
    packetsReceived := l.packetsReceived + rand 1 % 1000
    bytesSent := l.bytesSent + rand 2 % 50000
    bytesReceived := l.bytesReceived + rand 3 % 100000
    errorsSent := l.errorsSent + rand 4 % 20
    errorsReceived := l.errorsReceived + rand 5 % 15
    discardPacketsSent := l.discardPacketsSent + rand 6 % 10
    discardPacketsReceived := l.discardPacketsReceived + rand 7 % 5
    broadcastPacketsSent := l.broadcastPacketsSent + rand 8 % 100
    broadcastPacketsReceived := l.broadcastPacketsReceived + rand 9 % 150
    multicastPacketsSent := l.multicastPacketsSent + rand 10 % 50
    multicastPacketsReceived := l.multicastPacketsReceived + rand 11 % 80
    fecCorrected := l.fecCorrected + rand 12 % 512
    fecUncorrectable := l.fecUncorrectable + rand 13 % 5
    rangingResyncs := l.rangingResyncs + rand 14 % 3
    macResets := l.macResets + rand 15 % 2 }

/-- The transceiver statistics after `generate_random_stats`. -/
def randomTransceiverStats (rand : Nat → UInt64) (t : TransceiverStats) : TransceiverStats :=
  let variation (i : Nat) (range half : Int) (scale : Float32) : Float32 :=
    Float32.ofInt ((rand i).toNat % range - half) / scale
  let tx := t.transmitOpticalLevel + variation 16 100 50 100
  let rx := t.opticalSignalLevel + variation 17 100 50 100
  let rx := if rx < -30 then -30 else rx
  let tx := if tx < -6 then -6 else tx
  { t with
    opticalSignalLevel := if rx > 0 then 0 else rx
    transmitOpticalLevel := if tx > 3 then 3 else tx
    temperature := t.temperature + variation 18 40 20 10
    biasCurrent := t.biasCurrent + variation 19 100 50 100 }

/-- `generate_random_stats` -/
def generateRandomStats (rand : Nat → UInt64) (s : State) : State :=
  { s with
    linkStats := randomLinkStats rand s.linkStats
    transceiverStats := randomTransceiverStats rand s.transceiverStats }

/-- `epon_hal_get_link_stats`, for a record of the right size -/
def getLinkStats (rand : Nat → UInt64) (s : State) : Option (State × LinkStats) :=
  if s.initialized then
    let t := if s.linkStatsTriggered then s else generateRandomStats rand s
    some (t, t.linkStats)
  else
    none

/-- `epon_hal_mock_set_link_stats` -/
def setLinkStats (stats : LinkStats) (s : State) : State :=
  { s with linkStats := stats, linkStatsTriggered := true }

/-- The counters that `epon_hal_clear_stats` sets to zero. -/
def clearedLinkStats (l : LinkStats) : LinkStats :=
  { (default : LinkStats) with maxBitRate := l.maxBitRate }

/-- `epon_hal_clear_stats`; `none` is `EPON_HAL_ERROR_NOT_INITIALIZED`. -/
def clearStats (s : State) : Option State :=
  if s.initialized then some { s with linkStats := clearedLinkStats s.linkStats } else none

/-- `epon_hal_reset_onu` -/
def resetOnu (s : State) : Option (List Event) :=
  if s.initialized then
    some (if s.config.statusCallback then
      [.onuStatus .deregistration, .onuStatus .downstreamSignalDetected, .onuStatus .registration]
      else [])
  else
    none

/-- `epon_hal_factory_reset` -/
def factoryReset (limits : HalLimits) (s : State) : Option State :=
  if s.initialized then some (initDefaultData limits s) else none

/-- `epon_hal_get_interface_list` -/
def getInterfaceList (s : State) : Option InterfaceList :=
  if s.initialized then some s.interfaceList else none

end HalMock

end EponManager
