import EponManager.Lib.Atoi
import EponManager.Persistence
import EponManager.Tables

/-!
# The TR-181 handlers (`eponMgr_tr181.c`)

rbus calls a handler with the full name of a parameter, and the handler finds out which parameter is
meant by searching that name for parts of it. A GET handler answers with a return code and with what
it stored in the property, if anything; a SET handler reads the value that came with the request.

The value a GET handler computes from records that it has already fetched is a function of its own
(`statsValue` and the like); what remains in the handlers is the fetching and the locking.
-/

namespace EponManager

open Lib

/-- `rbusError_t`, as far as the handlers return it. -/
inductive RbusError where
  | success
  | busError
  | invalidInput
  | elementDoesNotExist
  deriving DecidableEq, Repr

/-- The text `eponMgr_statsData_calculate_ber` writes: `0.0`, or the quotient of two integers in
`%.2e` format. -/
inductive BerText where
  | zero
  | quotient (totalBitErrors totalBits : UInt64)
  deriving DecidableEq, Repr

/-- What a `rbusValue_t` holds; `none` is one that was only initialised. -/
inductive RbusValue where
  | none
  | boolean (b : Bool)
  | int32 (n : Int32)
  | uint32 (n : UInt32)
  | uint64 (n : UInt64)
  | string (s : String)
  | ber (text : BerText)
  deriving DecidableEq, Repr

/-- What a GET handler answers: its return code and the value stored in the property. -/
structure GetAnswer where
  rc : RbusError
  value : Option RbusValue
  deriving DecidableEq, Repr

/-- A SET request: the parameter's name, and what `rbusValue_GetBoolean` and `rbusValue_GetUInt32`
make of its value. -/
structure SetRequest where
  name : String
  asBoolean : Bool
  asUInt32 : UInt32

/-! ### Text helpers -/

/-- The text after the first place where `sub` occurs in `s`. -/
def afterFirst (s sub : String) : Option (List Char) := go s.toList sub.toList
where
  go : List Char → List Char → Option (List Char)
    | [], sub     => if sub.isEmpty then some [] else none
    | c :: s, sub =>
        if sub.isPrefixOf (c :: s) then some ((c :: s).drop sub.length) else go s sub

/-- `strcmp(s + strlen(s) - strlen(suffix), suffix) == 0` -/
def hasSuffix (s suffix : String) : Bool := suffix.toList.isSuffixOf s.toList

/-- What `sscanf(s, "%u", &n)` stores, if anything. For a number that an `unsigned int` does not
hold, C leaves open what is stored; here its size is bounded by `ULONG_MAX` and the last 32 bits are
kept. glibc does the same, but ignores the sign of a number whose size is above `ULONG_MAX`. -/
def scanU (s : List Char) : Option UInt32 :=
  let (sign, digits) : Int × List Char :=
    match s.dropWhile isSpace with
    | '-' :: cs => (-1, cs)
    | '+' :: cs => (1, cs)
    | cs        => (1, cs)
  if (digits.head?.map Char.isDigit).getD false then
    some (UInt32.ofNat (sign * min (2 ^ 64 - 1) (digitsFrom 0 digits) % 2 ^ 32).toNat)
  else
    none

/-- `%02X` -/
def hex2 (b : UInt8) : List Char :=
  [(b.toNat / 16).digitChar.toUpper, (b.toNat % 16).digitChar.toUpper]

/-- The bytes of an address in `%02X` format, with `sep` between them. -/
def hexBytes (sep : List Char) (bytes : List UInt8) : RbusValue :=
  .string (String.ofList (List.intercalate sep (bytes.map hex2)))

/-- A `char` array as a string value. -/
def stringOf (buf : CharBuf) : RbusValue := .string (String.ofList (cstr buf))

/-- `(int32_t)(x * 1000.0f)`. C leaves the conversion of what an `int32_t` does not hold open: here
the nearest `int32_t` is taken, and 0 for a NaN, where an x86 processor gives `INT32_MIN`. -/
def milli (x : Float32) : RbusValue := .int32 (x * 1000).toInt32

/-! ### Values -/

/-- `eponMgr_statsData_calculate_ber` -/
def StatsData.calculateBer (s : LinkStats) : BerText :=
  if s.bytesReceived = 0 then
    .zero
  else
    .quotient (s.fecCorrected + s.fecUncorrectable * 8) (s.bytesReceived * 8)

namespace Tr181

/-- `onu_status_to_string` -/
def onuStatusToString : OnuStatus → String
  | .los                      => "LOS"
  | .downstreamSignalDetected => "DownstreamSignalDetected"
  | .registration             => "Registration"
  | .deregistration           => "Deregistration"
  | .other _                  => "Unknown"

/-- `encryption_mode_to_string` -/
def encryptionModeToString : EncryptionMode → String
  | .disabled       => "Disabled"
  | .aes128         => "AES-128"
  | .tripleChurning => "TripleChurning"
  | .aes256         => "AES-256"
  | .other _        => "Unknown"

/-- `llid_state_to_string` -/
def llidStateToString : LlidState → String
  | .unregistered  => "Unregistered"
  | .registering   => "Registering"
  | .registered    => "Registered"
  | .deregistering => "Deregistering"
  | .failed        => "Failed"
  | .other _       => "Unknown"

/-- The status that `base_param_get_handler` maps an ONU status to. -/
def baseStatus : OnuStatus → String
  | .registration   => "Up"
  | .deregistration => "Down"
  | .los            => "NotPresent"
  | _               => "Dormant"

/-! ### The values by name

The branches of each handler in the source's order. Where one name is contained in another, the
order decides.
-/

/-- The dispatch of `stats_get_handler`. -/
def statsValue (name : String) (s : LinkStats) : RbusValue :=
  if strstr name ".Reset" then .boolean false
  else if strstr name "BytesSent" then .uint64 s.bytesSent
  else if strstr name "BytesReceived" then .uint64 s.bytesReceived
  else if strstr name "PacketsSent" then .uint64 s.packetsSent
  else if strstr name "PacketsReceived" then .uint64 s.packetsReceived
  else if strstr name "ErrorsSent" then .uint32 s.errorsSent.toUInt32
  else if strstr name "ErrorsReceived" then .uint32 s.errorsReceived.toUInt32
  else if strstr name "DiscardPacketsSent" then .uint32 s.discardPacketsSent.toUInt32
  else if strstr name "DiscardPacketsReceived" then .uint32 s.discardPacketsReceived.toUInt32
  else if strstr name "FECCorrected" then .uint64 s.fecCorrected
  else if strstr name "FECUncorrectable" then .uint64 s.fecUncorrectable
  else if strstr name "X_RDK_BroadcastPacketsSent" then .uint64 s.broadcastPacketsSent
  else if strstr name "X_RDK_BroadcastPacketsReceived" then .uint64 s.broadcastPacketsReceived
  else if strstr name "X_RDK_MulticastPacketsSent" then .uint64 s.multicastPacketsSent
  else if strstr name "X_RDK_MulticastPacketsReceived" then .uint64 s.multicastPacketsReceived
  else if strstr name "X_RDK_UnicastPacketsSent" then
    .uint64 (s.packetsSent - s.multicastPacketsSent - s.broadcastPacketsSent)
  else if strstr name "X_RDK_UnicastPacketsReceived" then
    .uint64 (s.packetsReceived - s.multicastPacketsReceived - s.broadcastPacketsReceived)
  else if strstr name "BER" then .ber (StatsData.calculateBer s)
  else if strstr name "RangingResyncs" then .uint32 s.rangingResyncs.toUInt32
  else if strstr name "MACResets" then .uint32 s.macResets.toUInt32
  else .none

/-- The dispatch of `optical_param_get_handler`. -/
def opticalValue (name : String) (s : TransceiverStats) : RbusValue :=
  if strstr name "OpticalSignalLevel" then milli s.opticalSignalLevel
  else if strstr name "TransmitOpticalLevel" then milli s.transmitOpticalLevel
  else if strstr name "SFPReferenceList" then .string ""
  else .none

/-- The dispatch of `transceiver_get_handler`. -/
def transceiverValue (name : String) (s : TransceiverStats) : RbusValue :=
  if strstr name "Temperature" then milli s.temperature
  else if strstr name "SupplyVoltage" then milli s.supplyVoltage
  else if strstr name "BiasCurrent" then milli s.biasCurrent
  else if strstr name "LowerOpticalThreshold" then milli s.lowerOpticalThreshold
  else if strstr name "UpperOpticalThreshold" then milli s.upperOpticalThreshold
  else if strstr name "LowerTransmitPowerThreshold" then milli s.lowerTransmitPowerThreshold
  else if strstr name "UpperTransmitPowerThreshold" then milli s.upperTransmitPowerThreshold
  else .none

/-- The dispatch of `manufacturer_get_handler`. -/
def manufacturerValue (name : String) (info : ManufacturerInfo) : RbusValue :=
  if strstr name ".Manufacturer" then stringOf info.manufacturer
  else if strstr name "ModelNumber" then stringOf info.modelNumber
  else if strstr name "HardwareVersion" then stringOf info.hardwareVersion
  else if strstr name "SoftwareVersion" then stringOf info.softwareVersion
  else if strstr name "SerialNumber" then stringOf info.serialNumber
  else if strstr name "VendorOUI" then hexBytes [] info.vendorOui.toList
  else .none

/-- The dispatch of `olt_get_handler`. -/
def oltValue (name : String) (info : OltInfo) : RbusValue :=
  if strstr name "MACAddress" then hexBytes [':'] info.macAddress.toList
  else if strstr name "VendorOUI" then hexBytes [] info.vendorOui.toList
  else if strstr name "VendorSpecificInfo" then .string ""
  else .none

/-- The dispatch of `llid_table_handler` over a row's parameters. -/
def llidValue (name : String) (info : LlidInfo) : RbusValue :=
  if hasSuffix name ".LLID" then .uint32 info.llidValue
  else if hasSuffix name ".Status" then .string (llidStateToString info.state)
  else if hasSuffix name ".MACAddress" then hexBytes [':'] info.localMacAddress.toList
  else if hasSuffix name ".Mode" then
    .string (if info.mode = .unicast then "Unicast" else "Broadcast")
  else if hasSuffix name ".EncryptionEnabled" then .boolean info.encryptionEnabled
  else if hasSuffix name ".ForwardingState" then
    .string (if info.forwardingState = .enabled then "Enabled"
      else if info.forwardingState = .learning then "Learning" else "Disabled")
  else .none

/-- The dispatch of `cpe_table_handler` over a row's parameters. -/
def cpeValue (name : String) (entry : CpeMacEntry) : RbusValue :=
  if hasSuffix name ".MACAddress" then hexBytes [':'] entry.macAddress.toList
  else if hasSuffix name ".AgeTime" then .uint32 entry.ageTime
  else if hasSuffix name ".Type" then
    .string (if entry.type = .static then "Static" else "Dynamic")
  else .none

/-- The dispatch of `veip_table_handler` over a row's parameters. -/
def veipValue (name : String) (info : InterfaceInfo) : RbusValue :=
  if strstr name ".Name" then stringOf info.name
  else if strstr name ".Status" then .string (if info.status = .linkUp then "Up" else "Down")
  else .none

/-! ### GET handlers over the data context -/

/-- The frame of the GET handlers that lock the data context for their whole body. -/
def withDataLock (body : M GetAnswer) : M GetAnswer := do
  let locked ← Data.lock
  if locked then
    body
  else
    return ⟨.busError, none⟩

/-- The end of a handler's body: release the data context and answer. -/
def answer (rc : RbusError) (value : Option RbusValue) : M GetAnswer := do
  Data.unlock
  return ⟨rc, value⟩

/-- A handler that fetches one record and reads the parameter from it. -/
def recordHandler {α : Type} (fetch : M (Option α)) (value : α → RbusValue) : M GetAnswer :=
  withDataLock do
    let record ← fetch
    match record with
    | none        => answer .busError none
    | some record => answer .success (some (value record))

/-- `optical_param_get_handler` -/
def opticalParamGetHandler (name : String) : M GetAnswer :=
  recordHandler Data.getTransceiverStats (opticalValue name)

/-- `stats_get_handler` -/
def statsGetHandler (name : String) : M GetAnswer :=
  recordHandler Data.getLinkStats (statsValue name)

/-- `transceiver_get_handler` -/
def transceiverGetHandler (name : String) : M GetAnswer :=
  recordHandler Data.getTransceiverStats (transceiverValue name)

/-- `manufacturer_get_handler` -/
def manufacturerGetHandler (name : String) : M GetAnswer :=
  recordHandler Data.getOnuManufacturerInfo (manufacturerValue name)

/-- `olt_get_handler` -/
def oltGetHandler (name : String) : M GetAnswer :=
  recordHandler Data.getOltInfo (oltValue name)

/-! ### Handlers of single parameters -/

/-- Read the ONU state under its own mutex. -/
def readOnuState {α : Type} (f : OnuState → M α) : M α := do
  Prog.lock .onuState
  let state ← readData Data.onuState
  let result ← f state
  Prog.unlock .onuState
  return result

/-- The dispatch of `base_param_get_handler`. -/
def baseParamValue (name : String) : M RbusValue :=
  if strstr name ".Enable" then return .boolean true
  else if strstr name ".Status" then
    readOnuState (fun state => return .string (baseStatus state.currentStatus))
  else if strstr name ".Alias" then return .string "OpticalInterface1"
  else if strstr name ".Name" then return .string "veip0"
  else if strstr name ".LastChange" then
    readOnuState (fun state => do
      let now ← ask Env.time
      return .uint32 (UInt32.ofNat ((now - state.lastStatusChange) % 2 ^ 32).toNat))
  else if strstr name ".LowerLayers" then return .string ""
  else if strstr name ".Upstream" then return .boolean false
  else if strstr name ".MaxBitRate" then do
    let stats ← Data.getLinkStats
    match stats with
    | none       => return .int32 (-1)
    | some stats => return .int32 stats.maxBitRate.toInt32
  else return .none

/-- `base_param_get_handler` -/
def baseParamGetHandler (name : String) : M GetAnswer :=
  withDataLock do
    let value ← baseParamValue name
    answer .success (some value)

/-- Read a field under the data mutex, taken once more. -/
def readLocked {α : Type} (f : Data → α) : M α := do
  Prog.lock .data
  let value ← readData f
  Prog.unlock .data
  return value

/-- The dispatch of `epon_get_handler`. -/
def eponValue (name : String) : M RbusValue :=
  if strstr name "OperationalMode" then do
    let info ← Data.getLinkInfo
    match info with
    | none      => return .string "1G-EPON"
    | some info => return stringOf info.mode
  else if strstr name "EncryptionMode" then do
    let info ← Data.getLinkInfo
    match info with
    | none      => return .string "None"
    | some info => return .string (encryptionModeToString info.encryption)
  else if strstr name "ONUStatus" then
    readOnuState (fun state => return .string (onuStatusToString state.currentStatus))
  else if strstr name "DPoESupported" then do
    let supported ← readData Data.dpoeSupported
    return .boolean supported
  else if strstr name "MaxLLIDSupported" then do
    let maxLlid ← readLocked (fun d => d.llidList.maxLlidCount)
    return .uint32 maxLlid
  else return .none

/-- `epon_get_handler` -/
def eponGetHandler (name : String) : M GetAnswer :=
  withDataLock do
    let value ← eponValue name
    answer .success (some value)

/-! ### Table handlers -/

/-- The end of the LLID and CPE table handlers: the row that the name asks for, given the prefix
before its number, the largest number accepted and the value of a parameter. -/
def rowAnswer {α : Type} (name rowPrefix : String) (maxInstance : UInt32)
    (atIndex : UInt32 → M (Option α)) (value : α → RbusValue) : M GetAnswer :=
  match afterFirst name rowPrefix with
  | none               => answer .invalidInput none
  | some instanceStart => do
      let inst := (scanU instanceStart).getD 0
      if inst = 0 ∨ inst > maxInstance then
        answer .invalidInput none
      else
        let entry ← atIndex (inst - 1)
        match entry with
        | none       => answer .elementDoesNotExist none
        | some entry => answer .success (some (value entry))

/-- `llid_table_handler` -/
def llidTableHandler (name : String) : M GetAnswer :=
  withDataLock do
    let _ ← Data.getLlidInfo
    let _ ← syncLlidTable
    if strstr name "LLIDNumberOfEntries" then
      let count ← readData Data.getLlidCount
      answer .success (some (.uint32 count))
    else
      rowAnswer name ".X_RDK_EPON.LLID." 32 Data.getLlidAtIndex (llidValue name)

/-- `cpe_table_handler` -/
def cpeTableHandler (name : String) : M GetAnswer :=
  withDataLock do
    let _ ← Data.getCpeMacTable
    let _ ← syncCpeTable
    if strstr name "MaxCPECount" then
      let maxCpe ← readLocked (fun d => d.cpeTable.maxCpe)
      answer .success (some (.uint32 maxCpe))
    else if strstr name "StaticCPECount" then
      let staticCpe ← readLocked (fun d => d.cpeTable.staticCpeCount)
      answer .success (some (.uint32 staticCpe))
    else if strstr name "DynamicCPECount" then
      let dynamicCpe ← readLocked (fun d => d.cpeTable.dynamicCpeCount)
      answer .success (some (.uint32 dynamicCpe))
    else if strstr name "CPENumberOfEntries" then
      let count ← readData Data.getCpeCount
      answer .success (some (.uint32 count))
    else
      rowAnswer name ".DPOE.CPE." 256 Data.getCpeAtIndex (cpeValue name)

/-- The instance that `veip_table_handler` reads from a name. -/
def veipInstance (name : String) : Option UInt32 :=
  let rowPrefix := "Device.Optical.Interface.1.X_RDK_EPON.VEIP_Interface.".toList
  if rowPrefix.isPrefixOf name.toList then scanU (name.toList.drop rowPrefix.length) else none

/-- `veip_table_handler` -/
def veipTableHandler (limits : HalLimits) (name : String) : M GetAnswer :=
  if strstr name "VEIP_InterfaceNumberOfEntries" then
    withDataLock do
      let count ← readData Data.getInterfaceCount
      answer .success (some (.uint32 count))
  else
    match veipInstance name with
    | none      => return ⟨.invalidInput, none⟩
    | some inst =>
        if inst = 0 ∨ inst.toNat > maxInstances .veip then
          return ⟨.invalidInput, none⟩
        else do
          let index := (inst - 1).toNat
          let registered ← Prog.read (fun w => w.tr181.registered .veip index)
          if registered then
            let ifaceName ← Prog.read (fun w => w.tr181.veipName index)
            withDataLock do
              let info ← Data.getInterfaceByName limits ifaceName
              match info with
              | none      => answer .elementDoesNotExist none
              | some info => answer .success (some (veipValue name info))
          else
            return ⟨.elementDoesNotExist, none⟩

/-! ### The stats poller's handlers -/

/-- `stats_poller_get_handler` -/
def statsPollerGetHandler (name : String) : M GetAnswer := do
  let config ← Controller.lockPersistenceConfig
  if config then
    let stored ← readController (fun c => c.config.obj)
    if strstr name ".Enable" then
      Controller.unlockPersistenceConfig
      return ⟨.success, some (.boolean stored.statsPollerEnabled)⟩
    else if strstr name ".PollingInterval" then
      Controller.unlockPersistenceConfig
      return ⟨.success, some (.uint32 stored.statsPollerIntervalSeconds)⟩
    else
      Controller.unlockPersistenceConfig
      return ⟨.invalidInput, none⟩
  else
    Controller.unlockPersistenceConfig
    return ⟨.busError, none⟩

/-- The `.Enable` branch of `stats_poller_set_handler`. -/
def setPollerEnable (enabled : Bool) : M RbusError := do
  let isRunning ← StatsPoller.isRunning
  if enabled ∧ ¬ isRunning then
    let rc ← StatsPoller.setEnabled true
    if rc ≠ 0 then
      return .busError
    else
      let rc ← StatsPoller.start
      return if rc ≠ 0 then .busError else .success
  else if ¬ enabled ∧ isRunning then
    StatsPoller.stop
    let rc ← StatsPoller.setEnabled false
    return if rc ≠ 0 then .busError else .success
  else
    let rc ← StatsPoller.setEnabled enabled
    return if rc ≠ 0 then .busError else .success

/-- The `.PollingInterval` branch of `stats_poller_set_handler`. -/
def setPollerInterval (interval : UInt32) : M RbusError :=
  if interval < 60 ∨ interval > 3600 then
    return .invalidInput
  else do
    let rc ← StatsPoller.setInterval interval
    return if rc ≠ 0 then .busError else .success

/-- `stats_poller_set_handler`; it holds the controller mutex from the first call to the last. -/
def statsPollerSetHandler (request : SetRequest) : M RbusError := do
  let poller ← Controller.getStatsPoller
  if poller then
    if strstr request.name ".Enable" then
      let result ← setPollerEnable request.asBoolean
      Controller.unlockStatsPoller
      return result
    else if strstr request.name ".PollingInterval" then
      let result ← setPollerInterval request.asUInt32
      Controller.unlockStatsPoller
      return result
    else
      Controller.unlockStatsPoller
      return .invalidInput
  else
    return .busError

/-! ### The other SET handlers and the methods -/

/-- `base_param_set_handler` -/
def baseParamSetHandler (request : SetRequest) : M RbusError :=
  if strstr request.name ".Enable" then return .success
  else if strstr request.name ".Alias" then return .success
  else return .invalidInput

/-- `stats_set_handler` -/
def statsSetHandler (request : SetRequest) : M RbusError :=
  if strstr request.name ".Reset" then
    if request.asBoolean then do
      let ret ← Data.clearStats
      return if ret ≠ .success then .busError else .success
    else
      return .invalidInput
  else
    return .invalidInput

/-- `epon_reset_method_handler` -/
def eponResetMethodHandler : M RbusError := do
  let ret ← Data.resetOnu
  return if ret ≠ .success then .busError else .success

/-- `epon_factory_reset_method_handler` -/
def eponFactoryResetMethodHandler : M RbusError := do
  let ret ← Data.factoryReset
  return if ret ≠ .success then .busError else .success

/-! ### Requests -/

/-- The GET handlers that `g_tr181_params` registers. -/
inductive GetHandler where
  | baseParam
  | opticalParam
  | stats
  | transceiver
  | epon
  | manufacturer
  | olt
  | llidTable
  | cpeTable
  | veipTable
  | statsPoller
  deriving DecidableEq, Repr

/-- The SET handlers that `g_tr181_params` registers. -/
inductive SetHandler where
  | baseParam
  | stats
  | statsPoller
  deriving DecidableEq, Repr

def GetHandler.run (limits : HalLimits) : GetHandler → String → M GetAnswer
  | .baseParam    => baseParamGetHandler
  | .opticalParam => opticalParamGetHandler
  | .stats        => statsGetHandler
  | .transceiver  => transceiverGetHandler
  | .epon         => eponGetHandler
  | .manufacturer => manufacturerGetHandler
  | .olt          => oltGetHandler
  | .llidTable    => llidTableHandler
  | .cpeTable     => cpeTableHandler
  | .veipTable    => veipTableHandler limits
  | .statsPoller  => statsPollerGetHandler

def SetHandler.run : SetHandler → SetRequest → M RbusError
  | .baseParam   => baseParamSetHandler
  | .stats       => statsSetHandler
  | .statsPoller => statsPollerSetHandler

end Tr181

end EponManager
