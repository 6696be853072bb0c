import EponManager.Lib.CString

/-!
# The HAL's data

The records that the EPON HAL fills in and the events it reports. `epon_hal.h` is not part of this
repository, so the fields are the ones its code reads, and the three macros the code uses are
parameters (`HalLimits`). A C enumeration can hold any integer, which is what the
constructors `other` stand for: every `switch` over one has a `default`.

A pointer to an array the HAL allocates is `none` for `NULL`, and otherwise says what each of its
cells holds. The interface array is part of the list itself.
-/

namespace EponManager

open Lib

/-- `EPON_HAL_MAX_INTERFACES`, `EPON_HAL_INTERFACE_NAME_LEN` and `EPON_HAL_API_VERSION` -/
structure HalLimits where
  maxInterfaces : UInt32
  interfaceNameLen : Nat
  apiVersion : UInt32

/-- Limits to run examples with. -/
def HalLimits.small : HalLimits := ⟨4, 8, 0⟩

/-- `epon_hal_return_t` -/
inductive HalReturn where
  | success
  | errorInvalidParam
  | errorWrongPonMode
  | other (code : Int)
  deriving DecidableEq, Repr

/-! ### The ONU and its interfaces -/

/-- `epon_onu_status_t` -/
inductive OnuStatus where
  | los
  | downstreamSignalDetected
  | registration
  | deregistration
  | other (code : Int)
  deriving DecidableEq, Repr

/-- `epon_onu_interface_status_t` -/
inductive InterfaceStatus where
  | linkUp
  | linkDown
  | other (code : Int)
  deriving DecidableEq, Repr

/-- `epon_onu_interface_info_t` -/
structure InterfaceInfo where
  name : CharBuf
  status : InterfaceStatus
  deriving DecidableEq, Repr

instance : Inhabited InterfaceInfo := ⟨⟨[], .linkDown⟩⟩

/-- `epon_interface_list_t`; the array has `EPON_HAL_MAX_INTERFACES` cells. -/
structure InterfaceList where
  interfaceCount : UInt32
  interface : Nat → InterfaceInfo

/-- The entries of an interface list: its first `interface_count` cells. -/
def InterfaceList.entries (l : InterfaceList) : List InterfaceInfo :=
  (List.range l.interfaceCount.toNat).map l.interface

/-! ### The records -/

/-- `epon_hal_link_stats_t` -/
structure LinkStats where
  bytesSent : UInt64
  bytesReceived : UInt64
  packetsSent : UInt64
  packetsReceived : UInt64
  errorsSent : UInt64
  errorsReceived : UInt64
  discardPacketsSent : UInt64
  discardPacketsReceived : UInt64
  broadcastPacketsSent : UInt64
  broadcastPacketsReceived : UInt64
  multicastPacketsSent : UInt64
  multicastPacketsReceived : UInt64
  maxBitRate : UInt32
  fecCorrected : UInt64
  fecUncorrectable : UInt64
  rangingResyncs : UInt64
  macResets : UInt64
  deriving DecidableEq, Repr, Inhabited

/-- `epon_hal_transceiver_stats_t` -/
structure TransceiverStats where
  opticalSignalLevel : Float32
  transmitOpticalLevel : Float32
  lowerOpticalThreshold : Float32
  upperOpticalThreshold : Float32
  lowerTransmitPowerThreshold : Float32
  upperTransmitPowerThreshold : Float32
  temperature : Float32
  supplyVoltage : Float32
  biasCurrent : Float32
  deriving Inhabited

/-- `epon_encryption_mode_t` -/
inductive EncryptionMode where
  | disabled
  | aes128
  | tripleChurning
  | aes256
  | other (code : Int)
  deriving DecidableEq, Repr, Inhabited

/-- `epon_hal_link_info_t` -/
structure LinkInfo where
  mode : CharBuf
  encryption : EncryptionMode
  deriving DecidableEq, Repr, Inhabited

/-- `epon_onu_manufacturer_info_t` -/
structure ManufacturerInfo where
  manufacturer : CharBuf
  modelNumber : CharBuf
  hardwareVersion : CharBuf
  softwareVersion : CharBuf
  serialNumber : CharBuf
  vendorOui : Vector UInt8 3
  deriving DecidableEq, Inhabited

/-- `epon_olt_info_t` -/
structure OltInfo where
  macAddress : Vector UInt8 6
  vendorOui : Vector UInt8 3
  deriving DecidableEq, Inhabited

/-! ### The lists -/

/-- `epon_llid_state_t` -/
inductive LlidState where
  | unregistered
  | registering
  | registered
  | deregistering
  | failed
  | other (code : Int)
  deriving DecidableEq, Repr, Inhabited

/-- `epon_llid_mode_t` -/
inductive LlidMode where
  | unicast
  | broadcast
  | other (code : Int)
  deriving DecidableEq, Repr, Inhabited

/-- `epon_llid_forwarding_state_t` -/
inductive ForwardingState where
  | disabled
  | learning
  | enabled
  | other (code : Int)
  deriving DecidableEq, Repr, Inhabited

/-- `epon_llid_info_t` -/
structure LlidInfo where
  llidValue : UInt32
  state : LlidState
  localMacAddress : Vector UInt8 6
  mode : LlidMode
  encryptionEnabled : Bool
  forwardingState : ForwardingState
  deriving DecidableEq, Inhabited

/-- `epon_llid_list_t` -/
structure LlidList where
  maxLlidCount : UInt32
  llidCount : UInt32
  llidList : Option (Nat → LlidInfo)

/-- `dpoe_cpe_mac_type_t` -/
inductive CpeMacType where
  | static
  | dynamic
  | other (code : Int)
  deriving DecidableEq, Repr, Inhabited

/-- `dpoe_cpe_mac_entry_t` -/
structure CpeMacEntry where
  macAddress : Vector UInt8 6
  ageTime : UInt32
  type : CpeMacType
  deriving DecidableEq, Inhabited

/-- `dpoe_cpe_mac_table_t` -/
structure CpeMacTable where
  maxCpe : UInt32
  staticCpeCount : UInt32
  dynamicCpeCount : UInt32
  cpeList : Option (Nat → CpeMacEntry)

/-! ### Alarms -/

/-- `epon_hal_alarm_t` -/
inductive HalAlarm where
  | lofi
  | errorSymbolPeriod
  | errorFrame
  | errorFramePeriod
  | errorFrameSeconds
  | oamSessionLost
  | equipmentFailure
  | other (code : Int)
  deriving DecidableEq, Repr, Inhabited

/-- `epon_vendor_alarm_t` -/
inductive VendorAlarm where
  | los
  | dyingGasp
  | powerLow
  | powerHigh
  | temperature
  | fecThreshold
  | laserBiasCurrent
  | supplyVoltage
  | other (code : Int)
  deriving DecidableEq, Repr, Inhabited

/-- `epon_alarm_type_t` -/
inductive AlarmType where
  | standard
  | vendorSpecific
  | other (code : Int)
  deriving DecidableEq, Repr, Inhabited

/-- `epon_alarm_info_t` -/
structure AlarmInfo where
  alarmType : AlarmType
  standardAlarm : HalAlarm
  vendorAlarm : VendorAlarm
  isActive : Bool
  llid : UInt16
  deriving DecidableEq, Repr, Inhabited

/-- `eponMgr_event_t` -/
inductive Event where
  | onuStatus (status : OnuStatus)
  | interfaceStatus (info : InterfaceInfo)
  | alarm (info : AlarmInfo)
  deriving DecidableEq, Repr

end EponManager
