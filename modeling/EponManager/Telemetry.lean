import EponManager.World

/-!
# Telemetry (`eponMgr_telemetry.c`)

Raising an event takes the telemetry mutex only to read whether the module is initialised; an event
raised outside that time is dropped and the call still succeeds.
-/

namespace EponManager.Telemetry

open Lib

/-- `map_std_alarm`; `none` is `EPON_TELEM_EVENT_ID_MAX`. -/
def mapStdAlarm : HalAlarm → Option TelemetryEvent
  | .other _ => none
  | alarm    => some (.alarmStd alarm)

/-- `map_vendor_alarm` -/
def mapVendorAlarm : VendorAlarm → Option TelemetryEvent
  | .other _ => none
  | alarm    => some (.alarmVendor alarm)

/-- `map_alarm` -/
def mapAlarm (info : AlarmInfo) : Option TelemetryEvent :=
  match info.alarmType with
  | .standard       => mapStdAlarm info.standardAlarm
  | .vendorSpecific => mapVendorAlarm info.vendorAlarm
  | .other _        => none

/-- `dispatch`, for an id of the table. -/
def dispatch (event : TelemetryEvent) (ifname : Option CharBuf) : M Unit := do
  Prog.lock .telemetry
  let ready ← Prog.read World.telemetryInitialized
  Prog.unlock .telemetry
  emit (.telemetry event ifname ready)

/-- `eponMgr_telemetry_raise_simple` -/
def raiseSimple (event : TelemetryEvent) : M Unit := dispatch event none

/-- `eponMgr_telemetry_raise_intf` -/
def raiseIntf (event : TelemetryEvent) (ifname : CharBuf) : M Unit := dispatch event (some ifname)

/-- `eponMgr_telemetry_raise_alarm` -/
def raiseAlarm (info : AlarmInfo) : M Unit :=
  match mapAlarm info with
  | none       => pure ()
  | some event => dispatch event none

end EponManager.Telemetry
