import EponManager.Tables
import EponManager.WanManager

/-!
# Processing queued events (`eponMgr_controller.c`)

The controller's loop takes one event at a time off the queue. A status event updates the ONU state;
an interface event updates the interface list, the WanManager and, when the number of interfaces
changed, the VEIP table; an alarm is only reported.
-/

namespace EponManager

open Lib

namespace InterfaceList

/-- `interface[i] = info` -/
def store (l : InterfaceList) (i : Nat) (info : InterfaceInfo) : InterfaceList :=
  { l with interface := Function.update l.interface i info }

/-- The first entry with this name, as the loop of `process_interface_status_event` finds it. -/
def find (limits : HalLimits) (l : InterfaceList) (name : CharBuf) : Option Nat :=
  (List.range l.interfaceCount.toNat).find?
    (fun i => strncmpEq (l.interface i).name name limits.interfaceNameLen)

/-- Update the entry with the event's name, or append one if there is space. -/
def update (limits : HalLimits) (info : InterfaceInfo) (l : InterfaceList) : InterfaceList :=
  match l.find limits info.name with
  | some i => l.store i info
  | none   =>
      if l.interfaceCount < limits.maxInterfaces then
        { l.store l.interfaceCount.toNat info with interfaceCount := l.interfaceCount + 1 }
      else
        l

/-- A count below the bound can be incremented without wrapping around. -/
theorem count_succ {limits : HalLimits} {l : InterfaceList}
    (h : l.interfaceCount < limits.maxInterfaces) :
    (l.interfaceCount + 1).toNat = l.interfaceCount.toNat + 1 := by
  have hlt : l.interfaceCount.toNat < limits.maxInterfaces.toNat := UInt32.lt_iff_toNat_lt.mp h
  have hmax := limits.maxInterfaces.toNat_lt
  rw [UInt32.toNat_add, UInt32.toNat_one]
  omega

/-- `has_any_interface_up` -/
def hasAnyInterfaceUp (l : InterfaceList) : Bool := l.entries.any (fun e => e.status = .linkUp)

end InterfaceList

namespace Controller

/-! ### A change of the ONU's status -/

/-- The event that `process_onu_status_event` reports. -/
def statusEvent : OnuStatus → Option TelemetryEvent
  | .los                      => some .onuLos
  | .downstreamSignalDetected => some .onuDownstreamSignalDetected
  | .registration             => some .onuRegistration
  | .deregistration           => some .onuDeregistration
  | .other _                  => none

/-- `process_onu_status_event` -/
def processOnuStatusEvent (status : OnuStatus) : M Unit := do
  OnuState.updateStatus status
  match statusEvent status with
  | some event => Telemetry.raiseSimple event
  | none       => return ()

/-! ### An interface's status

The list is updated, WanManager is told of the interface and of the PHY, and the rows are synced if
the number has changed.
-/

/-- Report a failed call to WanManager or to the VEIP sync. -/
def reportFailure (rc : Int) : M Unit :=
  if rc ≠ 0 then Telemetry.raiseSimple .errorRbusPublishFailed else return ()

/-- The first step of `process_interface_status_event` after the list is updated: WanManager's
virtual interface, and the telemetry of the interface. -/
def announceInterface (info : InterfaceInfo) : M Unit := do
  let rc ← WanManager.updateVirtualInterface info.name (info.status = .linkUp)
  reportFailure rc
  Telemetry.raiseIntf (if info.status = .linkUp then .intfLinkUp else .intfLinkDown) info.name

/-- The second step: the PHY status. -/
def announcePhy (phyIsUp : Bool) : M Unit := do
  let rc ← WanManager.notifyPhyStatus phyIsUp
  reportFailure rc
  Telemetry.raiseSimple (if phyIsUp then .phyStatusUp else .phyStatusDown)

/-- The third step: the VEIP table. -/
def syncIfCountChanged : M Unit := do
  let changed ← readData (fun d => decide (d.getInterfaceCount ≠ d.ifListCountCache))
  if changed then
    let rc ← Tr181.syncVeipTable
    reportFailure rc
    modifyData (fun d => { d with ifListCountCache := d.getInterfaceCount })
  else
    return ()

/-- Update the interface list with an event. -/
def storeInterface (limits : HalLimits) (info : InterfaceInfo) : M Unit :=
  modifyData (fun d => { d with interfaceList := d.interfaceList.update limits info })

/-- `process_interface_status_event`; it takes no mutex around the list. -/
def processInterfaceStatusEvent (limits : HalLimits) (info : InterfaceInfo) : M Unit := do
  storeInterface limits info
  announceInterface info
  let phyIsUp ← readData (fun d => d.interfaceList.hasAnyInterfaceUp)
  announcePhy phyIsUp
  syncIfCountChanged

/-! ### The queue's other entries -/

/-- `process_alarm_event` -/
def processAlarmEvent (info : AlarmInfo) : M Unit := Telemetry.raiseAlarm info

/-- The `switch` of `process_one_event`. -/
def processEvent (limits : HalLimits) : Event → M Unit
  | .onuStatus status     => processOnuStatusEvent status
  | .interfaceStatus info => processInterfaceStatusEvent limits info
  | .alarm info           => processAlarmEvent info

end Controller

namespace StatsPoller

/-- `collect_all_stats` -/
def collectAllStats : M Int := do
  let linkStats ← Data.getLinkStats
  let transceiverStats ← Data.getTransceiverStats
  let ifList ← Data.getInterfaceList
  return if linkStats.isSome ∧ transceiverStats.isSome ∧ ifList then 0 else -1

end StatsPoller

end EponManager
