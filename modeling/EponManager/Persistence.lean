import EponManager.Lib.Atoi
import EponManager.Telemetry

/-!
# Persistent configuration (`eponMgr_psm.c`, `eponMgr_persistence.c`, parts of
`eponMgr_controller.c` and `eponMgr_stats_poller.c`)

Four records of PSM hold the configuration. The controller keeps it in memory, under the controller
mutex; the stats poller keeps its own copy of two fields, under the poller mutex. Changing one of
these two fields writes the poller, then the configuration, then all four records.
-/

namespace EponManager

open Lib

/-! ### PSM records -/

namespace Psm

def dpoeEnable : String := "dmsb.eponmanager.DpoeEnable"
def cacheTtl : String := "dmsb.eponmanager.CacheTtlSeconds"
def statsPollerEnabled : String := "dmsb.eponmanager.StatsPollerEnabled"
def statsPollerInterval : String := "dmsb.eponmanager.StatsPollerIntervalSeconds"

/-- `eponMgr_psm_get_string` into a buffer of `size` characters; `none` is the return `-1`. -/
def getString (param : String) (size : Nat) : M (Option String) := do
  let handle ← Prog.read World.rbusInitialized
  if handle then
    let ok ← ask Env.psmGet
    let stored ← Prog.read (fun w => w.psm param)
    if ok then
      return stored.map (fun value => String.ofList (value.toList.take (size - 1)))
    else
      return none
  else
    return none

/-- `eponMgr_psm_get_uint` -/
def getUint (param : String) : M (Option UInt32) := do
  let value ← getString param 32
  return value.map atoiU32

/-- `eponMgr_psm_get_bool` -/
def getBool (param : String) : M (Option Bool) := do
  let value ← getString param 16
  return value.map (fun s => s = "TRUE" || s = "true" || s = "1")

/-- `eponMgr_psm_set_string` -/
def setString (param value : String) : M Int := do
  let handle ← Prog.read World.rbusInitialized
  if handle then
    let ok ← ask Env.psmSet
    emit (.psmSet param value ok)
    if ok then
      Prog.write (fun w => { w with psm := Function.update w.psm param (some value) })
      return 0
    else
      Telemetry.raiseSimple .errorPsmAccessFailed
      return -1
  else
    return -1

/-- `eponMgr_psm_set_uint` -/
def setUint (param : String) (value : UInt32) : M Int := setString param (toString value.toNat)

/-- `eponMgr_psm_set_bool` -/
def setBool (param : String) (value : Bool) : M Int :=
  setString param (if value then "TRUE" else "FALSE")

end Psm

/-! ### The configuration -/

namespace Persistence

/-- `eponMgr_persistence_init_defaults` -/
def initDefaults : Persistence where
  cacheTtlSeconds := 30
  dpoeEnabled := false
  statsPollerEnabled := false
  statsPollerIntervalSeconds := 900

/-- The value a numeric field takes from its record: out of range or unreadable, it keeps its own.
-/
def inRange (low high : UInt32) (stored : Option UInt32) (default : UInt32) : UInt32 :=
  match stored with
  | none   => default
  | some n => if n < low ∨ n > high then default else n

/-- `eponMgr_persistence_load` -/
def load (config : Persistence) : M Persistence := do
  let cacheTtl ← Psm.getUint Psm.cacheTtl
  let dpoeEnabled ← Psm.getBool Psm.dpoeEnable
  let statsPollerEnabled ← Psm.getBool Psm.statsPollerEnabled
  let statsPollerInterval ← Psm.getUint Psm.statsPollerInterval
  return {
    cacheTtlSeconds := inRange 1 300 cacheTtl config.cacheTtlSeconds
    dpoeEnabled := dpoeEnabled.getD config.dpoeEnabled
    statsPollerEnabled := statsPollerEnabled.getD config.statsPollerEnabled
    statsPollerIntervalSeconds :=
      inRange 60 3600 statsPollerInterval config.statsPollerIntervalSeconds }

/-- `eponMgr_persistence_save` -/
def save (config : Persistence) : M Int := do
  let rc ← Psm.setUint Psm.cacheTtl config.cacheTtlSeconds
  if rc ≠ 0 then
    return -1
  else
    let rc ← Psm.setBool Psm.dpoeEnable config.dpoeEnabled
    if rc ≠ 0 then
      return -1
    else
      let rc ← Psm.setBool Psm.statsPollerEnabled config.statsPollerEnabled
      if rc ≠ 0 then
        return -1
      else
        let rc ← Psm.setUint Psm.statsPollerInterval config.statsPollerIntervalSeconds
        if rc ≠ 0 then
          return -1
        else
          return 0

end Persistence

/-! ### Reaching the poller and the configuration through `g_controller` -/

namespace Controller

/-- The body of the accessors that lock the controller mutex and return one of its pointers;
whether that pointer is set. -/
def lockAndGet (pointer : Controller → Bool) : M Bool := do
  let global ← Prog.read (fun w => w.controller.isSet)
  if global then
    Prog.lock .controller
    let isSet ← Prog.read (fun w => pointer w.controller.obj)
    return isSet
  else
    return false

/-- The body of the functions that release it. -/
def unlock : M Unit := do
  let global ← Prog.read (fun w => w.controller.isSet)
  if global then Prog.unlock .controller else return ()

/-- `eponMgr_controller_get_stats_poller` -/
def getStatsPoller : M Bool := lockAndGet (fun c => c.statsPoller.isSet)

/-- `eponMgr_controller_unlock_stats_poller` -/
def unlockStatsPoller : M Unit := unlock

/-- `eponMgr_controller_lock_persistence_config` -/
def lockPersistenceConfig : M Bool := lockAndGet (fun c => c.config.isSet)

/-- `eponMgr_controller_unlock_persistence_config` -/
def unlockPersistenceConfig : M Unit := unlock

/-- Change the configuration. -/
def modifyConfig (f : Persistence → Persistence) (c : Controller) : Controller :=
  { c with config := { c.config with obj := f c.config.obj } }

/-- Change the poller. -/
def modifyPoller (f : StatsPoller → StatsPoller) (c : Controller) : Controller :=
  { c with statsPoller := { c.statsPoller with obj := f c.statsPoller.obj } }

end Controller

/-- Read a field of the controller. -/
def readController {α : Type} (f : Controller → α) : M α := Prog.read (fun w => f w.controller.obj)

/-- Change the controller. -/
def modifyController (f : Controller → Controller) : M Unit :=
  Prog.write (fun w => { w with controller := { w.controller with obj := f w.controller.obj } })

/-! ### The poller's settings -/

namespace StatsPoller

/-- The second half of the two setters: store the field in the configuration and save all of it. -/
def persist (setField : Persistence → Persistence) : M Int := do
  let config ← Controller.lockPersistenceConfig
  if config then
    modifyController (Controller.modifyConfig setField)
    let stored ← readController (fun c => c.config.obj)
    let rc ← stored.save
    if rc ≠ 0 then
      Controller.unlockPersistenceConfig
      return -1
    else
      Controller.unlockPersistenceConfig
      return 0
  else
    return 0

/-- `eponMgr_stats_poller_set_enabled` -/
def setEnabled (enabled : Bool) : M Int := do
  Prog.lock .poller
  modifyController (Controller.modifyPoller (fun p => { p with enabled }))
  Prog.unlock .poller
  persist (fun config => { config with statsPollerEnabled := enabled })

/-- `eponMgr_stats_poller_set_interval`; it also signals the poller thread. -/
def setInterval (intervalSeconds : UInt32) : M Int :=
  if intervalSeconds = 0 then
    return -1
  else do
    Prog.lock .poller
    modifyController (Controller.modifyPoller (fun p => { p with intervalSeconds }))
    Prog.unlock .poller
    persist (fun config => { config with statsPollerIntervalSeconds := intervalSeconds })

/-- `eponMgr_stats_poller_is_running` -/
def isRunning : M Bool := do
  Prog.lock .poller
  let running ← readController (fun c => c.statsPoller.obj.running)
  Prog.unlock .poller
  return running

/-- `eponMgr_stats_poller_start`; the thread it creates sets `running` itself, later. -/
def start : M Int := do
  Prog.lock .poller
  let running ← readController (fun c => c.statsPoller.obj.running)
  if running then
    Prog.unlock .poller
    return -1
  else
    modifyController (Controller.modifyPoller (fun p => { p with shutdownRequested := false }))
    Prog.unlock .poller
    let created ← ask Env.pthreadCreate
    return if created then 0 else -1

/-- `eponMgr_stats_poller_stop`; the join returns when the thread has cleared `running`. -/
def stop : M Unit := do
  Prog.lock .poller
  let running ← readController (fun c => c.statsPoller.obj.running)
  if running then
    modifyController (Controller.modifyPoller (fun p => { p with shutdownRequested := true }))
    Prog.unlock .poller
    modifyController (Controller.modifyPoller (fun p => { p with running := false }))
  else
    Prog.unlock .poller

end StatsPoller

end EponManager
