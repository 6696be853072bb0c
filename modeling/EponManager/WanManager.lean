import EponManager.Telemetry
import Mathlib.Algebra.Group.Nat.Defs
import Mathlib.Algebra.Ring.Int.Defs

/-!
# WanManager over rbus (`eponMgr_wanmanager_update.c`)

The index of the WanManager interface whose `BaseInterface` is this device is searched once and
cached in `g_wanmanager_if_index`. A virtual interface is searched by name at each update.
-/

namespace EponManager.WanManager

open Lib

/-- `EPON_BASE_INTERFACE_PATH` -/
def baseInterfacePath : CharBuf := "Device.Optical.Interface.1".toList

/-- `(int)n` -/
def toInt (n : UInt32) : Int := if n.toNat < 2 ^ 31 then n.toNat else n.toNat - 2 ^ 32

/-- The values of `i` in `for (int i = 1; i <= n; i++)`. -/
def oneTo (n : Int) : List Int := (List.range n.toNat).map (fun k : Nat => (k : Int) + 1)

/-- The search loop of `discover_wanmanager_interface_index`. -/
def discoverFrom : List Int → M Int
  | []      => return -1
  | i :: is => do
      let baseIf ← ask (fun env n => env.rbusGetString n (.baseInterface i))
      match baseIf with
      | some (some path) =>
          if cstr path = baseInterfacePath then
            Prog.write (fun w => { w with wanmanagerIfIndex := i })
            return i
          else
            discoverFrom is
      | _ => discoverFrom is

/-- `discover_wanmanager_interface_index` -/
def discoverInterfaceIndex : M Int := do
  let index ← Prog.read World.wanmanagerIfIndex
  if index > 0 then
    return index
  else
    let handle ← Prog.read World.rbusInitialized
    if handle then
      let count ← ask (fun env n => env.rbusGetUInt32 n .interfaceNumberOfEntries)
      match count with
      | none       => return -1
      | some count => discoverFrom (oneTo (toInt count))
    else
      return -1

/-- `rbus_set`: `true` is `RBUS_ERROR_SUCCESS`. -/
def rbusSet (param : WanParam) (value : WanValue) : M Bool := do
  let ok ← ask Env.rbusSet
  emit (.rbusSet param value ok)
  return ok

/-- `eponMgr_rbus_notify_wanmanager_phy_status` -/
def notifyPhyStatus (phyUp : Bool) : M Int := do
  emit (.phyStatusChange phyUp)
  let index ← discoverInterfaceIndex
  if index < 0 then
    return -1
  else
    let handle ← Prog.read World.rbusInitialized
    if handle then
      let ok ← rbusSet (.baseInterfaceStatus index) (.string (if phyUp then "Up" else "Down"))
      return if ok then 0 else -1
    else
      return -1

/-- The search loop of `eponMgr_rbus_update_virtual_interface`. -/
def updateFrom (index : Int) (interfaceName : CharBuf) (isUp : Bool) : List Int → M Int
  | []      => return -1
  | j :: js => do
      let name ← ask (fun env n => env.rbusGetString n (.virtualInterfaceName index j))
      match name with
      | some (some name) =>
          if cstr name = cstr interfaceName then
            let ok ← rbusSet (.virtualInterfaceEnable index j) (.boolean isUp)
            return if ok then 0 else -1
          else
            updateFrom index interfaceName isUp js
      | _ => updateFrom index interfaceName isUp js

/-- `eponMgr_rbus_update_virtual_interface` -/
def updateVirtualInterface (interfaceName : CharBuf) (isUp : Bool) : M Int := do
  let index ← discoverInterfaceIndex
  if index < 0 then
    return -1
  else
    let handle ← Prog.read World.rbusInitialized
    if handle then
      let count ← ask (fun env n => env.rbusGetUInt32 n (.virtualInterfaceNumberOfEntries index))
      match count with
      | none       => return -1
      | some count => updateFrom index interfaceName isUp (oneTo (toInt count))
    else
      return -1

end EponManager.WanManager
