import EponManager.Cache

/-!
# The three lists and their TR-181 tables (`eponMgr_data.c`, `eponMgr_tr181.c`)

The interface, LLID and CPE lists are filled by the HAL into the data context. Each has a dynamic
TR-181 table whose rows are registered as the list grows. A refresh that changes the length of a
list syncs its table, and the sync takes the data mutex again, which is why that mutex is recursive.
-/

namespace EponManager

open Lib

namespace Data

/-- `eponMgr_data_lock`: whether the context exists; if so, it is locked. -/
def lock : M Bool := do
  let global ← Prog.read (fun w => w.eponData.isSet)
  if global then
    Prog.lock .data
    return true
  else
    return false

/-- `eponMgr_data_unlock` -/
def unlock : M Unit := do
  let global ← Prog.read (fun w => w.eponData.isSet)
  if global then Prog.unlock .data else return ()

/-! ### Counts and entries -/

/-- `eponMgr_data_get_llid_count` -/
def getLlidCount (d : Data) : UInt32 := d.llidList.llidCount

/-- `eponMgr_data_get_cpe_count`, a sum of two `uint32_t` -/
def getCpeCount (d : Data) : UInt32 := d.cpeTable.staticCpeCount + d.cpeTable.dynamicCpeCount

/-- `eponMgr_data_get_interface_count` -/
def getInterfaceCount (d : Data) : UInt32 := d.interfaceList.interfaceCount

/-- The three lists, and the lengths that were seen last. -/
def lists (d : Data) : InterfaceList × LlidList × CpeMacTable × UInt32 × UInt32 × UInt32 :=
  (d.interfaceList, d.llidList, d.cpeTable, d.ifListCountCache, d.llidCountCache, d.cpeCountCache)

/-- The body of the functions that read one entry of a list under the data mutex; `none` is the
return `-1`. -/
def getAtIndex {α : Type} (entry : Data → UInt32 → Option α) (index : UInt32) : M (Option α) := do
  Prog.lock .data
  let found ← readData (fun d => entry d index)
  Prog.unlock .data
  return found

/-- `eponMgr_data_get_llid_at_index` -/
def getLlidAtIndex : UInt32 → M (Option LlidInfo) :=
  getAtIndex (fun d index =>
    if index ≥ d.getLlidCount then none
    else d.llidList.llidList.map (fun cells => cells index.toNat))

/-- `eponMgr_data_get_cpe_at_index` -/
def getCpeAtIndex : UInt32 → M (Option CpeMacEntry) :=
  getAtIndex (fun d index =>
    if index ≥ d.getCpeCount then none
    else d.cpeTable.cpeList.map (fun cells => cells index.toNat))

/-- `eponMgr_data_get_interface_at_index` -/
def getInterfaceAtIndex : UInt32 → M (Option InterfaceInfo) :=
  getAtIndex (fun d index =>
    if index ≥ d.getInterfaceCount then none
    else some (d.interfaceList.interface index.toNat))

/-- `eponMgr_data_get_interface_by_name` -/
def getInterfaceByName (limits : HalLimits) (name : CharBuf) : M (Option InterfaceInfo) := do
  Prog.lock .data
  let found ← readData (fun d =>
    d.interfaceList.entries.find? (fun e => strncmpEq e.name name limits.interfaceNameLen))
  Prog.unlock .data
  return found

end Data

/-! ### Registering rows -/

namespace Tr181

/-- `MAX_LLID_INSTANCES`, `MAX_CPE_INSTANCES`, `MAX_VEIP_INSTANCES` -/
def maxInstances : Table → Nat
  | .llid => 64
  | .cpe  => 256
  | .veip => 16

/-- Mark row `i + 1` of a table registered. -/
def setRegistered (table : Table) (i : Nat) (t : Tr181) : Tr181 :=
  { t with
    registered := Function.update t.registered table (Function.update (t.registered table) i true) }

/-- What `strncpy` into `char name[64]` leaves there, with the last character set to NUL. -/
def copyName (name : CharBuf) : CharBuf := (cstr name).take 63 ++ ['\x00']

/-- The body of the loop of the three sync functions. -/
def syncRow {α : Type} (table : Table) (atIndex : UInt32 → M (Option α))
    (record : α → Nat → Tr181 → Tr181) (i : Nat) : M Unit := do
  let registered ← Prog.read (fun w => w.tr181.registered table i)
  if registered then
    return ()
  else
    let info ← atIndex (UInt32.ofNat i)
    match info with
    | none      => return ()
    | some info =>
        let ok ← ask Env.registerRow
        emit (.registerRow table (i + 1) ok)
        if ok then
          Prog.write (fun w => { w with tr181 := setRegistered table i (record info i w.tr181) })
        else
          return ()

/-- The body of the three sync functions. -/
def syncTable {α : Type} (table : Table) (count : Data → UInt32) (atIndex : UInt32 → M (Option α))
    (record : α → Nat → Tr181 → Tr181) : M Int := do
  let handle ← Prog.read (fun w => w.tr181.rbusHandle)
  if handle then
    let locked ← Data.lock
    if locked then
      let n ← readData count
      Prog.forEach (syncRow table atIndex record) (List.range (min n.toNat (maxInstances table)))
      Data.unlock
      return 0
    else
      return -1
  else
    return -1

/-- `eponMgr_tr181_sync_llid_table` -/
def syncLlidTable : M Int :=
  syncTable .llid Data.getLlidCount Data.getLlidAtIndex (fun _ _ t => t)

/-- `eponMgr_tr181_sync_cpe_table` -/
def syncCpeTable : M Int :=
  syncTable .cpe Data.getCpeCount Data.getCpeAtIndex (fun _ _ t => t)

/-- `eponMgr_tr181_sync_veip_table`, which also keeps the interface's name. -/
def syncVeipTable : M Int :=
  syncTable .veip Data.getInterfaceCount Data.getInterfaceAtIndex (fun info i t =>
    { t with veipName := Function.update t.veipName i (copyName info.name) })

end Tr181

/-! ### Refreshing the lists from the HAL -/

namespace Data

/-- `eponMgr_data_get_llid_info`; `true` is the list, `false` is `NULL`. -/
def getLlidInfo : M Bool := do
  Prog.lock .data
  -- the old array is freed before the HAL allocates a new one
  modifyData (fun d => match d.llidList.llidList with
    | none   => d
    | some _ => { d with llidList := { d.llidList with llidList := none, llidCount := 0 } })
  let before ← readData Data.llidList
  let answer ← ask (fun env n => env.halGetLlidInfo n before)
  modifyData (fun d => { d with llidList := answer.2 })
  if answer.1 = .success then
    let changed ← readData (fun d => decide (d.getLlidCount ≠ d.llidCountCache))
    if changed then
      modifyData (fun d => { d with llidCountCache := d.getLlidCount })
      Prog.unlock .data
      let _ ← Tr181.syncLlidTable
      return true
    else
      Prog.unlock .data
      return true
  else
    Prog.unlock .data
    return false

/-- `eponMgr_data_get_interface_list`; `true` is the list, `false` is `NULL`. -/
def getInterfaceList : M Bool := do
  Prog.lock .data
  let before ← readData Data.interfaceList
  let answer ← ask (fun env n => env.halGetInterfaceList n before)
  modifyData (fun d => { d with interfaceList := answer.2 })
  emit (.halGetInterfaceList answer.1)
  if answer.1 = .success then
    let changed ← readData (fun d => decide (d.getInterfaceCount ≠ d.ifListCountCache))
    if changed then
      modifyData (fun d => { d with ifListCountCache := d.getInterfaceCount })
      Prog.unlock .data
      let _ ← Tr181.syncVeipTable
      return true
    else
      Prog.unlock .data
      return true
  else
    Prog.unlock .data
    return false

/-- `eponMgr_data_get_cpe_mac_table`; `true` is the table, `false` is `NULL`. -/
def getCpeMacTable : M Bool := do
  Prog.lock .data
  modifyData (fun d => match d.cpeTable.cpeList with
    | none   => d
    | some _ => { d with
        cpeTable :=
          { d.cpeTable with cpeList := none, staticCpeCount := 0, dynamicCpeCount := 0 } })
  let before ← readData Data.cpeTable
  let answer ← ask (fun env n => env.halGetCpeMacTable n before)
  modifyData (fun d => { d with cpeTable := answer.2 })
  if answer.1 = .success then
    let changed ← readData (fun d => decide (d.getCpeCount ≠ d.cpeCountCache))
    if changed then
      modifyData (fun d => { d with cpeCountCache := d.getCpeCount })
      Prog.unlock .data
      let _ ← Tr181.syncCpeTable
      return true
    else
      Prog.unlock .data
      return true
  else
    Prog.unlock .data
    return false

end Data

end EponManager
