import EponManager.Telemetry

/-!
# The caches (`eponMgr_statsData.c`, `eponMgr_onu_state.c`, the getters of `eponMgr_data.c`)

Five records are cached. Link and transceiver statistics live in `stats_data` and are served as
long as their TTL has not run out; the OLT's, the manufacturer's and the link's data live in
`onu_state` and are served until they are invalidated. The five getters are the same function but
for where the record lives, when it may be served and what marks it valid, which is what a `Slot`
says.
-/

namespace EponManager

open Lib

/-! ### `eponMgr_statsData.c` -/

namespace StatsData

/-- `eponMgr_statsData_is_stats_valid` -/
def isStatsValid (timestamp : Int) (ttlSeconds : UInt32) : M Bool :=
  if timestamp = 0 then
    return false
  else do
    let now ← ask Env.time
    let age := now - timestamp
    return age ≥ 0 && age < ttlSeconds.toNat

/-- The fields that `eponMgr_statsData_invalidate_all` resets. -/
def invalidated (s : StatsData) : StatsData :=
  { s with
    linkStats := { s.linkStats with valid := false, timestamp := 0 }
    transceiverStats := { s.transceiverStats with valid := false, timestamp := 0 }
    manufacturerInfoValid := false
    linkInfoValid := false }

/-- `eponMgr_statsData_invalidate_all` -/
def invalidateAll : M Unit := do
  Prog.lock .statsData
  modifyData (fun d => { d with statsData := d.statsData.invalidated })
  Prog.unlock .statsData

end StatsData

/-! ### `eponMgr_onu_state.c` -/

namespace OnuState

/-- `eponMgr_onu_state_update_status` -/
def updateStatus (newStatus : OnuStatus) : M Unit := do
  Prog.lock .onuState
  let now ← ask Env.time
  modifyData (fun d => { d with onuState := { d.onuState with
    previousStatus := d.onuState.currentStatus
    currentStatus := newStatus
    lastStatusChange := now } })
  Prog.unlock .onuState

/-- The fields that `eponMgr_onu_state_invalidate_all` resets. -/
def invalidated (s : OnuState) : OnuState :=
  { s with
    oltInfo := { s.oltInfo with valid := false }
    manufacturerInfo := { s.manufacturerInfo with valid := false }
    linkInfo := { s.linkInfo with valid := false } }

/-- `eponMgr_onu_state_invalidate_all` -/
def invalidateAll : M Unit := do
  Prog.lock .onuState
  modifyData (fun d => { d with onuState := d.onuState.invalidated })
  Prog.unlock .onuState

/-- `eponMgr_onu_state_set_hal_initialized` -/
def setHalInitialized : M Unit := do
  Prog.lock .onuState
  modifyData (fun d => { d with onuState := { d.onuState with halInitialized := true } })
  Prog.unlock .onuState

end OnuState

/-! ### The five getters -/

namespace Data

/-- Where a cached record lives, the test before it is served, and what marks it valid. -/
structure Slot (kind : CacheKind) where
  record : Data → kind.Record
  setRecord : kind.Record → Data → Data
  isValid : M Bool
  markValid : M Unit

/-- The body of the five getters. -/
def getCached {kind : CacheKind} (slot : Slot kind) : M (Option kind.Record) := do
  Prog.lock .data
  let cached ← slot.isValid
  if cached then
    let record ← readData slot.record
    Prog.unlock .data
    return some record
  else
    -- the HAL fills the cache entry itself, also when it fails
    let before ← readData slot.record
    let answer ← ask (fun env n => env.halRead kind n before)
    modifyData (slot.setRecord answer.2)
    emit (.halRead kind answer.1 answer.2)
    if answer.1 = .success then
      slot.markValid
      let record ← readData slot.record
      Prog.unlock .data
      return some record
    else
      Prog.unlock .data
      return none

/-- The slot of an entry with a TTL. -/
def timedSlot (kind : CacheKind) (entry : StatsData → TimedEntry kind.Record)
    (setEntry : TimedEntry kind.Record → StatsData → StatsData) : Slot kind where
  record d := (entry d.statsData).data
  setRecord r := update (fun e => { e with data := r })
  isValid := do
    let stored ← readData (fun d => entry d.statsData)
    let ttlSeconds ← readData (fun d => d.statsData.ttlSeconds)
    if stored.valid then StatsData.isStatsValid stored.timestamp ttlSeconds else return false
  markValid := do
    let now ← ask Env.time
    modifyData (update (fun e => { e with timestamp := now, valid := true }))
where
  update (f : TimedEntry kind.Record → TimedEntry kind.Record) (d : Data) : Data :=
    { d with statsData := setEntry (f (entry d.statsData)) d.statsData }

/-- The slot of an entry that is valid until it is invalidated. -/
def flaggedSlot (kind : CacheKind) (entry : OnuState → FlaggedEntry kind.Record)
    (setEntry : FlaggedEntry kind.Record → OnuState → OnuState) : Slot kind where
  record d := (entry d.onuState).data
  setRecord r := update (fun e => { e with data := r })
  isValid := readData (fun d => (entry d.onuState).valid)
  markValid := modifyData (update (fun e => { e with valid := true }))
where
  update (f : FlaggedEntry kind.Record → FlaggedEntry kind.Record) (d : Data) : Data :=
    { d with onuState := setEntry (f (entry d.onuState)) d.onuState }

def linkStatsSlot : Slot .linkStats :=
  timedSlot .linkStats StatsData.linkStats (fun e s => { s with linkStats := e })

def transceiverStatsSlot : Slot .transceiverStats :=
  timedSlot .transceiverStats StatsData.transceiverStats
    (fun e s => { s with transceiverStats := e })

def oltInfoSlot : Slot .oltInfo :=
  flaggedSlot .oltInfo OnuState.oltInfo (fun e s => { s with oltInfo := e })

def manufacturerInfoSlot : Slot .manufacturerInfo :=
  flaggedSlot .manufacturerInfo OnuState.manufacturerInfo
    (fun e s => { s with manufacturerInfo := e })

def linkInfoSlot : Slot .linkInfo :=
  flaggedSlot .linkInfo OnuState.linkInfo (fun e s => { s with linkInfo := e })

/-- The slot of each record. -/
def slot : (kind : CacheKind) → Slot kind
  | .linkStats        => linkStatsSlot
  | .transceiverStats => transceiverStatsSlot
  | .oltInfo          => oltInfoSlot
  | .manufacturerInfo => manufacturerInfoSlot
  | .linkInfo         => linkInfoSlot

/-- `eponMgr_data_get_link_stats` -/
def getLinkStats : M (Option LinkStats) := getCached linkStatsSlot

/-- `eponMgr_data_get_transceiver_stats` -/
def getTransceiverStats : M (Option TransceiverStats) := getCached transceiverStatsSlot

/-- `eponMgr_data_get_olt_info` -/
def getOltInfo : M (Option OltInfo) := getCached oltInfoSlot

/-- `eponMgr_data_get_onu_manufacturer_info` -/
def getOnuManufacturerInfo : M (Option ManufacturerInfo) := getCached manufacturerInfoSlot

/-- `eponMgr_data_get_link_info` -/
def getLinkInfo : M (Option LinkInfo) := getCached linkInfoSlot

/-- `eponMgr_data_invalidate_cache` -/
def invalidateCache : M Unit := do
  Prog.lock .data
  StatsData.invalidateAll
  OnuState.invalidateAll
  modifyData (fun d => { d with ifListCountCache := 0, llidCountCache := 0, cpeCountCache := 0 })
  Prog.unlock .data

/-! ### HAL commands -/

/-- `eponMgr_data_clear_stats` -/
def clearStats : M HalReturn := do
  let global ← Prog.read (fun w => w.eponData.isSet)
  if global then
    let ret ← ask Env.halClearStats
    emit (.halClearStats ret)
    if ret = .success then
      Prog.lock .data
      StatsData.invalidateAll
      Prog.unlock .data
      return ret
    else
      return ret
  else
    return .errorInvalidParam

/-- `eponMgr_data_reset_onu` -/
def resetOnu : M HalReturn := do
  let global ← Prog.read (fun w => w.eponData.isSet)
  if global then
    let ret ← ask Env.halResetOnu
    emit (.halResetOnu ret)
    if ret = .success then
      Telemetry.raiseSimple .systemOnuReset
      return ret
    else
      return ret
  else
    return .errorInvalidParam

/-- `eponMgr_data_factory_reset` -/
def factoryReset : M HalReturn := do
  let global ← Prog.read (fun w => w.eponData.isSet)
  if global then
    let ret ← ask Env.halFactoryReset
    emit (.halFactoryReset ret)
    if ret = .success then
      Prog.lock .data
      StatsData.invalidateAll
      Prog.unlock .data
      Telemetry.raiseSimple .systemFactoryReset
      return ret
    else
      return ret
  else
    return .errorInvalidParam

end Data

end EponManager
