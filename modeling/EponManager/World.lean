import EponManager.Hal
import EponManager.Lib.Program

/-!
# The process and its environment

`World` is the memory of the process that its functions share: the objects behind the global
pointers, the TR-181 tables, the cached WanManager index, and what the functions did to the outside
(`trace`). `Env` answers every call that leaves the process: the HAL, rbus, PSM, the clock,
`malloc` and the thread library. The answer may be different at each call, so it depends on the
number of calls made so far (`tick`).

A function of the source is an `M` program. Each mutex is locked and unlocked where the source does
it. `NULL` checks of a pointer parameter are left out where every caller has checked the pointer
before, and the log lines nothing else depends on are left out throughout.
-/

namespace EponManager

open Lib

/-! ### Mutexes -/

/-- The mutexes that the functions below lock: `ctrl->mutex`, `eponData->mutex`, `poller->mutex`,
`onu_state->mutex`, `stats_data->mutex` and the one of the telemetry module. -/
inductive MutexId where
  | controller
  | data
  | poller
  | onuState
  | statsData
  | telemetry
  deriving DecidableEq, Repr

/-- Only the data mutex is initialised with `PTHREAD_MUTEX_RECURSIVE`. -/
instance : Mutexes MutexId where
  kind
    | .data => .recursive
    | _     => .normal

/-! ### The shared objects -/

/-- A pointer to the one object of its type: whether it is set, and the object. -/
structure Pointer (α : Type) where
  isSet : Bool
  obj : α
  deriving Inhabited

/-- An entry of `eponMgr_statsData_t` with a TTL. -/
structure TimedEntry (α : Type) where
  data : α
  timestamp : Int
  valid : Bool
  deriving Inhabited

/-- `eponMgr_statsData_t` -/
structure StatsData where
  ttlSeconds : UInt32
  linkStats : TimedEntry LinkStats
  transceiverStats : TimedEntry TransceiverStats
  manufacturerInfoValid : Bool
  linkInfoValid : Bool

/-- An entry of `eponMgr_onu_state_t` that is cached until it is invalidated. -/
structure FlaggedEntry (α : Type) where
  data : α
  valid : Bool
  deriving Inhabited

/-- `eponMgr_onu_state_t` -/
structure OnuState where
  currentStatus : OnuStatus
  previousStatus : OnuStatus
  lastStatusChange : Int
  oltInfo : FlaggedEntry OltInfo
  manufacturerInfo : FlaggedEntry ManufacturerInfo
  linkInfo : FlaggedEntry LinkInfo
  dpoeSupported : Bool
  halInitialized : Bool

/-- `eponMgr_data_t` -/
structure Data where
  statsData : StatsData
  interfaceList : InterfaceList
  llidList : LlidList
  cpeTable : CpeMacTable
  ifListCountCache : UInt32
  llidCountCache : UInt32
  cpeCountCache : UInt32
  onuState : OnuState
  halInitialized : Bool
  dpoeSupported : Bool

/-- `memset(eponData, 0, sizeof(eponMgr_data_t))`, with the two structures it points to zeroed as
well. -/
def Data.zero : Data where
  statsData := ⟨0, ⟨default, 0, false⟩, ⟨default, 0, false⟩, false, false⟩
  interfaceList := ⟨0, fun _ => default⟩
  llidList := ⟨0, 0, none⟩
  cpeTable := ⟨0, 0, 0, none⟩
  ifListCountCache := 0
  llidCountCache := 0
  cpeCountCache := 0
  onuState := ⟨.los, .los, 0, ⟨default, false⟩, ⟨default, false⟩, ⟨default, false⟩, false, false⟩
  halInitialized := false
  dpoeSupported := false

/-- `eponMgr_persistence_t` -/
structure Persistence where
  cacheTtlSeconds : UInt32
  dpoeEnabled : Bool
  statsPollerEnabled : Bool
  statsPollerIntervalSeconds : UInt32
  deriving DecidableEq, Repr

/-- `eponMgr_stats_poller_t`, without the thread that `EponManager.StatsPoller.Thread` runs. -/
structure StatsPoller where
  enabled : Bool
  intervalSeconds : UInt32
  running : Bool
  shutdownRequested : Bool
  deriving DecidableEq, Repr

/-- What TR-181 handlers reach through `g_controller`. -/
structure Controller where
  config : Pointer Persistence
  statsPoller : Pointer StatsPoller

/-- The three dynamic tables. -/
inductive Table where
  | llid
  | cpe
  | veip
  deriving DecidableEq, Repr

/-- The globals of `eponMgr_tr181.c`; a table has a row `k + 1` registered when `registered` says so
of `k`. -/
structure Tr181 where
  rbusHandle : Bool
  paramCount : Nat
  registered : Table → Nat → Bool
  veipName : Nat → CharBuf

/-! ### Telemetry event ids -/

/-- `eponMgr_telemetry_event_id_t` -/
inductive TelemetryEvent where
  | onuLos
  | onuDownstreamSignalDetected
  | onuRegistration
  | onuDeregistration
  | intfLinkUp
  | intfLinkDown
  | phyStatusUp
  | phyStatusDown
  | alarmStd (alarm : HalAlarm)
  | alarmVendor (alarm : VendorAlarm)
  | systemInitSuccess
  | systemInitFailure
  | systemShutdown
  | systemHalWrongPonMode
  | systemFactoryReset
  | systemOnuReset
  | errorHalCallFailed
  | errorEventQueueFull
  | errorStatsCollectionFailed
  | errorRbusPublishFailed
  | errorPsmAccessFailed
  deriving DecidableEq, Repr

/-! ### The outside -/

/-- The WanManager parameters that are read or set, under `Device.X_RDK_WanManager.`. -/
inductive WanParam where
  /-- `InterfaceNumberOfEntries` -/
  | interfaceNumberOfEntries
  /-- `Interface.{i}.BaseInterface` -/
  | baseInterface (i : Int)
  /-- `Interface.{i}.BaseInterfaceStatus` -/
  | baseInterfaceStatus (i : Int)
  /-- `Interface.{i}.VirtualInterfaceNumberOfEntries` -/
  | virtualInterfaceNumberOfEntries (i : Int)
  /-- `Interface.{i}.VirtualInterface.{j}.Name` -/
  | virtualInterfaceName (i j : Int)
  /-- `Interface.{i}.VirtualInterface.{j}.Enable` -/
  | virtualInterfaceEnable (i j : Int)
  deriving DecidableEq, Repr

/-- A value set through rbus. -/
inductive WanValue where
  | string (s : String)
  | boolean (b : Bool)
  deriving DecidableEq, Repr

/-! ### What a call does -/

/-- The records that are cached. -/
inductive CacheKind where
  | linkStats
  | transceiverStats
  | oltInfo
  | manufacturerInfo
  | linkInfo
  deriving DecidableEq, Repr

def CacheKind.Record : CacheKind → Type
  | .linkStats        => LinkStats
  | .transceiverStats => TransceiverStats
  | .oltInfo          => OltInfo
  | .manufacturerInfo => ManufacturerInfo
  | .linkInfo         => LinkInfo

/-- What a function does that the outside can see. -/
inductive Effect where
  /-- a HAL call that fills a record: its return code and what the record holds afterwards -/
  | halRead (kind : CacheKind) (ret : HalReturn) (record : kind.Record)
  | halGetInterfaceList (ret : HalReturn)
  | halClearStats (ret : HalReturn)
  | halResetOnu (ret : HalReturn)
  | halFactoryReset (ret : HalReturn)
  /-- a telemetry event, with the interface it names (if it names one) and whether it reached T2 -/
  | telemetry (event : TelemetryEvent) (ifname : Option CharBuf) (sent : Bool)
  /-- the line that `eponMgr_rbus_notify_wanmanager_phy_status` logs on entry -/
  | phyStatusChange (phyUp : Bool)
  | rbusSet (param : WanParam) (value : WanValue) (ok : Bool)
  | registerRow (table : Table) (inst : Nat) (ok : Bool)
  | unregisterRow (rowName : String) (ok : Bool)
  | psmSet (param value : String) (ok : Bool)

structure World where
  tick : Nat
  trace : List Effect
  /-- `g_eponData`, also reached as `ctrl->data` and `poller->eponData` -/
  eponData : Pointer Data
  /-- `g_controller` -/
  controller : Pointer Controller
  tr181 : Tr181
  /-- `g_rbus_initialized`, set together with the handle -/
  rbusInitialized : Bool
  /-- `g_wanmanager_if_index` -/
  wanmanagerIfIndex : Int
  telemetryInitialized : Bool
  /-- the records of PSM -/
  psm : String → Option String

/-- The answers of everything outside the process, by the number of the call. A HAL call that fills
a record is given what the record holds before. -/
structure Env where
  time : Nat → Int
  halReadLinkStats : Nat → LinkStats → HalReturn × LinkStats
  halReadTransceiverStats : Nat → TransceiverStats → HalReturn × TransceiverStats
  halReadOltInfo : Nat → OltInfo → HalReturn × OltInfo
  halReadManufacturerInfo : Nat → ManufacturerInfo → HalReturn × ManufacturerInfo
  halReadLinkInfo : Nat → LinkInfo → HalReturn × LinkInfo
  halGetInterfaceList : Nat → InterfaceList → HalReturn × InterfaceList
  halGetLlidInfo : Nat → LlidList → HalReturn × LlidList
  halGetCpeMacTable : Nat → CpeMacTable → HalReturn × CpeMacTable
  halInit : Nat → HalReturn
  halGetVersion : Nat → UInt32
  halClearStats : Nat → HalReturn
  halResetOnu : Nat → HalReturn
  halFactoryReset : Nat → HalReturn
  /-- `none`: `rbus_get` failed -/
  rbusGetUInt32 : Nat → WanParam → Option UInt32
  /-- `none`: `rbus_get` failed; `some none`: the value is not a string -/
  rbusGetString : Nat → WanParam → Option (Option CharBuf)
  rbusSet : Nat → Bool
  registerRow : Nat → Bool
  unregisterRow : Nat → Bool
  psmGet : Nat → Bool
  psmSet : Nat → Bool
  pthreadCreate : Nat → Bool
  /-- every other call made during start-up that can fail: allocations, `pthread_mutex_init`,
  `pthread_cond_init`, the logger, `rbus_open` and `rbus_regDataElements` -/
  startup : Nat → Bool

/-- The HAL call that fills a record of one kind. -/
def Env.halRead (env : Env) : (kind : CacheKind) → Nat → kind.Record → HalReturn × kind.Record
  | .linkStats        => env.halReadLinkStats
  | .transceiverStats => env.halReadTransceiverStats
  | .oltInfo          => env.halReadOltInfo
  | .manufacturerInfo => env.halReadManufacturerInfo
  | .linkInfo         => env.halReadLinkInfo

/-! ### The start -/

/-- The memory when the process starts, given what PSM holds. -/
def World.boot (psm : String → Option String) : World where
  tick := 0
  trace := []
  eponData := ⟨false, Data.zero⟩
  controller := ⟨false, ⟨⟨false, ⟨0, false, false, 0⟩⟩, ⟨false, ⟨false, 0, false, false⟩⟩⟩⟩
  tr181 := ⟨false, 0, fun _ _ => false, fun _ => []⟩
  rbusInitialized := false
  wanmanagerIfIndex := 0
  telemetryInitialized := false
  psm

/-- An environment in which every call succeeds, every record is left as it is and rbus knows no
other component; the clock is the number of calls made so far. -/
def Env.quiet : Env where
  time n := n
  halReadLinkStats _ r := (.success, r)
  halReadTransceiverStats _ r := (.success, r)
  halReadOltInfo _ r := (.success, r)
  halReadManufacturerInfo _ r := (.success, r)
  halReadLinkInfo _ r := (.success, r)
  halGetInterfaceList _ l := (.success, l)
  halGetLlidInfo _ l := (.success, l)
  halGetCpeMacTable _ t := (.success, t)
  halInit _ := .success
  halGetVersion _ := 0
  halClearStats _ := .success
  halResetOnu _ := .success
  halFactoryReset _ := .success
  rbusGetUInt32 _ _ := none
  rbusGetString _ _ := none
  rbusSet _ := true
  registerRow _ := true
  unregisterRow _ := true
  psmGet _ := true
  psmSet _ := true
  pthreadCreate _ := true
  startup _ := true

/-! ### Programs -/

/-- A function of the source. -/
abbrev M (α : Type) := Prog Env MutexId World α

/-- Ask the environment. -/
def ask {α : Type} (q : Env → Nat → α) : M α :=
  Prog.call (fun env w => (q env w.tick, { w with tick := w.tick + 1 }))

/-- Do something that the outside can see. -/
def emit (e : Effect) : M Unit :=
  Prog.write (fun w => { w with trace := w.trace ++ [e] })

/-- Read a field of the data context. -/
def readData {α : Type} (f : Data → α) : M α := Prog.read (fun w => f w.eponData.obj)

/-- Change the data context. -/
def modifyData (f : Data → Data) : M Unit :=
  Prog.write (fun w => { w with eponData := { w.eponData with obj := f w.eponData.obj } })

end EponManager
