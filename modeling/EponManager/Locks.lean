import EponManager.Controller.Events
import EponManager.Persistence

/-!
# What each function does to the mutexes

One `Moves` lemma for each function: which mutexes have to be free for it, and that it leaves all of
them as it found them, whatever the HAL, rbus, PSM and the clock answer. The data mutex never has to
be free, because it is recursive.

The two setters of the stats poller have a second lemma. They lock the controller mutex to reach the
configuration, so a thread that holds it already blocks for ever (`setEnabled_faults`,
`setInterval_faults`).
-/

namespace EponManager

open Lib
open Lib.Prog (Moves Faults)

/-- The global pointers, and the controller's pointers to its configuration and its poller, are
set. -/
structure Initialised (w : World) : Prop where
  eponData : w.eponData.isSet
  controller : w.controller.isSet
  config : w.controller.obj.config.isSet
  statsPoller : w.controller.obj.statsPoller.isSet

/-- Everything is in place with the default settings and rbus is open; the lists are empty, and PSM
holds no record. -/
def World.ready : World :=
  { World.boot (fun _ => none) with
    eponData := ⟨true, Data.zero⟩
    controller := ⟨true, ⟨⟨true, Persistence.initDefaults⟩, ⟨true, ⟨false, 900, false, false⟩⟩⟩⟩
    rbusInitialized := true }

/-- The state after start-up is one: the hypotheses of the module are met. -/
theorem World.ready_initialised : Initialised World.ready := ⟨rfl, rfl, rfl, rfl⟩

/-- No mutex that cannot be locked twice is held. -/
def Free (h : Held MutexId) : Prop := ∀ m, Mutexes.kind m = .normal → h m = 0

variable {h : Held MutexId}

/-- Locking the data mutex keeps the others free, so what runs under it may lock them. -/
theorem Free.acquire_data (hf : Free h) : Free (h.acquire .data) := by
  intro m hm
  have hne : m ≠ .data := by
    rintro rfl
    cases hm
  rw [Held.acquire_of_ne h hne]
  exact hf m hm

section Basic

variable {α : Type}

/-! ### The single operations

None of them touches a pointer, so the memory stays initialised, and none of them touches a mutex.
-/

/-- A question to the HAL, to PSM or to the clock, whatever the answer. -/
theorem ask_moves (q : Env → Nat → α) : Moves Initialised (ask q) h h (fun _ => True) :=
  Moves.call (fun _ _ hw => ⟨hw.eponData, hw.controller, hw.config, hw.statsPoller⟩)

theorem emit_moves (e : Effect) : Moves Initialised (emit e) h h (fun _ => True) :=
  Moves.write (fun _ hw => ⟨hw.eponData, hw.controller, hw.config, hw.statsPoller⟩)

theorem read_moves (f : World → α) :
    Moves Initialised (Prog.read f : M α) h h (fun _ => True) :=
  Moves.read (fun _ _ => trivial)

theorem readData_moves (f : Data → α) : Moves Initialised (readData f) h h (fun _ => True) :=
  read_moves _

/-- What is written to the data sits behind the pointer, which stays set. -/
theorem modifyData_moves (f : Data → Data) :
    Moves Initialised (modifyData f) h h (fun _ => True) :=
  Moves.write (fun _ hw => ⟨hw.eponData, hw.controller, hw.config, hw.statsPoller⟩)

theorem writeTr181_moves (f : Tr181 → Tr181) :
    Moves Initialised (Prog.write (fun w => { w with tr181 := f w.tr181 }) : M Unit) h h
      (fun _ => True) :=
  Moves.write (fun _ hw => ⟨hw.eponData, hw.controller, hw.config, hw.statsPoller⟩)

theorem readController_moves (f : Controller → α) :
    Moves Initialised (readController f) h h (fun _ => True) :=
  read_moves _

theorem modifyConfig_moves (f : Persistence → Persistence) :
    Moves Initialised (modifyController (Controller.modifyConfig f)) h h (fun _ => True) :=
  Moves.write (fun _ hw => ⟨hw.eponData, hw.controller, hw.config, hw.statsPoller⟩)

theorem modifyPoller_moves (f : StatsPoller → StatsPoller) :
    Moves Initialised (modifyController (Controller.modifyPoller f)) h h (fun _ => True) :=
  Moves.write (fun _ hw => ⟨hw.eponData, hw.controller, hw.config, hw.statsPoller⟩)

/-- A program that takes no mutex, between a lock and its unlock. -/
theorem locked_moves {m : MutexId} {body : M α} {R : α → Prop}
    (hm : Mutexes.kind m = .recursive ∨ h m = 0)
    (hbody : Moves Initialised body (h.acquire m) (h.acquire m) R) :
    Moves Initialised (do
      Prog.lock m
      let a ← body
      Prog.unlock m
      return a) h h R :=
  (Moves.lock hm).bind fun _ _ => hbody.bind fun _ ha => Moves.unlock.bind fun _ _ => Moves.pure ha

end Basic

/-! ### Telemetry, caches and lists -/

/-- The flag is read under the telemetry mutex, which is free again when T2 is called. -/
theorem Telemetry.dispatch_moves (ht : h .telemetry = 0) (event : TelemetryEvent)
    (ifname : Option CharBuf) :
    Moves Initialised (Telemetry.dispatch event ifname) h h (fun _ => True) :=
  (Moves.lock (.inr ht)).bind fun _ _ => (read_moves _).bind fun _ _ =>
    Moves.unlock.bind fun _ _ => emit_moves _

theorem StatsData.isStatsValid_moves (timestamp : Int) (ttlSeconds : UInt32) :
    Moves Initialised (StatsData.isStatsValid timestamp ttlSeconds) h h (fun _ => True) :=
  Moves.ite (fun _ => Moves.pure trivial)
    (fun _ => (ask_moves _).bind fun _ _ => Moves.pure trivial)

/-- The statistics are invalidated under their own mutex. -/
theorem StatsData.invalidateAll_moves (hs : h .statsData = 0) :
    Moves Initialised StatsData.invalidateAll h h (fun _ => True) :=
  (Moves.lock (.inr hs)).bind fun _ _ => (modifyData_moves _).bind fun _ _ => Moves.unlock

/-- The status and its time are stored under the mutex of the ONU state. -/
theorem OnuState.updateStatus_moves (ho : h .onuState = 0) (newStatus : OnuStatus) :
    Moves Initialised (OnuState.updateStatus newStatus) h h (fun _ => True) :=
  (Moves.lock (.inr ho)).bind fun _ _ => (ask_moves _).bind fun _ _ =>
    (modifyData_moves _).bind fun _ _ => Moves.unlock

theorem OnuState.invalidateAll_moves (ho : h .onuState = 0) :
    Moves Initialised OnuState.invalidateAll h h (fun _ => True) :=
  (Moves.lock (.inr ho)).bind fun _ _ => (modifyData_moves _).bind fun _ _ => Moves.unlock

namespace Data

/-! ### The getters of cached records

The record is fetched under the data mutex. The slot's own tests run inside, so they must not lock.
-/

/-- A slot takes no mutex. -/
structure Slot.LockFree {kind : CacheKind} (slot : Slot kind) : Prop where
  isValid : ∀ h, Moves Initialised slot.isValid h h (fun _ => True)
  markValid : ∀ h, Moves Initialised slot.markValid h h (fun _ => True)

/-- A slot with a time to live asks the clock, and no more. -/
theorem timedSlot_lockFree (kind : CacheKind) (entry : StatsData → TimedEntry kind.Record)
    (setEntry : TimedEntry kind.Record → StatsData → StatsData) :
    (timedSlot kind entry setEntry).LockFree where
  isValid _ := (readData_moves _).bind fun _ _ => (readData_moves _).bind fun _ _ =>
    Moves.ite (fun _ => StatsData.isStatsValid_moves _ _) (fun _ => Moves.pure trivial)
  markValid _ := (ask_moves _).bind fun _ _ => modifyData_moves _

theorem flaggedSlot_lockFree (kind : CacheKind) (entry : OnuState → FlaggedEntry kind.Record)
    (setEntry : FlaggedEntry kind.Record → OnuState → OnuState) :
    (flaggedSlot kind entry setEntry).LockFree where
  isValid _ := readData_moves (fun d => (entry d.onuState).valid)
  markValid _ := modifyData_moves (flaggedSlot.update kind entry setEntry _)

/-- On each of the three ways out (cached, fetched, failed) the data mutex is given back. -/
theorem getCached_moves {kind : CacheKind} {slot : Slot kind} (hslot : slot.LockFree) :
    Moves Initialised (getCached slot) h h (fun _ => True) := by
  refine (Moves.lock (.inl rfl)).bind fun _ _ => (hslot.isValid _).bind fun cached _ => ?_
  refine Moves.ite (fun _ => ?_) (fun _ => ?_)
  · exact (readData_moves _).bind fun _ _ => Moves.unlock.bind fun _ _ => Moves.pure trivial
  · refine (readData_moves _).bind fun _ _ => (ask_moves _).bind fun _ _ =>
      (modifyData_moves _).bind fun _ _ => (emit_moves _).bind fun _ _ => ?_
    refine Moves.ite (fun _ => ?_) (fun _ => ?_)
    · exact (hslot.markValid _).bind fun _ _ => (readData_moves _).bind fun _ _ =>
        Moves.unlock.bind fun _ _ => Moves.pure trivial
    · exact Moves.unlock.bind fun _ _ => Moves.pure trivial

theorem getLinkStats_moves : Moves Initialised getLinkStats h h (fun _ => True) :=
  getCached_moves (timedSlot_lockFree ..)

theorem getTransceiverStats_moves : Moves Initialised getTransceiverStats h h (fun _ => True) :=
  getCached_moves (timedSlot_lockFree ..)

theorem getOltInfo_moves : Moves Initialised getOltInfo h h (fun _ => True) :=
  getCached_moves (flaggedSlot_lockFree ..)

theorem getOnuManufacturerInfo_moves :
    Moves Initialised getOnuManufacturerInfo h h (fun _ => True) :=
  getCached_moves (flaggedSlot_lockFree ..)

theorem getLinkInfo_moves : Moves Initialised getLinkInfo h h (fun _ => True) :=
  getCached_moves (flaggedSlot_lockFree ..)

/-! ### The commands to the ONU -/

/-- The statistics are invalidated inside the data mutex: two mutexes at once. -/
theorem clearStats_moves (hs : h .statsData = 0) :
    Moves Initialised clearStats h h (fun _ => True) := by
  refine (read_moves _).bind fun _ _ => Moves.ite (fun _ => ?_) (fun _ => Moves.pure trivial)
  refine (ask_moves _).bind fun _ _ => (emit_moves _).bind fun _ _ => ?_
  refine Moves.ite (fun _ => ?_) (fun _ => Moves.pure trivial)
  have hs' : h.acquire MutexId.data .statsData = 0 := by simpa using hs
  exact (Moves.lock (.inl rfl)).bind fun _ _ => (StatsData.invalidateAll_moves hs').bind fun _ _ =>
    Moves.unlock.bind fun _ _ => Moves.pure trivial

/-- The event is raised after the HAL has answered, with no mutex held. -/
theorem resetOnu_moves (ht : h .telemetry = 0) :
    Moves Initialised resetOnu h h (fun _ => True) := by
  refine (read_moves _).bind fun _ _ => Moves.ite (fun _ => ?_) (fun _ => Moves.pure trivial)
  refine (ask_moves _).bind fun _ _ => (emit_moves _).bind fun _ _ => ?_
  refine Moves.ite (fun _ => ?_) (fun _ => Moves.pure trivial)
  exact (Telemetry.dispatch_moves ht _ _).bind fun _ _ => Moves.pure trivial

theorem factoryReset_moves (hf : Free h) :
    Moves Initialised factoryReset h h (fun _ => True) := by
  refine (read_moves _).bind fun _ _ => Moves.ite (fun _ => ?_) (fun _ => Moves.pure trivial)
  refine (ask_moves _).bind fun _ _ => (emit_moves _).bind fun _ _ => ?_
  refine Moves.ite (fun _ => ?_) (fun _ => Moves.pure trivial)
  have hs : h.acquire MutexId.data .statsData = 0 := hf.acquire_data _ rfl
  exact (Moves.lock (.inl rfl)).bind fun _ _ => (StatsData.invalidateAll_moves hs).bind fun _ _ =>
    Moves.unlock.bind fun _ _ => (Telemetry.dispatch_moves (hf _ rfl) _ _).bind fun _ _ =>
    Moves.pure trivial

/-- The two halves are invalidated one after the other, inside the data mutex. -/
theorem invalidateCache_moves (hf : Free h) :
    Moves Initialised invalidateCache h h (fun _ => True) := by
  have hs : h.acquire MutexId.data .statsData = 0 := hf.acquire_data _ rfl
  have ho : h.acquire MutexId.data .onuState = 0 := hf.acquire_data _ rfl
  exact (Moves.lock (.inl rfl)).bind fun _ _ => (StatsData.invalidateAll_moves hs).bind fun _ _ =>
    (OnuState.invalidateAll_moves ho).bind fun _ _ => (modifyData_moves _).bind fun _ _ =>
    Moves.unlock

/-! ### The accessors of the lists -/

/-- Once initialised, `eponMgr_data_lock` takes the data mutex. -/
theorem lock_moves :
    Moves Initialised Data.lock h (h.acquire .data) (fun locked => locked = true) := by
  refine Moves.bind (Moves.read (R := fun b => b = true) fun _ hw => hw.eponData)
    fun global hglobal => ?_
  exact Moves.ite (fun _ => (Moves.lock (.inl rfl)).bind fun _ _ => Moves.pure rfl)
    (fun hnot => absurd hglobal hnot)

theorem unlock_moves : Moves Initialised Data.unlock (h.acquire .data) h (fun _ => True) := by
  refine Moves.bind (Moves.read (R := fun b => b = true) fun _ hw => hw.eponData)
    fun global hglobal => ?_
  exact Moves.ite (fun _ => Moves.unlock) (fun hnot => absurd hglobal hnot)

theorem getAtIndex_moves {α : Type} (entry : Data → UInt32 → Option α) (index : UInt32) :
    Moves Initialised (getAtIndex entry index) h h (fun _ => True) :=
  locked_moves (.inl rfl) (readData_moves _)

theorem getInterfaceByName_moves (limits : HalLimits) (name : CharBuf) :
    Moves Initialised (getInterfaceByName limits name) h h (fun _ => True) :=
  locked_moves (.inl rfl) (readData_moves _)

end Data

namespace Tr181

/-- Whether a row is registered, refused or was there before, the loop comes back to the next row
with the mutexes as they were. -/
theorem syncTable_moves {α : Type} (table : Table) (count : Data → UInt32)
    {atIndex : UInt32 → M (Option α)} (record : α → Nat → Tr181 → Tr181)
    (hat : ∀ h i, Moves Initialised (atIndex i) h h (fun _ => True)) :
    Moves Initialised (syncTable table count atIndex record) h h (fun _ => True) := by
  refine (read_moves _).bind fun _ _ => Moves.ite (fun _ => ?_) (fun _ => Moves.pure trivial)
  refine Data.lock_moves.bind fun locked hlocked => ?_
  -- the lock cannot have failed, so the branch that returns early is not taken
  rw [hlocked, if_pos rfl]
  refine (readData_moves _).bind fun _ _ => Moves.bind (Moves.forEach fun i => ?_) fun _ _ =>
    Data.unlock_moves.bind fun _ _ => Moves.pure trivial
  refine (read_moves _).bind fun _ _ => Moves.ite (fun _ => Moves.pure trivial) (fun _ => ?_)
  refine (hat _ _).bind fun info _ => ?_
  cases info with
  | none => exact Moves.pure trivial
  | some info =>
      exact (ask_moves _).bind fun _ _ => (emit_moves _).bind fun _ _ =>
        Moves.ite (fun _ => writeTr181_moves (fun t => setRegistered table i (record info i t)))
          (fun _ => Moves.pure trivial)

theorem syncLlidTable_moves : Moves Initialised syncLlidTable h h (fun _ => True) :=
  syncTable_moves _ _ _ (fun _ _ => Data.getAtIndex_moves _ _)

theorem syncCpeTable_moves : Moves Initialised syncCpeTable h h (fun _ => True) :=
  syncTable_moves _ _ _ (fun _ _ => Data.getAtIndex_moves _ _)

theorem syncVeipTable_moves : Moves Initialised syncVeipTable h h (fun _ => True) :=
  syncTable_moves _ _ _ (fun _ _ => Data.getAtIndex_moves _ _)

end Tr181

namespace Data

/-! ### The refreshes of the lists -/

/-- The end of the three refreshes: if the length changed, remember it and sync the table, which is
done after the mutex is released. -/
theorem afterRefresh_moves {changed : Data → Bool} {remember : Data → Data} {sync : M Int}
    (hsync : Moves Initialised sync h h (fun _ => True)) :
    Moves Initialised (do
      let c ← readData changed
      if c then
        modifyData remember
        Prog.unlock .data
        let _ ← sync
        return true
      else
        Prog.unlock .data
        return true) (h.acquire .data) h (fun _ => True) := by
  refine (readData_moves _).bind fun _ _ => Moves.ite (fun _ => ?_) (fun _ => ?_)
  · exact (modifyData_moves _).bind fun _ _ => Moves.unlock.bind fun _ _ =>
      hsync.bind fun _ _ => Moves.pure trivial
  · exact Moves.unlock.bind fun _ _ => Moves.pure trivial

/-- The HAL fills the list inside the critical section; the rows are synced after it. -/
theorem getInterfaceList_moves : Moves Initialised getInterfaceList h h (fun _ => True) :=
  (Moves.lock (.inl rfl)).bind fun _ _ => (readData_moves _).bind fun _ _ =>
    (ask_moves _).bind fun _ _ => (modifyData_moves _).bind fun _ _ =>
      (emit_moves _).bind fun _ _ =>
    Moves.ite (fun _ => afterRefresh_moves Tr181.syncVeipTable_moves)
      (fun _ => Moves.unlock.bind fun _ _ => Moves.pure trivial)

/-- The length is zeroed before the HAL is asked, and on a failure it stays so. -/
theorem getLlidInfo_moves : Moves Initialised getLlidInfo h h (fun _ => True) :=
  (Moves.lock (.inl rfl)).bind fun _ _ => (modifyData_moves _).bind fun _ _ =>
    (readData_moves _).bind fun _ _ => (ask_moves _).bind fun _ _ =>
    (modifyData_moves _).bind fun _ _ =>
    Moves.ite (fun _ => afterRefresh_moves Tr181.syncLlidTable_moves)
      (fun _ => Moves.unlock.bind fun _ _ => Moves.pure trivial)

/-- The list of the CPE MACs is refreshed in the same way. -/
theorem getCpeMacTable_moves : Moves Initialised getCpeMacTable h h (fun _ => True) :=
  (Moves.lock (.inl rfl)).bind fun _ _ => (modifyData_moves _).bind fun _ _ =>
    (readData_moves _).bind fun _ _ => (ask_moves _).bind fun _ _ =>
    (modifyData_moves _).bind fun _ _ =>
    Moves.ite (fun _ => afterRefresh_moves Tr181.syncCpeTable_moves)
      (fun _ => Moves.unlock.bind fun _ _ => Moves.pure trivial)

end Data

/-! ### WanManager -/

namespace WanManager

/-- The search ends at the first interface that is EPON's, or at the end of the table. -/
theorem discoverFrom_moves (is : List Int) :
    Moves Initialised (discoverFrom is) h h (fun _ => True) := by
  -- a row without an answer, or with a path of another kind, leads to the next row
  induction is with
  | nil => exact Moves.pure trivial
  | cons i is ih =>
      refine (ask_moves _).bind fun baseIf _ => ?_
      cases baseIf with
      | none => exact ih
      | some path =>
          cases path with
          | none => exact ih
          | some path =>
              refine Moves.ite (fun _ => ?_) (fun _ => ih)
              exact (Moves.write fun _ hw => ⟨hw.eponData, hw.controller, hw.config,
                hw.statsPoller⟩).bind fun _ _ => Moves.pure trivial

theorem discoverInterfaceIndex_moves :
    Moves Initialised discoverInterfaceIndex h h (fun _ => True) := by
  refine (read_moves _).bind fun _ _ => Moves.ite (fun _ => Moves.pure trivial) (fun _ => ?_)
  refine (read_moves _).bind fun _ _ => Moves.ite (fun _ => ?_) (fun _ => Moves.pure trivial)
  refine (ask_moves _).bind fun count _ => ?_
  cases count with
  | none => exact Moves.pure trivial
  | some count => exact discoverFrom_moves _

/-- A set is one call, whether it succeeds or fails. -/
theorem rbusSet_moves (param : WanParam) (value : WanValue) :
    Moves Initialised (rbusSet param value) h h (fun _ => True) :=
  (ask_moves _).bind fun _ _ => (emit_moves _).bind fun _ _ => Moves.pure trivial

theorem notifyPhyStatus_moves (phyUp : Bool) :
    Moves Initialised (notifyPhyStatus phyUp) h h (fun _ => True) := by
  refine (emit_moves _).bind fun _ _ => discoverInterfaceIndex_moves.bind fun _ _ =>
    Moves.ite (fun _ => Moves.pure trivial) (fun _ => ?_)
  exact (read_moves _).bind fun _ _ => Moves.ite
    (fun _ => (rbusSet_moves _ _).bind fun _ _ => Moves.pure trivial) (fun _ => Moves.pure trivial)

/-- The search among the virtual interfaces ends at the first of that name. -/
theorem updateFrom_moves (index : Int) (interfaceName : CharBuf) (isUp : Bool) (js : List Int) :
    Moves Initialised (updateFrom index interfaceName isUp js) h h (fun _ => True) := by
  induction js with
  | nil => exact Moves.pure trivial
  | cons j js ih =>
      refine (ask_moves _).bind fun name _ => ?_
      cases name with
      | none => exact ih
      | some name =>
          cases name with
          | none => exact ih
          | some name =>
              exact Moves.ite (fun _ => (rbusSet_moves _ _).bind fun _ _ => Moves.pure trivial)
                (fun _ => ih)

theorem updateVirtualInterface_moves (interfaceName : CharBuf) (isUp : Bool) :
    Moves Initialised (updateVirtualInterface interfaceName isUp) h h (fun _ => True) := by
  refine discoverInterfaceIndex_moves.bind fun _ _ =>
    Moves.ite (fun _ => Moves.pure trivial) (fun _ => ?_)
  refine (read_moves _).bind fun _ _ => Moves.ite (fun _ => ?_) (fun _ => Moves.pure trivial)
  refine (ask_moves _).bind fun count _ => ?_
  cases count with
  | none => exact Moves.pure trivial
  | some count => exact updateFrom_moves _ _ _ _

end WanManager

/-! ### Queued events -/

namespace Controller

theorem reportFailure_moves (ht : h .telemetry = 0) (rc : Int) :
    Moves Initialised (reportFailure rc) h h (fun _ => True) :=
  Moves.ite (fun _ => Telemetry.dispatch_moves ht _ _) (fun _ => Moves.pure trivial)

theorem processOnuStatusEvent_moves (hf : Free h) (status : OnuStatus) :
    Moves Initialised (processOnuStatusEvent status) h h (fun _ => True) := by
  refine (OnuState.updateStatus_moves (hf _ rfl) status).bind fun _ _ => ?_
  cases statusEvent status with
  | none => exact Moves.pure trivial
  | some event => exact Telemetry.dispatch_moves (hf _ rfl) _ _

theorem announceInterface_moves (ht : h .telemetry = 0) (info : InterfaceInfo) :
    Moves Initialised (announceInterface info) h h (fun _ => True) :=
  (WanManager.updateVirtualInterface_moves _ _).bind fun _ _ =>
    (reportFailure_moves ht _).bind fun _ _ => Telemetry.dispatch_moves ht _ _

theorem announcePhy_moves (ht : h .telemetry = 0) (phyIsUp : Bool) :
    Moves Initialised (announcePhy phyIsUp) h h (fun _ => True) :=
  (WanManager.notifyPhyStatus_moves _).bind fun _ _ =>
    (reportFailure_moves ht _).bind fun _ _ => Telemetry.dispatch_moves ht _ _

theorem syncIfCountChanged_moves (ht : h .telemetry = 0) :
    Moves Initialised syncIfCountChanged h h (fun _ => True) := by
  refine (readData_moves _).bind fun _ _ => Moves.ite (fun _ => ?_) (fun _ => Moves.pure trivial)
  exact Tr181.syncVeipTable_moves.bind fun _ _ => (reportFailure_moves ht _).bind fun _ _ =>
    modifyData_moves _

theorem processInterfaceStatusEvent_moves (hf : Free h) (limits : HalLimits)
    (info : InterfaceInfo) :
    Moves Initialised (processInterfaceStatusEvent limits info) h h (fun _ => True) :=
  (modifyData_moves _).bind fun _ _ => (announceInterface_moves (hf _ rfl) info).bind fun _ _ =>
    (readData_moves _).bind fun _ _ => (announcePhy_moves (hf _ rfl) _).bind fun _ _ =>
    syncIfCountChanged_moves (hf _ rfl)

/-- Processing an event never blocks the controller's thread on a mutex of its own. -/
theorem processEvent_moves (hf : Free h) (limits : HalLimits) (event : Event) :
    Moves Initialised (processEvent limits event) h h (fun _ => True) := by
  cases event with
  | onuStatus status => exact processOnuStatusEvent_moves hf status
  | interfaceStatus info => exact processInterfaceStatusEvent_moves hf limits info
  | alarm info =>
      show Moves Initialised (Telemetry.raiseAlarm info) h h (fun _ => True)
      rw [Telemetry.raiseAlarm]
      cases Telemetry.mapAlarm info with
      | none => exact Moves.pure trivial
      | some event => exact Telemetry.dispatch_moves (hf _ rfl) _ _

end Controller

/-! ### Configuration -/

theorem Psm.setString_moves (ht : h .telemetry = 0) (param value : String) :
    Moves Initialised (Psm.setString param value) h h (fun _ => True) := by
  refine (read_moves _).bind fun _ _ => Moves.ite (fun _ => ?_) (fun _ => Moves.pure trivial)
  refine (ask_moves _).bind fun _ _ => (emit_moves _).bind fun _ _ =>
    Moves.ite (fun _ => ?_) (fun _ => ?_)
  · exact (Moves.write fun _ hw => ⟨hw.eponData, hw.controller, hw.config, hw.statsPoller⟩).bind
      fun _ _ => Moves.pure trivial
  · exact (Telemetry.dispatch_moves ht _ _).bind fun _ _ => Moves.pure trivial

/-- The four records are written in turn; the first failure ends it, with no mutex held. -/
theorem Persistence.save_moves (ht : h .telemetry = 0) (config : Persistence) :
    Moves Initialised config.save h h (fun _ => True) := by
  refine (Psm.setString_moves ht _ _).bind fun _ _ => Moves.ite (fun _ => Moves.pure trivial)
    (fun _ => ?_)
  refine (Psm.setString_moves ht _ _).bind fun _ _ => Moves.ite (fun _ => Moves.pure trivial)
    (fun _ => ?_)
  refine (Psm.setString_moves ht _ _).bind fun _ _ => Moves.ite (fun _ => Moves.pure trivial)
    (fun _ => ?_)
  exact (Psm.setString_moves ht _ _).bind fun _ _ => Moves.ite (fun _ => Moves.pure trivial)
    (fun _ => Moves.pure trivial)

namespace Controller

/-! ### The accessors of the controller

`eponMgr_controller_lock_and_get_*` returns with the mutex locked, and `eponMgr_controller_unlock`
belongs to it. The mutex is a normal one.
-/

/-- Once initialised, the accessors take the controller mutex. -/
theorem lockAndGet_moves (hc : h .controller = 0) {pointer : Controller → Bool}
    (hset : ∀ w, Initialised w → pointer w.controller.obj = true) :
    Moves Initialised (lockAndGet pointer) h (h.acquire .controller) (fun b => b = true) := by
  refine Moves.bind (Moves.read (R := fun b => b = true) fun _ hw => hw.controller)
    fun global hglobal => Moves.ite (fun _ => ?_) (fun hnot => absurd hglobal hnot)
  exact (Moves.lock (.inr hc)).bind fun _ _ => Moves.read hset

theorem unlock_moves :
    Moves Initialised Controller.unlock (h.acquire .controller) h (fun _ => True) := by
  refine Moves.bind (Moves.read (R := fun b => b = true) fun _ hw => hw.controller)
    fun global hglobal => ?_
  exact Moves.ite (fun _ => Moves.unlock) (fun hnot => absurd hglobal hnot)

/-- A thread that holds the controller mutex and calls an accessor waits for itself. -/
theorem lockAndGet_faults (hc : 0 < h .controller) (pointer : Controller → Bool) :
    Faults Initialised (lockAndGet pointer) h (.selfDeadlock .controller) := by
  refine Faults.bind_right (Moves.read (R := fun b => b = true) fun _ hw => hw.controller)
    fun global hglobal => Faults.ite (fun _ => ?_) (fun hnot => absurd hglobal hnot)
  exact Faults.bind_left (Faults.lock rfl hc)

end Controller

namespace StatsPoller

/-! ### The calls of the stats poller -/

theorem isRunning_moves (hp : h .poller = 0) :
    Moves Initialised isRunning h h (fun _ => True) :=
  locked_moves (.inr hp) (readController_moves _)

/-- The flag is cleared under the poller's mutex; the join happens after it is released. -/
theorem stop_moves (hp : h .poller = 0) : Moves Initialised stop h h (fun _ => True) :=
  (Moves.lock (.inr hp)).bind fun _ _ => (readController_moves _).bind fun _ _ =>
    Moves.ite (fun _ => (modifyPoller_moves _).bind fun _ _ => Moves.unlock.bind fun _ _ =>
      modifyPoller_moves _) (fun _ => Moves.unlock)

/-- The new setting is stored and saved under the controller mutex, and given back on both ways out.
-/
theorem persist_moves (hc : h .controller = 0) (ht : h .telemetry = 0)
    (setField : Persistence → Persistence) :
    Moves Initialised (persist setField) h h (fun _ => True) := by
  refine (Controller.lockAndGet_moves hc fun _ hw => hw.config).bind fun config hconfig => ?_
  rw [hconfig, if_pos rfl]
  -- the saves raise telemetry on a failure, so its mutex must be free here too
  have ht' : h.acquire MutexId.controller .telemetry = 0 := by simpa using ht
  refine (modifyConfig_moves _).bind fun _ _ => (readController_moves _).bind fun _ _ =>
    (Persistence.save_moves ht' _).bind fun _ _ => ?_
  exact Moves.ite (fun _ => Controller.unlock_moves.bind fun _ _ => Moves.pure trivial)
    (fun _ => Controller.unlock_moves.bind fun _ _ => Moves.pure trivial)

/-- A setter called with the controller mutex free. -/
theorem setEnabled_moves (hp : h .poller = 0) (hc : h .controller = 0) (ht : h .telemetry = 0)
    (enabled : Bool) : Moves Initialised (setEnabled enabled) h h (fun _ => True) :=
  (Moves.lock (.inr hp)).bind fun _ _ => (modifyPoller_moves _).bind fun _ _ =>
    Moves.unlock.bind fun _ _ => persist_moves hc ht _

/-- The other setter, whose interval 0 is refused before any mutex is locked. -/
theorem setInterval_moves (hp : h .poller = 0) (hc : h .controller = 0) (ht : h .telemetry = 0)
    (intervalSeconds : UInt32) :
    Moves Initialised (setInterval intervalSeconds) h h (fun _ => True) :=
  Moves.ite (fun _ => Moves.pure trivial) fun _ => (Moves.lock (.inr hp)).bind fun _ _ =>
    (modifyPoller_moves _).bind fun _ _ => Moves.unlock.bind fun _ _ => persist_moves hc ht _

/-- **A setter called by a thread that holds the controller mutex blocks for ever.** -/
theorem setEnabled_faults (hp : h .poller = 0) (hc : 0 < h .controller) (enabled : Bool) :
    Faults Initialised (setEnabled enabled) h (.selfDeadlock .controller) :=
  Faults.bind_right (Moves.lock (.inr hp)) fun _ _ => Faults.bind_right (modifyPoller_moves _)
    fun _ _ => Faults.bind_right Moves.unlock fun _ _ =>
    Faults.bind_left (Controller.lockAndGet_faults hc _)

/-- The other setter blocks as well, unless it refuses the interval first. -/
theorem setInterval_faults (hp : h .poller = 0) (hc : 0 < h .controller) {interval : UInt32}
    (hne : interval ≠ 0) :
    Faults Initialised (setInterval interval) h (.selfDeadlock .controller) := by
  rw [setInterval, if_neg hne]
  exact Faults.bind_right (Moves.lock (.inr hp)) fun _ _ => Faults.bind_right (modifyPoller_moves _)
    fun _ _ => Faults.bind_right Moves.unlock fun _ _ =>
    Faults.bind_left (Controller.lockAndGet_faults hc _)

end StatsPoller

end EponManager
