import EponManager.Lib.Ledger

/-!
# What start-up acquires and shutdown releases

`eponMgr_controller_init` takes two dozen resources one after another: memory, mutexes and condition
variables, the logger, the connection to rbus, the data elements registered there, and the HAL. Its
error path gives only some of them back; `eponMgr_controller_destroy` gives back all.

* `Resource` are the resources, `Startup` says which calls succeed, and `Fields` are the pointers
  and flags that the functions test before they release something.
* `init_eq` says for every outcome of every call what `eponMgr_controller_init` leaves held, by the
  stages that `eponMgr_controller_init` consists of (`stages_sound`).
* `Running` is kept by the refreshes of the lists that the HAL allocates, and `Running.destroy_eq`
  is the shutdown.
* `main_releases_iff` is about the process: when everything has been released at its end.
-/

namespace EponManager.Resources

open Lib
open Lib.Owner

inductive Resource where
  /-- the memory of `eponMgr_controller_t`, its two mutexes and its condition variable -/
  | ctrl | ctrlMutex | eventMutex | eventCond
  | logger
  /-- `rbus_open`, and `rbus_regDataElements` -/
  | rbus | elements
  | config
  /-- the memory of `eponMgr_queue_t`, its events and its mutex -/
  | queue | queueEvents | queueMutex
  /-- the memory of `eponMgr_data_t` and its mutex -/
  | data | dataMutex
  | statsData | statsMutex
  | onuState | onuMutex
  /-- the arrays that the HAL allocates -/
  | llidList | cpeList
  /-- `epon_hal_init` -/
  | hal
  /-- the memory of `eponMgr_stats_poller_t`, its mutex and its condition variable -/
  | poller | pollerMutex | pollerCond
  /-- `eponMgr_telemetry_init` -/
  | telemetry
  deriving DecidableEq, Repr

/-- The outcome of the calls that start-up makes: whether the call that acquires a resource
succeeds, and whether the HAL's major version is the expected one. -/
structure Startup where
  ok : Resource → Bool
  sameVersion : Bool

/-- The pointers and flags that are tested. -/
structure Fields where
  /-- `g_rbus_initialized` and `g_param_count` -/
  rbusOpen : Bool
  paramCount : Nat
  /-- of the controller -/
  loggerInitialized : Bool
  rbusInitialized : Bool
  config : Bool
  eventQueue : Bool
  data : Bool
  statsPoller : Bool
  /-- of the data context -/
  halInitialized : Bool
  statsData : Bool
  onuState : Bool
  llidList : Bool
  cpeList : Bool
  deriving DecidableEq, Repr

/-- Nothing is set. -/
def Fields.zero : Fields :=
  ⟨false, 0, false, false, false, false, false, false, false, false, false, false, false⟩

abbrev Own (α : Type) := Owner Resource Fields α

/-! ### Start-up -/

section Init

variable (env : Startup)

/-- Acquire resources, or none of them, and remember it in a pointer or a flag. -/
def takeAndSet (rs : List Resource) (set : Fields → Fields) : Own Bool := do
  let ok ← takeAll env.ok rs []
  if ok then
    modify set
    return true
  else
    return false

/-- The controller's memory, its mutexes and its condition variable. -/
def initSync : Own Bool := takeAll env.ok [.ctrl, .ctrlMutex, .eventMutex, .eventCond] []

/-- `eponMgr_logger_init`, which returns 0. -/
def initLogger : Own Bool := do
  let ok ← acquire true .logger
  modify fun s => { s with loggerInitialized := true }
  return ok

/-- `eponMgr_rbus_init` -/
def initRbus : Own Bool := do
  let initialized ← read Fields.rbusOpen
  if initialized then
    modify fun s => { s with rbusInitialized := true }
    return true
  else
    takeAndSet env [.rbus] fun s => { s with rbusOpen := true, rbusInitialized := true }

/-- `ctrl->config` -/
def allocateConfig : Own Bool := takeAndSet env [.config] fun s => { s with config := true }

/-- `ctrl->event_queue` -/
def allocateQueue : Own Bool := takeAndSet env [.queue] fun s => { s with eventQueue := true }

/-- `eponMgr_queue_init` -/
def initQueue : Own Bool := takeAndSet env [.queueEvents, .queueMutex] id

/-- `ctrl->data` -/
def allocateData : Own Bool := takeAndSet env [.data] fun s => { s with data := true }

/-- `eponMgr_data_init`; the result of the last `pthread_mutex_init` is not looked at. -/
def initData : Own Bool := do
  let ok ← takeAndSet env [.statsData, .statsMutex, .onuState, .onuMutex]
    fun s => { s with statsData := true, onuState := true }
  if ok then
    let _ ← acquire (env.ok .dataMutex) .dataMutex
    return true
  else
    return false

/-- `eponMgr_data_hal_init` -/
def initHal : Own Bool := takeAndSet env [.hal] fun s => { s with halInitialized := true }

/-- The comparison of the major versions. -/
def checkVersion : Own Bool := return env.sameVersion

/-- `ctrl->stats_poller` and `eponMgr_stats_poller_init` -/
def initPoller : Own Bool :=
  takeAndSet env [.poller, .pollerMutex, .pollerCond] fun s => { s with statsPoller := true }

/-- `eponMgr_rbus_register_tr181`; the rows that are registered are the subject of
`EponManager.Tr181`. -/
def registerTr181 : Own Bool := do
  let initialized ← read Fields.rbusOpen
  if initialized then
    modify fun s => { s with paramCount := 76 }
    acquire (env.ok .elements) .elements
  else
    return false

/-- `eponMgr_stats_poller_destroy`, but for the thread, and the `free` after it. -/
def destroyPoller : Own Unit :=
  releaseIf Fields.statsPoller [.pollerCond, .pollerMutex, .poller]

/-- The label `error`. -/
def errorPath : Own Unit := do
  destroyPoller
  releaseIf Fields.config [.config]
  releaseIf Fields.loggerInitialized [.logger]
  releaseAll [.ctrlMutex, .ctrl]

/-- The steps that go to `error` when they fail. -/
def steps : List (Own Bool) :=
  [initLogger, initRbus env, allocateConfig env, allocateQueue env, initQueue env,
    allocateData env, initData env, initHal env, checkVersion env, initPoller env,
    registerTr181 env]

/-- `eponMgr_controller_init`; `false` is `NULL`. -/
def init : Own Bool := do
  let sync ← initSync env
  if sync then
    let ok ← chain (steps env)
    if ok then
      return true
    else
      errorPath
      return false
  else
    return false

end Init

/-! ### The run -/

/-- `eponMgr_data_get_llid_info` and `eponMgr_data_get_cpe_mac_table`: the old array is freed, and
the HAL allocates a new one or does not. -/
inductive Refresh where
  | llid (allocates : Bool)
  | cpe (allocates : Bool)
  deriving DecidableEq, Repr

/-- The body of the two. -/
def refreshList (flag : Fields → Bool) (set : Bool → Fields → Fields) (r : Resource)
    (allocates : Bool) : Own Unit := do
  releaseIf flag [r]
  modify (set false)
  let ok ← acquire allocates r
  modify (set ok)

def refresh : Refresh → Own Unit
  | .llid allocates =>
      refreshList Fields.llidList (fun b s => { s with llidList := b }) .llidList allocates
  | .cpe allocates  =>
      refreshList Fields.cpeList (fun b s => { s with cpeList := b }) .cpeList allocates

def refreshes : List Refresh → Own Unit
  | []      => return ()
  | a :: as => do
      refresh a
      refreshes as

/-! ### Shutdown -/

/-- `eponMgr_rbus_cleanup`, with `eponMgr_tr181_cleanup` -/
def cleanupRbus : Own Unit :=
  ifSet Fields.rbusOpen do
    releaseIf (fun s => s.paramCount ≠ 0) [.elements]
    modify fun s => { s with paramCount := 0 }
    releaseAll [.rbus]
    modify fun s => { s with rbusOpen := false }

/-- `eponMgr_data_destroy`, and the `free` after it. -/
def destroyData : Own Unit := do
  releaseIf Fields.onuState [.onuMutex, .onuState]
  releaseIf Fields.llidList [.llidList]
  releaseIf Fields.cpeList [.cpeList]
  releaseIf Fields.statsData [.statsMutex, .statsData]
  releaseAll [.dataMutex, .data]

/-- `eponMgr_controller_destroy` -/
def destroy : Own Unit := do
  ifSet Fields.rbusInitialized cleanupRbus
  destroyPoller
  releaseIf (fun s => s.data && s.halInitialized) [.hal]
  ifSet Fields.data destroyData
  releaseIf Fields.eventQueue [.queueMutex, .queueEvents, .queue]
  releaseIf Fields.config [.config]
  releaseIf Fields.loggerInitialized [.logger]
  releaseAll [.eventCond, .eventMutex, .ctrlMutex, .ctrl]

/-- `main`; the lists are refreshed while the controller runs. -/
def main (env : Startup) (run : List Refresh) : Own Bool := do
  let _ ← acquire true .telemetry
  let controller ← init env
  if controller then
    refreshes run
    destroy
    release .telemetry
    return true
  else
    release .telemetry
    return false

/-! ### The flags mirror the ledger -/

/-- The flag that says whether a resource is held. -/
def flag : Resource → Option (Fields → Bool)
  | .logger                              => some Fields.loggerInitialized
  | .rbus                                => some Fields.rbusOpen
  | .config                              => some Fields.config
  | .queue                               => some Fields.eventQueue
  | .data                                => some Fields.data
  | .statsData | .statsMutex             => some Fields.statsData
  | .onuState | .onuMutex                => some Fields.onuState
  | .llidList                            => some Fields.llidList
  | .cpeList                             => some Fields.cpeList
  | .hal                                 => some Fields.halInitialized
  | .poller | .pollerMutex | .pollerCond => some Fields.statsPoller
  | _                                    => none

/-- **The invariant**: the flags say what is held. -/
structure Mirrors (s : Fields) (h : Finset Resource) : Prop where
  flags : ∀ r f, flag r = some f → (f s = true ↔ r ∈ h)
  rbus : s.rbusInitialized = s.rbusOpen
  elements : .elements ∈ h → s.paramCount ≠ 0

/-- The resources in `taken` are acquired, and their flags are set. -/
theorem Mirrors.take {s s' : Fields} {h taken : Finset Resource} (hs : Mirrors s h)
    (hflags : ∀ r f, flag r = some f → f s' = (f s || decide (r ∈ taken)))
    (hrbus : s'.rbusInitialized = s'.rbusOpen)
    (helements : .elements ∈ taken ∪ h → s'.paramCount ≠ 0) : Mirrors s' (taken ∪ h) where
  flags r f hf := by
    rw [hflags r f hf, Bool.or_eq_true, decide_eq_true_iff, hs.flags r f hf, Finset.mem_union,
      or_comm]
  rbus := hrbus
  elements := helements

section Stages

variable (env : Startup)

/-- A stage that allocates its resources in a row takes all of them or none. -/
theorem takeAndSet_eq {rs : List Resource} (hnodup : rs.Nodup) {h : Finset Resource}
    (hdisjoint : Disjoint rs.toFinset h) (set : Fields → Fields) (s : Fields) :
    takeAndSet env rs set s h = .ok (rs.all env.ok, if rs.all env.ok then set s else s,
      if rs.all env.ok then rs.toFinset ∪ h else h) := by
  rw [takeAndSet, bind_of_ok (takeAll_nil_eq hnodup hdisjoint s)]
  cases rs.all env.ok with
  | false => rfl
  | true => rfl

/-- A stage that takes resources and sets their flags. -/
theorem takeAndSet_sound {rs : List Resource} (hnodup : rs.Nodup) {set : Fields → Fields}
    (hflags : ∀ s r f, flag r = some f → f (set s) = (f s || decide (r ∈ rs)))
    (hrbus : ∀ s, s.rbusInitialized = s.rbusOpen → (set s).rbusInitialized = (set s).rbusOpen)
    (hcount : ∀ s, (set s).paramCount = s.paramCount) (hrs : .elements ∉ rs) :
    Stage.Sound Mirrors ⟨takeAndSet env rs set, rs.all env.ok, ∅, rs.toFinset⟩ := by
  intro s h hs _ hdisjoint
  refine ⟨_, takeAndSet_eq env hnodup hdisjoint set s, ?_⟩
  dsimp only
  cases rs.all env.ok with
  | false => exact hs
  | true =>
      refine hs.take (fun r f hf => ?_) (hrbus s hs.rbus) fun hmem => ?_
      · rw [if_pos rfl, hflags s r f hf]
        simp
      · rw [if_pos rfl, hcount]
        rcases Finset.mem_union.mp hmem with htaken | hold
        · exact absurd (List.mem_toFinset.mp htaken) hrs
        · exact hs.elements hold

/-! ### The stages of `eponMgr_controller_init`

Each stage is sound: it succeeds exactly when its own calls do, and then takes exactly its own
resources.
-/

theorem allocateConfig_sound : Stage.Sound Mirrors
    ⟨allocateConfig env, [.config].all env.ok, ∅, [Resource.config].toFinset⟩ := by
  refine takeAndSet_sound env (by decide) (fun s r f hf => ?_) (fun s h => h) (fun s => rfl)
    (by decide)
  cases r <;> cases hf <;> simp

theorem allocateQueue_sound : Stage.Sound Mirrors
    ⟨allocateQueue env, [.queue].all env.ok, ∅, [Resource.queue].toFinset⟩ := by
  refine takeAndSet_sound env (by decide) (fun s r f hf => ?_) (fun s h => h) (fun s => rfl)
    (by decide)
  cases r <;> cases hf <;> simp

/-- The queue needs its block of events and a mutex. -/
theorem initQueue_sound : Stage.Sound Mirrors ⟨initQueue env,
    [.queueEvents, .queueMutex].all env.ok, ∅, [Resource.queueEvents, .queueMutex].toFinset⟩ := by
  refine takeAndSet_sound env (by decide) (fun s r f hf => ?_) (fun s h => h) (fun s => rfl)
    (by decide)
  cases r <;> cases hf <;> simp

theorem allocateData_sound : Stage.Sound Mirrors
    ⟨allocateData env, [.data].all env.ok, ∅, [Resource.data].toFinset⟩ := by
  refine takeAndSet_sound env (by decide) (fun s r f hf => ?_) (fun s h => h) (fun s => rfl)
    (by decide)
  cases r <;> cases hf <;> simp

theorem initHal_sound : Stage.Sound Mirrors
    ⟨initHal env, [.hal].all env.ok, ∅, [Resource.hal].toFinset⟩ := by
  refine takeAndSet_sound env (by decide) (fun s r f hf => ?_) (fun s h => h) (fun s => rfl)
    (by decide)
  cases r <;> cases hf <;> simp

/-- The poller needs a mutex and a condition variable. -/
theorem initPoller_sound : Stage.Sound Mirrors ⟨initPoller env,
    [.poller, .pollerMutex, .pollerCond].all env.ok, ∅,
    [Resource.poller, .pollerMutex, .pollerCond].toFinset⟩ := by
  refine takeAndSet_sound env (by decide) (fun s r f hf => ?_) (fun s h => h) (fun s => rfl)
    (by decide)
  cases r <;> cases hf <;> simp

/-- A version check that fails takes nothing. -/
theorem checkVersion_sound : Stage.Sound Mirrors ⟨checkVersion env, env.sameVersion, ∅, ∅⟩ := by
  intro s h hs _ _
  dsimp only
  rw [Finset.empty_union, ite_self]
  exact ⟨s, rfl, hs⟩

/-- The logger cannot fail. -/
theorem initLogger_sound : Stage.Sound Mirrors ⟨initLogger, true, ∅, {.logger}⟩ := by
  intro s h hs _ hdisjoint
  have hnew : Resource.logger ∉ h := Finset.disjoint_singleton_left.mp hdisjoint
  have hcall : acquire true Resource.logger s h = .ok (true, s, _) := acquire_of_notMem hnew true s
  dsimp only
  rw [initLogger, bind_of_ok hcall]
  refine ⟨{ s with loggerInitialized := true }, rfl, hs.take (fun r f hf => ?_) hs.rbus
    fun hmem => hs.elements ?_⟩
  · cases r <;> cases hf <;> simp
  · simpa using hmem

theorem initRbus_sound : Stage.Sound Mirrors
    ⟨initRbus env, [.rbus].all env.ok, ∅, [Resource.rbus].toFinset⟩ := by
  intro s h hs hneeds hdisjoint
  have hnew : Resource.rbus ∉ h := Finset.disjoint_singleton_left.mp hdisjoint
  have hclosed : s.rbusOpen = false :=
    Bool.eq_false_iff.mpr fun hopen => hnew ((hs.flags .rbus _ rfl).mp hopen)
  have hread : read Fields.rbusOpen s h = .ok (s.rbusOpen, s, h) := rfl
  have hsound : Stage.Sound Mirrors ⟨takeAndSet env [.rbus]
      fun s => { s with rbusOpen := true, rbusInitialized := true }, [.rbus].all env.ok, ∅,
      [Resource.rbus].toFinset⟩ := by
    refine takeAndSet_sound env (by decide) (fun s r f hf => ?_) (fun s h => rfl) (fun s => rfl)
      (by decide)
    cases r <;> cases hf <;> simp
  obtain ⟨s', hrun, hs'⟩ := hsound s h hs hneeds hdisjoint
  refine ⟨s', ?_, hs'⟩
  dsimp only at hrun ⊢
  rw [initRbus, bind_of_ok hread, hclosed]
  exact hrun

/-- What `eponMgr_data_init` takes: the last mutex is not checked. -/
def dataParts : Finset Resource :=
  [Resource.statsData, .statsMutex, .onuState, .onuMutex].toFinset ∪
    if env.ok .dataMutex then {.dataMutex} else ∅

/-- The parts of the data. Its mutex may be missing: that failure is not looked at. -/
theorem initData_sound : Stage.Sound Mirrors ⟨initData env,
    [.statsData, .statsMutex, .onuState, .onuMutex].all env.ok, ∅, dataParts env⟩ := by
  intro s h hs _ hdisjoint
  obtain ⟨hparts, hmutex⟩ := Finset.disjoint_union_left.mp hdisjoint
  dsimp only
  rw [initData, bind_of_ok (takeAndSet_eq env (by decide) hparts _ s)]
  cases hok : [.statsData, .statsMutex, .onuState, .onuMutex].all env.ok with
  | false => exact ⟨s, rfl, hs⟩
  | true =>
      refine ⟨{ s with statsData := true, onuState := true }, ?_, ?_⟩
      · -- the data mutex is not tested, so it is taken or not, and the stage goes on
        have hnew : env.ok .dataMutex = true → Resource.dataMutex ∉
            [Resource.statsData, .statsMutex, .onuState, .onuMutex].toFinset ∪ h := by
          intro hset
          rw [hset, if_pos rfl] at hmutex
          have hdata := Finset.disjoint_singleton_left.mp hmutex
          simp [hdata]
        simp only [if_true, dataParts]
        cases hset : env.ok .dataMutex with
        | false =>
            rw [if_neg nofun, Finset.union_empty]
            rfl
        | true =>
            refine (bind_of_ok (acquire_of_notMem (hnew hset) true _)).trans ?_
            rw [if_pos rfl, if_pos rfl, Finset.union_right_comm, Finset.union_comm _ {_}]
            rfl
      · refine hs.take (fun r f hf => ?_) hs.rbus fun hmem => hs.elements ?_
        · unfold dataParts
          cases r <;> cases hf <;> cases env.ok .dataMutex <;> simp
        · unfold dataParts at hmem
          cases hset : env.ok .dataMutex <;> simpa [hset] using hmem

theorem registerTr181_sound : Stage.Sound Mirrors
    ⟨registerTr181 env, env.ok .elements, {.rbus}, {.elements}⟩ := by
  intro s h hs hneeds hdisjoint
  have hnew : Resource.elements ∉ h := Finset.disjoint_singleton_left.mp hdisjoint
  have hopen : s.rbusOpen = true :=
    (hs.flags .rbus _ rfl).mpr (Finset.singleton_subset_iff.mp hneeds)
  have hread : read Fields.rbusOpen s h = .ok (s.rbusOpen, s, h) := rfl
  have hmodify : modify (fun s : Fields => { s with paramCount := 76 }) s h =
      .ok ((), { s with paramCount := 76 }, h) := rfl
  refine ⟨{ s with paramCount := 76 }, ?_, ?_⟩
  · dsimp only
    rw [registerTr181, bind_of_ok hread]
    show (if s.rbusOpen = true then _ else _ : Own Bool) s h = _
    rw [if_pos hopen, bind_of_ok hmodify, acquire_of_notMem hnew]
    rfl
  · dsimp only
    cases env.ok .elements with
    | false =>
        refine ⟨fun r f hf => ?_, hs.rbus, fun _ => nofun⟩
        have hold := hs.flags r f hf
        cases r <;> cases hf <;> exact hold
    | true =>
        refine hs.take (fun r f hf => ?_) hs.rbus fun _ => nofun
        cases r <;> cases hf <;> simp

/-- The steps that go to `error`, with what they take. -/
def stages : List (Stage Resource Fields) :=
  [⟨initLogger, true, ∅, {.logger}⟩,
    ⟨initRbus env, [.rbus].all env.ok, ∅, [Resource.rbus].toFinset⟩,
    ⟨allocateConfig env, [.config].all env.ok, ∅, [Resource.config].toFinset⟩,
    ⟨allocateQueue env, [.queue].all env.ok, ∅, [Resource.queue].toFinset⟩,
    ⟨initQueue env, [.queueEvents, .queueMutex].all env.ok, ∅,
      [Resource.queueEvents, .queueMutex].toFinset⟩,
    ⟨allocateData env, [.data].all env.ok, ∅, [Resource.data].toFinset⟩,
    ⟨initData env, [.statsData, .statsMutex, .onuState, .onuMutex].all env.ok, ∅, dataParts env⟩,
    ⟨initHal env, [.hal].all env.ok, ∅, [Resource.hal].toFinset⟩,
    ⟨checkVersion env, env.sameVersion, ∅, ∅⟩,
    ⟨initPoller env, [.poller, .pollerMutex, .pollerCond].all env.ok, ∅,
      [Resource.poller, .pollerMutex, .pollerCond].toFinset⟩,
    ⟨registerTr181 env, env.ok .elements, {.rbus}, {.elements}⟩]

/-! ### The stages one after the other -/

/-- The list of the steps is the list of the stages. -/
theorem steps_eq : steps env = (stages env).map Stage.run := rfl

/-- Every stage is sound. -/
theorem stages_sound : ∀ stage ∈ stages env, stage.Sound Mirrors := by
  simp only [stages, List.forall_mem_cons, List.not_mem_nil, false_implies, implies_true, and_true]
  exact ⟨initLogger_sound, initRbus_sound env, allocateConfig_sound env, allocateQueue_sound env,
    initQueue_sound env, allocateData_sound env, initData_sound env, initHal_sound env,
    checkVersion_sound env, initPoller_sound env, registerTr181_sound env⟩

/-! ### The start-up as a whole

The stages fit one behind the other, so the start-up takes what its stages take, up to the first
failure.
-/

/-- What is held when the first of the stages begins. -/
def syncParts : Finset Resource := [Resource.ctrl, .ctrlMutex, .eventMutex, .eventCond].toFinset

/-- **Each stage finds the resources that it needs, and none that it takes.** -/
theorem stages_fit : Fits (syncParts ∪ {.telemetry}) (stages env) := by
  unfold stages syncParts dataParts
  simp only [Fits]
  cases env.ok .dataMutex <;> decide

/-- What the error path gives back. -/
def givenBack : Finset Resource :=
  {.ctrl, .ctrlMutex, .logger, .config, .poller, .pollerMutex, .pollerCond}

/-- The error path releases what its flag says is held. -/
theorem Mirrors.ifHeld {s : Fields} {h : Finset Resource} (hs : Mirrors s h) {f : Fields → Bool}
    {rs : List Resource} (hnodup : rs.Nodup) (hrs : ∀ r ∈ rs, flag r = some f) :
    Releases h s (releaseIf f rs) s rs.toFinset :=
  Releases.ifHeld hnodup fun r hr => hs.flags r f (hrs r hr)

/-- **The error path** gives back what its flags know of, and never what is not held. -/
theorem errorPath_eq {s : Fields} {h : Finset Resource} (hs : Mirrors s h)
    (hctrl : .ctrl ∈ h) (hmutex : .ctrlMutex ∈ h) :
    errorPath s h = .ok ((), s, h \ givenBack) := by
  have hpoller : Releases h s destroyPoller s _ := hs.ifHeld (by decide) (by simp [flag])
  have hconfig : Releases h s (releaseIf Fields.config [.config]) s _ :=
    hs.ifHeld (by decide) (by simp [flag])
  have hlogger : Releases h s (releaseIf Fields.loggerInitialized [.logger]) s _ :=
    hs.ifHeld (by decide) (by simp [flag])
  have hrest : Releases h s (releaseAll [.ctrlMutex, .ctrl]) s _ :=
    Releases.all (by decide) (by simp [hctrl, hmutex]) s
  have hall := hpoller.bind (hconfig.bind (hlogger.bind hrest (by decide)) (by decide)) (by decide)
  have hset : [Resource.pollerCond, .pollerMutex, .poller].toFinset ∪ ([Resource.config].toFinset ∪
      ([Resource.logger].toFinset ∪ [Resource.ctrlMutex, .ctrl].toFinset)) = givenBack := by decide
  rw [hset] at hall
  exact hall.eq

/-- The controller's memory, mutexes and condition variable can be had. -/
def Startup.syncs : Bool := [.ctrl, .ctrlMutex, .eventMutex, .eventCond].all env.ok

/-- All steps succeed. -/
def Startup.starts : Bool := env.syncs && (stages env).all Stage.ok

/-- What `eponMgr_controller_init` leaves held, besides what was held before. -/
def Startup.leaves : Finset Resource :=
  if env.syncs then
    if (stages env).all Stage.ok then taken (stages env) ∪ syncParts
    else (taken (stages env) ∪ syncParts) \ givenBack
  else
    ∅

/-- The telemetry is not the controller's. -/
theorem Startup.telemetry_notMem_leaves : Resource.telemetry ∉ env.leaves := by
  have hstages : Resource.telemetry ∉ taken (stages env) ∪ syncParts := by
    rw [Finset.notMem_union]
    refine ⟨notMem_taken fun stage hstage => ?_, by decide⟩
    revert stage
    simp only [stages, dataParts, List.forall_mem_cons]
    cases env.ok .dataMutex <;> decide
  unfold Startup.leaves
  split_ifs with hsyncs hall
  · exact hstages
  · exact fun hmem => hstages (Finset.mem_sdiff.mp hmem).1
  · exact Finset.notMem_empty _

/-- Once there is a condition variable, a start-up that fails leaves it behind. -/
theorem Startup.syncs_of_leaves (hstarts : env.starts = false) (hleaves : env.leaves = ∅) :
    env.syncs = false := by
  cases hsyncs : env.syncs with
  | false => rfl
  | true =>
      rw [Startup.starts, hsyncs, Bool.true_and] at hstarts
      rw [Startup.leaves, hsyncs, if_pos rfl, hstarts, if_neg nofun] at hleaves
      have hcond : Resource.eventCond ∈ (taken (stages env) ∪ syncParts) \ givenBack :=
        Finset.mem_sdiff.mpr ⟨Finset.mem_union_right _ (by decide), by decide⟩
      rw [hleaves] at hcond
      exact absurd hcond (Finset.notMem_empty _)

theorem mirrors_zero {h : Finset Resource} (hh : ∀ r ∈ h, flag r = none ∧ r ≠ .elements) :
    Mirrors Fields.zero h where
  flags r f hf := by
    have hno : r ∉ h := fun hr => by
      rw [(hh r hr).1] at hf
      cases hf
    have hzero : f Fields.zero = false := by
      cases r <;> cases hf <;> rfl
    simp [hno, hzero]
  rbus := rfl
  elements hr := absurd rfl (hh _ hr).2

/-- **What start-up leaves held**, for every outcome of every call: everything if it succeeds, and
otherwise what the error path does not know of. It never acquires something twice, and never
releases what is not held. -/
theorem init_eq : ∃ s, init env Fields.zero {.telemetry} =
      .ok (env.starts, s, env.leaves ∪ {.telemetry}) ∧
    (env.starts = true → Mirrors s (env.leaves ∪ {.telemetry})) := by
  have hsync : initSync env Fields.zero {.telemetry} = .ok (env.syncs, Fields.zero,
      if env.syncs then syncParts ∪ {.telemetry} else {.telemetry}) :=
    takeAll_nil_eq (by decide) (by decide) Fields.zero
  rw [init, bind_of_ok hsync, Startup.starts, Startup.leaves]
  cases hsyncs : env.syncs with
  | false => exact ⟨Fields.zero, rfl, nofun⟩
  | true =>
      have hmirrors : Mirrors Fields.zero (syncParts ∪ {.telemetry}) :=
        mirrors_zero (by simp [syncParts, flag])
      obtain ⟨s, hchain, hs⟩ := chain_eq (stages_sound env) hmirrors (stages_fit env)
      rw [← steps_eq, ← Finset.union_assoc] at hchain
      rw [← Finset.union_assoc] at hs
      simp only [if_true, Bool.true_and]
      rw [bind_of_ok hchain]
      cases hall : (stages env).all Stage.ok with
      | true => exact ⟨s, rfl, fun _ => hs⟩
      | false =>
          have herror := errorPath_eq hs (by simp [syncParts]) (by simp [syncParts])
          have hkept : (taken (stages env) ∪ syncParts ∪ {.telemetry}) \ givenBack =
              (taken (stages env) ∪ syncParts) \ givenBack ∪ {.telemetry} := by
            rw [Finset.union_sdiff_distrib]
            rfl
          rw [hkept] at herror
          simp only [Bool.false_eq_true, if_false]
          exact ⟨s, bind_of_ok herror, nofun⟩

end Stages

/-! ### What the run keeps -/

/-- What is held as long as the controller runs, besides the HAL's arrays and the mutex whose
initialisation is not checked. -/
def coreParts : Finset Resource :=
  {.ctrl, .ctrlMutex, .eventMutex, .eventCond, .logger, .rbus, .elements, .config, .queue,
    .queueEvents, .queueMutex, .data, .statsData, .statsMutex, .onuState, .onuMutex, .hal, .poller,
    .pollerMutex, .pollerCond, .telemetry}

/-- The controller runs; the last mutex of the data context was initialised if `dataMutex`. -/
structure Running (dataMutex : Bool) (s : Fields) (h : Finset Resource) : Prop where
  mirrors : Mirrors s h
  core : coreParts ⊆ h
  dataMutex : .dataMutex ∈ h ↔ dataMutex = true

/-- After a start-up that succeeds, everything is held that the run relies on. -/
theorem running_of_starts {env : Startup} (hstarts : env.starts = true) {s : Fields}
    (hs : Mirrors s (env.leaves ∪ {.telemetry})) :
    Running (env.ok .dataMutex) s (env.leaves ∪ {.telemetry}) := by
  obtain ⟨hsyncs, hall⟩ := Bool.and_eq_true_iff.mp hstarts
  rw [Startup.leaves, hsyncs, if_pos rfl, hall, if_pos rfl, taken_of_all hall] at hs ⊢
  refine ⟨hs, ?_, ?_⟩
  · simp only [stages, dataParts, syncParts, List.foldr_cons, List.foldr_nil]
    cases env.ok .dataMutex <;> decide
  · simp only [stages, dataParts, syncParts, List.foldr_cons, List.foldr_nil]
    cases env.ok .dataMutex <;> decide

/-- The refresh of a list: its array is replaced, or it has none any more. -/
theorem Running.refreshList {dataMutex : Bool} {s : Fields} {h : Finset Resource}
    (hs : Running dataMutex s h) {r : Resource} {f : Fields → Bool} (hr : flag r = some f)
    (hcore : r ∉ coreParts) (hmutex : r ≠ .dataMutex) {set : Bool → Fields → Fields}
    (hset : ∀ b s, f (set b s) = b)
    (hother : ∀ b s r' f', r' ≠ r → flag r' = some f' → f' (set b s) = f' s)
    (hrest : ∀ b s, (set b s).rbusInitialized = s.rbusInitialized ∧
      (set b s).rbusOpen = s.rbusOpen ∧ (set b s).paramCount = s.paramCount)
    (allocates : Bool) :
    ∃ s' h', refreshList f set r allocates s h = .ok ((), s', h') ∧ Running dataMutex s' h' := by
  have hrelease : releaseIf f [r] s h = .ok ((), s, h \ {r}) :=
    releaseIf_eq (List.nodup_singleton r) fun r' hr' => by
      rw [List.mem_singleton.mp hr']
      exact hs.mirrors.flags r f hr
  have hnew : r ∉ h \ {r} := by simp
  have hacquire := acquire_of_notMem hnew allocates (set false s)
  -- the old list is freed, and the new one taken if it can be allocated
  refine ⟨set allocates (set false s), if allocates then insert r (h \ {r}) else h \ {r}, ?_, ?_⟩
  · rw [Resources.refreshList, bind_of_ok hrelease, bind_of_ok (modify_eq (set false) s _),
      bind_of_ok hacquire]
    rfl
  · have hmem (x : Resource) (hx : x ≠ r) :
        x ∈ (if allocates then insert r (h \ {r}) else h \ {r}) ↔ x ∈ h := by
      cases allocates <;> simp [hx]
    refine ⟨⟨fun x g hg => ?_, ?_, fun helements => ?_⟩, fun x hx => ?_, ?_⟩
    · -- the flag of this list says whether the new one is there, the other flags stay
      by_cases hxr : x = r
      · subst hxr
        rw [hr] at hg
        cases hg
        rw [hset]
        cases allocates <;> simp
      · rw [hother _ _ x g hxr hg, hother _ _ x g hxr hg, hmem x hxr]
        exact hs.mirrors.flags x g hg
    · obtain ⟨hinit, hopen, -⟩ := hrest allocates (set false s)
      obtain ⟨hinit', hopen', -⟩ := hrest false s
      rw [hinit, hopen, hinit', hopen']
      exact hs.mirrors.rbus
    · rw [(hrest allocates _).2.2, (hrest false s).2.2]
      have hne : Resource.elements ≠ r := by
        rintro rfl
        cases hr
      exact hs.mirrors.elements ((hmem _ hne).mp helements)
    · have hne : x ≠ r := ne_of_mem_of_not_mem hx hcore
      exact (hmem x hne).mpr (hs.core hx)
    · rw [hmem _ hmutex.symm]
      exact hs.dataMutex

/-- A refresh keeps what the run relies on. -/
theorem Running.refresh {dataMutex : Bool} {s : Fields} {h : Finset Resource}
    (hs : Running dataMutex s h) (a : Refresh) :
    ∃ s' h', refresh a s h = .ok ((), s', h') ∧ Running dataMutex s' h' := by
  cases a with
  | llid allocates =>
      refine hs.refreshList (r := .llidList) (f := Fields.llidList) rfl (by decide) nofun ?_ ?_ ?_
        allocates
      · exact fun _ _ => rfl
      · intro b s r f hr hf
        cases r <;> cases hf <;> first | rfl | exact absurd rfl hr
      · exact fun _ _ => ⟨rfl, rfl, rfl⟩
  | cpe allocates =>
      refine hs.refreshList (r := .cpeList) (f := Fields.cpeList) rfl (by decide) nofun ?_ ?_ ?_
        allocates
      · exact fun _ _ => rfl
      · intro b s r f hr hf
        cases r <;> cases hf <;> first | rfl | exact absurd rfl hr
      · exact fun _ _ => ⟨rfl, rfl, rfl⟩

/-- **Run lemma.** -/
theorem Running.refreshes {dataMutex : Bool} {s : Fields} {h : Finset Resource}
    (hs : Running dataMutex s h) (run : List Refresh) :
    ∃ s' h', refreshes run s h = .ok ((), s', h') ∧ Running dataMutex s' h' := by
  induction run generalizing s h with
  | nil => exact ⟨s, h, rfl, hs⟩
  | cons a run ih =>
      obtain ⟨s₁, h₁, hstep, hs₁⟩ := hs.refresh a
      obtain ⟨s', h', hrun, hs'⟩ := ih hs₁
      exact ⟨s', h', (bind_of_ok hstep).trans hrun, hs'⟩

/-! ### What the shutdown releases -/

/-- The parts of the core are held through the whole run, so their flags are set. -/
theorem Running.flag_eq {dataMutex : Bool} {s : Fields} {h : Finset Resource}
    (hs : Running dataMutex s h) {r : Resource} (hr : r ∈ coreParts) {f : Fields → Bool}
    (hf : flag r = some f) : f s = true := (hs.mirrors.flags r f hf).mpr (hs.core hr)

section Destroy

variable {dataMutex : Bool} {s : Fields} {h : Finset Resource} (hs : Running dataMutex s h)

include hs

/-- The memory after `eponMgr_rbus_cleanup`. -/
def closed (s : Fields) : Fields := { s with paramCount := 0, rbusOpen := false }

/-- rbus gives back the elements and the connection. -/
theorem Running.cleanupRbus_releases :
    Releases h s (ifSet Fields.rbusInitialized cleanupRbus) (closed s) {.elements, .rbus} := by
  have hopen : s.rbusOpen = true := hs.flag_eq (r := .rbus) (by decide) rfl
  have hinit : s.rbusInitialized = true := hs.mirrors.rbus.trans hopen
  have helements : Resource.elements ∈ h := hs.core (by decide)
  have hcount : Releases h s (releaseIf (fun s => s.paramCount ≠ 0) [.elements]) s _ :=
    Releases.ifHeld (List.nodup_singleton _) fun r hr => by
      rw [List.mem_singleton.mp hr]
      simp [helements, hs.mirrors.elements helements]
  have hrbus : Releases h { s with paramCount := 0 } (releaseAll [.rbus]) _ _ :=
    Releases.all (List.nodup_singleton _) (by simpa using hs.core (by decide)) _
  have hbody := hcount.bind ((Releases.modify (fun s => { s with paramCount := 0 }) s).bind
    (hrbus.bind (Releases.modify (fun s => { s with rbusOpen := false }) _) (by decide))
    (by decide)) (by decide)
  have hset : [Resource.elements].toFinset ∪ (∅ ∪ ([Resource.rbus].toFinset ∪ ∅)) =
      {.elements, .rbus} := by decide
  rw [hset] at hbody
  exact Releases.ifSet hinit (Releases.ifSet hopen hbody)

/-- A flag that the cleanup of rbus leaves alone. -/
theorem Running.ifHeld_closed {f : Fields → Bool} {rs : List Resource} (hnodup : rs.Nodup)
    (hrs : ∀ r ∈ rs, flag r = some f) (hf : f (closed s) = f s) :
    Releases h (closed s) (releaseIf f rs) (closed s) rs.toFinset :=
  Releases.ifHeld hnodup fun r hr => by
    rw [hf]
    exact hs.mirrors.flags r f (hrs r hr)

/-- The HAL is closed while the data is still there. -/
theorem Running.destroyHal_releases :
    Releases h (closed s) (releaseIf (fun s => s.data && s.halInitialized) [.hal]) (closed s)
      [Resource.hal].toFinset := by
  refine Releases.ifHeld (List.nodup_singleton _) fun r hr => ?_
  have hdata : s.data = true := hs.flag_eq (r := .data) (by decide) rfl
  have hhal : s.halInitialized = true := hs.flag_eq (r := .hal) (by decide) rfl
  rw [List.mem_singleton.mp hr]
  simp [closed, hdata, hhal, hs.core (show Resource.hal ∈ coreParts by decide)]

/-- What `eponMgr_data_destroy` releases before its mutex. -/
def dataContents : Finset Resource :=
  {.onuMutex, .onuState, .llidList, .cpeList, .statsMutex, .statsData}

theorem Running.dataContents_releases :
    Releases h (closed s) (releaseIf Fields.onuState [.onuMutex, .onuState]) (closed s)
        [Resource.onuMutex, .onuState].toFinset ∧
      Releases h (closed s) (releaseIf Fields.llidList [.llidList]) (closed s)
        [Resource.llidList].toFinset ∧
      Releases h (closed s) (releaseIf Fields.cpeList [.cpeList]) (closed s)
        [Resource.cpeList].toFinset ∧
      Releases h (closed s) (releaseIf Fields.statsData [.statsMutex, .statsData]) (closed s)
        [Resource.statsMutex, .statsData].toFinset := by
  refine ⟨?_, ?_, ?_, ?_⟩
  · exact hs.ifHeld_closed (by decide) (by simp [flag]) rfl
  · exact hs.ifHeld_closed (by decide) (by simp [flag]) rfl
  · exact hs.ifHeld_closed (by decide) (by simp [flag]) rfl
  · exact hs.ifHeld_closed (by decide) (by simp [flag]) rfl

theorem Running.destroyData_releases (hmutex : .dataMutex ∈ h) :
    Releases h (closed s) (ifSet Fields.data destroyData) (closed s)
      (dataContents ∪ {.dataMutex, .data}) := by
  have hdata : s.data = true := hs.flag_eq (r := .data) (by decide) rfl
  obtain ⟨honu, hllid, hcpe, hstats⟩ := hs.dataContents_releases
  have hmem : ∀ r ∈ [Resource.dataMutex, .data], r ∈ h := by
    simp [hmutex, hs.core (show Resource.data ∈ coreParts by decide)]
  have hrest : Releases h (closed s) (releaseAll [.dataMutex, .data]) (closed s) _ :=
    Releases.all (by decide) hmem _
  have hall := honu.bind (hllid.bind (hcpe.bind (hstats.bind hrest (by decide)) (by decide))
    (by decide)) (by decide)
  have hset : [Resource.onuMutex, .onuState].toFinset ∪ ([Resource.llidList].toFinset ∪
      ([Resource.cpeList].toFinset ∪ ([Resource.statsMutex, .statsData].toFinset ∪
        [Resource.dataMutex, .data].toFinset))) = dataContents ∪ {.dataMutex, .data} := by decide
  rw [hset] at hall
  exact Releases.ifSet hdata hall

/-- **Without its mutex, destroying the data destroys a mutex that was never initialised.** -/
theorem Running.destroyData_faults (hmutex : .dataMutex ∉ h) :
    Faults h (closed s) (ifSet Fields.data destroyData) dataContents (.notHeld .dataMutex) := by
  have hdata : s.data = true := hs.flag_eq (r := .data) (by decide) rfl
  obtain ⟨honu, hllid, hcpe, hstats⟩ := hs.dataContents_releases
  have hrest := Faults.all hmutex [.data] (closed s)
  have hall := honu.faults (hllid.faults (hcpe.faults (hstats.faults hrest (by decide)) (by decide))
    (by decide)) (by decide)
  have hset : [Resource.onuMutex, .onuState].toFinset ∪ ([Resource.llidList].toFinset ∪
      ([Resource.cpeList].toFinset ∪ ([Resource.statsMutex, .statsData].toFinset ∪ ∅))) =
      dataContents := by decide
  rw [hset] at hall
  exact Faults.ifSet hdata hall

/-! ### `eponMgr_controller_destroy`

The parts that it frees, before and behind the data. They are disjoint, so each is released once.
-/

/-- What is released before the data context. -/
theorem Running.destroy_before :
    Releases h (closed s) destroyPoller (closed s) [.pollerCond, .pollerMutex, .poller].toFinset :=
  hs.ifHeld_closed (by decide) (by simp [flag]) rfl

/-- What `eponMgr_controller_destroy` releases after the data context. -/
theorem Running.destroy_after :
    Releases h (closed s) (do
        releaseIf Fields.eventQueue [.queueMutex, .queueEvents, .queue]
        releaseIf Fields.config [.config]
        releaseIf Fields.loggerInitialized [.logger]
        releaseAll [.eventCond, .eventMutex, .ctrlMutex, .ctrl]) (closed s)
      {.queueMutex, .queueEvents, .queue, .config, .logger, .eventCond, .eventMutex, .ctrlMutex,
        .ctrl} := by
  have hqueue : s.eventQueue = true := hs.flag_eq (r := .queue) (by decide) rfl
  have hevents : Releases h (closed s)
      (releaseIf Fields.eventQueue [.queueMutex, .queueEvents, .queue]) (closed s) _ :=
    Releases.ifHeld (by decide) fun r hr => by
      have hcore : r ∈ coreParts := by
        revert r
        decide
      simp [closed, hqueue, hs.core hcore]
  have hconfig : Releases h (closed s) (releaseIf Fields.config [.config]) (closed s) _ :=
    hs.ifHeld_closed (by decide) (by simp [flag]) rfl
  have hlogger : Releases h (closed s) (releaseIf Fields.loggerInitialized [.logger])
      (closed s) _ := hs.ifHeld_closed (by decide) (by simp [flag]) rfl
  have hrest : Releases h (closed s) (releaseAll [.eventCond, .eventMutex, .ctrlMutex, .ctrl])
      (closed s) _ :=
    Releases.all (by decide) (fun r hr => hs.core (by revert r; decide)) _
  -- each part is released once, so the sets that are released do not meet
  have hall := hevents.bind (hconfig.bind (hlogger.bind hrest (by decide)) (by decide)) (by decide)
  have hset : [Resource.queueMutex, .queueEvents, .queue].toFinset ∪ ([Resource.config].toFinset ∪
      ([Resource.logger].toFinset ∪
        [Resource.eventCond, .eventMutex, .ctrlMutex, .ctrl].toFinset)) =
      {.queueMutex, .queueEvents, .queue, .config, .logger, .eventCond, .eventMutex, .ctrlMutex,
        .ctrl} := by decide
  rwa [hset] at hall

/-- All that the controller may hold. -/
def controllerParts : Finset Resource :=
  coreParts.erase .telemetry ∪ {.dataMutex, .llidList, .cpeList}

omit hs in
/-- Telemetry is left, which `main` itself has opened. -/
theorem sdiff_controllerParts (htelemetry : .telemetry ∈ h) :
    h \ controllerParts = {.telemetry} := by
  ext r
  rw [Finset.mem_sdiff, Finset.mem_singleton]
  constructor
  · rintro ⟨-, hr⟩
    cases r with
    | telemetry => rfl
    | _ => exact absurd (by decide) hr
  · rintro rfl
    exact ⟨htelemetry, by decide⟩

/-- **Shutdown releases everything**, each resource once. -/
theorem Running.destroy_eq (hmutex : .dataMutex ∈ h) :
    destroy s h = .ok ((), closed s, {.telemetry}) := by
  have hall := hs.cleanupRbus_releases.bind (hs.destroy_before.bind (hs.destroyHal_releases.bind
    ((hs.destroyData_releases hmutex).bind hs.destroy_after (by decide)) (by decide)) (by decide))
    (by decide)
  have hset : {Resource.elements, .rbus} ∪ ([Resource.pollerCond, .pollerMutex, .poller].toFinset ∪
      ([Resource.hal].toFinset ∪ (dataContents ∪ {.dataMutex, .data} ∪
        {.queueMutex, .queueEvents, .queue, .config, .logger, .eventCond, .eventMutex, .ctrlMutex,
          .ctrl}))) = controllerParts := by decide
  rw [hset] at hall
  have hrun : destroy s h = .ok ((), closed s, h \ controllerParts) := hall.eq
  rwa [sdiff_controllerParts (hs.core (by decide))] at hrun

/-- Without its mutex, the data context cannot be destroyed. -/
theorem Running.destroy_faults (hmutex : .dataMutex ∉ h) :
    destroy s h = .error (.notHeld .dataMutex) := by
  have hdata := (hs.destroyData_faults hmutex).bind (g := do
    releaseIf Fields.eventQueue [.queueMutex, .queueEvents, .queue]
    releaseIf Fields.config [.config]
    releaseIf Fields.loggerInitialized [.logger]
    releaseAll [.eventCond, .eventMutex, .ctrlMutex, .ctrl])
  have hall := hs.cleanupRbus_releases.faults (hs.destroy_before.faults
    (hs.destroyHal_releases.faults hdata (by decide)) (by decide)) (by decide)
  exact hall.eq

end Destroy

/-! ### The process -/

/-- **What a process does with its resources**, for every outcome of every call that start-up makes
and every refresh while the controller runs: nothing is acquired twice. Only the mutex of the data
context, whose initialisation is not checked, can be destroyed without having been initialised. -/
theorem main_eq (env : Startup) (run : List Refresh) :
    (main env run Fields.zero ∅).map (fun r => (r.1, r.2.2)) =
      if env.starts then
        if env.ok .dataMutex then .ok (true, ∅) else .error (.notHeld .dataMutex)
      else
        .ok (false, env.leaves) := by
  have htelemetry : acquire true Resource.telemetry Fields.zero ∅ =
      .ok (true, Fields.zero, {.telemetry}) := rfl
  obtain ⟨s, hinit, hs⟩ := init_eq env
  rw [main, bind_of_ok htelemetry, bind_of_ok hinit]
  cases hstarts : env.starts with
  | false =>
      have hrelease := release_of_mem (r := Resource.telemetry)
        (Finset.mem_union_right env.leaves (Finset.mem_singleton_self _)) s
      have hleaves : (env.leaves ∪ {.telemetry}).erase .telemetry = env.leaves := by
        rw [Finset.union_comm, ← Finset.insert_eq]
        exact Finset.erase_insert (env.telemetry_notMem_leaves)
      rw [hleaves] at hrelease
      rw [if_neg nofun, if_neg nofun, bind_of_ok hrelease]
      rfl
  | true =>
      -- the invariant of the run carries the ledger from the start-up to the shutdown
      obtain ⟨s', h', hrun, hs'⟩ := (running_of_starts hstarts (hs hstarts)).refreshes run
      rw [if_pos rfl, if_pos rfl, bind_of_ok hrun]
      cases hmutex : env.ok .dataMutex with
      | false =>
          -- the data mutex was never initialised, and the refreshes do not touch it
          have hnot : Resource.dataMutex ∉ h' := fun hmem => by
            have hset := hs'.dataMutex.mp hmem
            rw [hmutex] at hset
            cases hset
          rw [bind_of_error (hs'.destroy_faults hnot)]
          rfl
      | true =>
          have hrelease : release Resource.telemetry (closed s') {.telemetry} =
              .ok ((), closed s', ∅) := rfl
          rw [bind_of_ok (hs'.destroy_eq (hs'.dataMutex.mpr hmutex)), bind_of_ok hrelease]
          rfl

/-- **When everything has been released**: a process that starts gives back all it acquired, and one
that does not start only if it fails before its first condition variable is there. -/
theorem main_releases_iff (env : Startup) (run : List Refresh) :
    (∃ started s, main env run Fields.zero ∅ = .ok (started, s, ∅)) ↔
      if env.starts then env.ok .dataMutex = true else env.syncs = false := by
  have hmain := main_eq env run
  constructor
  · rintro ⟨started, s, hrun⟩
    rw [hrun] at hmain
    cases hstarts : env.starts with
    | true =>
        rw [hstarts, if_pos rfl] at hmain
        cases hmutex : env.ok .dataMutex with
        | true => rfl
        | false =>
            rw [hmutex] at hmain
            cases hmain
    | false =>
        rw [hstarts, if_neg nofun] at hmain
        injection hmain with hpair
        injection hpair with _ hleaves
        exact env.syncs_of_leaves hstarts hleaves.symm
  · intro hcond
    -- the equation of `main` leaves out the flags, so the run is recovered from it
    have hresult : ∃ started, (main env run Fields.zero ∅).map (fun r => (r.1, r.2.2)) =
        .ok (started, ∅) := by
      rw [hmain]
      cases hstarts : env.starts with
      | true =>
          rw [hstarts, if_pos rfl] at hcond
          exact ⟨true, by rw [hcond]; rfl⟩
      | false =>
          rw [hstarts, if_neg nofun] at hcond
          refine ⟨false, ?_⟩
          rw [Startup.leaves, hcond]
          rfl
    obtain ⟨started, hresult⟩ := hresult
    cases hrun : main env run Fields.zero ∅ with
    | error e =>
        rw [hrun] at hresult
        cases hresult
    | ok r =>
        obtain ⟨a, s, h⟩ := r
        rw [hrun] at hresult
        injection hresult with hpair
        injection hpair with _ hledger
        exact ⟨a, s, by rw [show h = ∅ from hledger]⟩

end EponManager.Resources
