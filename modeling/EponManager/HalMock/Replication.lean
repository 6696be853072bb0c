import EponManager.Controller.EventLoop
import EponManager.HalMock.Interfaces
import EponManager.HalMock.RoundTrip
import EponManager.Lib.Replica

/-!
# The manager's interface list follows the mock's

The mock changes its interface list and calls back; the callback pushes an event on a queue of
bounded length, which the controller's thread processes later. Meanwhile the poller or a TR-181
handler may read the list from the mock, which overtakes the events in the queue.

* `Joint` is the mock, the queue and the manager; its steps come in any order.
* `Synced` says that the events in the queue make the manager's list the mock's.
* `Replicates` is the condition on a step; `manager_follows_mock_iff` is the result, for all runs.
-/

namespace EponManager.HalMock

open Lib
open Lib.Prog (Ensures Respects)

/-! ### The mock, the queue and the manager -/

structure Joint (cap : Nat) where
  mock : State
  queue : BoundedFifo Event cap
  manager : World

inductive JointAction where
  /-- a client sends bytes to the mock -/
  | client (sent : CharBuf)
  /-- the controller's thread processes the oldest event -/
  | process (env : Env)
  /-- `eponMgr_data_get_interface_list` -/
  | refresh (env : Env)
  /-- `epon_hal_factory_reset` -/
  | factoryReset

namespace Joint

variable {cap : Nat}

/-- The mock after its initialisation, with no event in the queue. -/
def boot (limits : HalLimits) (mock : State) (manager : World) : Joint cap :=
  ⟨init limits ⟨true, true, true⟩ mock, BoundedFifo.empty Event cap, manager⟩

/-- The callbacks push their events; an event is dropped if the queue is full. -/
def enqueue (events : List Event) (queue : BoundedFifo Event cap) : BoundedFifo Event cap :=
  events.foldl (fun q event => (q.push event).2) queue

def step (setting : Setting) (s : Joint cap) : JointAction → Option (Joint cap)
  | .client sent =>
      let (mock, events) := receive setting sent s.mock
      some { s with mock, queue := enqueue events s.queue }
  | .process env =>
      match s.queue.pop with
      | (.pop (some event), queue) =>
          (Prog.alone (Controller.processEvent setting.limits event) env s.manager).map
            fun (_, manager) => { s with queue, manager }
      | _ => none
  | .refresh env =>
      (getInterfaceList s.mock).bind fun l =>
        (Prog.alone Data.getInterfaceList
          { env with halGetInterfaceList := fun _ _ => (.success, l) } s.manager).map
            fun (_, manager) => { s with manager }
  | .factoryReset => (factoryReset setting.limits s.mock).map fun mock => { s with mock }

end Joint

/-! ### What a client asks for -/

/-- The name and the status in a well-formed `INTERFACE` command. -/
def interfaceRequest (setting : Setting) (sent : CharBuf) : Option (CharBuf × InterfaceStatus) :=
  match tokens ':' ((cstr (sent.take 255)).take 255) with
  | type :: name :: status :: _ =>
      if type = "INTERFACE".toList then
        some (name, setting.codes.interfaceStatus.ofCode (atoi status))
      else
        none
  | _ => none

/-- The records in interface events. -/
def interfaceRecords (events : List Event) : List InterfaceInfo :=
  events.filterMap fun
    | .interfaceStatus info => some info
    | _                     => none

section Receive

variable (setting : Setting) (s : State)

/-- A command of another type is not about the interface list. -/
theorem dispatch_of_ne {type : CharBuf} (htype : type ≠ "INTERFACE".toList) (args : List CharBuf) :
    (dispatch setting args s type).1.interfaceList = s.interfaceList ∧
      interfaceRecords (dispatch setting args s type).2 = [] := by
  have hstatus (status : OnuStatus) : interfaceRecords (callStatus s status) = [] := by
    unfold callStatus
    split <;> rfl
  -- no other word of the chain reports an interface
  unfold dispatch
  rw [if_neg htype]
  split
  · unfold statusCommand
    split
    · exact ⟨rfl, hstatus _⟩
    · exact ⟨rfl, rfl⟩
  split
  · unfold alarmCommand triggerAlarm
    split
    · refine ⟨rfl, ?_⟩
      dsimp only
      split <;> rfl
    · exact ⟨rfl, rfl⟩
  split
  · unfold linkStatsCommand
    split <;> exact ⟨rfl, rfl⟩
  split
  · unfold transceiverStatsCommand
    split <;> exact ⟨rfl, rfl⟩
  split
  · unfold incrementCommand
    split <;> exact ⟨rfl, rfl⟩
  split
  · refine ⟨rfl, ?_⟩
    show interfaceRecords (callStatus s .deregistration ++ callStatus s .registration) = []
    rw [interfaceRecords, List.filterMap_append]
    exact List.append_eq_nil_iff.mpr ⟨hstatus _, hstatus _⟩
  · exact ⟨rfl, rfl⟩

/-- What a client's bytes did to the interface list. -/
inductive Received (sent : CharBuf) (t : State) (events : List Event) : Prop where
  | updated {name : CharBuf} {status : InterfaceStatus} {l : InterfaceList}
      (request : interfaceRequest setting sent = some (name, status))
      (update : updateInterface setting.limits name status s.interfaceList = some l)
      (list : t.interfaceList = l)
      (event : events = [.interfaceStatus ⟨interfaceName setting.limits name, status⟩])
  | kept (refused : ∀ name status, interfaceRequest setting sent = some (name, status) →
        updateInterface setting.limits name status s.interfaceList = none)
      (list : t.interfaceList = s.interfaceList) (records : interfaceRecords events = [])

/-- Each command does one of these things, its type decides which. -/
theorem received (hs : Ready s) (sent : CharBuf) :
    Received setting s sent (receive setting sent s).1 (receive setting sent s).2 := by
  -- an empty buffer is not processed at all
  by_cases hnil : sent.take 255 = []
  · have hreceive : receive setting sent s = (s, []) := by
      rw [receive, hnil]
    rw [hreceive]
    refine .kept (fun name status h => ?_) rfl rfl
    rw [interfaceRequest, hnil] at h
    cases h
  rw [receive_of_ne_nil setting s hnil, processCommand]
  cases htokens : tokens ':' ((cstr (sent.take 255)).take 255) with
  | nil =>
      refine .kept (fun name status h => ?_) rfl rfl
      rw [interfaceRequest, htokens] at h
      cases h
  | cons type args =>
      show Received setting s sent (dispatch setting args s type).1
        (dispatch setting args s type).2
      -- only the `INTERFACE` command can change the list or make an interface callback
      by_cases htype : type = "INTERFACE".toList
      · subst htype
        rw [dispatch_interface]
        cases args with
        | nil =>
            refine .kept (fun name status h => ?_) rfl rfl
            rw [interfaceRequest, htokens] at h
            cases h
        | cons name args =>
            cases args with
            | nil =>
                refine .kept (fun name status h => ?_) rfl rfl
                rw [interfaceRequest, htokens] at h
                cases h
            | cons status rest =>
                have hrequest : interfaceRequest setting sent =
                    some (name, setting.codes.interfaceStatus.ofCode (atoi status)) := by
                  rw [interfaceRequest, htokens]
                  exact if_pos rfl
                have hcallback : (s.initialized && s.config.interfaceStatusCallback) = true := by
                  rw [hs.initialized, hs.config]
                  rfl
                -- without room for the name, the mock answers an error and calls nobody back
                cases hupdate : updateInterface setting.limits name
                    (setting.codes.interfaceStatus.ofCode (atoi status)) s.interfaceList with
                | some l =>
                    refine .updated hrequest hupdate ?_ ?_
                    · simp only [interfaceCommand, hupdate]
                    · simp only [interfaceCommand, hupdate, triggerInterfaceStatus,
                        if_pos hcallback]
                | none =>
                    have hkept : interfaceCommand setting (name :: status :: rest) s = (s, []) := by
                      simp only [interfaceCommand, hupdate]
                    rw [hkept]
                    refine .kept (fun name' status' h => ?_) rfl rfl
                    rw [hrequest] at h
                    cases h
                    exact hupdate
      · obtain ⟨hlist, hrecords⟩ := dispatch_of_ne setting s htype args
        refine .kept (fun name status h => ?_) hlist hrecords
        rw [interfaceRequest, htokens] at h
        cases args with
        | nil => cases h
        | cons name' args =>
            cases args with
            | nil => cases h
            | cons status' rest =>
                simp only [if_neg htype] at h
                cases h

end Receive

/-! ### What the manager does to its list -/

section Manager

/-- The memory's interface list is left alone. -/
abbrev SameList (w w' : World) : Prop := w'.interfaceList = w.interfaceList

instance : ReportsRows SameList (fun _ => True) :=
  ReportsRows.of_view (fun _ => rfl) (fun _ _ => rfl) (fun _ _ => rfl) (fun _ _ => rfl)

theorem processOnuStatusEvent_list (status : OnuStatus) :
    Respects SameList (Controller.processOnuStatusEvent status) := by
  refine Respects.bind ?_ fun _ => ?_
  · exact Respects.lock.bind fun _ => (ask_outside _).bind fun _ =>
      Respects.bind (Respects.write fun _ => rfl) fun _ => Respects.unlock
  · cases Controller.statusEvent status with
    | none => exact Respects.pure
    | some event => exact Telemetry.dispatch_outside fun _ => trivial

variable {limits : HalLimits} {env : Env} {w w' : World}

/-- **An event puts its record into the list**, if it has one. -/
theorem processEvent_list {event : Event}
    (h : Prog.alone (Controller.processEvent limits event) env w = some ((), w')) :
    w'.interfaceList =
      (interfaceRecords [event]).foldl (fun l info => l.update limits info) w.interfaceList := by
  cases event with
  | onuStatus status => exact (processOnuStatusEvent_list status).alone h
  | interfaceStatus info =>
      obtain ⟨new, -, hw'⟩ := (processInterfaceStatusEvent_ensures
        (notifyPhyStatus_sendsOnly env w.rbusInitialized) limits info w.interfaceList
        w.phyReports).alone_within ⟨rfl, rfl, rfl⟩ h
      exact hw'.list
  | alarm info =>
      exact (Telemetry.raiseAlarm_outside (R := SameList) (fun _ _ => trivial) info).alone h

/-- **A refresh replaces the list by the HAL's.** -/
theorem getInterfaceList_list {l : InterfaceList}
    (henv : ∀ n before, env.halGetInterfaceList n before = (.success, l)) {found : Bool}
    (h : Prog.alone Data.getInterfaceList env w = some (found, w')) : w'.interfaceList = l := by
  have hkeep {α : Type} {f : M α} (hf : Respects SameList f) :
      Ensures (fun w : World => w.interfaceList = l) f (fun _ w => w.interfaceList = l) :=
    hf.ensures fun _ _ hsame hw => hsame.trans hw
  have hall : Ensures (fun _ : World => True) (Prog.within env Data.getInterfaceList)
      (fun _ w => w.interfaceList = l) := by
    refine (Ensures.lock.within env).within_bind fun _ =>
      ((Ensures.read (Q := fun _ _ => True) fun _ _ => trivial).within env).within_bind
        fun before => Ensures.within_bind (Q := fun answer _ => answer = (.success, l))
          (Ensures.within_call fun w _ => henv w.tick before) fun answer => ?_
    refine Ensures.within ?_ env
    refine Ensures.bind (Q := fun _ w => w.interfaceList = l)
      (Ensures.write fun w hw => by rw [hw]; rfl) fun _ => hkeep ?_
    refine (emit_outside trivial).bind fun _ => Respects.ite ?_
      (Respects.unlock.bind fun _ => Respects.pure)
    refine Respects.read.bind fun _ => Respects.ite ?_ (Respects.unlock.bind fun _ => Respects.pure)
    exact Respects.bind (Respects.write fun _ => rfl) fun _ => Respects.unlock.bind fun _ =>
      (Tr181.syncVeipTable_outside fun _ _ => trivial).bind fun _ => Respects.pure
  exact hall.alone_within trivial h

end Manager

/-! ### The invariant -/

namespace Joint

variable {cap : Nat}

/-- The records in the queue. -/
def pending (s : Joint cap) : List InterfaceInfo := interfaceRecords s.queue.contents

/-- The entries of the mock's list. -/
def source (s : Joint cap) : List InterfaceInfo := s.mock.interfaceList.entries

/-- The entries of the manager's list. -/
def replica (s : Joint cap) : List InterfaceInfo := s.manager.interfaceList.entries

/-- **The events in the queue make the manager's list the mock's.** -/
def Synced (s : Joint cap) : Prop := replay InterfaceInfo.key s.pending s.replica = s.source

/-- **The condition on a step.** An `INTERFACE` command is no repeat, and it changes nothing if the
queue is full; a factory reset finds the default list. -/
def Replicates (setting : Setting) (s : Joint cap) : JointAction → Prop
  | .client sent => ∀ name status l, interfaceRequest setting sent = some (name, status) →
      updateInterface setting.limits name status s.mock.interfaceList = some l →
      ¬ Repeats setting.limits name s.mock.interfaceList ∧
        (s.queue.contents.length = cap → l.entries = s.source)
  | .factoryReset => (defaultInterfaceList setting.limits).entries = s.source
  | _ => True

/-- What holds between the steps. -/
structure Linked (setting : Setting) (s : Joint cap) : Prop where
  ready : Ready s.mock
  canonical : Canonical setting.limits s.mock.interfaceList
  distinct : (s.source.map InterfaceInfo.key).Nodup
  bounded : s.mock.interfaceList.interfaceCount ≤ setting.limits.maxInterfaces
  initialised : Initialised s.manager
  terminated : ∀ e ∈ s.replica ++ s.pending, Terminated setting.limits.interfaceNameLen e.name
  settled : Settled InterfaceInfo.key s.pending s.source
  synced : s.Synced

/-! ### What the steps do -/

/-- The records come in the order of the events. -/
theorem interfaceRecords_append (xs ys : List Event) :
    interfaceRecords (xs ++ ys) = interfaceRecords xs ++ interfaceRecords ys :=
  List.filterMap_append

theorem interfaceRecords_cons (event : Event) (events : List Event) :
    interfaceRecords (event :: events) = interfaceRecords [event] ++ interfaceRecords events :=
  interfaceRecords_append [event] events

/-- Events with no interface records leave the pending records as they are. -/
theorem interfaceRecords_enqueue {events : List Event} (hevents : interfaceRecords events = [])
    (queue : BoundedFifo Event cap) :
    interfaceRecords (enqueue events queue).contents = interfaceRecords queue.contents := by
  induction events generalizing queue with
  | nil => rfl
  | cons event events ih =>
      rw [interfaceRecords_cons, List.append_eq_nil_iff] at hevents
      obtain ⟨hevent, hrest⟩ := hevents
      refine (ih hrest (queue.push event).2).trans ?_
      rw [BoundedFifo.push_contents]
      split
      · rw [interfaceRecords_append, hevent, List.append_nil]
      · rfl

variable {setting : Setting} {s t : Joint cap}

/-- The pending records after a client's request was granted. -/
theorem pending_enqueue (info : InterfaceInfo) (queue : BoundedFifo Event cap) :
    interfaceRecords (enqueue [.interfaceStatus info] queue).contents =
      if queue.contents.length < cap then interfaceRecords queue.contents ++ [info]
      else interfaceRecords queue.contents := by
  show interfaceRecords (queue.push (.interfaceStatus info)).2.contents = _
  rw [BoundedFifo.push_contents]
  split
  · exact interfaceRecords_append _ _
  · rfl

/-- The manager's list has space for the oldest record, because the mock's has. -/
theorem Linked.space (hs : Linked setting s) {info : InterfaceInfo} {rest : List InterfaceInfo}
    (hpending : s.pending = info :: rest) :
    info.key ∈ s.replica.map InterfaceInfo.key ∨
      s.manager.interfaceList.interfaceCount < setting.limits.maxInterfaces := by
  by_cases hknown : info.key ∈ s.replica.map InterfaceInfo.key
  · exact .inl hknown
  · right
    have hlonger : _ ≤ (replay InterfaceInfo.key rest _).length :=
      length_le_replay rest (upsert InterfaceInfo.key info s.replica)
    have hkeys := congrArg List.length (map_upsert InterfaceInfo.key info s.replica)
    rw [if_neg hknown, List.length_map, List.length_append, List.length_map,
      List.length_singleton] at hkeys
    have hsynced := congrArg List.length hs.synced
    rw [hpending, replay_cons] at hsynced
    have hreplica : s.replica.length = s.manager.interfaceList.interfaceCount.toNat :=
      InterfaceList.entries_length _
    have hsource : s.source.length = s.mock.interfaceList.interfaceCount.toNat :=
      InterfaceList.entries_length _
    have hbounded := UInt32.le_iff_toNat_le.mp hs.bounded
    exact UInt32.lt_iff_toNat_lt.mpr (by omega)

/-- **Processing an event** puts the oldest record into the manager's list, if the event has one. -/
theorem Linked.process (hs : Linked setting s) {env : Env}
    (h : s.step setting (.process env) = some t) : Linked setting t := by
  unfold step at h
  simp only at h
  split at h
  · next event queue hpop =>
    obtain ⟨⟨⟨⟩, manager⟩, hrun, rfl⟩ := Option.map_eq_some_iff.mp h
    have hcontents := BoundedFifo.contents_of_pop hpop
    have hlist := processEvent_list hrun
    obtain ⟨⟨⟩, w', hrun', hinit, -⟩ := (Controller.processEvent_moves (h := fun _ => 0)
      (fun _ _ => rfl) setting.limits event).alone hs.initialised env
    rw [hrun] at hrun'
    cases hrun'
    have hpending : s.pending = interfaceRecords [event] ++ interfaceRecords queue.contents := by
      rw [pending, hcontents, interfaceRecords_cons]
    -- an event that is no interface's changes neither the list nor what is still to be replayed
    cases hrecords : interfaceRecords [event] with
    | nil =>
        rw [hrecords] at hlist hpending
        have hreplica : manager.interfaceList.entries = s.replica :=
          congrArg InterfaceList.entries hlist
        have hsame : interfaceRecords queue.contents = s.pending := hpending.symm
        refine ⟨hs.ready, hs.canonical, hs.distinct, hs.bounded, hinit, ?_, ?_, ?_⟩
        · show ∀ e ∈ manager.interfaceList.entries ++ interfaceRecords queue.contents, _
          rw [hreplica, hsame]
          exact hs.terminated
        · show Settled InterfaceInfo.key (interfaceRecords queue.contents) s.source
          rw [hsame]
          exact hs.settled
        · show replay InterfaceInfo.key (interfaceRecords queue.contents)
            manager.interfaceList.entries = s.source
          rw [hreplica, hsame]
          exact hs.synced
    | cons info rest =>
        have hone : rest = [] := by
          cases event <;> cases hrecords
          rfl
        subst hone
        rw [hrecords] at hlist hpending
        have hinfo : Terminated setting.limits.interfaceNameLen info.name :=
          hs.terminated info (by rw [hpending]; simp)
        -- the manager replays the record that it takes off the queue
        have hreplica : manager.interfaceList.entries =
            upsert InterfaceInfo.key info s.replica := by
          rw [show manager.interfaceList = s.manager.interfaceList.update setting.limits info from
            hlist]
          exact InterfaceList.update_entries
            (fun e he => hs.terminated e (List.mem_append_left _ he)) hinfo (hs.space hpending)
        refine ⟨hs.ready, hs.canonical, hs.distinct, hs.bounded, hinit, ?_, ?_, ?_⟩
        · show ∀ e ∈ manager.interfaceList.entries ++ interfaceRecords queue.contents, _
          rw [hreplica]
          intro e he
          rcases List.mem_append.mp he with hold | hrest
          · exact forall_mem_upsert
              (p := fun x => Terminated setting.limits.interfaceNameLen x.name) hinfo
              (fun x hx => hs.terminated x (List.mem_append_left _ hx)) e hold
          · refine hs.terminated e (List.mem_append_right _ ?_)
            rw [hpending]
            exact List.mem_append_right _ hrest
        · have hsettled := hs.settled
          rw [hpending] at hsettled
          exact hsettled.tail
        · have hsynced := hs.synced
          rw [Synced, hpending] at hsynced
          show replay InterfaceInfo.key (interfaceRecords queue.contents)
            manager.interfaceList.entries = s.source
          rw [hreplica]
          exact hsynced
  · cases h

/-- A refresh replaces the manager's list by the mock's. -/
theorem step_refresh (hmock : s.mock.initialized = true) (hw : Initialised s.manager) {env : Env}
    (h : s.step setting (.refresh env) = some t) :
    t.mock = s.mock ∧ t.queue = s.queue ∧ Initialised t.manager ∧
      t.manager.interfaceList = s.mock.interfaceList := by
  have hlist : getInterfaceList s.mock = some s.mock.interfaceList := by
    rw [getInterfaceList, if_pos hmock]
  rw [step, hlist, Option.bind_some] at h
  obtain ⟨⟨found, manager⟩, hrun, rfl⟩ := Option.map_eq_some_iff.mp h
  obtain ⟨_, w', hrun', hinit, -⟩ := (Data.getInterfaceList_moves (h := fun _ => 0)).alone hw
    { env with halGetInterfaceList := fun _ _ => (.success, s.mock.interfaceList) }
  rw [hrun] at hrun'
  cases hrun'
  exact ⟨rfl, rfl, hinit, getInterfaceList_list (fun _ _ => rfl) hrun⟩

/-- **A refresh** overtakes the records in the queue, but they are no news. -/
theorem Linked.refresh (hlen : 0 < setting.limits.interfaceNameLen) (hs : Linked setting s)
    {env : Env} (h : s.step setting (.refresh env) = some t) : Linked setting t := by
  obtain ⟨mock, queue, manager⟩ := t
  obtain ⟨rfl, rfl, hinit, hlist⟩ := step_refresh hs.ready.initialized hs.initialised h
  have hreplica : manager.interfaceList.entries = s.source := congrArg InterfaceList.entries hlist
  refine ⟨hs.ready, hs.canonical, hs.distinct, hs.bounded, hinit, ?_, hs.settled, ?_⟩
  · show ∀ e ∈ manager.interfaceList.entries ++ s.pending, _
    rw [hreplica]
    intro e he
    rcases List.mem_append.mp he with hmem | hmem
    · rw [hs.canonical e hmem]
      exact terminated_interfaceName e.name hlen
    · exact hs.terminated e (List.mem_append_right _ hmem)
  · show replay InterfaceInfo.key s.pending manager.interfaceList.entries = s.source
    rw [hreplica]
    exact replay_of_settled hs.settled hs.distinct

/-! ### A client's command -/

/-- The mock's list after a request that was granted. -/
theorem Linked.updated (hlen : 0 < setting.limits.interfaceNameLen) (hs : Linked setting s)
    {name : CharBuf} {status : InterfaceStatus} {l : InterfaceList}
    (hupdate : updateInterface setting.limits name status s.mock.interfaceList = some l)
    (hno : ¬ Repeats setting.limits name s.mock.interfaceList) :
    Canonical setting.limits l ∧ (l.entries.map InterfaceInfo.key).Nodup ∧
      l.interfaceCount ≤ setting.limits.maxInterfaces := by
  refine ⟨hs.canonical.updateInterface hlen hupdate,
    (updateInterface_nodup_iff hlen hs.canonical hupdate hs.distinct).mpr hno, ?_⟩
  rcases updateInterface_spec hlen hs.canonical hupdate with ⟨i, -, -, -, rfl⟩ | ⟨-, -, hspace, rfl⟩
  · exact hs.bounded
  · have hlt := UInt32.lt_iff_toNat_lt.mp hspace
    refine UInt32.le_iff_toNat_le.mpr ?_
    show (s.mock.interfaceList.interfaceCount + 1).toNat ≤ _
    rw [InterfaceList.count_succ hspace]
    exact hlt

/-- The step of a client. -/
theorem step_client {sent : CharBuf} (h : s.step setting (.client sent) = some t) :
    t = ⟨(receive setting sent s.mock).1, enqueue (receive setting sent s.mock).2 s.queue,
      s.manager⟩ := by
  cases h
  rfl

/-- **A client's step** keeps the manager's list in step exactly when it meets the condition. -/
theorem Linked.synced_client_iff (hlen : 0 < setting.limits.interfaceNameLen)
    (hs : Linked setting s) {sent : CharBuf} (h : s.step setting (.client sent) = some t) :
    t.Synced ↔ s.Replicates setting (.client sent) := by
  obtain rfl := step_client h
  cases received setting s.mock hs.ready sent with
  | @updated name status l hrequest hupdate hlist hevent =>
      have hiff : s.Replicates setting (.client sent) ↔
          ¬ Repeats setting.limits name s.mock.interfaceList ∧
            (s.queue.contents.length = cap → l.entries = s.source) := by
        constructor
        · exact fun hreplicates => hreplicates name status l hrequest hupdate
        · intro hboth name' status' l' hrequest' hupdate'
          rw [hrequest] at hrequest'
          cases hrequest'
          rw [hupdate] at hupdate'
          cases hupdate'
          exact hboth
      have hentries := updateInterface_entries_iff hlen hs.canonical hupdate
      rw [hiff]
      show replay InterfaceInfo.key
        (interfaceRecords (enqueue (receive setting sent s.mock).2 s.queue).contents) s.replica =
          (receive setting sent s.mock).1.interfaceList.entries ↔ _
      rw [hevent, pending_enqueue, hlist]
      -- with room the record is replayed last; without, the mock's list must not have changed
      by_cases hroom : s.queue.contents.length < cap
      · rw [if_pos hroom, ← pending, replay_append, hs.synced, replay_cons, replay_nil, eq_comm,
          source, hentries]
        exact ⟨fun hno => ⟨hno, fun hfull => by omega⟩, fun hboth => hboth.1⟩
      · have hfull : s.queue.contents.length = cap :=
          Nat.le_antisymm s.queue.bounded (Nat.not_lt.mp hroom)
        rw [if_neg hroom, ← pending, hs.synced, eq_comm]
        exact ⟨fun heq => ⟨not_repeats_of_entries_eq hlen hs.canonical hupdate heq, fun _ => heq⟩,
          fun hboth => hboth.2 hfull⟩
  | kept hrefused hlist hrecords =>
      constructor
      · intro _ name status l hrequest hupdate
        rw [hrefused name status hrequest] at hupdate
        cases hupdate
      · intro _
        show replay InterfaceInfo.key
          (interfaceRecords (enqueue (receive setting sent s.mock).2 s.queue).contents) s.replica =
            (receive setting sent s.mock).1.interfaceList.entries
        rw [interfaceRecords_enqueue hrecords, hlist]
        exact hs.synced

/-- **A client's command that replicates keeps the two lists linked.** -/
theorem Linked.client (hlen : 0 < setting.limits.interfaceNameLen) (hs : Linked setting s)
    {sent : CharBuf} (h : s.step setting (.client sent) = some t)
    (hreplicates : s.Replicates setting (.client sent)) : Linked setting t := by
  have hsynced := (hs.synced_client_iff hlen h).mpr hreplicates
  obtain rfl := step_client h
  have hready := hs.ready.receive setting sent
  cases received setting s.mock hs.ready sent with
  | @updated name status l hrequest hupdate hlist hevent =>
      obtain ⟨hno, hfull⟩ := hreplicates name status l hrequest hupdate
      obtain ⟨hcanonical, hdistinct, hbounded⟩ := hs.updated hlen hupdate hno
      have hentries := (updateInterface_entries_iff hlen hs.canonical hupdate).mpr hno
      have hname := terminated_interfaceName name hlen
      subst hlist
      refine ⟨hready, hcanonical, hdistinct, hbounded, hs.initialised, ?_, ?_, hsynced⟩
      · show ∀ e ∈ s.replica ++
          interfaceRecords (enqueue (receive setting sent s.mock).2 s.queue).contents, _
        rw [hevent, pending_enqueue]
        split
        · intro e he
          rw [← List.append_assoc, List.mem_append, List.mem_singleton] at he
          rcases he with hold | rfl
          · exact hs.terminated e hold
          · exact hname
        · exact hs.terminated
      · show Settled InterfaceInfo.key
          (interfaceRecords (enqueue (receive setting sent s.mock).2 s.queue).contents)
          (receive setting sent s.mock).1.interfaceList.entries
        rw [hevent, pending_enqueue]
        by_cases hroom : s.queue.contents.length < cap
        · -- the record is queued, so it will be replayed last
          rw [if_pos hroom, hentries]
          exact hs.settled.append _
        · -- the record is dropped, but it changes nothing
          rw [if_neg hroom, hfull (Nat.le_antisymm s.queue.bounded (Nat.not_lt.mp hroom))]
          exact hs.settled
  | kept hrefused hlist hrecords =>
      have hpending := interfaceRecords_enqueue hrecords s.queue
      refine ⟨hready, ?_, ?_, ?_, hs.initialised, ?_, ?_, hsynced⟩
      · show Canonical setting.limits (receive setting sent s.mock).1.interfaceList
        rw [hlist]
        exact hs.canonical
      · show ((receive setting sent s.mock).1.interfaceList.entries.map InterfaceInfo.key).Nodup
        rw [hlist]
        exact hs.distinct
      · show (receive setting sent s.mock).1.interfaceList.interfaceCount ≤ _
        rw [hlist]
        exact hs.bounded
      · show ∀ e ∈ s.replica ++
          interfaceRecords (enqueue (receive setting sent s.mock).2 s.queue).contents, _
        rw [hpending]
        exact hs.terminated
      · show Settled InterfaceInfo.key
          (interfaceRecords (enqueue (receive setting sent s.mock).2 s.queue).contents)
          (receive setting sent s.mock).1.interfaceList.entries
        rw [hpending, hlist]
        exact hs.settled

/-! ### A factory reset -/

/-- The default list holds one name, in the form in which names are stored. -/
theorem canonical_default (limits : HalLimits) :
    Canonical limits (defaultInterfaceList limits) := by
  intro e he
  have hentries : (defaultInterfaceList limits).entries =
      [⟨interfaceName limits "veip0".toList, .linkUp⟩] := rfl
  rw [hentries, List.mem_singleton] at he
  subst he
  exact (interfaceName_interfaceName _).symm

theorem nodup_default (limits : HalLimits) :
    ((defaultInterfaceList limits).entries.map InterfaceInfo.key).Nodup :=
  List.nodup_singleton _

/-- The step of a factory reset. -/
theorem step_factoryReset (hs : Linked setting s)
    (h : s.step setting .factoryReset = some t) :
    t = { s with mock := initDefaultData setting.limits s.mock } := by
  obtain ⟨mock, hmock, rfl⟩ := Option.map_eq_some_iff.mp h
  rw [factoryReset, if_pos hs.ready.initialized] at hmock
  cases hmock
  rfl

/-- After a reset the two lists are equal exactly when it replicates. -/
theorem Linked.synced_factoryReset_iff (hs : Linked setting s)
    (h : s.step setting .factoryReset = some t) :
    t.Synced ↔ s.Replicates setting .factoryReset := by
  obtain rfl := step_factoryReset hs h
  show replay InterfaceInfo.key s.pending s.replica =
    (defaultInterfaceList setting.limits).entries ↔ _
  rw [hs.synced]
  exact eq_comm

/-- A reset that replicates keeps them linked. -/
theorem Linked.factoryReset (hmax : 0 < setting.limits.maxInterfaces) (hs : Linked setting s)
    (h : s.step setting .factoryReset = some t)
    (hreplicates : s.Replicates setting .factoryReset) : Linked setting t := by
  have hsynced := (hs.synced_factoryReset_iff h).mpr hreplicates
  obtain rfl := step_factoryReset hs h
  refine ⟨⟨hs.ready.initialized, hs.ready.config⟩, canonical_default _, nodup_default _, ?_,
    hs.initialised, hs.terminated, ?_, hsynced⟩
  · have hpos := UInt32.lt_iff_toNat_lt.mp hmax
    exact UInt32.le_iff_toNat_le.mpr hpos
  · show Settled InterfaceInfo.key s.pending (defaultInterfaceList setting.limits).entries
    rw [show (defaultInterfaceList setting.limits).entries = s.source from hreplicates]
    exact hs.settled

/-! ### Whole runs -/

/-- **Step lemma.** -/
theorem Linked.step (hlen : 0 < setting.limits.interfaceNameLen)
    (hmax : 0 < setting.limits.maxInterfaces) (hs : Linked setting s) {a : JointAction}
    (hreplicates : s.Replicates setting a) (h : s.step setting a = some t) : Linked setting t := by
  cases a with
  | client sent => exact hs.client hlen h hreplicates
  | process env => exact hs.process h
  | refresh env => exact hs.refresh hlen h
  | factoryReset => exact hs.factoryReset hmax h hreplicates

/-- The condition is exact. -/
theorem Linked.synced_iff (hlen : 0 < setting.limits.interfaceNameLen) (hs : Linked setting s)
    (a : JointAction) :
    (∀ t, s.step setting a = some t → t.Synced) ↔ s.Replicates setting a := by
  cases a with
  | client sent =>
      constructor
      · intro h
        exact (hs.synced_client_iff hlen rfl).mp (h _ rfl)
      · intro hreplicates t h
        exact (hs.synced_client_iff hlen h).mpr hreplicates
  | process env => exact iff_of_true (fun t h => (hs.process h).synced) trivial
  | refresh env => exact iff_of_true (fun t h => (hs.refresh hlen h).synced) trivial
  | factoryReset =>
      have hstep : s.step setting .factoryReset =
          some { s with mock := initDefaultData setting.limits s.mock } := by
        rw [Joint.step, HalMock.factoryReset, if_pos hs.ready.initialized]
        rfl
      constructor
      · intro h
        exact (hs.synced_factoryReset_iff hstep).mp (h _ hstep)
      · intro hreplicates t h
        exact (hs.synced_factoryReset_iff h).mpr hreplicates

/-- Once the manager has read the list from the mock, the two are linked. -/
theorem linked_of_refresh (hlen : 0 < setting.limits.interfaceNameLen)
    (hmax : 0 < setting.limits.maxInterfaces) {mock : State} {w : World} (hw : Initialised w)
    {env : Env} (h : (boot setting.limits mock w).step setting (.refresh env) = some s) :
    Linked setting s := by
  obtain ⟨mock', queue, manager⟩ := s
  obtain ⟨rfl, rfl, hinit, hlist⟩ := step_refresh rfl hw h
  have hentries : manager.interfaceList.entries = (defaultInterfaceList setting.limits).entries :=
    congrArg InterfaceList.entries hlist
  refine ⟨⟨rfl, rfl⟩, canonical_default _, nodup_default _, ?_, hinit, ?_, settled_nil _, hentries⟩
  · exact UInt32.le_iff_toNat_le.mpr (UInt32.lt_iff_toNat_lt.mp hmax)
  · show ∀ e ∈ manager.interfaceList.entries ++ [], _
    rw [hentries, List.append_nil]
    intro e he
    rw [canonical_default setting.limits e he]
    exact terminated_interfaceName e.name hlen

end Joint

/-- **The manager's list follows the mock's.** Once the manager has read the list, in any run of
commands, processed events, further reads and factory resets, in any order: the events in the queue
make the manager's list the mock's in every state, exactly when every step meets the condition. -/
theorem manager_follows_mock_iff {setting : Setting} (hlen : 0 < setting.limits.interfaceNameLen)
    (hmax : 0 < setting.limits.maxInterfaces) {cap : Nat} {mock : State} {w : World}
    (hw : Initialised w) {env : Env} {s : Joint cap}
    (hread : (Joint.boot setting.limits mock w).step setting (.refresh env) = some s)
    (as : List JointAction) :
    (∀ done t, done <+: as → exec (Joint.step setting) s done = some t → t.Synced) ↔
      Along (Joint.step setting) (Joint.Replicates setting) s as := by
  have hs : Joint.Linked setting s := Joint.linked_of_refresh hlen hmax hw hread
  rw [forall_reached_iff]
  have hiff : Along (Joint.step setting)
        (fun s a => ∀ t, Joint.step setting s a = some t → Joint.Synced t) s as ↔
      Along (Joint.step setting) (Joint.Replicates setting) s as :=
    along_iff (P := Joint.Linked setting) (D := fun _ _ => True)
      (fun s a t hs _ hsynced h => hs.step hlen hmax ((hs.synced_iff hlen a).mp hsynced) h)
      (fun s a hs _ => hs.synced_iff hlen a) hs (along_of_forall fun _ _ => trivial)
  rw [← hiff]
  exact and_iff_right hs.synced

/-- A run in which an interface is added and the manager reads the list before it processes the
event. -/
def addedInterface : List JointAction :=
  [.client "INTERFACE:veip1:1".toList, .refresh Env.quiet, .process Env.quiet]

/-- An interface that is added at run time. -/
theorem manager_follows_mock_added :
    ∃ s t : Joint 8, (Joint.boot HalLimits.small State.zero World.ready).step Setting.small
        (.refresh Env.quiet) = some s ∧
      exec (Joint.step Setting.small) s addedInterface = some t ∧ t.replica.length = 2 ∧
      t.Synced := by
  have hrun : ((Joint.boot HalLimits.small State.zero World.ready : Joint 8).step Setting.small
      (.refresh Env.quiet)).bind (fun s => (exec (Joint.step Setting.small) s addedInterface).map
        fun t => (s.source, s.mock.interfaceList.interfaceCount, s.queue.contents.length,
          t.replica.length)) = some ([⟨"veip0\x00".toList, .linkUp⟩], 1, 0, 2) := by
    decide +kernel
  simp only [Option.bind_eq_some_iff, Option.map_eq_some_iff, Prod.mk.injEq] at hrun
  obtain ⟨s, hread, t, hrun, hsource, hcount, hqueue, hlength⟩ := hrun
  have hrequest : interfaceRequest Setting.small "INTERFACE:veip1:1".toList =
      some ("veip1".toList, .linkDown) := by decide
  have halong : Along (Joint.step Setting.small) (Joint.Replicates Setting.small) s
      addedInterface := by
    refine ⟨fun name status l hrequest' _ => ?_, fun _ _ => ⟨trivial, fun _ _ => ⟨trivial,
      fun _ _ => trivial⟩⟩⟩
    rw [hrequest] at hrequest'
    cases hrequest'
    refine ⟨fun hrepeats => absurd hrepeats.1 (by decide), fun hfull => ?_⟩
    rw [hqueue] at hfull
    cases hfull
  exact ⟨s, t, hread, hrun, hlength, (manager_follows_mock_iff (by decide) (by decide)
    World.ready_initialised hread addedInterface).mpr halong _ _ (List.prefix_refl _) hrun⟩

end EponManager.HalMock
