import EponManager.Lib.Exclusive
import EponManager.Lib.StepSystem
import EponManager.World

/-!
# The threads of the stats poller (`eponMgr_stats_poller.c`)

Any number of calls of `eponMgr_stats_poller_start`, `_stop` and `_destroy` on one poller, and the
threads they create, interleaved step by step. Every access to `running` and `shutdown_requested` is
between a lock and the unlock of `poller->mutex`; creating the thread, joining it and collecting the
statistics are not.

* `threadNext` and `callNext` say what a thread or a call does next and what that has to do with the
  mutex; `PollerRun.step` is the interleaving.
* `Outcome` lists what a step can do; the invariants are case analyses over it.
* `Consistent` is the mutual exclusion, kept by every step and so in every run.
-/

namespace EponManager

open Lib

/-- What a step does to `poller->mutex`. -/
inductive MutexOp where
  | lock
  | unlock
  | stay
  deriving DecidableEq, Repr

/-! ### The thread -/

/-- Where a created thread is in `stats_poller_thread`. -/
inductive ThreadPc where
  | notCreated
  /-- before the lock around `running = true` -/
  | created
  | entering
  /-- before the lock at the top of the loop -/
  | top
  /-- before the first test of `shutdown_requested` -/
  | test
  /-- collecting, with the values read under the lock -/
  | collect (enabled : Bool) (interval : UInt32)
  /-- before the second lock of the loop -/
  | relock (interval : UInt32)
  /-- before `pthread_cond_timedwait`, which releases the mutex -/
  | timedwait (interval : UInt32)
  | waiting
  /-- woken, before the mutex is taken again -/
  | woken
  /-- before the second test of `shutdown_requested` -/
  | retest
  /-- before the lock around `running = false` -/
  | leaving
  | clearing
  /-- before the return -/
  | returning
  | exited
  deriving DecidableEq, Repr

/-- Between a lock and the unlock. -/
def ThreadPc.holds : ThreadPc → Bool
  | .entering | .test | .timedwait _ | .retest | .clearing => true
  | _ => false

/-- The next step of a thread; `none` while it waits, before it is created and after it exited. -/
def threadNext (p : StatsPoller) : ThreadPc → Option (MutexOp × StatsPoller × ThreadPc)
  | .created            => some (.lock, p, .entering)
  | .entering           => some (.unlock, { p with running := true }, .top)
  | .top                => some (.lock, p, .test)
  | .test               =>
      some (.unlock, p,
        if p.shutdownRequested then .leaving else .collect p.enabled p.intervalSeconds)
  | .collect _ interval => some (.stay, p, .relock interval)
  | .relock interval    => some (.lock, p, .timedwait interval)
  | .timedwait _        => some (.unlock, p, .waiting)
  | .woken              => some (.lock, p, .retest)
  | .retest             => some (.unlock, p, if p.shutdownRequested then .leaving else .top)
  | .leaving            => some (.lock, p, .clearing)
  | .clearing           => some (.unlock, { p with running := false }, .returning)
  | .returning          => some (.stay, p, .exited)
  | .notCreated         => none
  | .waiting            => none
  | .exited             => none

/-! ### The calls -/

inductive CallKind where
  | start
  | stop
  | destroy
  deriving DecidableEq, Repr

/-- Where a call is. -/
inductive CallPc where
  | notBegun
  /-- before the lock -/
  | lock
  /-- before the test of `running` -/
  | test
  /-- `start`: before `pthread_create` -/
  | create
  /-- `stop`: before `pthread_cond_signal` and the unlock -/
  | signal
  /-- `stop`: before `pthread_join` reads `poller->thread` -/
  | join
  /-- `stop`: waiting for the thread -/
  | joining (i : Nat)
  /-- `destroy`: before the condition variable and the mutex are destroyed -/
  | cleanup
  | returned
  deriving DecidableEq, Repr

def CallPc.holds : CallPc → Bool
  | .test | .signal => true
  | _ => false

/-- What follows the body of `eponMgr_stats_poller_stop`. -/
def CallKind.afterStop : CallKind → CallPc
  | .destroy => .cleanup
  | _        => .returned

/-- The critical section of a call. -/
def callNext (kind : CallKind) (p : StatsPoller) : CallPc → Option (MutexOp × StatsPoller × CallPc)
  | .lock    => some (.lock, p, .test)
  | .test    =>
      match kind with
      | .start =>
          if p.running then some (.unlock, p, .returned)
          else some (.unlock, { p with shutdownRequested := false }, .create)
      | _ =>
          if p.running then some (.stay, { p with shutdownRequested := true }, .signal)
          else some (.unlock, p, kind.afterStop)
  | .signal  => some (.unlock, p, .join)
  | .cleanup => some (.stay, p, .returned)
  | _        => none

/-! ### The interleaving -/

inductive Agent where
  | thread (i : Nat)
  | call (c : Nat)
  deriving DecidableEq, Repr

/-- A call, and whether a start overlapped or followed it. -/
structure Call where
  kind : CallKind
  pc : CallPc
  startSeen : Bool
  deriving DecidableEq, Repr

/-- Threads and calls are numbered in the order in which they are created and begin. -/
structure PollerRun where
  poller : StatsPoller
  /-- `poller->thread` -/
  thread : Option Nat
  /-- who holds `poller->mutex` -/
  owner : Option Agent
  pc : Nat → ThreadPc
  created : Nat
  calls : Nat → Call
  begun : Nat
  /-- how often `pthread_join` was called on each thread -/
  joins : Nat → Nat

inductive PollerAction where
  /-- a call begins -/
  | begin (kind : CallKind)
  /-- the next step of a call in its critical section or at its end -/
  | call (c : Nat)
  /-- `pthread_cond_signal` of a call, with the thread it wakes, and the unlock -/
  | signal (c : Nat) (woken : Option Nat)
  /-- `pthread_create` of a call, with its outcome -/
  | create (c : Nat) (ok : Bool)
  /-- `pthread_join` of a call reads `poller->thread` -/
  | join (c : Nat)
  /-- the thread that a call joins has exited -/
  | joined (c : Nat)
  /-- the next step of a thread -/
  | thread (i : Nat)
  /-- a waiting thread wakes up: the time is over, or somebody else signals -/
  | wake (i : Nat)
  /-- the setters of the interval and of `enabled`, between their lock and unlock -/
  | configure (enabled : Bool) (interval : UInt32)

namespace PollerRun

/-! ### The steps -/

/-- After `eponMgr_stats_poller_init`. -/
def init (enabled : Bool) (interval : UInt32) : PollerRun where
  poller := ⟨enabled, interval, false, false⟩
  thread := none
  owner := none
  pc _ := .notCreated
  created := 0
  calls _ := ⟨.start, .notBegun, false⟩
  begun := 0
  joins _ := 0

/-- The mutex after a step of `a`; `none` if the step has to wait for it. -/
def lockOp (a : Agent) (owner : Option Agent) : MutexOp → Option (Option Agent)
  | .lock   => if owner = none then some (some a) else none
  | .unlock => some none
  | .stay   => some owner

def setPc (s : PollerRun) (i : Nat) (pc : ThreadPc) : PollerRun :=
  { s with pc := Function.update s.pc i pc }

def setCall (s : PollerRun) (c : Nat) (pc : CallPc) : PollerRun :=
  { s with calls := Function.update s.calls c { s.calls c with pc } }

/-- Some start has begun and not returned. -/
def startInProgress (s : PollerRun) : Bool :=
  (List.range s.begun).any fun c => (s.calls c).kind = .start && (s.calls c).pc ≠ .returned

/-- A call begins. If it is a start, every other call sees it; otherwise it sees the starts in
progress. -/
def begin (s : PollerRun) (kind : CallKind) : PollerRun :=
  { s with
    calls := Function.update
      (if kind = .start then fun c => { s.calls c with startSeen := true } else s.calls)
      s.begun ⟨kind, .lock, s.startInProgress⟩
    begun := s.begun + 1 }

/-- The threads that `pthread_cond_signal` may wake: one that waits, if there is any. -/
def wakes (s : PollerRun) : Option Nat → Bool
  | none   => (List.range s.created).all fun i => s.pc i ≠ .waiting
  | some i => s.pc i = .waiting

def wake (s : PollerRun) : Option Nat → PollerRun
  | none   => s
  | some i => s.setPc i .woken

def step (s : PollerRun) : PollerAction → Option PollerRun
  | .begin kind => some (s.begin kind)
  | .call c =>
      if (s.calls c).pc = .signal then
        none
      else do
        let (op, poller, pc) ← callNext (s.calls c).kind s.poller (s.calls c).pc
        let owner ← lockOp (.call c) s.owner op
        return { s.setCall c pc with poller, owner }
  | .signal c woken =>
      if (s.calls c).pc = .signal ∧ s.wakes woken then
        some { (s.wake woken).setCall c .join with owner := none }
      else
        none
  | .create c ok =>
      if (s.calls c).pc = .create then
        if ok then
          some { (s.setPc s.created .created).setCall c .returned with
            thread := some s.created
            created := s.created + 1 }
        else
          some (s.setCall c .returned)
      else
        none
  | .join c =>
      match (s.calls c).pc, s.thread with
      | .join, some i =>
          some { s.setCall c (.joining i) with joins := Function.update s.joins i (s.joins i + 1) }
      | _, _ => none
  | .joined c =>
      match (s.calls c).pc with
      | .joining i =>
          if s.pc i = .exited then some (s.setCall c (s.calls c).kind.afterStop) else none
      | _ => none
  | .thread i => do
      let (op, poller, pc) ← threadNext s.poller (s.pc i)
      let owner ← lockOp (.thread i) s.owner op
      return { s.setPc i pc with poller, owner }
  | .wake i => if s.pc i = .waiting then some (s.setPc i .woken) else none
  | .configure enabled interval =>
      if s.owner = none then
        some { s with poller := { s.poller with enabled, intervalSeconds := interval } }
      else
        none

/-! ### What a step can do -/

/-- The steps, one constructor for each kind. -/
inductive Outcome (s : PollerRun) : PollerAction → PollerRun → Prop where
  | begin (kind : CallKind) : Outcome s (.begin kind) (s.begin kind)
  | call (c : Nat) (op : MutexOp) (poller : StatsPoller) (pc : CallPc) (owner : Option Agent)
      (hpc : (s.calls c).pc ≠ .signal)
      (hnext : callNext (s.calls c).kind s.poller (s.calls c).pc = some (op, poller, pc))
      (hop : lockOp (.call c) s.owner op = some owner) :
      Outcome s (.call c) { s.setCall c pc with poller, owner }
  | signal (c : Nat) (woken : Option Nat) (hpc : (s.calls c).pc = .signal)
      (hwoken : s.wakes woken = true) :
      Outcome s (.signal c woken) { (s.wake woken).setCall c .join with owner := none }
  | created (c : Nat) (hpc : (s.calls c).pc = .create) :
      Outcome s (.create c true) { (s.setPc s.created .created).setCall c .returned with
        thread := some s.created
        created := s.created + 1 }
  | notCreated (c : Nat) (hpc : (s.calls c).pc = .create) :
      Outcome s (.create c false) (s.setCall c .returned)
  | join (c i : Nat) (hpc : (s.calls c).pc = .join) (hthread : s.thread = some i) :
      Outcome s (.join c)
        { s.setCall c (.joining i) with joins := Function.update s.joins i (s.joins i + 1) }
  | joined (c i : Nat) (hpc : (s.calls c).pc = .joining i) (hexited : s.pc i = .exited) :
      Outcome s (.joined c) (s.setCall c (s.calls c).kind.afterStop)
  | thread (i : Nat) (op : MutexOp) (poller : StatsPoller) (pc : ThreadPc) (owner : Option Agent)
      (hnext : threadNext s.poller (s.pc i) = some (op, poller, pc))
      (hop : lockOp (.thread i) s.owner op = some owner) :
      Outcome s (.thread i) { s.setPc i pc with poller, owner }
  | wake (i : Nat) (hpc : s.pc i = .waiting) : Outcome s (.wake i) (s.setPc i .woken)
  | configure (enabled : Bool) (interval : UInt32) (howner : s.owner = none) :
      Outcome s (.configure enabled interval)
        { s with poller := { s.poller with enabled, intervalSeconds := interval } }

/-- **Every step is one of these.** -/
theorem outcome_of_step {s t : PollerRun} {a : PollerAction} (h : s.step a = some t) :
    Outcome s a t := by
  cases a with
  | begin kind =>
      cases h
      exact .begin kind
  | call c =>
      unfold step at h
      simp only at h
      split at h
      · cases h
      · next hpc =>
        obtain ⟨⟨op, poller, pc⟩, hnext, h⟩ := Option.bind_eq_some_iff.mp h
        obtain ⟨owner, hop, h⟩ := Option.bind_eq_some_iff.mp h
        cases h
        exact .call c op poller pc owner hpc hnext hop
  | signal c woken =>
      unfold step at h
      simp only at h
      split at h
      · next hpc =>
        cases h
        exact .signal c woken hpc.1 hpc.2
      · cases h
  | create c ok =>
      unfold step at h
      simp only at h
      split at h
      · next hpc =>
        cases ok with
        | true =>
            cases h
            exact .created c hpc
        | false =>
            cases h
            exact .notCreated c hpc
      · cases h
  | join c =>
      unfold step at h
      simp only at h
      split at h
      · next i hpc hthread =>
        cases h
        exact .join c i hpc hthread
      · cases h
  | joined c =>
      unfold step at h
      simp only at h
      split at h
      · next i hpc =>
        split at h
        · next hexited =>
          cases h
          exact .joined c i hpc hexited
        · cases h
      · cases h
  | thread i =>
      obtain ⟨⟨op, poller, pc⟩, hnext, h⟩ := Option.bind_eq_some_iff.mp h
      obtain ⟨owner, hop, h⟩ := Option.bind_eq_some_iff.mp h
      cases h
      exact .thread i op poller pc owner hnext hop
  | wake i =>
      unfold step at h
      simp only at h
      split at h
      · next hpc =>
        cases h
        exact .wake i hpc
      · cases h
  | configure enabled interval =>
      unfold step at h
      simp only at h
      split at h
      · next howner =>
        cases h
        exact .configure enabled interval howner
      · cases h

/-- Some thread can be woken, or there is none to wake. -/
theorem exists_wakes (s : PollerRun) : ∃ woken, s.wakes woken = true := by
  by_cases h : ∃ i, s.pc i = .waiting
  · obtain ⟨i, hi⟩ := h
    exact ⟨some i, decide_eq_true hi⟩
  · refine ⟨none, List.all_eq_true.mpr fun i _ => ?_⟩
    exact decide_eq_true fun hi => h ⟨i, hi⟩

/-! ### Mutual exclusion -/

/-- Whether an agent is between a lock and the unlock. -/
def holds (s : PollerRun) : Agent → Bool
  | .thread i => (s.pc i).holds
  | .call c   => (s.calls c).pc.holds

/-- Threads and calls that have not begun are nowhere. -/
structure Fresh (s : PollerRun) : Prop where
  threads : ∀ i, s.created ≤ i → s.pc i = .notCreated
  calls : ∀ c, s.begun ≤ c → (s.calls c).pc = .notBegun
  thread : ∀ i, s.thread = some i → i < s.created

/-- The mutex has the owner that the program counters say. -/
structure Consistent (s : PollerRun) : Prop where
  exclusive : Exclusive s.owner s.holds
  fresh : s.Fresh

/-- Two calls in their mutex sections are the same call. -/
theorem Consistent.same_call {s : PollerRun} (hs : s.Consistent) {c d : Nat}
    (hc : (s.calls c).pc.holds = true) (hd : (s.calls d).pc.holds = true) : c = d := by
  have hcHolds : s.holds (.call c) = true := hc
  have hdHolds : s.holds (.call d) = true := hd
  exact Agent.call.inj (hs.exclusive.unique hcHolds hdHolds)

/-- At the start no thread exists, no call is under way and the mutex is free. -/
theorem init_consistent (enabled : Bool) (interval : UInt32) :
    (init enabled interval).Consistent where
  exclusive := by
    intro a ha
    cases a with
    | thread i => cases ha
    | call c => cases ha
  fresh := ⟨fun _ _ => rfl, fun _ _ => rfl, fun _ h => by cases h⟩

/-- An operation on the mutex agrees with where the agent is before and after it. -/
def OpFits (before after : Bool) : MutexOp → Prop
  | .lock   => True
  | .unlock => before = true ∧ after = false
  | .stay   => after = before

/-- A thread gives back only what it holds, and takes the mutex only when it does not hold it. -/
theorem threadNext_fits {p p' : StatsPoller} {pc pc' : ThreadPc} {op : MutexOp}
    (h : threadNext p pc = some (op, p', pc')) : OpFits pc.holds pc'.holds op := by
  -- one case per place of the thread's loop
  cases pc <;> simp only [threadNext, Option.some.injEq, Prod.mk.injEq, reduceCtorEq] at h <;>
    obtain ⟨rfl, rfl, rfl⟩ := h <;> first | trivial | exact ⟨rfl, rfl⟩ | rfl | skip
  · refine ⟨rfl, ?_⟩
    cases p.shutdownRequested <;> rfl
  · refine ⟨rfl, ?_⟩
    cases p.shutdownRequested <;> rfl

theorem callNext_fits {kind : CallKind} {p p' : StatsPoller} {pc pc' : CallPc} {op : MutexOp}
    (h : callNext kind p pc = some (op, p', pc')) (hpc : pc ≠ .signal) :
    OpFits pc.holds pc'.holds op := by
  cases pc with
  | lock =>
      cases h
      trivial
  | test =>
      cases kind <;> cases hrun : p.running <;> simp [callNext, hrun] at h <;>
        obtain ⟨rfl, rfl, rfl⟩ := h <;> first | exact ⟨rfl, rfl⟩ | rfl
  | signal => exact absurd rfl hpc
  | cleanup =>
      cases h
      rfl
  | _ => cases h

/-- A mutex is locked only when it is free. -/
theorem lockOp_lock {a : Agent} {owner owner' : Option Agent}
    (h : lockOp a owner .lock = some owner') : owner = none ∧ owner' = some a := by
  by_cases hfree : owner = none
  · refine ⟨hfree, ?_⟩
    rw [lockOp, if_pos hfree] at h
    exact (Option.some.inj h).symm
  · rw [lockOp, if_neg hfree] at h
    cases h

/-- **One step of one agent keeps the mutual exclusion**, whatever the step does with the mutex. -/
theorem exclusive_op {owner owner' : Option Agent} {holds holds' : Agent → Bool} {a : Agent}
    {op : MutexOp} (h : Exclusive owner holds) (hop : lockOp a owner op = some owner')
    (hfits : OpFits (holds a) (holds' a) op) (hother : ∀ b ≠ a, holds' b = holds b) :
    Exclusive owner' holds' := by
  cases op with
  | lock =>
      obtain ⟨rfl, rfl⟩ := lockOp_lock hop
      exact h.lock hother
  | unlock =>
      cases hop
      exact h.unlock hfits.1 hother hfits.2
  | stay =>
      cases hop
      refine h.stay fun b => ?_
      by_cases hb : b = a
      · rw [hb]
        exact hfits
      · exact hother b hb

/-! Moving one thread or one call leaves the others where they are. -/

/-- A thread's step changes nobody else's hold of the mutex. -/
theorem holds_setPc_of_ne (s : PollerRun) {i : Nat} {pc : ThreadPc} {b : Agent}
    (hb : b ≠ .thread i) : (s.setPc i pc).holds b = s.holds b := by
  cases b with
  | thread j =>
      have hji : j ≠ i := fun h => hb (by rw [h])
      show (Function.update s.pc i pc j).holds = _
      rw [Function.update_of_ne hji]
      rfl
  | call c => rfl

theorem holds_setCall_of_ne (s : PollerRun) {c : Nat} {pc : CallPc} {b : Agent}
    (hb : b ≠ .call c) : (s.setCall c pc).holds b = s.holds b := by
  cases b with
  | thread i => rfl
  | call d =>
      have hdc : d ≠ c := fun h => hb (by rw [h])
      show (Function.update s.calls c _ d).pc.holds = _
      rw [Function.update_of_ne hdc]
      rfl

@[simp] theorem setPc_pc_self (s : PollerRun) (i : Nat) (pc : ThreadPc) :
    (s.setPc i pc).pc i = pc := Function.update_self ..

theorem setPc_pc_of_ne (s : PollerRun) {i j : Nat} (pc : ThreadPc) (h : j ≠ i) :
    (s.setPc i pc).pc j = s.pc j := Function.update_of_ne h ..

@[simp] theorem setCall_calls_self (s : PollerRun) (c : Nat) (pc : CallPc) :
    (s.setCall c pc).calls c = { s.calls c with pc } := Function.update_self ..

theorem setCall_calls_of_ne (s : PollerRun) {c d : Nat} (pc : CallPc) (h : d ≠ c) :
    (s.setCall c pc).calls d = s.calls d := Function.update_of_ne h ..

@[simp] theorem setPc_calls (s : PollerRun) (i : Nat) (pc : ThreadPc) :
    (s.setPc i pc).calls = s.calls := rfl

@[simp] theorem setCall_pc (s : PollerRun) (c : Nat) (pc : CallPc) :
    (s.setCall c pc).pc = s.pc := rfl

/-- A call that has begun is one of the numbered ones. -/
theorem Fresh.lt_begun {s : PollerRun} (h : s.Fresh) {c : Nat} (hc : (s.calls c).pc ≠ .notBegun) :
    c < s.begun := by
  by_contra hge
  exact hc (h.calls c (Nat.le_of_not_lt hge))

/-! ### Threads and calls that do not exist yet -/

/-- A thread that is somewhere has been created. -/
theorem Fresh.lt_created {s : PollerRun} (h : s.Fresh) {i : Nat} (hi : s.pc i ≠ .notCreated) :
    i < s.created := by
  by_contra hge
  exact hi (h.threads i (Nat.le_of_not_lt hge))

/-- A step of a thread that exists creates none. -/
theorem Fresh.setPc {s : PollerRun} (h : s.Fresh) {i : Nat} (hi : i < s.created) (pc : ThreadPc) :
    (s.setPc i pc).Fresh := by
  refine ⟨fun j hj => ?_, h.calls, h.thread⟩
  have hji : j ≠ i := by
    have hj' : s.created ≤ j := hj
    omega
  rw [setPc_pc_of_ne s pc hji]
  exact h.threads j hj

/-- A step of a call that has begun begins none. -/
theorem Fresh.setCall {s : PollerRun} (h : s.Fresh) {c : Nat} (hc : c < s.begun) (pc : CallPc) :
    (s.setCall c pc).Fresh := by
  refine ⟨h.threads, fun d hd => ?_, h.thread⟩
  have hdc : d ≠ c := by
    have hd' : s.begun ≤ d := hd
    omega
  rw [setCall_calls_of_ne s pc hdc]
  exact h.calls d hd

/-- A call that begins leaves the others where they are. -/
theorem begin_calls_of_ne (s : PollerRun) (kind : CallKind) {c : Nat} (hc : c ≠ s.begun) :
    ((s.begin kind).calls c).pc = (s.calls c).pc ∧
      ((s.begin kind).calls c).kind = (s.calls c).kind := by
  unfold begin
  simp only
  rw [Function.update_of_ne hc]
  by_cases hk : kind = .start
  · rw [if_pos hk]
    exact ⟨rfl, rfl⟩
  · rw [if_neg hk]
    exact ⟨rfl, rfl⟩

/-- The new call stands before the lock, and remembers whether a start was under way. -/
theorem begin_calls_self (s : PollerRun) (kind : CallKind) :
    (s.begin kind).calls s.begun = ⟨kind, .lock, s.startInProgress⟩ := Function.update_self ..

/-! ### One step keeps the state consistent

The three parts of the invariant for each kind of step: a call's, a thread's and the beginning of a
call.
-/

theorem Consistent.callOp {s : PollerRun} (hs : s.Consistent) {c : Nat} (hc : c < s.begun)
    (op : MutexOp) {pc : CallPc} {owner : Option Agent}
    (hop : lockOp (.call c) s.owner op = some owner)
    (hfits : OpFits (s.calls c).pc.holds pc.holds op) (poller : StatsPoller) :
    Consistent { s.setCall c pc with poller, owner } := by
  constructor
  · refine exclusive_op hs.exclusive hop ?_ fun b hb => holds_setCall_of_ne s hb
    show OpFits (s.calls c).pc.holds ((s.setCall c pc).calls c).pc.holds op
    rw [setCall_calls_self]
    exact hfits
  · have hf := hs.fresh.setCall hc pc
    exact ⟨hf.threads, hf.calls, hf.thread⟩

theorem Consistent.threadOp {s : PollerRun} (hs : s.Consistent) {i : Nat} (hi : i < s.created)
    (op : MutexOp) {pc : ThreadPc} {owner : Option Agent}
    (hop : lockOp (.thread i) s.owner op = some owner)
    (hfits : OpFits (s.pc i).holds pc.holds op) (poller : StatsPoller) :
    Consistent { s.setPc i pc with poller, owner } := by
  constructor
  · refine exclusive_op hs.exclusive hop ?_ fun b hb => holds_setPc_of_ne s hb
    show OpFits (s.pc i).holds ((s.setPc i pc).pc i).holds op
    rw [setPc_pc_self]
    exact hfits
  · have hf := hs.fresh.setPc hi pc
    exact ⟨hf.threads, hf.calls, hf.thread⟩

/-- A call begins: it does not hold the mutex. -/
theorem Consistent.begin {s : PollerRun} (hs : s.Consistent) (kind : CallKind) :
    (s.begin kind).Consistent := by
  have hnew := hs.fresh.calls s.begun (Nat.le_refl _)
  constructor
  · refine hs.exclusive.stay fun b => ?_
    cases b with
    | thread i => rfl
    | call c =>
        show ((s.begin kind).calls c).pc.holds = (s.calls c).pc.holds
        by_cases hc : c = s.begun
        · rw [hc, begin_calls_self, hnew]
          rfl
        · rw [(begin_calls_of_ne s kind hc).1]
  · refine ⟨hs.fresh.threads, fun c hc => ?_, hs.fresh.thread⟩
    have hc' : s.begun + 1 ≤ c := hc
    rw [(begin_calls_of_ne s kind (by omega)).1]
    exact hs.fresh.calls c (by omega)

/-- The threads that exist are where they were, and the new one is at its start. -/
theorem Consistent.create {s : PollerRun} (hs : s.Consistent) :
    Consistent { s.setPc s.created .created with
      thread := some s.created
      created := s.created + 1 } := by
  have hnew := hs.fresh.threads s.created (Nat.le_refl _)
  constructor
  · refine hs.exclusive.stay fun b => ?_
    by_cases hb : b = .thread s.created
    · rw [hb]
      show ((s.setPc s.created .created).pc s.created).holds = (s.pc s.created).holds
      rw [setPc_pc_self, hnew]
      rfl
    · exact holds_setPc_of_ne s hb
  · refine ⟨fun i hi => ?_, hs.fresh.calls, ?_⟩
    · have hi' : s.created + 1 ≤ i := hi
      show (s.setPc s.created .created).pc i = _
      rw [setPc_pc_of_ne s _ (by omega)]
      exact hs.fresh.threads i (by omega)
    · rintro i ⟨⟩
      exact Nat.lt_succ_self _

/-! ### Any step, any run -/

/-- **Mutual exclusion**, kept by every step. -/
theorem Consistent.step {s t : PollerRun} {a : PollerAction} (hs : s.Consistent)
    (h : s.step a = some t) : t.Consistent := by
  have hbegun {c : Nat} (hc : (s.calls c).pc ≠ .notBegun) : c < s.begun := hs.fresh.lt_begun hc
  have hcreated {i : Nat} (hi : s.pc i ≠ .notCreated) : i < s.created := hs.fresh.lt_created hi
  cases outcome_of_step h with
  | begin kind => exact hs.begin kind
  | call c op poller pc owner hpc hnext hop =>
      refine hs.callOp (hbegun fun h0 => ?_) op hop (callNext_fits hnext hpc) poller
      rw [h0] at hnext
      cases hnext
  | signal c woken hpc hwoken =>
      -- the signal wakes a thread first, and then gives the mutex back
      have hwake : (s.wake woken).Consistent := by
        cases woken with
        | none => exact hs
        | some i =>
            have hwaiting : s.pc i = .waiting := of_decide_eq_true hwoken
            refine hs.threadOp (hcreated (by rw [hwaiting]; nofun)) .stay rfl ?_ s.poller
            rw [hwaiting]
            rfl
      have hcall : ((s.wake woken).calls c).pc = .signal := by
        cases woken <;> exact hpc
      refine hwake.callOp (hwake.fresh.lt_begun (by rw [hcall]; nofun)) .unlock rfl ?_
        (s.wake woken).poller
      rw [hcall]
      exact ⟨rfl, rfl⟩
  | created c hpc =>
      refine hs.create.callOp (c := c) (hbegun (by rw [hpc]; nofun)) .stay rfl ?_ s.poller
      show CallPc.holds .returned = (s.calls c).pc.holds
      rw [hpc]
      rfl
  | notCreated c hpc =>
      refine hs.callOp (hbegun (by rw [hpc]; nofun)) .stay rfl ?_ s.poller
      rw [hpc]
      rfl
  | join c i hpc hthread =>
      have hmove : (s.setCall c (.joining i)).Consistent := by
        refine hs.callOp (hbegun (by rw [hpc]; nofun)) .stay rfl ?_ s.poller
        rw [hpc]
        rfl
      exact ⟨hmove.exclusive, hmove.fresh.threads, hmove.fresh.calls, hmove.fresh.thread⟩
  | joined c i hpc hexited =>
      refine hs.callOp (hbegun (by rw [hpc]; nofun)) .stay rfl ?_ s.poller
      rw [hpc]
      cases (s.calls c).kind <;> rfl
  | thread i op poller pc owner hnext hop =>
      refine hs.threadOp (hcreated fun h0 => ?_) op hop (threadNext_fits hnext) poller
      rw [h0] at hnext
      cases hnext
  | wake i hpc =>
      refine hs.threadOp (hcreated (by rw [hpc]; nofun)) .stay rfl ?_ s.poller
      rw [hpc]
      rfl
  | configure enabled interval howner =>
      exact ⟨hs.exclusive, hs.fresh.threads, hs.fresh.calls, hs.fresh.thread⟩

/-- **Run lemma**: in every state reached the mutex excludes. -/
theorem Consistent.exec {s t : PollerRun} {as : List PollerAction} (hs : s.Consistent)
    (h : exec PollerRun.step s as = some t) : t.Consistent :=
  exec_invariant (P := Consistent) (fun _ _ _ hs hstep => hs.step hstep) hs h

end PollerRun

end EponManager
