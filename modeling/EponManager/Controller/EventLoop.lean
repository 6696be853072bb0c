import EponManager.Controller.Callbacks

/-!
# The wait of the event loop

When the loop of `eponMgr_controller_run` finds the queue empty, or has processed 50 events, it
waits on `event_cond` for at most half a second. The wait has no predicate, and a callback pushes
its event and signals without the mutex of the wait: what was signalled before the main thread is in
the wait is not noticed.

* `EventLoop` is the process with the wait divided into its steps. It runs as `Process` does
  (`process_of_exec`), and every step of `Process` is one or three of its steps
  (`exec_of_process`).
* `Restful` says that the main thread does not sleep on pending work.
* `event_loop_restful`: it does not in any run that is `Lossless`. After any other step, it does
  once it goes to sleep (`not_restful_of_lossy`).
-/

namespace EponManager

open Lib

/-! ### The wait, step by step -/

/-- Where the main thread is in the wait. -/
inductive WaitPhase where
  /-- before `pthread_cond_timedwait` has released `event_mutex` -/
  | before
  /-- blocked in `pthread_cond_timedwait` -/
  | blocked
  /-- signalled, timed out, or woken for no reason -/
  | woken
  deriving DecidableEq, Repr

/-- The process, and where its main thread is in the wait while its `pc` is `wait`. -/
structure EventLoop where
  process : Process
  phase : WaitPhase

inductive LoopAction where
  /-- a step of the process; the main thread's step at `wait` is the return from the wait -/
  | process (a : ProcessAction)
  /-- `pthread_cond_timedwait` blocks -/
  | block
  /-- the timeout, or a spurious wakeup -/
  | wake

namespace Process

/-- The step is a `pthread_cond_signal` on `event_cond`, by a callback or by a handler. -/
def signals (s : Process) : ProcessAction → Bool
  | .callback k => s.callbackPc k = .notify
  | .handler    => s.handlers.head?.any fun h => h.pc = .notify
  | _           => false

/-- The step is the return of the main thread from the wait. -/
def returnsFromWait (s : Process) : ProcessAction → Bool
  | .main _ => s.pc = .wait
  | _       => false

/-- `eponMgr_queue_is_empty` -/
def queueEmpty (s : Process) : Prop := ∀ queue, s.queue = some queue → queue.isEmpty = true

instance (s : Process) : Decidable s.queueEmpty :=
  match h : s.queue with
  | none       => isTrue fun _ hq => by rw [h] at hq; cases hq
  | some queue =>
      decidable_of_iff (queue.isEmpty = true)
        ⟨fun he q hq => by rw [h] at hq; cases hq; exact he, fun he => he queue h⟩

/-- The callback `k` has pushed its event, and has not signalled yet. -/
def Signalling (s : Process) (k : Nat) : Prop := s.callbackPc k = .notify

/-- The queue is empty, or a callback has yet to signal. -/
def Attended (s : Process) : Prop := s.queueEmpty ∨ ∃ k, s.Signalling k

end Process

namespace EventLoop

def start : EventLoop := ⟨Process.init, .before⟩

/-- A signal wakes the main thread only if it is waiting already. -/
def signalled (s : EventLoop) (a : ProcessAction) : WaitPhase :=
  if s.process.signals a ∧ s.phase = .blocked then .woken else s.phase

def step (s : EventLoop) : LoopAction → Option EventLoop
  | .process a =>
      if s.process.returnsFromWait a then
        if s.phase = .woken then (s.process.step a).map fun p => ⟨p, .before⟩ else none
      else
        (s.process.step a).map fun p => ⟨p, s.signalled a⟩
  | .block =>
      if s.process.pc = .wait ∧ s.process.handlers = [] ∧ s.phase = .before then
        some { s with phase := .blocked }
      else
        none
  | .wake => if s.phase = .blocked then some { s with phase := .woken } else none

/-- **The main thread does not sleep on pending work**: where it is blocked, and no callback has yet
to signal what it pushed, the queue is empty. -/
def Restful (s : EventLoop) : Prop :=
  s.phase = .blocked → (∀ k, ¬ s.process.Signalling k) → s.process.queueEmpty

/-- **The condition on a step.** If the loop stops at its limit of 50 events, or if a callback
signals while the main thread is on its way to the wait, then the queue is empty or another callback
has yet to signal. -/
def Lossless (s : EventLoop) : LoopAction → Prop
  | .process (.main _) => ∀ processed event, s.process.pc = .process processed event →
      50 ≤ processed + 1 → s.process.Attended
  | .process (.callback k) => s.process.Signalling k → s.process.pc = .wait → s.phase = .before →
      s.process.queueEmpty ∨ ∃ j ≠ k, s.process.Signalling j
  | _ => True

end EventLoop

/-! ### The process runs as before -/

namespace EventLoop

variable {s t : EventLoop}

/-- The steps of the process among the actions. -/
def processActions : List LoopAction → List ProcessAction :=
  List.filterMap fun
    | .process a => some a
    | _          => none

/-- A step of the process, or one of the wait that the process does not see. -/
theorem process_of_step {a : LoopAction} (h : s.step a = some t) :
    (∃ b, a = .process b ∧ s.process.step b = some t.process) ∨
      (processActions [a] = [] ∧ t.process = s.process) := by
  cases a with
  | process b =>
      refine .inl ⟨b, rfl, ?_⟩
      unfold step at h
      simp only at h
      split at h
      · obtain ⟨-, h⟩ := Option.ite_none_right_eq_some.mp h
        obtain ⟨p, hp, rfl⟩ := Option.map_eq_some_iff.mp h
        exact hp
      · obtain ⟨p, hp, rfl⟩ := Option.map_eq_some_iff.mp h
        exact hp
  | block =>
      obtain ⟨-, h⟩ := Option.ite_none_right_eq_some.mp h
      cases h
      exact .inr ⟨rfl, rfl⟩
  | wake =>
      obtain ⟨-, h⟩ := Option.ite_none_right_eq_some.mp h
      cases h
      exact .inr ⟨rfl, rfl⟩

/-- **A run of the event loop is a run of the process.** -/
theorem process_of_exec {as : List LoopAction} (h : exec step s as = some t) :
    exec Process.step s.process (processActions as) = some t.process := by
  induction as generalizing s with
  | nil =>
      cases h
      rfl
  | cons a as ih =>
      obtain ⟨u, hu, hrest⟩ := exec_cons_eq_some.mp h
      rcases process_of_step hu with ⟨b, rfl, hb⟩ | ⟨hnone, hsame⟩
      · exact exec_cons_eq_some.mpr ⟨u.process, hb, ih hrest⟩
      · have hactions : processActions (a :: as) = processActions as := by
          rw [← List.singleton_append, processActions, List.filterMap_append]
          exact congrArg (· ++ _) hnone
        rw [hactions, ← hsame]
        exact ih hrest

/-- **Every step of the process is taken**: at the wait after the main thread has been blocked and
woken. -/
theorem exec_of_process {p q : Process} {a : ProcessAction} (h : p.step a = some q) :
    ∃ as, processActions as = [a] ∧
      exec step ⟨p, .before⟩ as = some (⟨q, .before⟩ : EventLoop) := by
  by_cases hwait : p.returnsFromWait a = true
  · cases a with
    | main ok =>
        have hpc : p.pc = .wait := of_decide_eq_true hwait
        obtain ⟨hnone, -⟩ := Option.ite_none_right_eq_some.mp h
        refine ⟨[.block, .wake, .process (.main ok)], rfl, ?_⟩
        have hblock : step ⟨p, .before⟩ .block = some ⟨p, .blocked⟩ := if_pos ⟨hpc, hnone, rfl⟩
        have hreturn : step ⟨p, .woken⟩ (.process (.main ok)) = some ⟨q, .before⟩ := by
          rw [step, if_pos hwait, if_pos rfl, h]
          rfl
        exact exec_cons_eq_some.mpr ⟨_, hblock, exec_cons_eq_some.mpr ⟨⟨p, .woken⟩, rfl,
          exec_cons_eq_some.mpr ⟨_, hreturn, rfl⟩⟩⟩
    | _ => cases hwait
  · refine ⟨[.process a], rfl, exec_cons_eq_some.mpr ⟨_, ?_, rfl⟩⟩
    have hsignal : signalled ⟨p, .before⟩ a = .before := if_neg fun hs => nomatch hs.2
    rw [step, if_neg hwait, h, hsignal]
    rfl

end EventLoop

/-! ### Pending work -/

namespace Process

variable {s t : Process}

/-- A push that fails leaves the queue as it is. -/
theorem push_refused {queue queue' : Queue Event} {event : Event} {rc : Int}
    (h : queue.push event = .ok (rc, queue')) (hrc : rc ≠ 0) : queue' = queue := by
  unfold Queue.push at h
  split at h
  · cases h
    rfl
  · simp only [bind, Except.bind, pure, Except.pure] at h
    split at h
    · cases h
    · split at h
      · cases h
      · cases h
        exact absurd rfl hrc

/-- A pop fails only if the queue is empty, and leaves it so. -/
theorem pop_refused {queue queue' : Queue Event} {event : Option Event} {rc : Int}
    (h : queue.pop = .ok (rc, event, queue')) (hrc : rc ≠ 0) : queue'.isEmpty = true := by
  unfold Queue.pop at h
  split at h
  · next hzero =>
    cases h
    exact decide_eq_true hzero
  · simp only [bind, Except.bind, pure, Except.pure] at h
    split at h
    · cases h
    · split at h
      · cases h
      · cases h
        exact absurd rfl hrc

/-- Nothing that is pending was added, and nobody who would signal was lost. -/
theorem Attended.of_frame (hs : s.Attended) (hqueue : t.queue = s.queue)
    (hsignalling : ∀ k, s.Signalling k → t.Signalling k) : t.Attended := by
  rcases hs with hempty | ⟨k, hk⟩
  · exact .inl fun queue hq => hempty queue (hqueue ▸ hq)
  · exact .inr ⟨k, hsignalling k hk⟩

/-- The main thread comes to the wait when it has found the queue empty, or at its limit. -/
theorem mainStep_wait {ok : Bool} (h : s.mainStep ok = some t) (hs : s.pc ≠ .wait)
    (ht : t.pc = .wait) :
    t.queueEmpty ∨ ((∃ processed event, s.pc = .process processed event ∧ 50 ≤ processed + 1) ∧
      t.queue = s.queue) := by
  unfold mainStep lockMutex attempt at h
  cases hpc : s.pc with
  | wait => exact absurd hpc hs
  | pop processed =>
      simp only [hpc] at h
      -- the loop goes to wait when the queue is empty or after its fiftieth event
      unfold popEvent at h
      split at h
      · next hnone =>
        cases h
        exact .inl fun queue hq => absurd (hnone.symm.trans hq) nofun
      · split at h
        · next rc event queue' hpop =>
          split at h
          · next hrc =>
            cases h
            refine .inl fun queue hq => ?_
            cases hq
            exact pop_refused hpop hrc
          · obtain ⟨event, -, rfl⟩ := Option.map_eq_some_iff.mp h
            cases ht
        · cases h
  | process processed event =>
      simp only [hpc] at h
      cases h
      refine .inr ⟨⟨processed, event, rfl, ?_⟩, rfl⟩
      by_contra hlimit
      have hnext : (if processed + 1 ≥ 50 then MainPc.wait else .pop (processed + 1)) = .wait := ht
      rw [if_neg hlimit] at hnext
      cases hnext
  | _ =>
      simp only [hpc] at h
      first
        | (cases h; done)
        | (cases h; cases ok <;> cases ht)
        | (split at h <;> cases h <;> cases ht)

/-- A callback's step does not change what the others are about to do. -/
theorem signalling_setCallback_of_ne {j k : Nat} (hjk : j ≠ k) (pc : CallbackPc) :
    (s.setCallback k pc).Signalling j ↔ s.Signalling j := by
  show Function.update s.callbackPc k pc j = .notify ↔ _
  rw [Function.update_of_ne hjk]
  exact Iff.rfl

/-- A step of a callback, if it does not signal as the last of them. -/
theorem Attended.callbackStep {k : Nat} (hs : s.Attended) (h : s.callbackStep k = some t)
    (hk : s.Signalling k → s.queueEmpty ∨ ∃ j ≠ k, s.Signalling j) : t.Attended := by
  -- a callback that is not before its signal is not the one that is counted on
  have hother (pc : CallbackPc) (hpc : s.callbackPc k ≠ .notify) (j : Nat) (hj : s.Signalling j) :
      (s.setCallback k pc).Signalling j := by
    refine (signalling_setCallback_of_ne ?_ pc).mpr hj
    rintro rfl
    exact hpc hj
  cases callbackOutcome_of_step h with
  | drops hpc hno => exact hs.of_frame rfl (hother _ (by rw [hpc]; nofun))
  | passes hpc hset hqueue hevent => exact hs.of_frame rfl (hother _ (by rw [hpc]; nofun))
  | pushes queue queue' event hpc hqueue hevent hpush =>
      exact .inr ⟨k, Function.update_self ..⟩
  | full queue queue' event rc hpc hqueue hevent hpush hrc =>
      refine hs.of_frame ?_ (hother .report (by rw [hpc]; nofun))
      rw [push_refused hpush hrc, hqueue]
  | notifies hpc =>
      rcases hk hpc with hempty | ⟨j, hjk, hj⟩
      · exact .inl hempty
      · exact .inr ⟨j, (signalling_setCallback_of_ne hjk _).mpr hj⟩
  | reports hpc => exact hs.of_frame rfl (hother .returned (by rw [hpc]; nofun))

/-- What neither the main thread nor a callback does leaves the pending work as it is. -/
theorem attended_of_others {a : ProcessAction} (hguarded : s.Guarded) (h : s.step a = some t)
    (hmain : ∀ ok, a ≠ .main ok) (hcallback : ∀ k, a ≠ .callback k)
    (hinit : ∀ malloc mutexInit, a ≠ .initQueue malloc mutexInit) :
    t.pc = s.pc ∧ (s.Attended → t.Attended) := by
  cases a with
  | main ok => exact absurd rfl (hmain ok)
  | callback k => exact absurd rfl (hcallback k)
  | initQueue malloc mutexInit => exact absurd rfl (hinit malloc mutexInit)
  | deliver signal =>
      obtain ⟨-, hdeliver⟩ := Option.ite_none_right_eq_some.mp h
      cases hdeliver
      exact ⟨rfl, id⟩
  | handler =>
      obtain ⟨_, _, _, _, rfl⟩ := handlerStep_frame h
      exact ⟨rfl, id⟩
  | invoke callback =>
      obtain ⟨-, hnew⟩ := Option.ite_none_right_eq_some.mp h
      cases hnew
      refine ⟨rfl, fun hs => hs.of_frame rfl fun k hk => ?_⟩
      -- the new callback is none of those that were under way
      have hne : k ≠ s.invoked := by
        rintro rfl
        rw [Signalling, hguarded.fresh _ (Nat.le_refl _)] at hk
        cases hk
      exact (Function.update_of_ne hne ..).trans hk
  | otherLock | otherUnlock | otherRelock =>
      obtain ⟨-, howner⟩ := Option.ite_none_right_eq_some.mp h
      cases howner
      exact ⟨rfl, id⟩

/-- After the wait comes the test of the loop. -/
theorem pc_of_return {a : ProcessAction} (ha : s.returnsFromWait a = true)
    (h : s.step a = some t) : t.pc = .loopTest := by
  cases a with
  | main ok =>
      have hpc : s.pc = .wait := of_decide_eq_true ha
      obtain ⟨-, hmain⟩ := Option.ite_none_right_eq_some.mp h
      rw [mainStep, hpc] at hmain
      cases hmain
      rfl
  | _ => cases ha

end Process

/-! ### The invariant -/

namespace EventLoop

variable {s t : EventLoop}

/-- **The invariant**: on its way to sleep the main thread leaves no work behind that is not
attended to. -/
structure Rested (s : EventLoop) : Prop where
  guarded : s.process.Guarded
  waiting : s.phase ≠ .before → s.process.pc = .wait
  attended : s.process.pc = .wait → s.phase ≠ .woken → s.process.Attended

theorem rested_start : start.Rested where
  guarded := Process.init_callbackInvariant.guarded
  waiting h := absurd rfl h
  attended := nofun

theorem Rested.restful (h : s.Rested) : s.Restful := by
  intro hblocked hnone
  have hpc : s.process.pc = .wait := h.waiting (by rw [hblocked]; nofun)
  rcases h.attended hpc (by rw [hblocked]; nofun) with hempty | ⟨k, hk⟩
  · exact hempty
  · exact absurd hk (hnone k)

/-- A step that signals nobody leaves the main thread where it is in the wait. -/
theorem signalled_ne_woken {a : ProcessAction} (h : s.signalled a ≠ .woken) :
    s.signalled a = s.phase ∧ ¬ (s.process.signals a = true ∧ s.phase = .blocked) := by
  unfold signalled at h ⊢
  split at h
  · exact absurd rfl h
  · next hno => exact ⟨if_neg hno, hno⟩

theorem signalled_of_before (h : s.phase = .before) (a : ProcessAction) :
    s.signalled a = .before := by
  rw [signalled, h, if_neg fun hs => nomatch hs.2]

/-! ### The invariant, step by step -/

/-- A step of the process that leaves the main thread at the wait. -/
theorem Rested.kept {a : ProcessAction} {p : Process} (h : s.Rested)
    (hp : s.process.step a = some p) (hpc : p.pc = s.process.pc)
    (hattended : s.process.pc = .wait → s.signalled a ≠ .woken → p.Attended) :
    Rested ⟨p, s.signalled a⟩ := by
  refine ⟨h.guarded.step hp, fun hne => ?_, fun hwait hne => ?_⟩
  · refine hpc.trans (h.waiting fun hbefore => ?_)
    exact hne (signalled_of_before hbefore a)
  · exact hattended (hpc.symm.trans hwait) hne

/-- A step of the main thread on its way to the wait. -/
theorem Rested.moved {a : ProcessAction} {p : Process} (h : s.Rested)
    (hp : s.process.step a = some p) (hpc : s.process.pc ≠ .wait)
    (hattended : p.pc = .wait → p.Attended) : Rested ⟨p, s.signalled a⟩ := by
  have hbefore : s.phase = .before := by
    by_contra hne
    exact hpc (h.waiting hne)
  refine ⟨h.guarded.step hp, fun hne => ?_, fun hwait _ => hattended hwait⟩
  exact absurd (signalled_of_before hbefore a) hne

/-- A step of the process that is not the return from the wait. -/
theorem Rested.process {a : ProcessAction} {p : Process} (h : s.Rested)
    (ha : s.Lossless (.process a)) (hreturn : ¬ s.process.returnsFromWait a = true)
    (hp : s.process.step a = some p) : Rested ⟨p, s.signalled a⟩ := by
  have hothers (hmain : ∀ ok, a ≠ .main ok) (hcallback : ∀ k, a ≠ .callback k)
      (hinit : ∀ malloc mutexInit, a ≠ .initQueue malloc mutexInit) :
      Rested ⟨p, s.signalled a⟩ := by
    obtain ⟨hpc, hkept⟩ := Process.attended_of_others h.guarded hp hmain hcallback hinit
    refine h.kept hp hpc fun hwait hne => hkept (h.attended hwait fun hwoken => ?_)
    exact hne ((signalled_ne_woken hne).1.trans hwoken)
  cases a with
  | main ok =>
      have hpc : s.process.pc ≠ .wait := fun heq => hreturn (decide_eq_true heq)
      obtain ⟨-, hmain⟩ := Option.ite_none_right_eq_some.mp hp
      refine h.moved hp hpc fun hwait => ?_
      rcases Process.mainStep_wait hmain hpc hwait with hempty | ⟨⟨n, event, hn, hlimit⟩, hqueue⟩
      · exact .inl hempty
      · refine (ha n event hn hlimit).of_frame hqueue fun k hk => ?_
        exact (congrFun (Process.sameCallbacks_mainStep hmain).callbackPc k).trans hk
  | initQueue malloc mutexInit =>
      obtain ⟨⟨-, hpc⟩, hinit⟩ := Option.ite_none_right_eq_some.mp hp
      refine h.moved hp (by rw [hpc]; nofun) fun hwait => ?_
      split at hinit <;> cases hinit <;> cases hwait
  | callback k =>
      obtain ⟨-, hcallback⟩ := Option.ite_none_right_eq_some.mp hp
      have hpc : p.pc = s.process.pc := by
        cases Process.callbackOutcome_of_step hcallback <;> rfl
      refine h.kept hp hpc fun hwait hne => ?_
      obtain ⟨hphase, hno⟩ := signalled_ne_woken hne
      have hwoken : s.phase ≠ .woken := fun heq => hne (hphase.trans heq)
      refine (h.attended hwait hwoken).callbackStep hcallback fun hk => ha hk hwait ?_
      -- it signals, and still nobody is woken: the main thread is not blocked yet
      cases hs : s.phase with
      | before => rfl
      | blocked => exact absurd ⟨decide_eq_true hk, hs⟩ hno
      | woken => exact absurd hs hwoken
  | _ => exact hothers nofun nofun nofun

/-- **Step lemma.** -/
theorem Rested.step {a : LoopAction} (h : s.Rested) (ha : s.Lossless a)
    (hstep : s.step a = some t) : t.Rested := by
  cases a with
  | process a =>
      unfold EventLoop.step at hstep
      simp only at hstep
      split at hstep
      · next hreturn =>
        obtain ⟨-, hstep⟩ := Option.ite_none_right_eq_some.mp hstep
        obtain ⟨p, hp, rfl⟩ := Option.map_eq_some_iff.mp hstep
        refine ⟨h.guarded.step hp, fun hne => absurd rfl hne, fun hwait => ?_⟩
        rw [Process.pc_of_return hreturn hp] at hwait
        cases hwait
      · next hreturn =>
        obtain ⟨p, hp, rfl⟩ := Option.map_eq_some_iff.mp hstep
        exact h.process ha hreturn hp
  | block =>
      obtain ⟨⟨hpc, -, hbefore⟩, hstep⟩ := Option.ite_none_right_eq_some.mp hstep
      cases hstep
      exact ⟨h.guarded, fun _ => hpc, fun _ _ => h.attended hpc (by rw [hbefore]; nofun)⟩
  | wake =>
      obtain ⟨hblocked, hstep⟩ := Option.ite_none_right_eq_some.mp hstep
      cases hstep
      exact ⟨h.guarded, fun _ => h.waiting (by rw [hblocked]; nofun), fun _ hno => absurd rfl hno⟩

/-- **Run lemma.** -/
theorem Rested.exec {as : List LoopAction} (h : s.Rested) (has : Along EventLoop.step Lossless s as)
    (hrun : exec EventLoop.step s as = some t) : t.Rested :=
  exec_invariant_along (fun _ _ _ hs ha hstep => hs.step ha hstep) h has hrun

/-! ### When it sleeps on pending work -/

/-- Work that nobody attends to stays behind when the main thread goes to sleep. -/
theorem not_restful_of_unattended (hpc : s.process.pc = .wait) (hphase : s.phase = .before)
    (hnone : s.process.handlers = []) (hno : ¬ s.process.Attended) :
    ∃ t, s.step .block = some t ∧ ¬ t.Restful :=
  ⟨_, if_pos ⟨hpc, hnone, hphase⟩, fun hrestful =>
    hno (.inl (hrestful rfl fun k hk => hno (.inr ⟨k, hk⟩)))⟩

/-- **The converse**: after a step that is not lossless the main thread, once no handler interrupts
it, can go to sleep on pending work. -/
theorem not_restful_of_lossy {a : LoopAction} (h : s.Rested) (ha : ¬ s.Lossless a)
    (hstep : s.step a = some t) (hnone : t.process.handlers = []) :
    ∃ u, t.step .block = some u ∧ ¬ u.Restful := by
  cases a with
  | block => exact absurd trivial ha
  | wake => exact absurd trivial ha
  | process a =>
      cases a with
      | main ok =>
          simp only [Lossless, not_forall] at ha
          obtain ⟨n, event, hpc, hlimit, hno⟩ := ha
          have hreturn : ¬ s.process.returnsFromWait (.main ok) = true := fun heq => by
            rw [Process.returnsFromWait, hpc] at heq
            cases heq
          have hbefore : s.phase = .before := by
            by_contra hne
            exact absurd (hpc.symm.trans (h.waiting hne)) nofun
          rw [EventLoop.step, if_neg hreturn] at hstep
          obtain ⟨p, hp, rfl⟩ := Option.map_eq_some_iff.mp hstep
          obtain ⟨-, hmain⟩ := Option.ite_none_right_eq_some.mp hp
          rw [Process.mainStep, hpc] at hmain
          cases hmain
          have hphase := signalled_of_before hbefore (.main ok)
          exact not_restful_of_unattended (if_pos hlimit) hphase hnone hno
      | callback k =>
          simp only [Lossless, not_forall] at ha
          obtain ⟨hk, hpc, hbefore, hno⟩ := ha
          obtain ⟨p, hp, rfl⟩ := Option.map_eq_some_iff.mp hstep
          obtain ⟨-, hcallback⟩ := Option.ite_none_right_eq_some.mp hp
          rw [Process.callbackStep, hk] at hcallback
          cases hcallback
          have hphase := signalled_of_before hbefore (.callback k)
          refine not_restful_of_unattended hpc hphase hnone ?_
          rintro (hempty | ⟨j, hj⟩)
          · exact hno (.inl hempty)
          · -- the callback itself has signalled now
            have hjk : j ≠ k := by
              rintro rfl
              rw [Process.Signalling, Process.setCallback_self] at hj
              cases hj
            exact hno (.inr ⟨j, hjk, (Process.signalling_setCallback_of_ne hjk _).mp hj⟩)
      | _ => exact absurd trivial ha

/-! ### Whole runs -/

/-- **The main thread does not sleep on pending work** in any run in which the loop does not stop at
its limit with events left, and no callback signals on the main thread's way to the wait, unless
another callback has yet to signal. -/
theorem event_loop_restful {as : List LoopAction} (has : Along EventLoop.step Lossless start as)
    (h : exec EventLoop.step start as = some s) : s.Restful :=
  (rested_start.exec has h).restful

/-- A test that only lossless steps pass. -/
def staysLossless (s : EventLoop) : LoopAction → Bool
  | .process (.main _) =>
      match s.process.pc with
      | .process processed _ => processed + 1 < 50 || decide s.process.queueEmpty
      | _                    => true
  | .process (.callback k) =>
      decide (s.process.callbackPc k ≠ .notify ∨ s.process.pc ≠ .wait ∨ s.phase ≠ .before)
  | _ => true

/-- An action that passes the check is lossless. -/
theorem lossless_of_staysLossless {a : LoopAction} (h : s.staysLossless a = true) :
    s.Lossless a := by
  cases a with
  | process a =>
      cases a with
      | main ok =>
          intro processed event hpc hlimit
          rw [staysLossless, hpc] at h
          rcases Bool.or_eq_true_iff.mp h with hfew | hempty
          · exact absurd (of_decide_eq_true hfew) (Nat.not_lt.mpr hlimit)
          · exact .inl (of_decide_eq_true hempty)
      | callback k =>
          intro hk hpc hphase
          rcases of_decide_eq_true h with hno | hno | hno
          · exact absurd hk hno
          · exact absurd hpc hno
          · exact absurd hphase hno
      | _ => trivial
  | _ => trivial

/-- The start-up, until the main thread has found the queue empty. -/
def untilWait : List ProcessAction := Process.startHal ++ List.replicate 15 (.main true)

/-- A status callback pushes an event and signals. -/
def callBack (k : Nat) : List ProcessAction :=
  [.invoke (halStatusCallback .registration), .callback k, .callback k, .callback k]

/-- A callback wakes the main thread, which processes the event and goes to sleep again. -/
def signalInWait : List LoopAction :=
  untilWait.map .process ++ [.block] ++
    (callBack 0 ++ List.replicate 5 (ProcessAction.main true)).map .process ++ [.block]

/-- An event that comes while the loop waits is processed, and the loop waits again. -/
theorem event_loop_restful_signalled :
    ∃ s, exec step start signalInWait = some s ∧ s.phase = .blocked ∧
      s.process.popped = [.onuStatus .registration] ∧ s.Restful := by
  have hrun : (exec step start signalInWait).map (fun s => (s.phase, s.process.popped)) =
      some (.blocked, [.onuStatus .registration]) := by
    decide +kernel
  have hchecked : checked step staysLossless start signalInWait = true := by
    decide +kernel
  simp only [Option.map_eq_some_iff, Prod.mk.injEq] at hrun
  obtain ⟨s, hs, hblocked, hpopped⟩ := hrun
  have has : Along step Lossless start signalInWait :=
    along_of_checked (P := fun _ => True) (fun _ _ _ _ _ => trivial)
      (fun _ _ _ => lossless_of_staysLossless) trivial hchecked
  exact ⟨s, hs, hblocked, hpopped, event_loop_restful has hs⟩

/-- A callback signals on the main thread's way to the wait. -/
def signalBeforeWait : List LoopAction := (untilWait ++ callBack 0).map .process ++ [.block]

/-- 51 events are there when the loop starts. -/
def burst : List LoopAction :=
  (Process.startHal ++ List.replicate 14 (ProcessAction.main true) ++
    (List.range 51).flatMap callBack ++
    List.replicate 100 (ProcessAction.main true)).map .process ++ [.block]

/-- Blocked with something in the queue, and all callbacks have returned. -/
theorem not_restful_of_returned {as : List LoopAction} (h : exec step start as = some s)
    (hblocked : s.phase = .blocked)
    (hqueue : ∃ queue, s.process.queue = some queue ∧ queue.isEmpty = false)
    (hreturned : ∀ k < s.process.invoked, s.process.callbackPc k = .returned) : ¬ s.Restful := by
  intro hrestful
  have hguarded := (Process.init_callbackInvariant.exec (process_of_exec h)).guarded
  have hempty := hrestful hblocked fun k hk => by
    rw [Process.Signalling] at hk
    by_cases hlt : k < s.process.invoked
    · rw [hreturned k hlt] at hk
      cases hk
    · rw [hguarded.fresh k (Nat.not_lt.mp hlt)] at hk
      cases hk
  obtain ⟨queue, hq, hno⟩ := hqueue
  rw [hempty queue hq] at hno
  cases hno

/-- The main thread sleeps on an event whose signal came too early, and on the event that is left
after 50. -/
theorem event_loop_sleeps_on_pending :
    (∃ s, exec step start signalBeforeWait = some s ∧ ¬ s.Restful) ∧
      ∃ s, exec step start burst = some s ∧ ¬ s.Restful := by
  have hearly : (exec step start signalBeforeWait).map (fun s =>
      (s.phase, s.process.queue.map Queue.isEmpty, s.process.invoked, s.process.callbackPc 0)) =
      some (.blocked, some false, 1, .returned) := by
    decide +kernel
  have hburst : (exec step start burst).map (fun s =>
      (s.phase, s.process.queue.map Queue.isEmpty, s.process.invoked,
        (List.range 51).all fun k => s.process.callbackPc k = .returned)) =
      some (.blocked, some false, 51, true) := by
    decide +kernel
  simp only [Option.map_eq_some_iff, Prod.mk.injEq] at hearly hburst
  obtain ⟨s, hs, hblocked, hqueue, hinvoked, hpc⟩ := hearly
  obtain ⟨s', hs', hblocked', hqueue', hinvoked', hpc'⟩ := hburst
  refine ⟨⟨s, hs, not_restful_of_returned hs hblocked hqueue fun k hk => ?_⟩,
    s', hs', not_restful_of_returned hs' hblocked' hqueue' fun k hk => ?_⟩
  · have hzero : k = 0 := by omega
    rw [hzero, hpc]
  · have hall := List.all_eq_true.mp hpc' k (List.mem_range.mpr (by omega))
    exact of_decide_eq_true hall

end EventLoop

end EponManager
