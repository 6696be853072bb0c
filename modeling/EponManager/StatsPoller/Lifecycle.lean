import EponManager.StatsPoller.Moves

/-!
# The lives of the threads

`running` is set and cleared by the thread itself. A start that tests it before a thread just
created has set it creates a second one, a stop that tests it then returns as if nothing ran, and
two stops that both find it set join the same thread.

* `OneThread`, `JoinedOnce` and `CleanStop` are the invariants, each kept by the steps that meet
  `Orderly`.
* `lifecycle_of_orderly` is the result: runs of orderly steps keep the `Lifecycle`, and every other
  step can be continued to a state that breaks it.
-/

namespace EponManager

open Lib

namespace PollerRun

/-! ### The condition on a step -/

/-- Every thread that is alive has set `running` and not cleared it. -/
def AllAnnounced (s : PollerRun) : Prop :=
  ∀ i, (s.pc i).alive = true → (s.pc i).announced = true

/-- What the test of `running` in the call `c` relies on. -/
structure TestOrderly (s : PollerRun) (c : Nat) : Prop where
  /-- a start goes on to create only if no other start is about to -/
  alone : s.poller.running = false → (s.calls c).kind = .start → ∀ d, (s.calls d).pc ≠ .create
  /-- a start, or a stop that no start overlaps, finds `running` clear only if no thread lives -/
  idle : s.poller.running = false → (s.calls c).kind = .start ∨ (s.calls c).startSeen = false →
    s.AllAnnounced
  /-- a stop goes on to join only if no other stop is on its way to join, or joins, the thread -/
  joiner : s.poller.running = true → (s.calls c).kind ≠ .start →
    ∀ d, (s.calls d).pc ≠ .join ∧ ∀ i, s.thread = some i → (s.calls d).pc ≠ .joining i

/-- The condition on a step: it is not a test of `running` that is misled. -/
def Orderly (s : PollerRun) : PollerAction → Prop
  | .call c => (s.calls c).pc = .test → s.TestOrderly c
  | _       => True

/-! ### At most one thread -/

structure OneThread (s : PollerRun) : Prop where
  one : ∀ i j, s.Alive i → s.Alive j → i = j
  /-- while a start is about to create a thread, none lives, and no other start is -/
  creating : ∀ c, (s.calls c).pc = .create →
    (s.calls c).kind = .start ∧ (∀ i, ¬ s.Alive i) ∧ ∀ d, (s.calls d).pc = .create → d = c
  current : ∀ i, s.Alive i → s.thread = some i
  running : s.poller.running = true ↔ ∃ i, (s.pc i).announced = true

/-- If `running` is clear and every thread that lives is announced, no thread lives. -/
theorem OneThread.no_thread {s : PollerRun} (hs : s.OneThread) (hrun : s.poller.running = false)
    (hall : s.AllAnnounced) (i : Nat) : ¬ s.Alive i := by
  intro hi
  have hset := hs.running.mpr ⟨i, hall i hi⟩
  rw [hrun] at hset
  cases hset

/-- A create finds no thread alive. -/
theorem OneThread.alive_step {s t : PollerRun} {a : PollerAction} (hs : s.OneThread)
    (h : s.step a = some t) {i : Nat} (hi : t.Alive i) :
    s.Alive i ∨ (i = s.created ∧ t.thread = some s.created ∧ ∀ j, t.Alive j → j = s.created) := by
  rcases alive_of_step h hi with hold | ⟨c, rfl, hc, rfl⟩
  · exact .inl hold
  · right
    obtain ⟨-, hnone, -⟩ := hs.creating c hc
    refine ⟨rfl, ?_, fun j hj => ?_⟩
    · cases outcome_of_step h with
      | created _ _ => rfl
    · rcases alive_of_step h hj with hold | ⟨_, _, _, hj⟩
      · exact absurd hold (hnone j)
      · exact hj

/-- **One orderly step keeps the thread unique.** -/
theorem OneThread.step {s t : PollerRun} {a : PollerAction} (hcons : s.Consistent)
    (hs : s.OneThread) (ha : s.Orderly a) (h : s.step a = some t) : t.OneThread where
  one := by
    intro i j hi hj
    -- either both lived before the step, or one of them is new and the only one
    rcases hs.alive_step h hi with hold | ⟨rfl, -, hall⟩
    · rcases hs.alive_step h hj with hold' | ⟨rfl, -, hall⟩
      · exact hs.one i j hold hold'
      · exact hall i hi
    · exact (hall j hj).symm
  creating := by
    intro c hc
    rcases create_of_step h hc with ⟨hbefore, hno⟩ | ⟨rfl, htest, hstart, hrun⟩
    · obtain ⟨hstart, hnone, honly⟩ := hs.creating c hbefore
      have hkind := kind_of_step h (hcons.fresh.lt_begun (by rw [hbefore]; nofun))
      refine ⟨hkind.trans hstart, fun i hi => ?_, fun d hd => ?_⟩
      · rcases alive_of_step h hi with hold | ⟨d, rfl, hd, -⟩
        · exact hnone i hold
        · exact hno true (by rw [honly d hd])
      · rcases create_of_step h hd with ⟨hd, -⟩ | ⟨rfl, htest, hstart, hrun⟩
        · exact honly d hd
        · exact absurd hbefore ((ha htest).alone hrun hstart c)
    · -- the start has just found `running` clear, and was not misled
      have hnone := hs.no_thread hrun ((ha htest).idle hrun (.inl hstart))
      have hkind := kind_of_step h (hcons.fresh.lt_begun (by rw [htest]; nofun))
      refine ⟨hkind.trans hstart, fun i hi => ?_, fun d hd => ?_⟩
      · rcases alive_of_step h hi with hold | ⟨d, heq, -⟩
        · exact hnone i hold
        · cases heq
      · rcases create_of_step h hd with ⟨hd, -⟩ | ⟨heq, -⟩
        · exact absurd hd ((ha htest).alone hrun hstart d)
        · cases heq
          rfl
  current := by
    intro i hi
    rcases hs.alive_step h hi with hold | ⟨rfl, hthread, -⟩
    · rcases thread_of_step h with hsame | ⟨c, -, hc, -⟩
      · exact hsame.trans (hs.current i hold)
      · exact absurd hold ((hs.creating c hc).2.1 i)
    · exact hthread
  running := by
    cases running_of_step hcons h with
    | same hrun hann =>
        rw [hrun, hs.running]
        constructor
        · rintro ⟨i, hi⟩
          exact ⟨i, (hann i).trans hi⟩
        · rintro ⟨i, hi⟩
          exact ⟨i, (hann i).symm.trans hi⟩
    | sets i hrun hi => exact ⟨fun _ => ⟨i, hi⟩, fun _ => hrun⟩
    | clears i hi hrun hother =>
        constructor
        · intro hset
          rw [hrun] at hset
          cases hset
        · rintro ⟨j, hj⟩
          obtain ⟨hji, hj⟩ := hother j hj
          exact absurd (hs.one j i (ThreadPc.alive_of_announced hj)
            (ThreadPc.alive_of_announced hi)) hji

/-! ### Every thread is joined at most once -/

structure JoinedOnce (s : PollerRun) : Prop where
  once : ∀ i, s.joins i ≤ 1
  /-- a stop on its way to join is the only one, and nobody has joined the current thread -/
  pending : ∀ c, s.Pending c →
    (∀ i, s.thread = some i → s.joins i = 0) ∧ ∀ d, s.Pending d → d = c
  /-- a thread that was joined has exited, or the join still waits -/
  joiner : ∀ i, s.joins i ≠ 0 → s.pc i = .exited ∨ ∃ c, (s.calls c).pc = .joining i
  joining : ∀ c i, (s.calls c).pc = .joining i → s.joins i ≠ 0
  created : ∀ i, s.joins i ≠ 0 → i < s.created

/-- A stop that finds `running` set is not misled: nobody has joined the thread. -/
theorem JoinedOnce.not_joined {s : PollerRun} (hone : s.OneThread) (hs : s.JoinedOnce)
    (hrun : s.poller.running = true)
    (hno : ∀ d i, s.thread = some i → (s.calls d).pc ≠ .joining i) {i : Nat}
    (hi : s.thread = some i) : s.joins i = 0 := by
  obtain ⟨j, hj⟩ := hone.running.mp hrun
  have halive : s.Alive j := ThreadPc.alive_of_announced hj
  have hij : j = i := Option.some.inj ((hone.current j halive).symm.trans hi)
  subst hij
  by_contra hjoined
  rcases hs.joiner j hjoined with hexited | ⟨d, hd⟩
  · rw [Alive, hexited] at halive
    cases halive
  · exact hno d j hi hd

/-- Beside a stop that comes to join by an orderly test, no other stop is on its way to join. -/
theorem TestOrderly.not_pending {s : PollerRun} (hcons : s.Consistent) {c d : Nat}
    (h : s.TestOrderly c) (htest : (s.calls c).pc = .test) (hrun : s.poller.running = true)
    (hstop : (s.calls c).kind ≠ .start) : ¬ s.Pending d := by
  rintro (hsignal | hjoin)
  · -- both hold the mutex
    obtain rfl := hcons.same_call (by rw [htest]; rfl) (by rw [hsignal]; rfl)
    cases htest.symm.trans hsignal
  · exact (h.joiner hrun hstop d).1 hjoin

/-- A join that is pending is the only one, of a thread that was not joined. -/
theorem JoinedOnce.pending_step {s t : PollerRun} {a : PollerAction} (hcons : s.Consistent)
    (hone : s.OneThread) (hs : s.JoinedOnce) (ha : s.Orderly a) (h : s.step a = some t) {c : Nat}
    (hc : t.Pending c) :
    (∀ i, t.thread = some i → t.joins i = 0) ∧ ∀ d, t.Pending d → d = c := by
  rcases pending_of_step h hc with ⟨hbefore, hno⟩ | ⟨rfl, htest, hstop, hrun⟩
  · obtain ⟨hzero, honly⟩ := hs.pending c hbefore
    refine ⟨fun i hi => ?_, fun d hd => ?_⟩
    · -- a join now would be one of this stop, which is the only one on its way
      have hsame : t.joins i = s.joins i := by
        rcases joins_of_step h i with hsame | ⟨d, rfl, hd, -⟩
        · exact hsame
        · exact absurd (by rw [honly d (.inr hd)]) hno
      rw [hsame]
      rcases thread_of_step h with hthread | ⟨d, -, -, hnew⟩
      · exact hzero i (hthread ▸ hi)
      · -- a new thread has not been joined
        cases hnew.symm.trans hi
        by_contra hjoined
        exact absurd (hs.created _ hjoined) (Nat.lt_irrefl _)
    · rcases pending_of_step h hd with ⟨hd, -⟩ | ⟨rfl, htest, hstop, hrun⟩
      · exact honly d hd
      · exact absurd hbefore ((ha htest).not_pending hcons htest hrun hstop)
  · refine ⟨fun i hi => ?_, fun d hd => ?_⟩
    · have hsame : t.joins i = s.joins i := by
        rcases joins_of_step h i with hsame | ⟨d, heq, -⟩
        · exact hsame
        · cases heq
      have hthread : t.thread = s.thread := by
        rcases thread_of_step h with hthread | ⟨d, heq, -⟩
        · exact hthread
        · cases heq
      rw [hsame]
      exact hs.not_joined hone hrun (fun d i hi => ((ha htest).joiner hrun hstop d).2 i hi)
        (hthread ▸ hi)
    · rcases pending_of_step h hd with ⟨hd, -⟩ | ⟨heq, -⟩
      · exact absurd hd ((ha htest).not_pending hcons htest hrun hstop)
      · cases heq
        rfl

/-- **One orderly step joins no thread twice.** -/
theorem JoinedOnce.step {s t : PollerRun} {a : PollerAction} (hcons : s.Consistent)
    (hone : s.OneThread) (hs : s.JoinedOnce) (ha : s.Orderly a) (h : s.step a = some t) :
    t.JoinedOnce where
  once := by
    intro i
    rcases joins_of_step h i with hsame | ⟨c, rfl, hc, hthread, hmore⟩
    · rw [hsame]
      exact hs.once i
    · -- whoever joins was on its way, so nobody had joined the thread
      rw [hmore, (hs.pending c (.inr hc)).1 i hthread]
  pending := fun _ hc => hs.pending_step hcons hone ha h hc
  joiner := by
    intro i hi
    rcases joins_of_step h i with hsame | ⟨c, rfl, hc, hthread, -⟩
    · rw [hsame] at hi
      by_cases hexited : s.pc i = .exited
      · exact .inl (exited_of_step hcons h hexited)
      · obtain ⟨c, hc⟩ := (hs.joiner i hi).resolve_left hexited
        exact .inr ⟨c, joining_stays hcons h hc hexited⟩
    · right
      refine ⟨c, ?_⟩
      cases outcome_of_step h with
      | join _ j hpc hj =>
          cases hj.symm.trans hthread
          show ((s.setCall c (.joining i)).calls c).pc = _
          rw [setCall_calls_self]
  joining := by
    intro c i hc
    have hmono : s.joins i ≠ 0 → t.joins i ≠ 0 := by
      rcases joins_of_step h i with hsame | ⟨_, _, _, _, hmore⟩
      · rw [hsame]
        exact id
      · omega
    rcases joining_of_step h hc with hbefore | ⟨rfl, hthread, hjoin⟩
    · exact hmono (hs.joining c i hbefore)
    · cases outcome_of_step h with
      | join _ j hpc hj =>
          cases hj.symm.trans hthread
          show Function.update s.joins i (s.joins i + 1) i ≠ 0
          rw [Function.update_self]
          omega
  created := by
    intro i hi
    refine Nat.lt_of_lt_of_le ?_ (created_of_step h)
    rcases joins_of_step h i with hsame | ⟨c, -, -, hthread, -⟩
    · exact hs.created i (hsame ▸ hi)
    · exact hcons.fresh.thread i hthread

/-! ### A stop that no start overlaps or follows -/

/-- A call of stop or destroy that no start overlaps or follows. -/
structure Clean (s : PollerRun) (c : Nat) : Prop where
  begun : c < s.begun
  kind : (s.calls c).kind ≠ .start
  unseen : (s.calls c).startSeen = false

structure CleanStop (s : PollerRun) : Prop where
  noStart : ∀ c, s.Clean c → ∀ d < s.begun, (s.calls d).kind = .start → (s.calls d).pc = .returned
  joining : ∀ c, s.Clean c → ∀ i, (s.calls c).pc = .joining i → ∀ j, s.Alive j → j = i
  ended : ∀ c, s.Clean c → (s.calls c).pc = .cleanup ∨ (s.calls c).pc = .returned →
    ∀ i, ¬ s.Alive i

/-- A call that is clean after a step has just begun, or was clean before it. -/
theorem Clean.of_step {s t : PollerRun} {a : PollerAction} (h : s.step a = some t) {c : Nat}
    (hc : t.Clean c) :
    (∃ kind, a = .begin kind ∧ c = s.begun ∧ s.startInProgress = false) ∨
      (s.Clean c ∧ a ≠ .begin .start) := by
  rcases startSeen_of_step h hc.unseen with hnew | ⟨hunseen, hno⟩
  · exact .inl hnew
  · have hbegun := hc.begun
    rcases begun_of_step h with hsame | ⟨kind, rfl, hmore⟩
    · rw [hsame] at hbegun
      exact .inr ⟨⟨hbegun, kind_of_step h hbegun ▸ hc.kind, hunseen⟩, hno⟩
    · by_cases hlast : c = s.begun
      · left
        refine ⟨kind, rfl, hlast, ?_⟩
        cases h
        rw [hlast] at hc
        have hunseen := hc.unseen
        rw [begin_calls_self] at hunseen
        exact hunseen
      · have hlt : c < s.begun := by omega
        exact .inr ⟨⟨hlt, kind_of_step h hlt ▸ hc.kind, hunseen⟩, hno⟩

/-- No start is in progress: every start that began has returned. -/
theorem returned_of_not_inProgress {s : PollerRun} (h : s.startInProgress = false) {d : Nat}
    (hd : d < s.begun) (hkind : (s.calls d).kind = .start) : (s.calls d).pc = .returned := by
  by_contra hpc
  have hany : s.startInProgress = true :=
    List.any_eq_true.mpr ⟨d, List.mem_range.mpr hd, by simp [hkind, hpc]⟩
  rw [h] at hany
  cases hany

/-- While a clean call lasts, no thread is created. -/
theorem CleanStop.alive_step {s t : PollerRun} {a : PollerAction} (hcons : s.Consistent)
    (hone : s.OneThread) (hs : s.CleanStop) (h : s.step a = some t) {c : Nat} (hc : s.Clean c)
    {i : Nat} (hi : t.Alive i) : s.Alive i := by
  rcases alive_of_step h hi with hold | ⟨d, rfl, hd, -⟩
  · exact hold
  · have hlt : d < s.begun := hcons.fresh.lt_begun (by rw [hd]; nofun)
    have hreturned := hs.noStart c hc d hlt (hone.creating d hd).1
    rw [hd] at hreturned
    cases hreturned

/-- **After an orderly step, a stop that returned has left no thread behind.** -/
theorem CleanStop.step {s t : PollerRun} {a : PollerAction} (hcons : s.Consistent)
    (hone : s.OneThread) (hs : s.CleanStop) (ha : s.Orderly a) (h : s.step a = some t) :
    t.CleanStop where
  noStart := by
    intro c hc d hd hstart
    have hold {d : Nat} (hd : d < s.begun) (hreturned : (s.calls d).kind = .start →
        (s.calls d).pc = .returned) (hstart : (t.calls d).kind = .start) :
        (t.calls d).pc = .returned :=
      returned_stays hcons h (hreturned (kind_of_step h hd ▸ hstart))
    rcases hc.of_step h with ⟨kind, rfl, rfl, hidle⟩ | ⟨hclean, hno⟩
    · by_cases hlast : d = s.begun
      · exact absurd (hlast ▸ hstart) hc.kind
      · have hlt : d < s.begun := by
          have hlt : d < s.begun + 1 := by
            cases h
            exact hd
          omega
        exact hold hlt (returned_of_not_inProgress hidle hlt) hstart
    · by_cases hlt : d < s.begun
      · exact hold hlt (hs.noStart c hclean d hlt) hstart
      · rcases begun_of_step h with hsame | ⟨kind, rfl, hmore⟩
        · rw [hsame] at hd
          exact absurd hd hlt
        · -- the call that begins is no start
          have hlast : d = s.begun := by omega
          cases h
          rw [hlast, begin_calls_self] at hstart
          exact absurd (congrArg PollerAction.begin hstart) hno
  joining := by
    intro c hc i hi j hj
    rcases hc.of_step h with ⟨kind, rfl, rfl, -⟩ | ⟨hclean, -⟩
    · cases h
      rw [begin_calls_self] at hi
      cases hi
    · have hbefore := hs.alive_step hcons hone h hclean hj
      rcases joining_of_step h hi with hjoining | ⟨-, hthread, -⟩
      · exact hs.joining c hclean i hjoining j hbefore
      · exact Option.some.inj ((hone.current j hbefore).symm.trans hthread)
  ended := by
    intro c hc hend i hi
    rcases hc.of_step h with ⟨kind, rfl, rfl, -⟩ | ⟨hclean, -⟩
    · cases h
      rw [begin_calls_self] at hend
      rcases hend with hend | hend <;> cases hend
    · have hbefore := hs.alive_step hcons hone h hclean hi
      rcases ended_of_step h hclean.kind hend with hend | ⟨rfl, htest, hrun⟩ | ⟨ok, -, hcreate⟩ |
        ⟨j, -, hjoining, hexited⟩
      · exact hs.ended c hclean hend i hbefore
      · exact hone.no_thread hrun ((ha htest).idle hrun (.inr hclean.unseen)) i hbefore
      · -- only a start creates
        exact hclean.kind (hone.creating c hcreate).1
      · -- the thread that was joined has exited, and no other thread lives
        have hij := hs.joining c hclean j hjoining i hbefore
        rw [hij, Alive, hexited] at hbefore
        cases hbefore

/-! ### The result -/

/-- What the callers of the poller rely on. -/
structure Lifecycle (s : PollerRun) : Prop where
  one : ∀ i j, s.Alive i → s.Alive j → i = j
  joined : ∀ i, s.joins i ≤ 1
  ended : ∀ c, (s.calls c).kind ≠ .start → (s.calls c).pc = .returned →
    (s.calls c).startSeen = false → ∀ i, ¬ s.Alive i

/-- What holds in every state of a run of orderly steps. -/
structure LifecycleInvariant (s : PollerRun) : Prop where
  consistent : s.Consistent
  oneThread : s.OneThread
  joinedOnce : s.JoinedOnce
  cleanStop : s.CleanStop

theorem init_lifecycle (enabled : Bool) (interval : UInt32) :
    (init enabled interval).LifecycleInvariant where
  consistent := init_consistent enabled interval
  oneThread :=
    { one := fun _ _ hi => by cases hi
      creating := fun _ hc => by cases hc
      current := fun _ hi => by cases hi
      running := ⟨nofun, fun ⟨_, hi⟩ => by cases hi⟩ }
  joinedOnce :=
    { once := fun _ => Nat.zero_le 1
      pending := fun _ hc => by rcases hc with hc | hc <;> cases hc
      joiner := fun _ hi => absurd rfl hi
      joining := fun _ _ hc => by cases hc
      created := fun _ hi => absurd rfl hi }
  cleanStop :=
    { noStart := fun _ _ _ hd => absurd hd (Nat.not_lt_zero _)
      joining := fun _ _ _ hc => by cases hc
      ended := fun _ hc => absurd hc.begun (Nat.not_lt_zero _) }

/-- **Step lemma.** -/
theorem LifecycleInvariant.step {s t : PollerRun} {a : PollerAction} (hs : s.LifecycleInvariant)
    (ha : s.Orderly a) (h : s.step a = some t) : t.LifecycleInvariant where
  consistent := hs.consistent.step h
  oneThread := hs.oneThread.step hs.consistent ha h
  joinedOnce := hs.joinedOnce.step hs.consistent hs.oneThread ha h
  cleanStop := hs.cleanStop.step hs.consistent hs.oneThread ha h

/-- **Run lemma.** -/
theorem LifecycleInvariant.exec {s t : PollerRun} {as : List PollerAction}
    (hs : s.LifecycleInvariant) (has : Along PollerRun.step Orderly s as)
    (h : exec PollerRun.step s as = some t) : t.LifecycleInvariant :=
  exec_invariant_along (P := LifecycleInvariant) (fun _ _ _ hs ha hstep => hs.step ha hstep) hs
    has h

/-- The invariant implies the three parts of the result. -/
theorem LifecycleInvariant.lifecycle {s : PollerRun} (hs : s.LifecycleInvariant) : s.Lifecycle where
  one := hs.oneThread.one
  joined := hs.joinedOnce.once
  ended := by
    intro c hkind hpc hunseen
    have hbegun : c < s.begun := hs.consistent.fresh.lt_begun (by rw [hpc]; nofun)
    exact hs.cleanStop.ended c ⟨hbegun, hkind, hunseen⟩ (.inr hpc)

/-! ### Every other step leads to a state that breaks it -/

/-- A call that has come to the creation creates a thread. -/
theorem create_enabled {s : PollerRun} {c : Nat} (hpc : (s.calls c).pc = .create) :
    ∃ t, s.step (.create c true) = some t ∧ t.created = s.created + 1 ∧ t.Alive s.created ∧
      (∀ i, s.Alive i → t.Alive i) ∧ ∀ d, d ≠ c → (t.calls d).pc = (s.calls d).pc := by
  -- the new thread is alive, and so are those that were
  refine ⟨_, if_pos hpc, rfl, ?_, fun i hi => ?_, fun d hd => ?_⟩
  · show ((s.setPc s.created .created).pc s.created).alive = true
    rw [setPc_pc_self]
    rfl
  · show ((s.setPc s.created .created).pc i).alive = true
    by_cases hnew : i = s.created
    · rw [hnew, setPc_pc_self]
      rfl
    · rw [setPc_pc_of_ne s _ hnew]
      exact hi
  · exact setCall_pc_of_ne (s.setPc s.created .created) .returned hd

/-- A call that has come to the join joins the thread. -/
theorem join_enabled {s : PollerRun} {c i : Nat} (hpc : (s.calls c).pc = .join)
    (hthread : s.thread = some i) :
    ∃ t, s.step (.join c) = some t ∧ t.thread = some i ∧ t.joins i = s.joins i + 1 ∧
      ∀ d, d ≠ c → (t.calls d).pc = (s.calls d).pc := by
  refine ⟨{ s.setCall c (.joining i) with
    joins := Function.update s.joins i (s.joins i + 1) }, ?_, hthread, Function.update_self ..,
    fun d hd => setCall_pc_of_ne s _ hd⟩
  unfold step
  simp only [hpc, hthread]

/-- A start that is misled creates a second thread. -/
theorem second_thread {s : PollerRun} (hs : s.Consistent) {c : Nat}
    (hc : (s.calls c).pc = .create) {i : Nat} (hi : s.Alive i) :
    ∃ u, exec PollerRun.step s [.create c true] = some u ∧ ¬ u.Lifecycle := by
  obtain ⟨u, hstep, -, hnew, hold, -⟩ := create_enabled hc
  refine ⟨u, exec_cons_eq_some.mpr ⟨u, hstep, rfl⟩, fun hu => ?_⟩
  have hlt : i < s.created := hs.fresh.lt_created fun h0 => by
    rw [Alive, h0] at hi
    cases hi
  exact absurd (hu.one i s.created (hold i hi) hnew) (Nat.ne_of_lt hlt)

/-- Two starts that are both about to create. -/
theorem two_creates {s : PollerRun} (hs : s.Consistent) {c d : Nat} (hdc : d ≠ c)
    (hc : (s.calls c).pc = .create) (hd : (s.calls d).pc = .create) :
    ∃ u, exec PollerRun.step s [.create c true, .create d true] = some u ∧ ¬ u.Lifecycle := by
  obtain ⟨t, hstep, -, hnew, -, hcalls⟩ := create_enabled hc
  obtain ⟨u, hrest, hbad⟩ := second_thread (hs.step hstep) ((hcalls d hdc).trans hd) hnew
  exact ⟨u, exec_cons_eq_some.mpr ⟨t, hstep, hrest⟩, hbad⟩

/-- A stop that is misled joins the thread a second time. -/
theorem second_join {s : PollerRun} {c i : Nat} (hc : (s.calls c).pc = .join)
    (hthread : s.thread = some i) (hi : s.joins i ≠ 0) :
    ∃ u, exec PollerRun.step s [.join c] = some u ∧ ¬ u.Lifecycle := by
  obtain ⟨u, hstep, -, hjoins, -⟩ := join_enabled hc hthread
  refine ⟨u, exec_cons_eq_some.mpr ⟨u, hstep, rfl⟩, fun hu => ?_⟩
  have hle := hu.joined i
  omega

/-- Two calls at the join join the same thread. -/
theorem two_joins {s : PollerRun} {c d i : Nat} (hdc : d ≠ c) (hc : (s.calls c).pc = .join)
    (hd : (s.calls d).pc = .join) (hthread : s.thread = some i) :
    ∃ u, exec PollerRun.step s [.join d, .join c] = some u ∧ ¬ u.Lifecycle := by
  obtain ⟨t, hstep, hthread', hjoins, hcalls⟩ := join_enabled hd hthread
  obtain ⟨u, hrest, hbad⟩ :=
    second_join ((hcalls c (Ne.symm hdc)).trans hc) hthread' (by omega)
  exact ⟨u, exec_cons_eq_some.mpr ⟨t, hstep, hrest⟩, hbad⟩

/-- The signal of a stop, with whatever thread it wakes. -/
theorem signal_enabled {s : PollerRun} {c : Nat} (hpc : (s.calls c).pc = .signal) :
    ∃ woken t, s.step (.signal c woken) = some t ∧ (t.calls c).pc = .join ∧
      t.thread = s.thread ∧ t.joins = s.joins ∧ ∀ d, d ≠ c → (t.calls d).pc = (s.calls d).pc := by
  obtain ⟨woken, hwoken⟩ := s.exists_wakes
  refine ⟨woken, _, if_pos ⟨hpc, hwoken⟩, ?_, ?_, ?_, fun d hd => ?_⟩
  · show (((s.wake woken).setCall c .join).calls c).pc = _
    rw [setCall_calls_self]
  · cases woken <;> rfl
  · cases woken <;> rfl
  · refine (setCall_pc_of_ne (s.wake woken) .join hd).trans ?_
    cases woken <;> rfl

/-! ### A stop that a start overlaps -/

/-- The three ways in which a test can be misled. -/
theorem not_testOrderly {s : PollerRun} {c : Nat} (h : ¬ s.TestOrderly c) :
    (s.poller.running = false ∧ (s.calls c).kind = .start ∧ ∃ d, (s.calls d).pc = .create) ∨
      (s.poller.running = false ∧ ((s.calls c).kind = .start ∨ (s.calls c).startSeen = false) ∧
        ∃ i, s.Alive i) ∨
      (s.poller.running = true ∧ (s.calls c).kind ≠ .start ∧
        ∃ d, (s.calls d).pc = .join ∨ ∃ i, s.thread = some i ∧ (s.calls d).pc = .joining i) := by
  by_contra hno
  refine h ⟨fun hrun hstart d hd => hno (.inl ⟨hrun, hstart, d, hd⟩), fun hrun hkind i hi => ?_,
    fun hrun hstop d => ⟨fun hd => ?_, fun i hi hd => ?_⟩⟩
  · exact absurd ⟨hrun, hkind, i, hi⟩ (fun hidle => hno (.inr (.inl hidle)))
  · exact hno (.inr (.inr ⟨hrun, hstop, d, .inl hd⟩))
  · exact hno (.inr (.inr ⟨hrun, hstop, d, .inr ⟨i, hi, hd⟩⟩))

/-- A stop that no start overlaps ends although a thread lives. -/
theorem stop_before_exit {s : PollerRun} {c : Nat} (hstop : (s.calls c).kind ≠ .start)
    (hunseen : (s.calls c).startSeen = false) (hpc : (s.calls c).pc = (s.calls c).kind.afterStop)
    {i : Nat} (hi : s.Alive i) :
    ∃ bs u, exec PollerRun.step s bs = some u ∧ ¬ u.Lifecycle := by
  cases hk : (s.calls c).kind with
  | start => exact absurd hk hstop
  | stop =>
      rw [hk] at hpc
      exact ⟨[], s, rfl, fun hs => hs.ended c hstop hpc hunseen i hi⟩
  | destroy =>
      rw [hk] at hpc
      have hstep : s.step (.call c) = some { s.setCall c .returned with owner := s.owner } := by
        show (if (s.calls c).pc = .signal then none else _) = _
        rw [if_neg (by rw [hpc]; nofun), hpc]
        rfl
      refine ⟨[.call c], _, exec_cons_eq_some.mpr ⟨_, hstep, rfl⟩, fun hs => ?_⟩
      refine hs.ended c ?_ ?_ ?_ i hi
      · show ((s.setCall c .returned).calls c).kind ≠ .start
        rw [setCall_calls_self]
        exact hstop
      · show ((s.setCall c .returned).calls c).pc = .returned
        rw [setCall_calls_self]
      · show ((s.setCall c .returned).calls c).startSeen = false
        rw [setCall_calls_self]
        exact hunseen

/-! ### All of them -/

/-- A start that finds no thread running. -/
theorem callNext_create {kind : CallKind} {p p' : StatsPoller} {op : MutexOp} {pc' : CallPc}
    (h : callNext kind p .test = some (op, p', pc')) (hrun : p.running = false)
    (hstart : kind = .start) : pc' = .create := by
  rw [hstart, callNext, hrun] at h
  cases h
  rfl

/-- A stop that finds no thread running. -/
theorem callNext_afterStop {kind : CallKind} {p p' : StatsPoller} {op : MutexOp} {pc' : CallPc}
    (h : callNext kind p .test = some (op, p', pc')) (hrun : p.running = false)
    (hstop : kind ≠ .start) : pc' = kind.afterStop := by
  cases callNext_inv h nofun with
  | idle hbefore hkind hidle hp hafter => exact hafter
  | requests hbefore hkind hset hp hafter => cases hset.symm.trans hrun
  | running hbefore hkind hset hp hafter => cases hset.symm.trans hrun
  | creates hbefore hkind hidle hp hafter => exact absurd hkind hstop
  | lock hbefore hp hafter => cases hbefore
  | cleanup hbefore hp hafter => cases hbefore

/-- A stop that finds a thread running. -/
theorem callNext_signal {kind : CallKind} {p p' : StatsPoller} {op : MutexOp} {pc' : CallPc}
    (h : callNext kind p .test = some (op, p', pc')) (hrun : p.running = true)
    (hstop : kind ≠ .start) : pc' = .signal := by
  cases callNext_inv h nofun with
  | requests hbefore hkind hset hp hafter => exact hafter
  | idle hbefore hkind hidle hp hafter => cases hidle.symm.trans hrun
  | creates hbefore hkind hidle hp hafter => cases hidle.symm.trans hrun
  | running hbefore hkind hset hp hafter => exact absurd hkind hstop
  | lock hbefore hp hafter => cases hbefore
  | cleanup hbefore hp hafter => cases hbefore

/-- **A misled test can be continued to a state that breaks the life cycle.** -/
theorem LifecycleInvariant.misled {s t : PollerRun} {a : PollerAction} (hs : s.LifecycleInvariant)
    (h : s.step a = some t) (ha : ¬ s.Orderly a) :
    ∃ bs u, Lib.exec PollerRun.step t bs = some u ∧ ¬ u.Lifecycle := by
  have ht : t.Consistent := hs.consistent.step h
  cases outcome_of_step h with
  | call c op poller pc owner hpc hnext hop =>
      obtain ⟨htest, hno⟩ := Classical.not_imp.mp ha
      have hself : ((s.setCall c pc).calls c).pc = pc := by rw [setCall_calls_self]
      have hother {d : Nat} {p : CallPc} (hd : (s.calls d).pc = p) (hp : p ≠ .test) :
          d ≠ c ∧ ((s.setCall c pc).calls d).pc = p := by
        have hdc : d ≠ c := by
          rintro rfl
          exact hp (hd.symm.trans htest)
        exact ⟨hdc, (setCall_pc_of_ne s pc hdc).trans hd⟩
      rw [htest] at hnext
      rcases not_testOrderly hno with ⟨hrun, hstart, d, hd⟩ | ⟨hrun, hkind, i, hi⟩ |
        ⟨hrun, hstop, d, hd⟩
      · -- the other start creates a thread too
        obtain rfl := callNext_create hnext hrun hstart
        obtain ⟨hdc, hd⟩ := hother hd (by simp)
        obtain ⟨u, hrest, hbad⟩ := two_creates ht hdc hself hd
        exact ⟨_, u, hrest, hbad⟩
      · by_cases hstart : (s.calls c).kind = .start
        · -- the start creates a second thread
          obtain rfl := callNext_create hnext hrun hstart
          obtain ⟨u, hrest, hbad⟩ := second_thread (i := i) ht hself hi
          exact ⟨_, u, hrest, hbad⟩
        · -- the stop returns although the thread lives
          have hend := callNext_afterStop hnext hrun hstart
          have hcall : (s.setCall c pc).calls c = { s.calls c with pc } := setCall_calls_self ..
          refine stop_before_exit (c := c) ?_ ?_ ?_ (i := i) hi
          · show ((s.setCall c pc).calls c).kind ≠ .start
            rw [hcall]
            exact hstart
          · show ((s.setCall c pc).calls c).startSeen = false
            rw [hcall]
            exact hkind.resolve_left hstart
          · show ((s.setCall c pc).calls c).pc = ((s.setCall c pc).calls c).kind.afterStop
            rw [hcall]
            exact hend
      · -- the stop joins a thread that is joined already, or will be
        obtain rfl := callNext_signal hnext hrun hstop
        obtain ⟨woken, u, hstep, hjoin, hthread, hjoins, hcalls⟩ :=
          signal_enabled (s := { s.setCall c .signal with poller, owner }) (c := c) hself
        -- the thread that set `running` is the current one
        obtain ⟨k, hk⟩ := hs.oneThread.running.mp hrun
        have hcurrent : s.thread = some k :=
          hs.oneThread.current k (ThreadPc.alive_of_announced hk)
        have hthread : u.thread = some k := hthread.trans hcurrent
        rcases hd with hd | ⟨i, hi, hd⟩
        · obtain ⟨hdc, hd⟩ := hother hd (by simp)
          obtain ⟨v, hrest, hbad⟩ := two_joins hdc hjoin ((hcalls d hdc).trans hd) hthread
          exact ⟨_, v, exec_cons_eq_some.mpr ⟨u, hstep, hrest⟩, hbad⟩
        · have hik : i = k := Option.some.inj (hi.symm.trans hcurrent)
          rw [hik] at hd
          have hone : u.joins k ≠ 0 := by
            rw [hjoins]
            exact hs.joinedOnce.joining d k hd
          obtain ⟨v, hrest, hbad⟩ := second_join hjoin hthread hone
          exact ⟨_, v, exec_cons_eq_some.mpr ⟨u, hstep, hrest⟩, hbad⟩
  | _ => exact absurd trivial ha

/-! ### The theorem -/

/-- **When the threads live as they should.** In every run of orderly steps at most one thread is
alive, every thread is joined at most once, and when a stop or destroy that no start overlaps or
follows has returned, no thread is alive. A step that is not orderly can be continued to a state in
which one of the three fails. -/
theorem lifecycle_of_orderly (enabled : Bool) (interval : UInt32) {as : List PollerAction}
    {s : PollerRun} (has : Along PollerRun.step Orderly (init enabled interval) as)
    (hrun : exec PollerRun.step (init enabled interval) as = some s) :
    s.Lifecycle ∧ ∀ a t, s.step a = some t → ¬ s.Orderly a →
      ∃ bs u, exec PollerRun.step t bs = some u ∧ ¬ u.Lifecycle := by
  have hs : s.LifecycleInvariant := (init_lifecycle enabled interval).exec has hrun
  exact ⟨hs.lifecycle, fun a t h ha => hs.misled h ha⟩

/-- The condition on a step, for the calls that have begun and the threads that were created. -/
def checkOrderly (s : PollerRun) : PollerAction → Bool
  | .call c =>
      (s.calls c).pc ≠ .test ||
        if s.poller.running then
          (s.calls c).kind = .start || (List.range s.begun).all fun d =>
            (s.calls d).pc ≠ .join && (List.range s.created).all fun i =>
              s.thread ≠ some i || (s.calls d).pc ≠ .joining i
        else
          ((s.calls c).kind ≠ .start ||
              (List.range s.begun).all fun d => (s.calls d).pc ≠ .create) &&
            (List.range s.created).all fun i => !(s.pc i).alive || (s.pc i).announced
  | _       => true

/-- A step that passes the check is orderly. -/
theorem orderly_of_check {s : PollerRun} (hs : s.Consistent) (a : PollerAction)
    (h : s.checkOrderly a = true) : s.Orderly a := by
  cases a with
  | call c =>
      intro htest
      refine ⟨fun hrun hstart d hd => ?_, fun hrun _ i hi => ?_, fun hrun hstop d => ⟨fun hd => ?_,
        fun i hi hd => ?_⟩⟩
      · have hlt : d < s.begun := hs.fresh.lt_begun (by rw [hd]; nofun)
        simp [checkOrderly, htest, hrun, hstart] at h
        exact h.1 d hlt hd
      · have hlt : i < s.created := hs.fresh.lt_created fun h0 => by
          rw [h0] at hi
          cases hi
        simp [checkOrderly, htest, hrun] at h
        exact (h.2 i hlt).resolve_left (by rw [hi]; nofun)
      · have hlt : d < s.begun := hs.fresh.lt_begun (by rw [hd]; nofun)
        simp [checkOrderly, htest, hrun] at h
        exact (h.resolve_left hstop d hlt).1 hd
      · have hlt : d < s.begun := hs.fresh.lt_begun (by rw [hd]; nofun)
        simp [checkOrderly, htest, hrun] at h
        exact ((h.resolve_left hstop d hlt).2 i (hs.fresh.thread i hi)).resolve_left
          (fun hne => hne hi) hd
  | _ => trivial

/-- A thread that is started, comes to wait, is stopped and joined; then another is started. -/
def startStopStart : List PollerAction :=
  [.begin .start, .call 0, .call 0, .create 0 true] ++ List.replicate 7 (.thread 0) ++
    [.begin .stop, .call 1, .call 1, .signal 1 (some 0), .join 1] ++
    List.replicate 5 (.thread 0) ++
    [.joined 1, .begin .start, .call 2, .call 2, .create 2 true, .thread 1, .thread 1]

/-- A start, a stop and a start, one after the other. -/
theorem lifecycle_of_start_stop_start :
    ∃ s, exec PollerRun.step (init true 900) startStopStart = some s ∧ s.Lifecycle := by
  have hsome : (exec PollerRun.step (init true 900) startStopStart).isSome = true := by
    decide +kernel
  obtain ⟨s, hs⟩ := Option.isSome_iff_exists.mp hsome
  have hchecked : checked PollerRun.step checkOrderly (init true 900) startStopStart = true := by
    decide +kernel
  have has : Along PollerRun.step Orderly (init true 900) startStopStart :=
    along_of_checked (fun _ _ _ hs hstep => hs.step hstep) (fun _ a hs h => orderly_of_check hs a h)
      (init_consistent true 900) hchecked
  exact ⟨s, hs, (lifecycle_of_orderly true 900 has hs).1⟩

/-- The second start tests `running` before the thread of the first has set it. -/
def startTwice : List PollerAction :=
  [.begin .start, .call 0, .call 0, .create 0 true, .begin .start, .call 1, .call 1, .create 1 true]

/-- Two starts at the same time: both create a thread. -/
theorem two_threads :
    ∃ s, exec PollerRun.step (init true 900) startTwice = some s ∧ s.Alive 0 ∧ s.Alive 1 := by
  have hrun : (exec PollerRun.step (init true 900) startTwice).map
      (fun s => ((s.pc 0).alive, (s.pc 1).alive)) = some (true, true) := by
    decide +kernel
  obtain ⟨s, hs, hpair⟩ := Option.map_eq_some_iff.mp hrun
  exact ⟨s, hs, congrArg Prod.fst hpair, congrArg Prod.snd hpair⟩

end PollerRun

end EponManager
