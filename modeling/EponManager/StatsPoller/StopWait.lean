import EponManager.StatsPoller.Moves

/-!
# A stop while the thread collects

`eponMgr_stats_poller_stop` sets `shutdown_requested` and signals the condition variable. The thread
tests the flag before it collects and after it has waited, but not between: a stop that sets the
flag while the thread collects wakes nobody, and the thread then waits for the whole interval.

* `Awake` is the invariant: a thread that has passed the first test and has not begun to wait has
  not been asked to stop. `signal_flag` says that the flag is set when a stop signals.
* `stop_not_slept_through` says that no thread begins to wait after it was asked to stop in any run
  in which no stop sets the flag while a thread collects, that a stop then leaves no thread waiting,
  and that otherwise a thread begins to wait although it was asked to stop.
-/

namespace EponManager

open Lib

/-- Between the unlock after the first test and the lock before the wait. -/
def ThreadPc.collecting : ThreadPc → Bool
  | .collect _ _ | .relock _ => true
  | _ => false

/-- Past the first test, and the wait has not begun. -/
def ThreadPc.pastTest : ThreadPc → Bool
  | .timedwait _ => true
  | pc => pc.collecting

namespace PollerRun

/-- The step is the test of a stop that finds the poller running, and so sets the flag. -/
def Requests (s : PollerRun) : PollerAction → Prop
  | .call c => (s.calls c).pc = .test ∧ (s.calls c).kind ≠ .start ∧ s.poller.running = true
  | _       => False

/-- The condition on a step: no stop sets the flag while a thread collects. -/
def NotWhileCollecting (s : PollerRun) (a : PollerAction) : Prop :=
  s.Requests a → ∀ i, (s.pc i).collecting = false

/-- Who is about to wait has not been asked to stop. -/
def Awake (s : PollerRun) : Prop :=
  ∀ i, (s.pc i).pastTest = true → s.poller.shutdownRequested = false

/-! ### What a step does to the flag -/

theorem threadNext_flag {p p' : StatsPoller} {pc pc' : ThreadPc} {op : MutexOp}
    (h : threadNext p pc = some (op, p', pc')) : p'.shutdownRequested = p.shutdownRequested := by
  cases pc <;> simp only [threadNext, Option.some.injEq, Prod.mk.injEq, reduceCtorEq] at h <;>
    obtain ⟨-, rfl, -⟩ := h <;> rfl

/-- A thread gets past the first test only if it has not been asked to stop. -/
theorem threadNext_pastTest {p p' : StatsPoller} {pc pc' : ThreadPc} {op : MutexOp}
    (h : threadNext p pc = some (op, p', pc')) (hpast : pc'.pastTest = true) :
    pc.pastTest = true ∨ p.shutdownRequested = false := by
  cases pc with
  | test =>
      cases hflag : p.shutdownRequested with
      | false => exact .inr rfl
      | true =>
          simp only [threadNext, hflag, Option.some.injEq, Prod.mk.injEq] at h
          obtain ⟨-, -, rfl⟩ := h
          cases hpast
  | collect enabled interval => exact .inl rfl
  | relock interval => exact .inl rfl
  | retest =>
      obtain ⟨-, -, rfl⟩ : _ ∧ _ ∧ (if p.shutdownRequested then _ else _) = pc' := by
        simpa only [threadNext, Option.some.injEq, Prod.mk.injEq] using h
      split at hpast <;> cases hpast
  | _ =>
      cases h
      try cases hpast

/-- A call sets the flag only if it is a stop that finds the poller running. -/
theorem callNext_flag {kind : CallKind} {p p' : StatsPoller} {pc pc' : CallPc}
    (h : CallNext kind p pc p' pc') (hflag : p.shutdownRequested = false) :
    p'.shutdownRequested = false ∨ (pc = .test ∧ kind ≠ .start ∧ p.running = true) := by
  cases h with
  | requests hbefore hstop hrun hp hafter => exact .inr ⟨hbefore, hstop, hrun⟩
  | lock hbefore hp hafter => exact .inl (hp ▸ hflag)
  | running hbefore hstart hrun hp hafter => exact .inl (hp ▸ hflag)
  | creates hbefore hstart hrun hp hafter =>
      left
      rw [hp]
  | idle hbefore hstop hrun hp hafter => exact .inl (hp ▸ hflag)
  | cleanup hbefore hp hafter => exact .inl (hp ▸ hflag)

/-! ### The invariant -/

/-- Moving a thread to a place that is not past the test. -/
theorem Awake.setPc {s : PollerRun} (hs : s.Awake) {i : Nat} {pc : ThreadPc}
    (hpc : pc.pastTest = true → s.poller.shutdownRequested = false) : (s.setPc i pc).Awake := by
  intro j hj
  by_cases hji : j = i
  · subst hji
    rw [setPc_pc_self] at hj
    exact hpc hj
  · rw [setPc_pc_of_ne s pc hji] at hj
    exact hs j hj

/-- A stop cannot set the flag while a thread holds the mutex, so it does so while a thread collects
or before. -/
theorem not_pastTest_of_requests {s : PollerRun} (hs : s.Consistent) {c : Nat}
    (hc : s.Requests (.call c)) (hcollect : ∀ i, (s.pc i).collecting = false) (i : Nat) :
    (s.pc i).pastTest = false := by
  have hcall : s.holds (.call c) = true := by
    show (s.calls c).pc.holds = true
    rw [hc.1]
    rfl
  have hno := hcollect i
  cases hpc : s.pc i with
  | timedwait interval =>
      have hthread : s.holds (.thread i) = true := by
        show (s.pc i).holds = true
        rw [hpc]
        rfl
      cases hs.exclusive.unique hthread hcall
  | collect enabled interval =>
      rw [hpc] at hno
      cases hno
  | relock interval =>
      rw [hpc] at hno
      cases hno
  | _ => rfl

/-- **Step lemma.** -/
theorem Awake.step {s t : PollerRun} {a : PollerAction} (hcons : s.Consistent) (hs : s.Awake)
    (ha : s.NotWhileCollecting a) (h : s.step a = some t) : t.Awake := by
  cases outcome_of_step h with
  | begin kind => exact hs
  | call c op poller pc owner hpc hnext hop =>
      intro i hi
      have hi' : (s.pc i).pastTest = true := hi
      rcases callNext_flag (callNext_inv hnext hpc) (hs i hi') with hflag | hreq
      · exact hflag
      · rw [not_pastTest_of_requests hcons (c := c) hreq (ha hreq) i] at hi'
        cases hi'
  | signal c woken hpc hwoken =>
      cases woken with
      | none => exact hs
      | some i => exact hs.setPc fun hpast => by cases hpast
  | created c hpc => exact hs.setPc fun hpast => by cases hpast
  | notCreated c hpc => exact hs
  | join c i hpc hthread => exact hs
  | joined c i hpc hexited => exact hs
  | thread i op poller pc owner hnext hop =>
      have hmoved : (s.setPc i pc).Awake := by
        refine hs.setPc fun hpast => ?_
        rcases threadNext_pastTest hnext hpast with hbefore | hflag
        · exact hs i hbefore
        · exact hflag
      intro j hj
      exact (threadNext_flag hnext).trans (hmoved j hj)
  | wake i hpc => exact hs.setPc fun hpast => by cases hpast
  | configure enabled interval howner => exact hs

/-! ### The flag is set when a stop signals -/

/-- A stop that is about to signal has set the flag, and nobody has cleared it since. -/
def SignalFlag (s : PollerRun) : Prop :=
  ∀ c, (s.calls c).pc = .signal → s.poller.shutdownRequested = true

/-- Only a start clears the flag. -/
theorem callNext_clears {kind : CallKind} {p p' : StatsPoller} {pc pc' : CallPc}
    (h : CallNext kind p pc p' pc') (hset : p.shutdownRequested = true) :
    p'.shutdownRequested = true ∨ pc = .test := by
  cases h with
  | lock hbefore hp hafter => exact .inl (hp ▸ hset)
  | cleanup hbefore hp hafter => exact .inl (hp ▸ hset)
  | running hbefore hstart hrun hp hafter => exact .inr hbefore
  | creates hbefore hstart hrun hp hafter => exact .inr hbefore
  | requests hbefore hstop hrun hp hafter => exact .inr hbefore
  | idle hbefore hstop hrun hp hafter => exact .inr hbefore

/-- A step that leaves the flag set, or clear, as it was, except for the test of a call. -/
theorem flag_of_step {s t : PollerRun} {a : PollerAction} (h : s.step a = some t)
    (hset : s.poller.shutdownRequested = true) :
    t.poller.shutdownRequested = true ∨ ∃ c, a = .call c ∧ (s.calls c).pc = .test := by
  cases outcome_of_step h with
  | call c op poller pc owner hpc hnext hop =>
      rcases callNext_clears (callNext_inv hnext hpc) hset with hflag | htest
      · exact .inl hflag
      · exact .inr ⟨c, rfl, htest⟩
  | signal c woken hpc hwoken =>
      left
      cases woken <;> exact hset
  | thread i op poller pc owner hnext hop => exact .inl ((threadNext_flag hnext).trans hset)
  | _ => exact .inl hset

/-- The flag is set before the signal is sent. -/
theorem signal_flag {s t : PollerRun} {a : PollerAction} (hcons : s.Consistent)
    (hs : s.SignalFlag) (h : s.step a = some t) : t.SignalFlag := by
  intro d hd
  rcases signal_of_step h hd with hbefore | hset
  · rcases flag_of_step h (hs d hbefore) with hflag | ⟨c, rfl, htest⟩
    · exact hflag
    · -- who tests holds the mutex, but the stop that signals holds it
      obtain rfl := hcons.same_call (by rw [htest]; rfl) (by rw [hbefore]; rfl)
      cases htest.symm.trans hbefore
  · exact hset

/-- What holds in every state of a run whose steps all meet the condition. -/
structure AwakeInvariant (s : PollerRun) : Prop where
  consistent : s.Consistent
  awake : s.Awake
  signalFlag : s.SignalFlag

/-- **One step keeps the threads awake**, if no stop comes while one collects. -/
theorem AwakeInvariant.step {s t : PollerRun} {a : PollerAction} (hs : s.AwakeInvariant)
    (ha : s.NotWhileCollecting a) (h : s.step a = some t) : t.AwakeInvariant where
  consistent := hs.consistent.step h
  awake := hs.awake.step hs.consistent ha h
  signalFlag := signal_flag hs.consistent hs.signalFlag h

/-- **Run lemma.** -/
theorem AwakeInvariant.exec {s t : PollerRun} {as : List PollerAction} (hs : s.AwakeInvariant)
    (has : Along PollerRun.step NotWhileCollecting s as) (h : exec PollerRun.step s as = some t) :
    t.AwakeInvariant :=
  exec_invariant_along (P := AwakeInvariant) (fun _ _ _ hs ha hstep => hs.step ha hstep) hs has h

/-- At the start nobody waits. -/
theorem init_awake (enabled : Bool) (interval : UInt32) :
    (init enabled interval).AwakeInvariant where
  consistent := init_consistent enabled interval
  awake := fun _ h => by cases h
  signalFlag := fun _ h => by cases h

/-- The signal of a stop leaves no thread waiting, nor about to wait, if at most one waited. -/
theorem AwakeInvariant.signal_wakes {s t : PollerRun} (hs : s.AwakeInvariant) {c : Nat}
    {woken : Option Nat} (h : s.step (.signal c woken) = some t)
    (hone : ∀ i j, s.pc i = .waiting → s.pc j = .waiting → i = j) (i : Nat) :
    t.pc i ≠ .waiting ∧ (t.pc i).pastTest = false := by
  have hcond : s.NotWhileCollecting (.signal c woken) := nofun
  have ht : t.AwakeInvariant := hs.step hcond h
  cases outcome_of_step h with
  | signal _ _ hpc hwoken =>
      have hflag : s.poller.shutdownRequested = true := hs.signalFlag c hpc
      constructor
      · show (s.wake woken).pc i ≠ .waiting
        -- with nobody woken, nobody was waiting; else the woken one was the only one
        cases woken with
        | none =>
            intro hi
            have hcreated : i < s.created :=
              hs.consistent.fresh.lt_created (by rw [show s.pc i = .waiting from hi]; nofun)
            exact of_decide_eq_true
              (List.all_eq_true.mp hwoken i (List.mem_range.mpr hcreated)) hi
        | some j =>
            have hj : s.pc j = .waiting := of_decide_eq_true hwoken
            intro hi
            by_cases hij : i = j
            · rw [hij, wake, setPc_pc_self] at hi
              cases hi
            · rw [wake, setPc_pc_of_ne s _ hij] at hi
              exact hij (hone i j hi hj)
      · cases hpast : (((s.wake woken).setCall c .join).pc i).pastTest with
        | false => rfl
        | true =>
            -- past the test the flag is clear, but the stop has set it
            have hclear := ht.awake i hpast
            have hsame : (s.wake woken).poller = s.poller := by cases woken <;> rfl
            have hset : (s.wake woken).poller.shutdownRequested = true := by rw [hsame]; exact hflag
            exact absurd (hset.symm.trans hclear) nofun

/-! ### A stop that comes while a thread collects -/

/-- A thread is about to wait although it was asked to stop. -/
def SleepsThrough (s : PollerRun) (i : Nat) : Prop :=
  (∃ interval, s.pc i = .timedwait interval) ∧ s.poller.shutdownRequested = true

/-- A thread that collects goes on to wait, if nobody else takes the mutex. -/
theorem collecting_to_timedwait {s : PollerRun} {i : Nat} (howner : s.owner = none)
    (hi : (s.pc i).collecting = true) :
    ∃ n t, exec PollerRun.step s (List.replicate n (.thread i)) = some t ∧
      (∃ interval, t.pc i = .timedwait interval) ∧ t.poller = s.poller := by
  have hrelock {s : PollerRun} (howner : s.owner = none) {interval : UInt32}
      (hpc : s.pc i = .relock interval) :
      s.step (.thread i) =
        some { s.setPc i (.timedwait interval) with owner := some (.thread i) } := by
    show (threadNext s.poller (s.pc i)).bind _ = _
    rw [hpc, threadNext, Option.bind_some]
    show (lockOp (.thread i) s.owner .lock).bind _ = _
    rw [lockOp, if_pos howner]
    rfl
  cases hpc : s.pc i with
  | collect enabled interval =>
      have hcollect : s.step (.thread i) = some (s.setPc i (.relock interval)) := by
        show (threadNext s.poller (s.pc i)).bind _ = _
        rw [hpc]
        rfl
      have hstep := hrelock (s := s.setPc i (.relock interval)) howner (setPc_pc_self ..)
      exact ⟨2, _, exec_cons_eq_some.mpr ⟨_, hcollect, exec_cons_eq_some.mpr ⟨_, hstep, rfl⟩⟩,
        ⟨interval, setPc_pc_self ..⟩, rfl⟩
  | relock interval =>
      exact ⟨1, _, exec_cons_eq_some.mpr ⟨_, hrelock howner hpc, rfl⟩,
        ⟨interval, setPc_pc_self ..⟩, rfl⟩
  | _ =>
      rw [hpc] at hi
      cases hi

/-- **A stop that comes while the thread collects is slept through.** -/
theorem sleeps_through {s : PollerRun} {c : Nat} (hc : s.Requests (.call c))
    {i : Nat} (hi : (s.pc i).collecting = true) :
    ∃ woken n t, exec PollerRun.step s
        (.call c :: .signal c woken :: List.replicate n (.thread i)) = some t ∧
      t.SleepsThrough i := by
  obtain ⟨hpc, hkind, hrun⟩ := hc
  -- the flag is set, under the mutex
  let s₁ : PollerRun :=
    { s.setCall c .signal with poller := { s.poller with shutdownRequested := true } }
  have hstep₁ : s.step (.call c) = some s₁ := by
    show (if (s.calls c).pc = .signal then none else _) = _
    rw [if_neg (by rw [hpc]; nofun), hpc]
    have hnext : callNext (s.calls c).kind s.poller .test =
        some (.stay, { s.poller with shutdownRequested := true }, .signal) := by
      cases hk : (s.calls c).kind with
      | start => exact absurd hk hkind
      | stop =>
          show (if s.poller.running then _ else _) = _
          rw [if_pos hrun]
      | destroy =>
          show (if s.poller.running then _ else _) = _
          rw [if_pos hrun]
    rw [hnext]
    rfl
  obtain ⟨woken, hwoken⟩ := exists_wakes s₁
  let s₂ : PollerRun := { (s₁.wake woken).setCall c .join with owner := none }
  have hstep₂ : s₁.step (.signal c woken) = some s₂ := by
    have hsignal : (s₁.calls c).pc = .signal := by
      show ((s.setCall c .signal).calls c).pc = _
      rw [setCall_calls_self]
    show (if (s₁.calls c).pc = .signal ∧ s₁.wakes woken = true then _ else none) = _
    rw [if_pos ⟨hsignal, hwoken⟩]
  -- the thread that collects does not wait, so it is not the one that is woken
  have hsame : s₂.pc i = s.pc i := by
    cases woken with
    | none => rfl
    | some j =>
        -- the stop signals first; then the thread runs on into its wait
        refine setPc_pc_of_ne s₁ .woken ?_
        rintro rfl
        have hwaiting : s.pc i = .waiting := of_decide_eq_true hwoken
        rw [hwaiting] at hi
        cases hi
  obtain ⟨n, t, hrest, htimed, hpoller⟩ := collecting_to_timedwait (s := s₂) (i := i) rfl
    (by rw [hsame]; exact hi)
  have hflag : s₂.poller.shutdownRequested = true := by
    cases woken <;> rfl
  refine ⟨woken, n, t, exec_cons_eq_some.mpr ⟨s₁, hstep₁, exec_cons_eq_some.mpr
    ⟨s₂, hstep₂, hrest⟩⟩, htimed, ?_⟩
  rw [hpoller]
  exact hflag

/-! ### The result -/

/-- **When a stop request is not slept through.** In every run in which no stop sets the flag while
a thread collects, no thread begins to wait after it was asked to stop, and the signal of a stop
leaves no thread waiting. In a state of such a run, a stop that is about to set the flag while a
thread collects lets that thread begin to wait. -/
theorem stop_not_slept_through (enabled : Bool) (interval : UInt32) {as : List PollerAction}
    {s : PollerRun}
    (has : Along PollerRun.step NotWhileCollecting (init enabled interval) as)
    (hrun : exec PollerRun.step (init enabled interval) as = some s) :
    (∀ i, ¬ s.SleepsThrough i) ∧
      (∀ c woken t, s.step (.signal c woken) = some t →
        (∀ i j, s.pc i = .waiting → s.pc j = .waiting → i = j) →
        ∀ i, t.pc i ≠ .waiting ∧ (t.pc i).pastTest = false) ∧
      ∀ c i, s.Requests (.call c) → (s.pc i).collecting = true → ∃ woken n t,
        exec PollerRun.step s (.call c :: .signal c woken :: List.replicate n (.thread i)) =
          some t ∧ t.SleepsThrough i := by
  have hs : s.AwakeInvariant := (init_awake enabled interval).exec has hrun
  refine ⟨?_, fun c woken t h hone i => hs.signal_wakes h hone i,
    fun c i hc hi => sleeps_through hc hi⟩
  rintro i ⟨⟨iv, hpc⟩, hflag⟩
  have hno := hs.awake i (by rw [hpc]; rfl)
  rw [hflag] at hno
  cases hno

/-- The condition on a step, for the threads that were created. -/
def checkNotWhileCollecting (s : PollerRun) : PollerAction → Bool
  | .call c =>
      !((s.calls c).pc = .test && (s.calls c).kind ≠ .start && s.poller.running) ||
        (List.range s.created).all fun i => !(s.pc i).collecting
  | _       => true

/-- A step that passes the check is no stop while a thread collects. -/
theorem notWhileCollecting_of_check {s : PollerRun} (hs : s.Consistent) (a : PollerAction)
    (h : s.checkNotWhileCollecting a = true) : s.NotWhileCollecting a := by
  intro hreq i
  cases a with
  | call c =>
      obtain ⟨hpc, hkind, hrun⟩ := hreq
      by_cases hi : i < s.created
      · simp only [checkNotWhileCollecting, hpc, hrun] at h
        simp at h
        exact h.resolve_left hkind i hi
      · rw [hs.fresh.threads i (Nat.le_of_not_lt hi)]
        rfl
  | _ => cases hreq

/-- A thread that comes to wait, and a stop that wakes it. -/
def stopWhileWaiting : List PollerAction :=
  [.begin .start, .call 0, .call 0, .create 0 true, .thread 0, .thread 0, .thread 0, .thread 0,
    .thread 0, .thread 0, .thread 0, .begin .stop, .call 1, .call 1, .signal 1 (some 0)]

/-- A stop that comes while the thread waits. -/
theorem stop_not_slept_through_while_waiting :
    ∃ s, exec PollerRun.step (init true 900) stopWhileWaiting = some s ∧
      ∀ i, ¬ s.SleepsThrough i := by
  have hsome : (exec PollerRun.step (init true 900) stopWhileWaiting).isSome = true := by
    decide +kernel
  obtain ⟨s, hs⟩ := Option.isSome_iff_exists.mp hsome
  have hchecked :
      checked PollerRun.step checkNotWhileCollecting (init true 900) stopWhileWaiting = true := by
    decide +kernel
  have has : Along PollerRun.step NotWhileCollecting (init true 900) stopWhileWaiting :=
    along_of_checked (fun _ _ _ hs hstep => hs.step hstep)
      (fun _ a hs h => notWhileCollecting_of_check hs a h) (init_consistent true 900) hchecked
  exact ⟨s, hs, (stop_not_slept_through true 900 has hs).1⟩

/-- The stop sets the flag and signals after the thread has read `enabled` and `interval_seconds`,
and before it waits. -/
def stopWhileCollecting : List PollerAction :=
  [.begin .start, .call 0, .call 0, .create 0 true, .thread 0, .thread 0, .thread 0, .thread 0,
    .begin .stop, .call 1, .call 1, .signal 1 none, .thread 0, .thread 0]

theorem stop_slept_through :
    ∃ s, exec PollerRun.step (init true 900) stopWhileCollecting = some s ∧ s.SleepsThrough 0 := by
  have hrun : (exec PollerRun.step (init true 900) stopWhileCollecting).map
      (fun s => (s.pc 0, s.poller.shutdownRequested)) = some (.timedwait 900, true) := by
    decide +kernel
  obtain ⟨s, hs, hpair⟩ := Option.map_eq_some_iff.mp hrun
  exact ⟨s, hs, ⟨900, congrArg Prod.fst hpair⟩, congrArg Prod.snd hpair⟩

end PollerRun

end EponManager
