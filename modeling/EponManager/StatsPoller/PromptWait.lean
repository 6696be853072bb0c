import EponManager.StatsPoller.StopWait

/-!
# A new interval or a trigger while the thread collects

The thread reads the interval together with `enabled`, collects without the mutex, and then waits
for the interval that it read. `eponMgr_stats_poller_set_interval` and `_trigger_now` signal the
condition variable, which nobody hears while the thread collects. So a new interval is not used, and
a trigger is answered with 0 and forgotten, until the old interval is over.

* `TriggerRun.step` adds the two functions, and the clock, to the run of the poller; it remembers
  each wait that began (`Wait`).
* `Timely` is the condition on a step: nothing new comes between the read and the wait.
* `PromptInvariant` says what a thread past its read relies on; `late_of_not_timely` continues the
  steps that are not timely to a wait that is not prompt.
-/

namespace EponManager

open Lib

/-- The interval that a thread has read and will wait for. -/
def ThreadPc.copied : ThreadPc → Option UInt32
  | .collect _ interval | .relock interval | .timedwait interval => some interval
  | _ => none

/-- Where a call of `eponMgr_stats_poller_trigger_now` is. -/
inductive TriggerPc where
  | notBegun
  /-- before its critical section -/
  | called
  /-- before the return of 0 -/
  | signalled
  | returned (rc : Int)
  deriving DecidableEq, Repr

/-- A timed wait when it begins: the time, the deadline, `poller->interval_seconds`, and whether a
trigger has returned 0 since the thread read `enabled`. -/
structure Wait where
  now : Int
  deadline : Int
  interval : UInt32
  triggered : Bool
  deriving DecidableEq, Repr

/-- The wait is for the interval of the moment, and no trigger is deferred by it. -/
def Wait.Prompt (x : Wait) : Prop := x.deadline = x.now + x.interval.toNat ∧ x.triggered = false

instance (x : Wait) : Decidable x.Prompt := inferInstanceAs (Decidable (_ ∧ _))

/-- The run of the poller with its triggers. -/
structure TriggerRun where
  run : PollerRun
  triggers : Nat → TriggerPc
  begun : Nat
  /-- whether a trigger has returned 0 since the thread last read `enabled` -/
  triggered : Nat → Bool
  waits : List Wait

inductive TriggerAction where
  /-- a step of a thread or of a call that starts or stops it, with the time on the clock -/
  | poller (a : PollerAction) (now : Int)
  /-- the critical section of `eponMgr_stats_poller_set_enabled` -/
  | setEnabled (enabled : Bool)
  /-- the critical section of `eponMgr_stats_poller_set_interval`, with the thread it wakes -/
  | setInterval (interval : UInt32) (woken : Option Nat)
  /-- a trigger begins -/
  | trigger
  /-- its critical section, with the thread it wakes -/
  | signal (c : Nat) (woken : Option Nat)
  /-- it returns 0 -/
  | returns (c : Nat)

namespace TriggerRun

/-! ### The steps -/

def init (enabled : Bool) (interval : UInt32) : TriggerRun where
  run := .init enabled interval
  triggers _ := .notBegun
  begun := 0
  triggered _ := false
  waits := []

/-- What is remembered of a thread's step: that it reads `enabled`, and the wait that it begins. -/
def follow (s : TriggerRun) (i : Nat) (now : Int) (run : PollerRun) : TriggerRun :=
  match s.run.pc i with
  | .test =>
      -- a thread that is to stop leaves the loop before it reads `enabled`
      if s.run.poller.shutdownRequested then { s with run }
      else { s with run, triggered := Function.update s.triggered i false }
  | .timedwait interval =>
      { s with run, waits := s.waits ++
          [⟨now, now + interval.toNat, s.run.poller.intervalSeconds, s.triggered i⟩] }
  | _ => { s with run }

def step (s : TriggerRun) : TriggerAction → Option TriggerRun
  | .poller (.configure _ _) _ => none
  | .poller (.thread i) now => (s.run.step (.thread i)).map (s.follow i now)
  | .poller a _ => (s.run.step a).map fun run => { s with run }
  | .setEnabled enabled =>
      (s.run.step (.configure enabled s.run.poller.intervalSeconds)).map fun run => { s with run }
  | .setInterval interval woken =>
      -- an interval of zero is refused before the lock, and changes nothing
      if interval ≠ 0 ∧ s.run.wakes woken then
        (s.run.step (.configure s.run.poller.enabled interval)).map fun run =>
          { s with run := run.wake woken }
      else
        none
  | .trigger =>
      some { s with triggers := Function.update s.triggers s.begun .called, begun := s.begun + 1 }
  | .signal c woken =>
      if s.triggers c = .called ∧ s.run.owner = none then
        if s.run.poller.running then
          if s.run.wakes woken then
            some { s with
              run := s.run.wake woken
              triggers := Function.update s.triggers c .signalled }
          else
            none
        else
          -- "poller not running"
          some { s with triggers := Function.update s.triggers c (.returned (-1)) }
      else
        none
  | .returns c =>
      if s.triggers c = .signalled then
        some { s with
          triggers := Function.update s.triggers c (.returned 0)
          triggered := fun _ => true }
      else
        none

/-- **The condition on a step.** While a thread is between its read and its wait, no interval is set
but the one it read, and no trigger finds the poller running; and no thread reads while a trigger
that has signalled has yet to return. -/
def Timely (s : TriggerRun) : TriggerAction → Prop
  | .setInterval v _ =>
      ∀ i < s.run.created, (s.run.pc i).copied = none ∨ (s.run.pc i).copied = some v
  | .signal _ _ =>
      s.run.poller.running = true → ∀ i < s.run.created, (s.run.pc i).copied = none
  | .poller (.thread i) _ =>
      s.run.pc i = .test → s.run.poller.shutdownRequested = false →
        ∀ c < s.begun, s.triggers c ≠ .signalled
  | _ => True

instance (s : TriggerRun) : (a : TriggerAction) → Decidable (s.Timely a)
  | .setInterval _ _       => inferInstanceAs (Decidable (∀ i < s.run.created, _))
  | .signal _ _            => inferInstanceAs (Decidable (_ → ∀ i < s.run.created, _))
  | .poller (.thread _) _  => inferInstanceAs (Decidable (_ → _ → ∀ c < s.begun, _))
  | .poller (.begin _) _ | .poller (.call _) _ | .poller (.signal _ _) _
  | .poller (.create _ _) _ | .poller (.join _) _ | .poller (.joined _) _
  | .poller (.wake _) _ | .poller (.configure _ _) _
  | .setEnabled _ | .trigger | .returns _ => isTrue trivial

end TriggerRun

/-! ### What a step does to the intervals -/

namespace PollerRun

variable {s t : PollerRun} {a : PollerAction}

/-- A thread has read an interval if it had before, or if this is the step that reads it. -/
theorem threadNext_copied {p p' : StatsPoller} {pc pc' : ThreadPc} {op : MutexOp} {v : UInt32}
    (h : threadNext p pc = some (op, p', pc')) (hcopied : pc'.copied = some v) :
    pc.copied = some v ∨
      (pc = .test ∧ p.shutdownRequested = false ∧ v = p.intervalSeconds) := by
  cases pc with
  | test =>
      obtain ⟨-, -, rfl⟩ : _ ∧ _ ∧ (if p.shutdownRequested then _ else _) = pc' := by
        simpa only [threadNext, Option.some.injEq, Prod.mk.injEq] using h
      split at hcopied
      · cases hcopied
      · rename_i hflag
        cases hcopied
        exact .inr ⟨rfl, Bool.eq_false_iff.mpr hflag, rfl⟩
  | collect enabled interval =>
      cases h
      exact .inl hcopied
  | relock interval =>
      cases h
      exact .inl hcopied
  | retest =>
      obtain ⟨-, -, rfl⟩ : _ ∧ _ ∧ (if p.shutdownRequested then _ else _) = pc' := by
        simpa only [threadNext, Option.some.injEq, Prod.mk.injEq] using h
      split at hcopied <;> cases hcopied
  | _ =>
      cases h
      try cases hcopied

/-- The interval is copied at the test, and kept until the next. -/
theorem copied_of_step (h : s.step a = some t) {i : Nat} {v : UInt32}
    (hcopied : (t.pc i).copied = some v) :
    (s.pc i).copied = some v ∨ (a = .thread i ∧ s.pc i = .test ∧
      s.poller.shutdownRequested = false ∧ v = s.poller.intervalSeconds) := by
  cases threadMove_of_step h i with
  | same hpc => exact .inl (hpc ▸ hcopied)
  | created c hi hcall hpc =>
      rw [hpc] at hcopied
      cases hcopied
  | woken hbefore hafter =>
      rw [hafter] at hcopied
      cases hcopied
  | next op hnext => exact (threadNext_copied hnext hcopied).imp id fun h => ⟨rfl, h⟩

/-- Only the setter changes the interval. -/
theorem interval_of_step (h : s.step a = some t) (ha : ∀ enabled v, a ≠ .configure enabled v) :
    t.poller.intervalSeconds = s.poller.intervalSeconds := by
  cases outcome_of_step h with
  | call c op poller pc owner hpc hnext hop =>
      show poller.intervalSeconds = _
      cases callNext_inv hnext hpc <;> (rename_i hp _; rw [hp])
  | signal c woken hpc hwoken => cases woken <;> rfl
  | thread i op poller pc owner hnext hop =>
      show poller.intervalSeconds = _
      cases hbefore : s.pc i <;> rw [hbefore] at hnext <;> cases hnext <;> rfl
  | configure enabled v howner => exact absurd rfl (ha enabled v)
  | _ => rfl

/-- The setter changes nothing else that a waiting thread looks at. -/
theorem configure_frame {enabled : Bool} {v : UInt32}
    (h : s.step (.configure enabled v) = some t) :
    t.pc = s.pc ∧ t.poller.intervalSeconds = v ∧ t.owner = none ∧
      ∀ woken, t.wakes woken = s.wakes woken := by
  cases outcome_of_step h with
  | configure _ _ howner =>
      refine ⟨rfl, rfl, howner, fun woken => ?_⟩
      cases woken <;> rfl

/-- Who is woken up is nobody's hold of the mutex. -/
theorem Consistent.wake (hs : s.Consistent) {woken : Option Nat} (hwoken : s.wakes woken = true) :
    (s.wake woken).Consistent := by
  cases woken with
  | none => exact hs
  | some i => exact hs.step (a := .wake i) (if_pos (of_decide_eq_true hwoken))

/-- A thread that is woken has to read the interval again. -/
theorem copied_of_wake {woken : Option Nat} {i : Nat} {v : UInt32}
    (hcopied : ((s.wake woken).pc i).copied = some v) : (s.pc i).copied = some v := by
  cases woken with
  | none => exact hcopied
  | some j =>
      by_cases hij : i = j
      · rw [hij, wake, setPc_pc_self] at hcopied
        cases hcopied
      · rw [wake, setPc_pc_of_ne s _ hij] at hcopied
        exact hcopied

end PollerRun

namespace TriggerRun

/-! ### The invariant -/

/-- What a thread relies on that has read the interval `v`. -/
structure Covered (s : TriggerRun) (i : Nat) (v : UInt32) : Prop where
  interval : v = s.run.poller.intervalSeconds
  untriggered : s.triggered i = false
  answered : ∀ c, s.triggers c ≠ .signalled

structure PromptInvariant (s : TriggerRun) : Prop where
  consistent : s.run.Consistent
  fresh : ∀ c, s.begun ≤ c → s.triggers c = .notBegun
  threads : ∀ i v, (s.run.pc i).copied = some v → s.Covered i v
  waits : ∀ x ∈ s.waits, x.Prompt

section Invariant

variable {s t : TriggerRun} {a : TriggerAction}

theorem init_prompt (enabled : Bool) (interval : UInt32) :
    (init enabled interval).PromptInvariant where
  consistent := PollerRun.init_consistent enabled interval
  fresh _ _ := rfl
  threads _ _ h := nomatch h
  waits _ h := nomatch h

/-! ### What the poller's own steps add -/

theorem step_poller {b : PollerAction} {now : Int} (hconf : ∀ enabled v, b ≠ .configure enabled v)
    (hthread : ∀ i, b ≠ .thread i) :
    s.step (.poller b now) = (s.run.step b).map fun run => { s with run } := by
  cases b with
  | thread i => exact absurd rfl (hthread i)
  | configure enabled v => exact absurd rfl (hconf enabled v)
  | _ => rfl

/-- What a step of a thread leaves as it is. -/
theorem follow_frame (s : TriggerRun) (i : Nat) (now : Int) (run : PollerRun) :
    (s.follow i now run).run = run ∧ (s.follow i now run).triggers = s.triggers ∧
      (s.follow i now run).begun = s.begun := by
  unfold follow
  split
  · split <;> exact ⟨rfl, rfl, rfl⟩
  · exact ⟨rfl, rfl, rfl⟩
  · exact ⟨rfl, rfl, rfl⟩

/-- A step of a thread can only forget a trigger. -/
theorem follow_triggered {i j : Nat} {now : Int} {run : PollerRun} (h : s.triggered j = false) :
    (s.follow i now run).triggered j = false := by
  unfold follow
  split
  · split
    · exact h
    · by_cases hij : j = i
      · rw [hij]
        exact Function.update_self ..
      · exact (Function.update_of_ne hij ..).trans h
  · exact h
  · exact h

/-- A fresh copy takes in every trigger before it. -/
theorem follow_read {i : Nat} {now : Int} {run : PollerRun} (hpc : s.run.pc i = .test)
    (hflag : s.run.poller.shutdownRequested = false) :
    (s.follow i now run).triggered i = false := by
  unfold follow
  simp [hpc, hflag]

/-- A step of a thread begins a wait if the thread is before it. -/
theorem follow_waits {i : Nat} {now : Int} {run : PollerRun} {x : Wait}
    (hx : x ∈ (s.follow i now run).waits) :
    x ∈ s.waits ∨ ∃ v, s.run.pc i = .timedwait v ∧
      x = ⟨now, now + v.toNat, s.run.poller.intervalSeconds, s.triggered i⟩ := by
  unfold follow at hx
  split at hx
  · split at hx <;> exact .inl hx
  · rename_i v hpc
    refine (List.mem_append.mp hx).imp id fun hx => ?_
    exact ⟨v, hpc, List.mem_singleton.mp hx⟩
  · exact .inl hx

/-! ### The invariant, step by step -/

/-- A trigger that is somewhere has begun. -/
theorem PromptInvariant.lt_begun (hs : s.PromptInvariant) {c : Nat}
    (hc : s.triggers c ≠ .notBegun) : c < s.begun := by
  by_contra hge
  exact hc (hs.fresh c (Nat.le_of_not_lt hge))

theorem PromptInvariant.fresh_update (hs : s.PromptInvariant) {c : Nat} (hc : c < s.begun)
    {pc : TriggerPc} (d : Nat) (hd : s.begun ≤ d) :
    Function.update s.triggers c pc d = .notBegun :=
  (Function.update_of_ne (by omega) ..).trans (hs.fresh d hd)

/-- A trigger that goes elsewhere than to its return. -/
theorem answered_update {triggers : Nat → TriggerPc} (h : ∀ c, triggers c ≠ .signalled) {c : Nat}
    {pc : TriggerPc} (hpc : pc ≠ .signalled) (d : Nat) :
    Function.update triggers c pc d ≠ .signalled := by
  by_cases hdc : d = c
  · rw [hdc, Function.update_self]
    exact hpc
  · rw [Function.update_of_ne hdc]
    exact h d

/-- **A step of a thread**: it reads what it will rely on, or waits for what it has read. -/
theorem PromptInvariant.thread (hs : s.PromptInvariant) {i : Nat} {now : Int} {run : PollerRun}
    (htimely : s.Timely (.poller (.thread i) now)) (hrun : s.run.step (.thread i) = some run) :
    (s.follow i now run).PromptInvariant := by
  obtain ⟨hfollow, htriggers, hbegun⟩ := follow_frame s i now run
  have hinterval := PollerRun.interval_of_step hrun nofun
  constructor
  · rw [hfollow]
    exact hs.consistent.step hrun
  · rw [htriggers, hbegun]
    exact hs.fresh
  · intro j v hj
    rw [hfollow] at hj
    rcases PollerRun.copied_of_step hrun hj with hbefore | ⟨hthread, htest, hflag, hv⟩
    · have hc := hs.threads j v hbefore
      constructor
      · rw [hfollow, hinterval]
        exact hc.interval
      · exact follow_triggered hc.untriggered
      · rw [htriggers]
        exact hc.answered
    · -- the step is the read
      cases hthread
      constructor
      · rw [hfollow, hinterval]
        exact hv
      · exact follow_read htest hflag
      · intro c hc
        rw [htriggers] at hc
        exact htimely htest hflag c (hs.lt_begun (by rw [hc]; nofun)) hc
  · intro x hx
    rcases follow_waits hx with hx | ⟨v, hpc, rfl⟩
    · exact hs.waits x hx
    · have hc := hs.threads i v (by rw [hpc]; rfl)
      constructor
      · exact congrArg (fun n : UInt32 => now + (n.toNat : Int)) hc.interval
      · exact hc.untriggered

/-- A step of the poller that is no thread's. -/
theorem PromptInvariant.poller (hs : s.PromptInvariant) {b : PollerAction} {now : Int}
    (h : s.step (.poller b now) = some t) (hconf : ∀ enabled v, b ≠ .configure enabled v)
    (hthread : ∀ i, b ≠ .thread i) : t.PromptInvariant := by
  rw [step_poller hconf hthread] at h
  obtain ⟨run, hrun, rfl⟩ := Option.map_eq_some_iff.mp h
  constructor
  · exact hs.consistent.step hrun
  · exact hs.fresh
  · intro i v hi
    rcases PollerRun.copied_of_step hrun hi with hbefore | ⟨hb, -⟩
    · have hc := hs.threads i v hbefore
      have hinterval := PollerRun.interval_of_step hrun hconf
      exact ⟨hc.interval.trans hinterval.symm, hc.untriggered, hc.answered⟩
    · exact absurd hb (hthread i)
  · exact hs.waits

/-- What is true of the reads of all threads that were created is true of those of all. -/
theorem PromptInvariant.of_created (hs : s.PromptInvariant) {p : Option UInt32 → Prop}
    (hp : p none) (h : ∀ i < s.run.created, p (s.run.pc i).copied) (i : Nat) :
    p (s.run.pc i).copied := by
  by_cases hi : i < s.run.created
  · exact h i hi
  · rw [hs.consistent.fresh.threads i (Nat.le_of_not_lt hi)]
    exact hp

theorem PromptInvariant.setEnabled (hs : s.PromptInvariant) {enabled : Bool}
    (h : s.step (.setEnabled enabled) = some t) : t.PromptInvariant := by
  obtain ⟨run, hrun, rfl⟩ := Option.map_eq_some_iff.mp h
  obtain ⟨hpc, hinterval, -, -⟩ := PollerRun.configure_frame hrun
  constructor
  · exact hs.consistent.step hrun
  · exact hs.fresh
  · intro i v hi
    have hc := hs.threads i v (hpc ▸ hi)
    exact ⟨hc.interval.trans hinterval.symm, hc.untriggered, hc.answered⟩
  · exact hs.waits

/-- A new interval, while no thread relies on another one. -/
theorem PromptInvariant.setInterval (hs : s.PromptInvariant) {interval : UInt32}
    {woken : Option Nat} (htimely : s.Timely (.setInterval interval woken))
    (h : s.step (.setInterval interval woken) = some t) : t.PromptInvariant := by
  obtain ⟨⟨hne, hwoken⟩, h⟩ := Option.ite_none_right_eq_some.mp h
  obtain ⟨run, hrun, rfl⟩ := Option.map_eq_some_iff.mp h
  obtain ⟨hpc, hinterval, -, hwakes⟩ := PollerRun.configure_frame hrun
  have hpoller : (run.wake woken).poller = run.poller := by cases woken <;> rfl
  constructor
  · exact (hs.consistent.step hrun).wake ((hwakes woken).trans hwoken)
  · exact hs.fresh
  · intro i v hi
    have hbefore : (s.run.pc i).copied = some v := hpc ▸ PollerRun.copied_of_wake hi
    have hc := hs.threads i v hbefore
    -- the thread has read the interval that is set
    have hsame := hs.of_created (p := fun o => o = none ∨ o = some interval) (.inl rfl) htimely i
    rw [hbefore] at hsame
    have hv : v = interval := by simpa using hsame
    refine ⟨?_, hc.untriggered, hc.answered⟩
    show v = (run.wake woken).poller.intervalSeconds
    rw [hpoller, hinterval, hv]
  · exact hs.waits

theorem PromptInvariant.trigger (hs : s.PromptInvariant) (h : s.step .trigger = some t) :
    t.PromptInvariant := by
  cases h
  constructor
  · exact hs.consistent
  · intro c hc
    have hc' : s.begun + 1 ≤ c := hc
    exact (Function.update_of_ne (by omega) ..).trans (hs.fresh c (by omega))
  · intro i v hi
    have hc := hs.threads i v hi
    refine ⟨hc.interval, hc.untriggered, ?_⟩
    exact answered_update hc.answered nofun
  · exact hs.waits

/-- A signal, while no thread relies on what it has read. -/
theorem PromptInvariant.signal (hs : s.PromptInvariant) {c : Nat} {woken : Option Nat}
    (htimely : s.Timely (.signal c woken)) (h : s.step (.signal c woken) = some t) :
    t.PromptInvariant := by
  obtain ⟨⟨hcalled, -⟩, h⟩ := Option.ite_none_right_eq_some.mp h
  have hlt : c < s.begun := hs.lt_begun (by rw [hcalled]; nofun)
  split at h
  · rename_i hrunning
    obtain ⟨hwoken, h⟩ := Option.ite_none_right_eq_some.mp h
    cases h
    constructor
    · exact hs.consistent.wake hwoken
    · exact hs.fresh_update hlt
    · intro i v hi
      have hnone := hs.of_created (p := (· = none)) rfl (htimely hrunning) i
      rw [PollerRun.copied_of_wake hi] at hnone
      cases hnone
    · exact hs.waits
  · cases h
    constructor
    · exact hs.consistent
    · exact hs.fresh_update hlt
    · intro i v hi
      have hc := hs.threads i v hi
      refine ⟨hc.interval, hc.untriggered, ?_⟩
      exact answered_update hc.answered nofun
    · exact hs.waits

/-- A trigger returns 0: it has signalled, so no thread relies on what it has read. -/
theorem PromptInvariant.returns (hs : s.PromptInvariant) {c : Nat}
    (h : s.step (.returns c) = some t) : t.PromptInvariant := by
  obtain ⟨hsig, h⟩ := Option.ite_none_right_eq_some.mp h
  cases h
  constructor
  · exact hs.consistent
  · exact hs.fresh_update (hs.lt_begun (by rw [hsig]; nofun))
  · intro i v hi
    exact absurd hsig ((hs.threads i v hi).answered c)
  · exact hs.waits

/-- **Step lemma.** -/
theorem PromptInvariant.step (hs : s.PromptInvariant) (htimely : s.Timely a)
    (h : s.step a = some t) : t.PromptInvariant := by
  cases a with
  | poller b now =>
      cases b with
      | thread i =>
          obtain ⟨run, hrun, rfl⟩ := Option.map_eq_some_iff.mp h
          exact hs.thread htimely hrun
      | configure enabled v => cases h
      | _ => exact hs.poller h nofun nofun
  | setEnabled enabled => exact hs.setEnabled h
  | setInterval interval woken => exact hs.setInterval htimely h
  | trigger => exact hs.trigger h
  | signal c woken => exact hs.signal htimely h
  | returns c => exact hs.returns h

/-- **Run lemma.** -/
theorem PromptInvariant.exec {as : List TriggerAction} (hs : s.PromptInvariant)
    (has : Along TriggerRun.step Timely s as) (h : exec TriggerRun.step s as = some t) :
    t.PromptInvariant :=
  exec_invariant_along (fun _ _ _ hs htimely hstep => hs.step htimely hstep) hs has h

end Invariant

/-! ### What comes too late -/

/-- The next step of a thread. -/
theorem step_thread {s : TriggerRun} {i : Nat} (now : Int) {op : MutexOp} {poller : StatsPoller}
    {pc : ThreadPc} {owner : Option Agent}
    (hnext : threadNext s.run.poller (s.run.pc i) = some (op, poller, pc))
    (hop : PollerRun.lockOp (.thread i) s.run.owner op = some owner) :
    ∃ run, s.step (.poller (.thread i) now) = some (s.follow i now run) ∧
      run.pc i = pc ∧ run.poller = poller ∧ run.owner = owner := by
  have hrun : s.run.step (.thread i) = some { s.run.setPc i pc with poller, owner } :=
    Option.bind_eq_some_iff.mpr ⟨_, hnext, Option.bind_eq_some_iff.mpr ⟨_, hop, rfl⟩⟩
  exact ⟨_, Option.map_eq_some_iff.mpr ⟨_, hrun, rfl⟩, PollerRun.setPc_pc_self .., rfl, rfl⟩

/-- The run can go on to a wait of the thread `i` for `v` seconds, with nothing else happening
before. -/
def WaitsNext (s : TriggerRun) (i : Nat) (v : UInt32) : Prop :=
  ∃ as t, exec TriggerRun.step s as = some t ∧
    ⟨0, v.toNat, s.run.poller.intervalSeconds, s.triggered i⟩ ∈ t.waits

/-! ### From where a thread waits next -/

theorem waitsNext_of_timedwait {s : TriggerRun} {i : Nat} {v : UInt32}
    (hpc : s.run.pc i = .timedwait v) : s.WaitsNext i v := by
  have hnext : threadNext s.run.poller (s.run.pc i) = some (.unlock, s.run.poller, .waiting) := by
    rw [hpc]
    rfl
  obtain ⟨run, hstep, -⟩ := step_thread 0 hnext rfl
  refine ⟨[.poller (.thread i) 0], _, exec_cons_eq_some.mpr ⟨_, hstep, rfl⟩, ?_⟩
  simp [follow, hpc]

theorem waitsNext_of_relock {s : TriggerRun} {i : Nat} {v : UInt32} (howner : s.run.owner = none)
    (hpc : s.run.pc i = .relock v) : s.WaitsNext i v := by
  have hnext :
      threadNext s.run.poller (s.run.pc i) = some (.lock, s.run.poller, .timedwait v) := by
    rw [hpc]
    rfl
  obtain ⟨run, hstep, hafter, hpoller, -⟩ := step_thread 0 hnext (if_pos howner)
  rw [follow, hpc] at hstep
  obtain ⟨as, t, hexec, hwait⟩ := waitsNext_of_timedwait (s := { s with run }) hafter
  refine ⟨_ :: as, t, exec_cons_eq_some.mpr ⟨_, hstep, hexec⟩, ?_⟩
  rw [← hpoller]
  exact hwait

/-- A thread that has read an interval goes on to wait for it, if nobody else takes the mutex. -/
theorem waitsNext_of_copied {s : TriggerRun} {i : Nat} {v : UInt32} (howner : s.run.owner = none)
    (hi : (s.run.pc i).copied = some v) : s.WaitsNext i v := by
  cases hpc : s.run.pc i with
  | collect enabled interval =>
      rw [hpc] at hi
      cases hi
      have hnext :
          threadNext s.run.poller (s.run.pc i) = some (.stay, s.run.poller, .relock v) := by
        rw [hpc]
        rfl
      obtain ⟨run, hstep, hafter, hpoller, howner'⟩ := step_thread 0 hnext rfl
      rw [follow, hpc] at hstep
      obtain ⟨as, t, hexec, hwait⟩ :=
        waitsNext_of_relock (s := { s with run }) (howner'.trans howner) hafter
      refine ⟨_ :: as, t, exec_cons_eq_some.mpr ⟨_, hstep, hexec⟩, ?_⟩
      rw [← hpoller]
      exact hwait
  | relock interval =>
      rw [hpc] at hi
      cases hi
      exact waitsNext_of_relock howner hpc
  | timedwait interval =>
      rw [hpc] at hi
      cases hi
      exact waitsNext_of_timedwait hpc
  | _ =>
      rw [hpc] at hi
      cases hi

/-! ### The three steps that come too late -/

/-- A trigger that has signalled returns while a thread is past its read: the thread waits. -/
theorem late_of_signalled {s : TriggerRun} {c i : Nat} {v : UInt32} (hc : s.triggers c = .signalled)
    (howner : s.run.owner = none) (hi : (s.run.pc i).copied = some v) :
    ∃ as t, exec TriggerRun.step s as = some t ∧ ∃ x ∈ t.waits, ¬ x.Prompt := by
  let returned : TriggerRun := { s with
    triggers := Function.update s.triggers c (.returned 0)
    triggered := fun _ => true }
  have hstep : s.step (.returns c) = some returned := if_pos hc
  obtain ⟨as, t, hexec, hwait⟩ := waitsNext_of_copied (s := returned) howner hi
  refine ⟨.returns c :: as, t, exec_cons_eq_some.mpr ⟨returned, hstep, hexec⟩, _, hwait, ?_⟩
  rintro ⟨-, hno⟩
  cases hno

/-- A thread that has read an interval is not woken. -/
theorem copied_wake {s : PollerRun} {woken : Option Nat} {i : Nat} {v : UInt32}
    (hwoken : s.wakes woken = true) (hi : (s.pc i).copied = some v) :
    ((s.wake woken).pc i).copied = some v := by
  cases woken with
  | none => exact hi
  | some j =>
      have hj : s.pc j = .waiting := of_decide_eq_true hwoken
      have hij : i ≠ j := by
        rintro rfl
        rw [hj] at hi
        cases hi
      rw [PollerRun.wake, PollerRun.setPc_pc_of_ne s _ hij]
      exact hi

/-- Another interval is set after the thread has read one. -/
theorem late_of_setInterval {s t : TriggerRun} {interval : UInt32} {woken : Option Nat} {i : Nat}
    {v : UInt32} (hv : (s.run.pc i).copied = some v) (hne : v ≠ interval)
    (h : s.step (.setInterval interval woken) = some t) :
    ∃ as u, exec TriggerRun.step t as = some u ∧ ∃ x ∈ u.waits, ¬ x.Prompt := by
  obtain ⟨⟨-, hwoken⟩, h⟩ := Option.ite_none_right_eq_some.mp h
  obtain ⟨run, hrun, rfl⟩ := Option.map_eq_some_iff.mp h
  obtain ⟨hpc, hinterval, howner, hwakes⟩ := PollerRun.configure_frame hrun
  have hcopied : ((run.wake woken).pc i).copied = some v :=
    copied_wake ((hwakes woken).trans hwoken) (hpc ▸ hv)
  have hpoller : (run.wake woken).poller.intervalSeconds = interval := by
    cases woken <;> exact hinterval
  have howner' : (run.wake woken).owner = none := by
    cases woken <;> exact howner
  obtain ⟨as, u, hexec, hwait⟩ :=
    waitsNext_of_copied (s := { s with run := run.wake woken }) howner' hcopied
  refine ⟨as, u, hexec, _, hwait, ?_⟩
  -- it waits for the interval that it read before
  rintro ⟨hdeadline, -⟩
  apply hne
  apply UInt32.toNat_inj.mp
  simp only [hpoller] at hdeadline
  omega

/-- A trigger signals after the thread has read. -/
theorem late_of_signal {s t : TriggerRun} {c : Nat} {woken : Option Nat} {i : Nat} {v : UInt32}
    (hv : (s.run.pc i).copied = some v) (hrunning : s.run.poller.running = true)
    (h : s.step (.signal c woken) = some t) :
    ∃ as u, exec TriggerRun.step t as = some u ∧ ∃ x ∈ u.waits, ¬ x.Prompt := by
  obtain ⟨⟨-, howner⟩, h⟩ := Option.ite_none_right_eq_some.mp h
  rw [if_pos hrunning] at h
  obtain ⟨hwoken, h⟩ := Option.ite_none_right_eq_some.mp h
  cases h
  refine late_of_signalled (c := c) (Function.update_self ..) ?_ (copied_wake hwoken hv)
  cases woken <;> exact howner

/-- The thread reads while a trigger that has signalled has yet to return. -/
theorem late_of_read {s t : TriggerRun} {c i : Nat} {now : Int} (htest : s.run.pc i = .test)
    (hflag : s.run.poller.shutdownRequested = false) (hc : s.triggers c = .signalled)
    (h : s.step (.poller (.thread i) now) = some t) :
    ∃ as u, exec TriggerRun.step t as = some u ∧ ∃ x ∈ u.waits, ¬ x.Prompt := by
  have hnext : threadNext s.run.poller (s.run.pc i) = some (.unlock, s.run.poller,
      .collect s.run.poller.enabled s.run.poller.intervalSeconds) := by
    rw [htest, threadNext, hflag]
    rfl
  obtain ⟨run, hstep, hafter, hpoller, howner⟩ := step_thread now hnext rfl
  cases h.symm.trans hstep
  obtain ⟨hrun, htriggers, -⟩ := follow_frame s i now run
  apply late_of_signalled (c := c) (i := i) (v := s.run.poller.intervalSeconds)
  · rw [htriggers]
    exact hc
  · rw [hrun]
    exact howner
  · rw [hrun, hafter]
    rfl

/-- **A step that is not timely can be followed by a wait that is not prompt.** -/
theorem late_of_not_timely {s t : TriggerRun} {a : TriggerAction} (ha : ¬ s.Timely a)
    (h : s.step a = some t) :
    ∃ as u, exec TriggerRun.step t as = some u ∧ ∃ x ∈ u.waits, ¬ x.Prompt := by
  -- only three kinds of steps can come too late
  cases a with
  | setInterval interval woken =>
      obtain ⟨i, -, hlate⟩ : ∃ i, i < s.run.created ∧
          ¬ ((s.run.pc i).copied = none ∨ (s.run.pc i).copied = some interval) := by
        simpa only [Timely, not_forall, exists_prop] using ha
      obtain ⟨hnone, hother⟩ := not_or.mp hlate
      obtain ⟨v, hv⟩ := Option.ne_none_iff_exists'.mp hnone
      have hne : v ≠ interval := by
        rintro rfl
        exact hother hv
      exact late_of_setInterval hv hne h
  | signal c woken =>
      obtain ⟨hrunning, i, -, hlate⟩ : s.run.poller.running = true ∧
          ∃ i, i < s.run.created ∧ ¬ (s.run.pc i).copied = none := by
        simpa only [Timely, Classical.not_imp, not_forall, exists_prop] using ha
      obtain ⟨v, hv⟩ := Option.ne_none_iff_exists'.mp hlate
      exact late_of_signal hv hrunning h
  | poller b now =>
      cases b with
      | thread i =>
          obtain ⟨htest, hflag, c, -, hc⟩ : s.run.pc i = .test ∧
              s.run.poller.shutdownRequested = false ∧
              ∃ c, c < s.begun ∧ s.triggers c = .signalled := by
            simpa only [Timely, Classical.not_imp, not_forall, exists_prop, not_not] using ha
          exact late_of_read htest hflag hc h
      | _ => exact absurd trivial ha
  | _ => exact absurd trivial ha

/-! ### The result -/

/-- **When every wait is prompt.** In a run whose steps are all timely, each wait that begins is for
the interval of that moment, and no trigger has returned 0 since the thread read `enabled`. A step
that is not timely can be continued to a wait of which this is false. -/
theorem waits_prompt_when_timely (enabled : Bool) (interval : UInt32) {as : List TriggerAction}
    {s : TriggerRun} (has : Along TriggerRun.step Timely (init enabled interval) as)
    (hrun : exec TriggerRun.step (init enabled interval) as = some s) :
    (∀ x ∈ s.waits, x.Prompt) ∧ ∀ a t, ¬ s.Timely a → s.step a = some t →
      ∃ bs u, exec TriggerRun.step t bs = some u ∧ ∃ x ∈ u.waits, ¬ x.Prompt :=
  ⟨((init_prompt enabled interval).exec has hrun).waits, fun _ _ => late_of_not_timely⟩

/-- A thread waits, is triggered, and waits again for a new interval. -/
def triggerWhileWaiting : List TriggerAction :=
  [.poller (.begin .start) 0, .poller (.call 0) 0, .poller (.call 0) 0, .poller (.create 0 true) 0,
    .poller (.thread 0) 0, .poller (.thread 0) 0, .poller (.thread 0) 0, .poller (.thread 0) 0,
    .poller (.thread 0) 0, .poller (.thread 0) 0, .poller (.thread 0) 100, .trigger,
    .signal 0 (some 0), .returns 0, .setInterval 60 none, .poller (.thread 0) 110,
    .poller (.thread 0) 110, .poller (.thread 0) 110, .poller (.thread 0) 110,
    .poller (.thread 0) 115, .poller (.thread 0) 115, .poller (.thread 0) 120]

/-- A trigger that comes while the thread waits. -/
theorem waits_prompt_while_waiting :
    ∃ s, exec TriggerRun.step (init true 900) triggerWhileWaiting = some s ∧
      (⟨120, 180, 60, false⟩ ∈ s.waits) ∧ ∀ x ∈ s.waits, x.Prompt := by
  have hmap : (exec TriggerRun.step (init true 900) triggerWhileWaiting).map TriggerRun.waits =
      some [⟨100, 1000, 900, false⟩, ⟨120, 180, 60, false⟩] := by
    decide +kernel
  obtain ⟨s, hs, hwaits⟩ := Option.map_eq_some_iff.mp hmap
  have hchecked : checked TriggerRun.step (fun s a => decide (s.Timely a)) (init true 900)
      triggerWhileWaiting = true := by
    decide +kernel
  have has : Along TriggerRun.step Timely (init true 900) triggerWhileWaiting :=
    along_of_checked (P := fun _ => True) (fun _ _ _ _ _ => trivial)
      (fun _ _ _ h => of_decide_eq_true h) trivial hchecked
  exact ⟨s, hs, by rw [hwaits]; decide, (waits_prompt_when_timely true 900 has hs).1⟩

/-- While the thread collects, the interval is set to a minute and a trigger returns 0. The thread
waits for the quarter of an hour that it read before. -/
def lateWhileCollecting : List TriggerAction :=
  [.poller (.begin .start) 0, .poller (.call 0) 0, .poller (.call 0) 0, .poller (.create 0 true) 0,
    .poller (.thread 0) 0, .poller (.thread 0) 0, .poller (.thread 0) 0, .poller (.thread 0) 0,
    .setInterval 60 none, .trigger, .signal 0 none, .returns 0, .poller (.thread 0) 10,
    .poller (.thread 0) 10, .poller (.thread 0) 10]

/-- An interval that is set while the thread collects: the next wait is still the long one. -/
theorem waits_late :
    ∃ s, exec TriggerRun.step (init true 900) lateWhileCollecting = some s ∧
      s.waits = [⟨10, 910, 60, true⟩] ∧ ¬ ∀ x ∈ s.waits, x.Prompt := by
  have hmap : (exec TriggerRun.step (init true 900) lateWhileCollecting).map TriggerRun.waits =
      some [⟨10, 910, 60, true⟩] := by
    decide +kernel
  obtain ⟨s, hs, hwaits⟩ := Option.map_eq_some_iff.mp hmap
  exact ⟨s, hs, hwaits, by rw [hwaits]; decide⟩

end TriggerRun

end EponManager
