import EponManager.StatsPoller.Thread

/-!
# What a step does to one call and to one thread

Every invariant of the poller is about single calls and threads. Each lemma here is the case
analysis over the kinds of steps for one of them, done once.

* `CallNext`, `CallMove` and `ThreadMove` list what one step can do to one call and to one thread.
* The `_of_step` lemmas say where a call or a thread that is at a place after a step was before it.
-/

namespace EponManager

open Lib

/-- The thread has been created and has not exited. -/
def ThreadPc.alive : ThreadPc → Bool
  | .notCreated | .exited => false
  | _ => true

/-- The thread has set `running` and has not cleared it. -/
def ThreadPc.announced : ThreadPc → Bool
  | .notCreated | .created | .entering | .returning | .exited => false
  | _ => true

theorem ThreadPc.alive_of_announced {pc : ThreadPc} (h : pc.announced = true) :
    pc.alive = true := by
  cases pc <;> first | rfl | cases h

namespace PollerRun

/-! ### What a step does to one call and to one thread -/

/-- What a critical section, or the end of a destroy, does. -/
inductive CallNext (kind : CallKind) (p : StatsPoller) (pc : CallPc) (p' : StatsPoller)
    (pc' : CallPc) : Prop where
  | lock (hbefore : pc = .lock) (hp : p' = p) (hafter : pc' = .test)
  | running (hbefore : pc = .test) (hkind : kind = .start) (hrun : p.running = true) (hp : p' = p)
      (hafter : pc' = .returned)
  | creates (hbefore : pc = .test) (hkind : kind = .start) (hrun : p.running = false)
      (hp : p' = { p with shutdownRequested := false }) (hafter : pc' = .create)
  | requests (hbefore : pc = .test) (hkind : kind ≠ .start) (hrun : p.running = true)
      (hp : p' = { p with shutdownRequested := true }) (hafter : pc' = .signal)
  | idle (hbefore : pc = .test) (hkind : kind ≠ .start) (hrun : p.running = false) (hp : p' = p)
      (hafter : pc' = kind.afterStop)
  | cleanup (hbefore : pc = .cleanup) (hp : p' = p) (hafter : pc' = .returned)

/-- The cases of a step of a call, without the mutex. -/
theorem callNext_inv {kind : CallKind} {p p' : StatsPoller} {pc pc' : CallPc} {op : MutexOp}
    (h : callNext kind p pc = some (op, p', pc')) (hpc : pc ≠ .signal) :
    CallNext kind p pc p' pc' := by
  cases pc with
  | lock =>
      cases h
      exact .lock rfl rfl rfl
  | test =>
      -- a stop and a destroy ask the same question here
      have hstop (hkind : kind ≠ .start)
          (h : (if p.running then some (.stay, { p with shutdownRequested := true }, .signal)
            else some (.unlock, p, kind.afterStop)) = some (op, p', pc')) :
          CallNext kind p .test p' pc' := by
        split at h
        · next hrun =>
          cases h
          exact .requests rfl hkind hrun rfl rfl
        · next hrun =>
          cases h
          exact .idle rfl hkind (Bool.not_eq_true _ ▸ hrun) rfl rfl
      cases kind with
      | start =>
          unfold callNext at h
          simp only at h
          split at h
          · next hrun =>
            cases h
            exact .running rfl rfl hrun rfl rfl
          · next hrun =>
            cases h
            exact .creates rfl rfl (Bool.not_eq_true _ ▸ hrun) rfl rfl
      | stop => exact hstop nofun h
      | destroy => exact hstop nofun h
  | signal => exact absurd rfl hpc
  | cleanup =>
      cases h
      exact .cleanup rfl rfl rfl
  | _ => cases h

/-- What a step does to the call `d`: where the call is before the step and where it is after it. -/
inductive CallMove (s t : PollerRun) (d : Nat) : PollerAction → CallPc → CallPc → Prop where
  | same {a : PollerAction} {pc : CallPc} (hcreate : ∀ ok, a ≠ .create d ok) (hjoin : a ≠ .join d) :
      CallMove s t d a pc pc
  | begins (kind : CallKind) {pc : CallPc} (hd : d = s.begun) :
      CallMove s t d (.begin kind) pc .lock
  | locks : CallMove s t d (.call d) .lock .test
  | running (hstart : (s.calls d).kind = .start) (hrun : s.poller.running = true) :
      CallMove s t d (.call d) .test .returned
  | creates (hstart : (s.calls d).kind = .start) (hrun : s.poller.running = false) :
      CallMove s t d (.call d) .test .create
  | requests (hstop : (s.calls d).kind ≠ .start) (hrun : s.poller.running = true)
      (hflag : t.poller.shutdownRequested = true) : CallMove s t d (.call d) .test .signal
  | idle {pc : CallPc} (hstop : (s.calls d).kind ≠ .start) (hrun : s.poller.running = false)
      (hend : pc = .cleanup ∨ pc = .returned) : CallMove s t d (.call d) .test pc
  | cleanup : CallMove s t d (.call d) .cleanup .returned
  | signals (woken : Option Nat) : CallMove s t d (.signal d woken) .signal .join
  | created (ok : Bool) : CallMove s t d (.create d ok) .create .returned
  | joins (i : Nat) (hthread : s.thread = some i) : CallMove s t d (.join d) .join (.joining i)
  | joined (i : Nat) {pc : CallPc} (hexited : s.pc i = .exited)
      (hend : pc = .cleanup ∨ pc = .returned) : CallMove s t d (.joined d) (.joining i) pc

/-- What follows a stop: a destroy cleans up, the others return. -/
theorem CallKind.afterStop_cases (kind : CallKind) :
    kind.afterStop = .cleanup ∨ kind.afterStop = .returned := by
  cases kind with
  | start => exact .inr rfl
  | stop => exact .inr rfl
  | destroy => exact .inl rfl

/-- A critical section as a move. -/
theorem CallNext.callMove {s t : PollerRun} {d : Nat} {pc pc' : CallPc}
    (h : CallNext (s.calls d).kind s.poller pc t.poller pc') : CallMove s t d (.call d) pc pc' := by
  cases h with
  | lock hbefore hp hafter =>
      subst hbefore hafter
      exact .locks
  | running hbefore hkind hrun hp hafter =>
      subst hbefore hafter
      exact .running hkind hrun
  | creates hbefore hkind hrun hp hafter =>
      subst hbefore hafter
      exact .creates hkind hrun
  | requests hbefore hkind hrun hp hafter =>
      subst hbefore hafter
      exact .requests hkind hrun (by rw [hp])
  | idle hbefore hkind hrun hp hafter =>
      subst hbefore hafter
      exact .idle hkind hrun (CallKind.afterStop_cases _)
  | cleanup hbefore hp hafter =>
      subst hbefore hafter
      exact .cleanup

/-! ### A thread -/

/-- What a step does to the thread `i`. -/
inductive ThreadMove (s t : PollerRun) (i : Nat) : PollerAction → Prop where
  | same {a : PollerAction} (hpc : t.pc i = s.pc i) : ThreadMove s t i a
  | created (c : Nat) (hi : i = s.created) (hcall : (s.calls c).pc = .create)
      (hpc : t.pc i = .created) : ThreadMove s t i (.create c true)
  | woken {a : PollerAction} (hbefore : s.pc i = .waiting) (hafter : t.pc i = .woken) :
      ThreadMove s t i a
  | next (op : MutexOp) (hnext : threadNext s.poller (s.pc i) = some (op, t.poller, t.pc i)) :
      ThreadMove s t i (.thread i)

theorem setCall_pc_of_ne (s : PollerRun) {c d : Nat} (pc : CallPc) (h : d ≠ c) :
    ((s.setCall c pc).calls d).pc = (s.calls d).pc := by
  rw [setCall_calls_of_ne s pc h]

/-- A step of another call. -/
theorem CallMove.other {s t : PollerRun} {a : PollerAction} {d : Nat} {pc pc' : CallPc}
    (hsame : (t.calls d).pc = (s.calls d).pc) (hbefore : (s.calls d).pc = pc)
    (hafter : (t.calls d).pc = pc') (hcreate : ∀ ok, a ≠ .create d ok) (hjoin : a ≠ .join d) :
    CallMove s t d a pc pc' := by
  obtain rfl : pc = pc' := hbefore.symm.trans (hsame.symm.trans hafter)
  exact .same hcreate hjoin

/-- **What a step does to a call.** -/
theorem callMove_of_step {s t : PollerRun} {a : PollerAction} (h : s.step a = some t) {d : Nat}
    {pc pc' : CallPc} (hbefore : (s.calls d).pc = pc) (hafter : (t.calls d).pc = pc') :
    CallMove s t d a pc pc' := by
  -- in each kind of step, `d` is the call that takes it or another one
  cases outcome_of_step h with
  | begin kind =>
      by_cases hd : d = s.begun
      · rw [hd, begin_calls_self] at hafter
        subst hafter
        exact .begins kind hd
      · exact .other (begin_calls_of_ne s kind hd).1 hbefore hafter nofun nofun
  | call c op poller next owner hpc hnext hop =>
      by_cases hd : d = c
      · subst hd
        have hself : next = pc' := by
          rw [← hafter]
          exact (congrArg Call.pc (setCall_calls_self s d next)).symm
        have hmove := callNext_inv hnext hpc
        rw [hbefore, hself] at hmove
        exact CallNext.callMove hmove
      · exact .other (setCall_pc_of_ne s next hd) hbefore hafter nofun nofun
  | signal c woken hpc hwoken =>
      have hcalls : (s.wake woken).calls = s.calls := by cases woken <;> rfl
      by_cases hd : d = c
      · subst hd
        have hself : (((s.wake woken).setCall d .join).calls d).pc = pc' := hafter
        rw [setCall_calls_self] at hself
        subst hself
        cases hbefore.symm.trans hpc
        exact .signals woken
      · have hsame := setCall_pc_of_ne (s.wake woken) .join hd
        rw [hcalls] at hsame
        exact .other hsame hbefore hafter nofun nofun
  | created c hpc =>
      by_cases hd : d = c
      · subst hd
        have hself : ((s.setCall d .returned).calls d).pc = pc' := hafter
        rw [setCall_calls_self] at hself
        subst hself
        cases hbefore.symm.trans hpc
        exact .created true
      · exact .other (setCall_pc_of_ne s .returned hd) hbefore hafter
          (fun ok heq => hd (by cases heq; rfl)) nofun
  | notCreated c hpc =>
      by_cases hd : d = c
      · subst hd
        rw [setCall_calls_self] at hafter
        subst hafter
        cases hbefore.symm.trans hpc
        exact .created false
      · exact .other (setCall_pc_of_ne s .returned hd) hbefore hafter
          (fun ok heq => hd (by cases heq; rfl)) nofun
  | join c i hpc hthread =>
      by_cases hd : d = c
      · subst hd
        have hself : ((s.setCall d (.joining i)).calls d).pc = pc' := hafter
        rw [setCall_calls_self] at hself
        subst hself
        cases hbefore.symm.trans hpc
        exact .joins i hthread
      · exact .other (setCall_pc_of_ne s (.joining i) hd) hbefore hafter nofun
          (fun heq => hd (by cases heq; rfl))
  | joined c i hpc hexited =>
      by_cases hd : d = c
      · subst hd
        rw [setCall_calls_self] at hafter
        subst hafter
        cases hbefore.symm.trans hpc
        exact .joined i hexited (CallKind.afterStop_cases _)
      · exact .other (setCall_pc_of_ne s _ hd) hbefore hafter nofun nofun
  | thread i op poller next owner hnext hop => exact .other rfl hbefore hafter nofun nofun
  | wake i hpc => exact .other rfl hbefore hafter nofun nofun
  | configure enabled interval howner => exact .other rfl hbefore hafter nofun nofun

theorem threadMove_of_step {s t : PollerRun} {a : PollerAction} (h : s.step a = some t) (i : Nat) :
    ThreadMove s t i a := by
  cases outcome_of_step h with
  | begin kind => exact .same rfl
  | call c op poller pc owner hpc hnext hop => exact .same rfl
  | signal c woken hpc hwoken =>
      cases woken with
      | none => exact .same rfl
      | some j =>
          by_cases hi : i = j
          · subst hi
            exact .woken (of_decide_eq_true hwoken) (setPc_pc_self ..)
          · exact .same (setPc_pc_of_ne s .woken hi)
  | created c hpc =>
      by_cases hi : i = s.created
      · subst hi
        exact .created c rfl hpc (setPc_pc_self ..)
      · exact .same (setPc_pc_of_ne s .created hi)
  | notCreated c hpc => exact .same rfl
  | join c j hpc hthread => exact .same rfl
  | joined c j hpc hexited => exact .same rfl
  | thread j op poller pc owner hnext hop =>
      by_cases hi : i = j
      · subst hi
        refine .next op ?_
        simpa using hnext
      · exact .same (setPc_pc_of_ne s pc hi)
  | wake j hpc =>
      by_cases hi : i = j
      · subst hi
        exact .woken hpc (setPc_pc_self ..)
      · exact .same (setPc_pc_of_ne s .woken hi)
  | configure enabled interval howner => exact .same rfl

/-- `poller->thread` changes only when a thread is created. -/
theorem thread_of_step {s t : PollerRun} {a : PollerAction} (h : s.step a = some t) :
    t.thread = s.thread ∨ ∃ c, a = .create c true ∧ (s.calls c).pc = .create ∧
      t.thread = some s.created := by
  cases outcome_of_step h with
  | signal c woken hpc hwoken =>
      left
      cases woken <;> rfl
  | created c hpc => exact .inr ⟨c, rfl, hpc, rfl⟩
  | _ => exact .inl rfl

/-- The count of joins of a thread changes only by a join of it. -/
theorem joins_of_step {s t : PollerRun} {a : PollerAction} (h : s.step a = some t) (i : Nat) :
    t.joins i = s.joins i ∨ ∃ c, a = .join c ∧ (s.calls c).pc = .join ∧ s.thread = some i ∧
      t.joins i = s.joins i + 1 := by
  cases outcome_of_step h with
  | signal c woken hpc hwoken =>
      left
      cases woken <;> rfl
  | join c j hpc hthread =>
      by_cases hi : i = j
      · subst hi
        exact .inr ⟨c, rfl, hpc, hthread, Function.update_self ..⟩
      · exact .inl (Function.update_of_ne hi ..)
  | _ => exact .inl rfl

/-! ### What the steps mean for the invariants -/

def Alive (s : PollerRun) (i : Nat) : Prop := (s.pc i).alive = true

/-- A stop that has set the flag and not yet read `poller->thread`. -/
def Pending (s : PollerRun) (c : Nat) : Prop :=
  (s.calls c).pc = .signal ∨ (s.calls c).pc = .join

/-- Only a create brings a thread to life. -/
theorem alive_of_step {s t : PollerRun} {a : PollerAction} (h : s.step a = some t) {i : Nat}
    (hi : t.Alive i) :
    s.Alive i ∨ ∃ c, a = .create c true ∧ (s.calls c).pc = .create ∧ i = s.created := by
  unfold Alive at hi ⊢
  cases threadMove_of_step h i with
  | same hpc => exact .inl (hpc ▸ hi)
  | created c hnew hcall hpc => exact .inr ⟨c, rfl, hcall, hnew⟩
  | woken hbefore hafter =>
      left
      rw [hbefore]
      rfl
  | next op hnext =>
      left
      cases hpc : s.pc i with
      | notCreated =>
          rw [hpc] at hnext
          cases hnext
      | exited =>
          rw [hpc] at hnext
          cases hnext
      | _ => rfl

/-- A thread that has ended has ended for good. -/
theorem exited_of_step {s t : PollerRun} {a : PollerAction} (hs : s.Consistent)
    (h : s.step a = some t) {i : Nat} (hi : s.pc i = .exited) : t.pc i = .exited := by
  cases threadMove_of_step h i with
  | same hpc => exact hpc.trans hi
  | created c hnew hcall hpc =>
      have hfresh := hs.fresh.threads i (Nat.le_of_eq hnew.symm)
      rw [hi] at hfresh
      cases hfresh
  | woken hbefore hafter =>
      rw [hi] at hbefore
      cases hbefore
  | next op hnext =>
      rw [hi] at hnext
      cases hnext

/-- The kind of a call does not change. -/
theorem kind_of_step {s t : PollerRun} {a : PollerAction} (h : s.step a = some t) {c : Nat}
    (hc : c < s.begun) : (t.calls c).kind = (s.calls c).kind := by
  have hset (u : PollerRun) (d : Nat) (pc : CallPc) :
      ((u.setCall d pc).calls c).kind = (u.calls c).kind := by
    by_cases hcd : c = d
    · rw [hcd, setCall_calls_self]
    · rw [setCall_calls_of_ne u pc hcd]
  cases outcome_of_step h with
  | begin kind => exact (begin_calls_of_ne s kind (Nat.ne_of_lt hc)).2
  | call d op poller pc owner hpc hnext hop => exact hset s d pc
  | signal d woken hpc hwoken =>
      have hcalls : (s.wake woken).calls = s.calls := by cases woken <;> rfl
      exact (hset (s.wake woken) d .join).trans (by rw [hcalls])
  | created d hpc => exact hset s d .returned
  | notCreated d hpc => exact hset s d .returned
  | join d i hpc hthread => exact hset s d (.joining i)
  | joined d i hpc hexited => exact hset s d _
  | thread i op poller pc owner hnext hop => rfl
  | wake i hpc => rfl
  | configure enabled interval howner => rfl

/-- A call comes to create a thread only by the test of a start that finds `running` clear. -/
theorem create_of_step {s t : PollerRun} {a : PollerAction} (h : s.step a = some t) {c : Nat}
    (hc : (t.calls c).pc = .create) :
    ((s.calls c).pc = .create ∧ ∀ ok, a ≠ .create c ok) ∨
      (a = .call c ∧ (s.calls c).pc = .test ∧ (s.calls c).kind = .start ∧
        s.poller.running = false) := by
  obtain ⟨pc, hpc⟩ : ∃ pc, (s.calls c).pc = pc := ⟨_, rfl⟩
  cases callMove_of_step h hpc hc with
  | same hcreate hjoin => exact .inl ⟨hpc, hcreate⟩
  | creates hstart hrun => exact .inr ⟨rfl, hpc, hstart, hrun⟩
  | idle hstop hrun hend => rcases hend with hend | hend <;> cases hend
  | joined i hexited hend => rcases hend with hend | hend <;> cases hend

/-- A stop comes to signal only by its test, which has set the flag. -/
theorem signal_of_step {s t : PollerRun} {a : PollerAction} (h : s.step a = some t) {c : Nat}
    (hc : (t.calls c).pc = .signal) :
    (s.calls c).pc = .signal ∨ t.poller.shutdownRequested = true := by
  obtain ⟨pc, hpc⟩ : ∃ pc, (s.calls c).pc = pc := ⟨_, rfl⟩
  cases callMove_of_step h hpc hc with
  | same hcreate hjoin => exact .inl hpc
  | requests hstop hrun hflag => exact .inr hflag
  | idle hstop hrun hend => rcases hend with hend | hend <;> cases hend
  | joined i hexited hend => rcases hend with hend | hend <;> cases hend

/-- A call comes to join only by the test of a stop that finds `running` set. -/
theorem pending_of_step {s t : PollerRun} {a : PollerAction} (h : s.step a = some t) {c : Nat}
    (hc : t.Pending c) :
    (s.Pending c ∧ a ≠ .join c) ∨
      (a = .call c ∧ (s.calls c).pc = .test ∧ (s.calls c).kind ≠ .start ∧
        s.poller.running = true) := by
  obtain ⟨pc, hpc⟩ : ∃ pc, (s.calls c).pc = pc := ⟨_, rfl⟩
  rcases hc with hc | hc
  · cases callMove_of_step h hpc hc with
    | same hcreate hjoin => exact .inl ⟨.inl hpc, hjoin⟩
    | requests hstop hrun hflag => exact .inr ⟨rfl, hpc, hstop, hrun⟩
    | idle hstop hrun hend => rcases hend with hend | hend <;> cases hend
    | joined i hexited hend => rcases hend with hend | hend <;> cases hend
  · cases callMove_of_step h hpc hc with
    | same hcreate hjoin => exact .inl ⟨.inr hpc, hjoin⟩
    | signals woken => exact .inl ⟨.inl hpc, nofun⟩
    | idle hstop hrun hend => rcases hend with hend | hend <;> cases hend
    | joined i hexited hend => rcases hend with hend | hend <;> cases hend

/-! ### The flag that says a thread is running -/

/-- Only the threads write `running`, and only on entering and on leaving. -/
inductive RunningMove (s t : PollerRun) : Prop where
  | same (hrun : t.poller.running = s.poller.running)
      (hann : ∀ i, (t.pc i).announced = (s.pc i).announced)
  | sets (i : Nat) (hrun : t.poller.running = true) (hi : (t.pc i).announced = true)
  | clears (i : Nat) (hi : (s.pc i).announced = true) (hrun : t.poller.running = false)
      (hother : ∀ j, (t.pc j).announced = true → j ≠ i ∧ (s.pc j).announced = true)

/-- A call does not write the flag that says a thread is running. -/
theorem callNext_running {kind : CallKind} {p p' : StatsPoller} {pc pc' : CallPc}
    (h : CallNext kind p pc p' pc') : p'.running = p.running := by
  cases h with
  | lock hbefore hp hafter => rw [hp]
  | running hbefore hkind hrun hp hafter => rw [hp]
  | creates hbefore hkind hrun hp hafter => rw [hp]
  | requests hbefore hkind hrun hp hafter => rw [hp]
  | idle hbefore hkind hrun hp hafter => rw [hp]
  | cleanup hbefore hp hafter => rw [hp]

/-- A step that neither announces nor withdraws. -/
theorem announced_setPc (s : PollerRun) {i : Nat} {pc : ThreadPc}
    (h : pc.announced = (s.pc i).announced) (j : Nat) :
    ((s.setPc i pc).pc j).announced = (s.pc j).announced := by
  by_cases hji : j = i
  · rw [hji, setPc_pc_self, h]
  · rw [setPc_pc_of_ne s pc hji]

/-- A step of a thread that neither enters nor leaves. -/
theorem threadNext_running {p p' : StatsPoller} {pc pc' : ThreadPc} {op : MutexOp}
    (h : threadNext p pc = some (op, p', pc')) :
    (pc = .entering ∧ p'.running = true ∧ pc' = .top) ∨
      (pc = .clearing ∧ p'.running = false ∧ pc' = .returning) ∨
      (p'.running = p.running ∧ pc'.announced = pc.announced) := by
  cases pc with
  | entering =>
      cases h
      exact .inl ⟨rfl, rfl, rfl⟩
  | clearing =>
      cases h
      exact .inr (.inl ⟨rfl, rfl, rfl⟩)
  | test =>
      right; right
      simp only [threadNext, Option.some.injEq, Prod.mk.injEq] at h
      obtain ⟨-, rfl, rfl⟩ := h
      cases p.shutdownRequested <;> exact ⟨rfl, rfl⟩
  | retest =>
      right; right
      simp only [threadNext, Option.some.injEq, Prod.mk.injEq] at h
      obtain ⟨-, rfl, rfl⟩ := h
      cases p.shutdownRequested <;> exact ⟨rfl, rfl⟩
  | notCreated => cases h
  | waiting => cases h
  | exited => cases h
  | _ =>
      cases h
      exact .inr (.inr ⟨rfl, rfl⟩)

theorem running_of_step {s t : PollerRun} {a : PollerAction} (hs : s.Consistent)
    (h : s.step a = some t) : RunningMove s t := by
  cases outcome_of_step h with
  | begin kind => exact .same rfl fun _ => rfl
  | call c op poller pc owner hpc hnext hop =>
      exact .same (callNext_running (callNext_inv hnext hpc)) fun _ => rfl
  | signal c woken hpc hwoken =>
      cases woken with
      | none => exact .same rfl fun _ => rfl
      | some i =>
          have hwaiting : s.pc i = .waiting := of_decide_eq_true hwoken
          exact .same rfl (announced_setPc s (by rw [hwaiting]; rfl))
  | created c hpc =>
      have hnew := hs.fresh.threads s.created (Nat.le_refl _)
      exact .same rfl (announced_setPc s (by rw [hnew]; rfl))
  | notCreated c hpc => exact .same rfl fun _ => rfl
  | join c i hpc hthread => exact .same rfl fun _ => rfl
  | joined c i hpc hexited => exact .same rfl fun _ => rfl
  | thread i op poller pc owner hnext hop =>
      -- the thread announces itself, withdraws, or does neither
      rcases threadNext_running hnext with ⟨-, hrun, rfl⟩ | ⟨hpc, hrun, rfl⟩ | ⟨hrun, hann⟩
      · refine .sets i hrun ?_
        show ((s.setPc i .top).pc i).announced = true
        rw [setPc_pc_self]
        rfl
      · refine .clears i (by rw [hpc]; rfl) hrun fun j hj => ?_
        have hj' : ((s.setPc i .returning).pc j).announced = true := hj
        by_cases hji : j = i
        · rw [hji, setPc_pc_self] at hj'
          cases hj'
        · rw [setPc_pc_of_ne s _ hji] at hj'
          exact ⟨hji, hj'⟩
      · exact .same hrun (announced_setPc s hann)
  | wake i hpc => exact .same rfl (announced_setPc s (by rw [hpc]; rfl))
  | configure enabled interval howner => exact .same rfl fun _ => rfl

/-- Whether a start was seen only changes when a call begins. -/
theorem startSeen_of_step {s t : PollerRun} {a : PollerAction} (h : s.step a = some t) {c : Nat}
    (hc : (t.calls c).startSeen = false) :
    (∃ kind, a = .begin kind ∧ c = s.begun ∧ s.startInProgress = false) ∨
      ((s.calls c).startSeen = false ∧ a ≠ .begin .start) := by
  -- a step of a call does not change what it saw when it began
  have hset (u : PollerRun) (d : Nat) (pc : CallPc) :
      ((u.setCall d pc).calls c).startSeen = (u.calls c).startSeen := by
    by_cases hcd : c = d
    · rw [hcd, setCall_calls_self]
    · rw [setCall_calls_of_ne u pc hcd]
  cases outcome_of_step h with
  | begin kind =>
      by_cases hnew : c = s.begun
      · rw [hnew, begin_calls_self] at hc
        exact .inl ⟨kind, rfl, hnew, hc⟩
      · right
        unfold begin at hc
        simp only at hc
        rw [Function.update_of_ne hnew] at hc
        by_cases hk : kind = .start
        · rw [if_pos hk] at hc
          cases hc
        · rw [if_neg hk] at hc
          exact ⟨hc, fun heq => hk (by cases heq; rfl)⟩
  | call d op poller pc owner hpc hnext hop => exact .inr ⟨(hset s d pc) ▸ hc, nofun⟩
  | signal d woken hpc hwoken =>
      have hcalls : (s.wake woken).calls = s.calls := by cases woken <;> rfl
      refine .inr ⟨?_, nofun⟩
      rw [← hcalls, ← hset (s.wake woken) d .join]
      exact hc
  | created d hpc =>
      refine .inr ⟨?_, nofun⟩
      rw [← hset s d .returned]
      exact hc
  | notCreated d hpc => exact .inr ⟨(hset s d .returned) ▸ hc, nofun⟩
  | join d i hpc hthread =>
      refine .inr ⟨?_, nofun⟩
      rw [← hset s d (.joining i)]
      exact hc
  | joined d i hpc hexited => exact .inr ⟨(hset s d _) ▸ hc, nofun⟩
  | thread i op poller pc owner hnext hop => exact .inr ⟨hc, nofun⟩
  | wake i hpc => exact .inr ⟨hc, nofun⟩
  | configure enabled interval howner => exact .inr ⟨hc, nofun⟩

/-! ### Creating, joining, returning -/

/-- Threads are created, never taken back. -/
theorem created_of_step {s t : PollerRun} {a : PollerAction} (h : s.step a = some t) :
    s.created ≤ t.created := by
  cases outcome_of_step h with
  | signal c woken hpc hwoken => cases woken <;> exact Nat.le_refl _
  | created c hpc => exact Nat.le_succ _
  | _ => exact Nat.le_refl _

/-- A call joins a thread from its join step until the thread has exited. -/
theorem joining_of_step {s t : PollerRun} {a : PollerAction} (h : s.step a = some t) {c i : Nat}
    (hc : (t.calls c).pc = .joining i) :
    (s.calls c).pc = .joining i ∨ (a = .join c ∧ s.thread = some i ∧ (s.calls c).pc = .join) := by
  obtain ⟨pc, hpc⟩ : ∃ pc, (s.calls c).pc = pc := ⟨_, rfl⟩
  cases callMove_of_step h hpc hc with
  | same hcreate hjoin => exact .inl hpc
  | joins _ hthread => exact .inr ⟨rfl, hthread, hpc⟩
  | idle hstop hrun hend => rcases hend with hend | hend <;> cases hend
  | joined i hexited hend => rcases hend with hend | hend <;> cases hend

/-- A join waits until the thread has ended. -/
theorem joining_stays {s t : PollerRun} {a : PollerAction} (hs : s.Consistent)
    (h : s.step a = some t) {c i : Nat} (hc : (s.calls c).pc = .joining i)
    (hi : s.pc i ≠ .exited) : (t.calls c).pc = .joining i := by
  obtain ⟨pc, hpc⟩ : ∃ pc, (t.calls c).pc = pc := ⟨_, rfl⟩
  cases callMove_of_step h hc hpc with
  | same hcreate hjoin => exact hpc
  | begins kind hd => cases (hs.fresh.calls c (Nat.le_of_eq hd.symm)).symm.trans hc
  | joined _ hexited hend => exact absurd hexited hi

/-- Calls are numbered in the order in which they begin. -/
theorem begun_of_step {s t : PollerRun} {a : PollerAction} (h : s.step a = some t) :
    t.begun = s.begun ∨ ∃ kind, a = .begin kind ∧ t.begun = s.begun + 1 := by
  cases outcome_of_step h with
  | begin kind => exact .inr ⟨kind, rfl, rfl⟩
  | signal c woken hpc hwoken =>
      left
      cases woken <;> rfl
  | _ => exact .inl rfl

/-- A call returns once. -/
theorem returned_stays {s t : PollerRun} {a : PollerAction} (hs : s.Consistent)
    (h : s.step a = some t) {c : Nat} (hc : (s.calls c).pc = .returned) :
    (t.calls c).pc = .returned := by
  obtain ⟨pc, hpc⟩ : ∃ pc, (t.calls c).pc = pc := ⟨_, rfl⟩
  cases callMove_of_step h hc hpc with
  | same hcreate hjoin => exact hpc
  | begins kind hd => cases (hs.fresh.calls c (Nat.le_of_eq hd.symm)).symm.trans hc

/-- A stop or destroy ends after its test found `running` clear, or after its join. -/
theorem ended_of_step {s t : PollerRun} {a : PollerAction} (h : s.step a = some t) {c : Nat}
    (hstop : (s.calls c).kind ≠ .start)
    (hc : (t.calls c).pc = .cleanup ∨ (t.calls c).pc = .returned) :
    ((s.calls c).pc = .cleanup ∨ (s.calls c).pc = .returned) ∨
      (a = .call c ∧ (s.calls c).pc = .test ∧ s.poller.running = false) ∨
      (∃ ok, a = .create c ok ∧ (s.calls c).pc = .create) ∨
      ∃ i, a = .joined c ∧ (s.calls c).pc = .joining i ∧ s.pc i = .exited := by
  obtain ⟨pc, hpc⟩ : ∃ pc, (s.calls c).pc = pc := ⟨_, rfl⟩
  rcases hc with hc | hc
  · cases callMove_of_step h hpc hc with
    | same hcreate hjoin => exact .inl (.inl hpc)
    | idle hstop hrun hend => exact .inr (.inl ⟨rfl, hpc, hrun⟩)
    | joined i hexited hend => exact .inr (.inr (.inr ⟨i, rfl, hpc, hexited⟩))
  · cases callMove_of_step h hpc hc with
    | same hcreate hjoin => exact .inl (.inr hpc)
    -- a start that finds a thread running returns too
    | running hstart hrun => exact absurd hstart hstop
    | idle hstop hrun hend => exact .inr (.inl ⟨rfl, hpc, hrun⟩)
    | cleanup => exact .inl (.inl hpc)
    | created ok => exact .inr (.inr (.inl ⟨ok, rfl, hpc⟩))
    | joined i hexited hend => exact .inr (.inr (.inr ⟨i, rfl, hpc, hexited⟩))

end PollerRun

end EponManager
