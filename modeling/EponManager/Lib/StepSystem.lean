/-!
# Partial step systems

A program under interleaving is a function `step : σ → α → Option σ`: from a state `s`, the
action `a` either is not enabled (`none`) or leads to exactly one next state. Whatever is
nondeterministic (the scheduler, the environment's answers) is part of the action, so a *run* is
a list of actions and a state is reachable exactly when some list of actions leads to it.

* `exec` runs a list of actions.
* `exec_invariant` is the induction behind every safety statement: what holds at the start and is
  kept by one step holds at the end of every run.
* `Along G` says that every step of a run is taken in a state that meets the condition `G`.
  `exec_invariant_along` is the same induction for the runs all of whose steps meet `G`.
* `along_iff` exchanges one condition on the steps for another; `forall_reached_iff` says along a
  run what holds of every state it gets to.
* `checked` runs a decidable test along a run; `along_of_checked` reads `Along G` off its answer.
-/

namespace EponManager.Lib

variable {σ α : Type}

/-- Run the actions `as` from `s`; `none` as soon as one of them is not enabled. -/
def exec (step : σ → α → Option σ) : σ → List α → Option σ
  | s, []      => some s
  | s, a :: as => (step s a).bind (fun t => exec step t as)

/-- Every step of the run `as` from `s` is taken in a state and with an action that meet `G`. -/
def Along (step : σ → α → Option σ) (G : σ → α → Prop) : σ → List α → Prop
  | _, []      => True
  | s, a :: as => G s a ∧ ∀ t, step s a = some t → Along step G t as

/-- The test `check` succeeds at every step of the run `as` from `s`. -/
def checked (step : σ → α → Option σ) (check : σ → α → Bool) : σ → List α → Bool
  | _, []      => true
  | s, a :: as => check s a && (step s a).all fun t => checked step check t as

variable {step : σ → α → Option σ} {G : σ → α → Prop}

/-! ### Runs -/

@[simp] theorem exec_nil (s : σ) : exec step s [] = some s := rfl

theorem exec_cons_eq_some {s t : σ} {a : α} {as : List α} :
    exec step s (a :: as) = some t ↔ ∃ u, step s a = some u ∧ exec step u as = some t := by
  simp only [exec, Option.bind_eq_some_iff]

/-- **A run splits anywhere**: first the prefix, then the rest from where the prefix ended. -/
theorem exec_append (s : σ) (as bs : List α) :
    exec step s (as ++ bs) = (exec step s as).bind (fun t => exec step t bs) := by
  induction as generalizing s with
  | nil => rfl
  | cons a as ih =>
      simp only [List.cons_append, exec, Option.bind_assoc]
      congr 1
      funext t
      exact ih t

theorem exec_append_of_eq_some {s t : σ} {as bs : List α} (h : exec step s as = some t) :
    exec step s (as ++ bs) = exec step t bs := by
  rw [exec_append, h]
  rfl

/-! ### Invariants -/

/-- **Invariant induction**: what one step keeps, every run keeps. -/
theorem exec_invariant {P : σ → Prop}
    (hstep : ∀ s a t, P s → step s a = some t → P t)
    {s t : σ} {as : List α} (hs : P s) (h : exec step s as = some t) : P t := by
  induction as generalizing s with
  | nil =>
      cases h
      exact hs
  | cons a as ih =>
      obtain ⟨u, hu, hrest⟩ := exec_cons_eq_some.mp h
      exact ih (hstep s a u hs hu) hrest

/-- **Invariant induction under a step condition**: only the steps that meet `G` have to keep
`P`, and the run only takes such steps. -/
theorem exec_invariant_along {P : σ → Prop}
    (hstep : ∀ s a t, P s → G s a → step s a = some t → P t)
    {s t : σ} {as : List α} (hs : P s) (hG : Along step G s as)
    (h : exec step s as = some t) : P t := by
  induction as generalizing s with
  | nil =>
      cases h
      exact hs
  | cons a as ih =>
      obtain ⟨u, hu, hrest⟩ := exec_cons_eq_some.mp h
      exact ih (hstep s a u hs hG.1 hu) (hG.2 u hu) hrest

/-! ### Conditions on the steps of a run -/

/-- A condition on the actions alone can be checked on the list. -/
theorem along_of_forall {p : α → Prop} {s : σ} {as : List α} (h : ∀ a ∈ as, p a) :
    Along step (fun _ a => p a) s as := by
  induction as generalizing s with
  | nil => trivial
  | cons a as ih =>
      exact ⟨h a List.mem_cons_self, fun t _ => ih fun b hb => h b (List.mem_cons_of_mem _ hb)⟩

/-- **Two conditions that agree wherever the run gets.** `P` only has to be kept by the steps that
meet the first of them. -/
theorem along_iff {P : σ → Prop} {D G' : σ → α → Prop}
    (hstep : ∀ s a t, P s → D s a → G s a → step s a = some t → P t)
    (hiff : ∀ s a, P s → D s a → (G s a ↔ G' s a)) {s : σ} {as : List α} (hs : P s)
    (hD : Along step D s as) : Along step G s as ↔ Along step G' s as := by
  induction as generalizing s with
  | nil => exact Iff.rfl
  | cons a as ih =>
      constructor
      · rintro ⟨hhead, htail⟩
        exact ⟨(hiff s a hs hD.1).mp hhead, fun t ht =>
          (ih (hstep s a t hs hD.1 hhead ht) (hD.2 t ht)).mp (htail t ht)⟩
      · rintro ⟨hhead, htail⟩
        have hG := (hiff s a hs hD.1).mpr hhead
        exact ⟨hG, fun t ht => (ih (hstep s a t hs hD.1 hG ht) (hD.2 t ht)).mpr (htail t ht)⟩

/-- **What holds of every state a run gets to** holds at the start and after each step. -/
theorem forall_reached_iff {Q : σ → Prop} {s : σ} {as : List α} :
    (∀ done t, done <+: as → exec step s done = some t → Q t) ↔
      Q s ∧ Along step (fun s a => ∀ t, step s a = some t → Q t) s as := by
  -- the state after the first action is where the rest of the run begins
  induction as generalizing s with
  | nil =>
      constructor
      · intro h
        exact ⟨h [] s List.nil_prefix rfl, trivial⟩
      · rintro ⟨hs, -⟩ done t hdone hrun
        cases List.prefix_nil.mp hdone
        cases hrun
        exact hs
  | cons a as ih =>
      constructor
      · intro h
        refine ⟨h [] s List.nil_prefix rfl, fun t ht => ?_, fun t ht => (ih.mp ?_).2⟩
        · exact h [a] t (List.cons_prefix_cons.mpr ⟨rfl, List.nil_prefix⟩)
            (exec_cons_eq_some.mpr ⟨t, ht, rfl⟩)
        · intro done u hdone hrun
          exact h (a :: done) u (List.cons_prefix_cons.mpr ⟨rfl, hdone⟩)
            (exec_cons_eq_some.mpr ⟨t, ht, hrun⟩)
      · rintro ⟨hs, hhead, htail⟩ done t hdone hrun
        cases done with
        | nil =>
            cases hrun
            exact hs
        | cons b done =>
            obtain ⟨rfl, hrest⟩ := List.cons_prefix_cons.mp hdone
            obtain ⟨u, hu, hrun⟩ := exec_cons_eq_some.mp hrun
            exact ih.mpr ⟨hhead u hu, htail u hu⟩ done t hrest hrun

/-- **Checking a condition along a run.** The test may rely on an invariant. -/
theorem along_of_checked {P : σ → Prop} {check : σ → α → Bool}
    (hstep : ∀ s a t, P s → step s a = some t → P t)
    (hcheck : ∀ s a, P s → check s a = true → G s a)
    {s : σ} {as : List α} (hs : P s) (h : checked step check s as = true) :
    Along step G s as := by
  induction as generalizing s with
  | nil => trivial
  | cons a as ih =>
      obtain ⟨hhead, htail⟩ := Bool.and_eq_true_iff.mp h
      refine ⟨hcheck s a hs hhead, fun t ht => ih (hstep s a t hs ht) ?_⟩
      rw [ht] at htail
      exact htail

end EponManager.Lib
