import Mathlib.Logic.Function.Basic

/-!
# The owner of a mutex

An interleaving of threads that lock a mutex keeps its owner in the state, while where each thread
is says whether it is between a lock and the unlock (`holds`). `Exclusive` relates the two. There
is one rule for each thing a step can do: lock, unlock, or neither.
-/

namespace EponManager.Lib

variable {A : Type} {owner : Option A} {holds holds' : A → Bool} {a : A}

/-- Whoever is between a lock and the unlock owns the mutex. -/
def Exclusive (owner : Option A) (holds : A → Bool) : Prop := ∀ a, holds a = true → owner = some a

theorem Exclusive.unique (h : Exclusive owner holds) {b : A} (ha : holds a = true)
    (hb : holds b = true) : a = b :=
  Option.some.inj ((h a ha).symm.trans (h b hb))

/-- Who takes a free mutex is alone. -/
theorem Exclusive.lock (h : Exclusive none holds) (hother : ∀ b ≠ a, holds' b = holds b) :
    Exclusive (some a) holds' := by
  intro b hb
  by_cases hba : b = a
  · rw [hba]
  · rw [hother b hba] at hb
    exact absurd (h b hb) (by simp)

/-- Who leaves the mutex leaves it free. -/
theorem Exclusive.unlock (h : Exclusive owner holds) (ha : holds a = true)
    (hother : ∀ b ≠ a, holds' b = holds b) (ha' : holds' a = false) : Exclusive none holds' := by
  intro b hb
  by_cases hba : b = a
  · rw [hba, ha'] at hb
    cases hb
  · rw [hother b hba] at hb
    exact absurd (h.unique hb ha) hba

/-- A step that is not about the mutex. -/
theorem Exclusive.stay (h : Exclusive owner holds) (hsame : ∀ b, holds' b = holds b) :
    Exclusive owner holds' := by
  intro b hb
  rw [hsame b] at hb
  exact h b hb

end EponManager.Lib
