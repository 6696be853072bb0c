/-!
# A recursive mutex

Who holds the mutex, and how many more times it was locked. Only one thread can hold it, so what a
thread does between its lock and its unlock happens while no other thread is there
(`HeldBy.unique`). `count` is how often a thread holds it.
-/

namespace EponManager.Lib

/-- A mutex that its holder can lock again. -/
abbrev RecursiveMutex (A : Type) := Option (A × Nat)

namespace RecursiveMutex

variable {A : Type} [DecidableEq A] {m m' : RecursiveMutex A} {a b : A}

/-- `none`: the thread has to wait. -/
def lock (m : RecursiveMutex A) (a : A) : Option (RecursiveMutex A) :=
  match m with
  | none        => some (some (a, 0))
  | some (b, n) => if b = a then some (some (a, n + 1)) else none

/-- `none`: the thread does not hold it. -/
def unlock (m : RecursiveMutex A) (a : A) : Option (RecursiveMutex A) :=
  match m with
  | none            => none
  | some (b, 0)     => if b = a then some none else none
  | some (b, n + 1) => if b = a then some (some (a, n)) else none

def HeldBy (m : RecursiveMutex A) (a : A) : Prop := ∃ n, m = some (a, n)

/-! ### Locking and unlocking -/

omit [DecidableEq A] in
theorem HeldBy.unique (ha : HeldBy m a) (hb : HeldBy m b) : a = b := by
  obtain ⟨n, rfl⟩ := ha
  obtain ⟨k, hk⟩ := hb
  cases hk
  rfl

/-- A thread holds the mutex that it has locked. -/
theorem heldBy_lock (h : lock m a = some m') : HeldBy m' a := by
  unfold lock at h
  split at h
  · cases h
    exact ⟨0, rfl⟩
  · next n =>
    split at h
    · cases h
      exact ⟨n + 1, rfl⟩
    · cases h

/-- A thread that gets the mutex was not waiting for another one. -/
theorem HeldBy.lock (hb : HeldBy m b) (h : RecursiveMutex.lock m a = some m') : HeldBy m' b := by
  obtain ⟨n, rfl⟩ := hb
  unfold RecursiveMutex.lock at h
  split at h
  · next heq => cases heq
  · next heq =>
    cases heq
    split at h
    · next hba =>
      cases h
      exact ⟨n + 1, by rw [hba]⟩
    · cases h

theorem unlock_lock (h : lock m a = some m') : unlock m' a = some m := by
  unfold lock at h
  split at h
  · cases h
    exact if_pos rfl
  · next b n =>
    split at h
    · next hba =>
      cases h
      rw [hba]
      exact if_pos rfl
    · cases h

/-- A thread that has unlocked the mutex could lock it again at once. -/
theorem lock_unlock (h : unlock m a = some m') : lock m' a = some m := by
  unfold unlock at h
  split at h
  · cases h
  · next b =>
    split at h
    · next hba =>
      cases h
      rw [hba]
      rfl
    · cases h
  · next b n =>
    split at h
    · next hba =>
      cases h
      rw [hba]
      exact if_pos rfl
    · cases h

/-- Only the holder unlocks. -/
theorem heldBy_of_unlock (h : unlock m a = some m') : HeldBy m a := heldBy_lock (lock_unlock h)

/-! ### How often a thread holds it -/

def count (m : RecursiveMutex A) (a : A) : Nat :=
  match m with
  | none        => 0
  | some (b, n) => if b = a then n + 1 else 0

theorem count_self (a : A) (n : Nat) : count (some (a, n)) a = n + 1 := if_pos rfl

theorem count_of_ne (hab : a ≠ b) (n : Nat) : count (some (a, n)) b = 0 := if_neg hab

theorem count_lock (h : lock m a = some m') : count m' a = count m a + 1 := by
  unfold lock at h
  split at h
  · cases h
    exact count_self a 0
  · next b n =>
    split at h
    · next hba =>
      cases h
      rw [hba, count_self, count_self]
    · cases h

theorem count_lock_of_ne (h : lock m a = some m') (hba : b ≠ a) : count m' b = count m b := by
  unfold lock at h
  split at h
  · cases h
    exact count_of_ne hba.symm 0
  · next c n =>
    split at h
    · next hca =>
      cases h
      rw [hca, count_of_ne hba.symm, count_of_ne hba.symm]
    · cases h

theorem count_unlock (h : unlock m a = some m') : count m a = count m' a + 1 :=
  count_lock (lock_unlock h)

theorem count_unlock_of_ne (h : unlock m a = some m') (hba : b ≠ a) : count m' b = count m b :=
  (count_lock_of_ne (lock_unlock h) hba).symm

theorem exists_of_count_pos (h : 0 < count m a) : ∃ n, m = some (a, n) ∧ count m a = n + 1 := by
  match m with
  | none        => cases h
  | some (b, n) =>
      by_cases hba : b = a
      · rw [hba]
        exact ⟨n, rfl, count_self a n⟩
      · rw [count_of_ne hba] at h
        cases h

/-- A mutex that nobody holds is free. -/
theorem eq_none_of_count (h : ∀ a, count m a = 0) : m = none := by
  match m with
  | none        => rfl
  | some (a, n) => cases (count_self a n).symm.trans (h a)

/-- Who holds the mutex can unlock it. -/
theorem exists_unlock (h : 0 < count m a) : ∃ m', unlock m a = some m' := by
  obtain ⟨n, rfl, -⟩ := exists_of_count_pos h
  cases n with
  | zero => exact ⟨none, if_pos rfl⟩
  | succ n => exact ⟨some (a, n), if_pos rfl⟩

/-- Nobody else can lock a mutex that is held. -/
theorem lock_eq_none (h : 0 < count m a) (hba : b ≠ a) : lock m b = none := by
  obtain ⟨n, rfl, -⟩ := exists_of_count_pos h
  exact if_neg hba.symm

end RecursiveMutex

end EponManager.Lib
