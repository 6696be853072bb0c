import EponManager.Lib.StepSystem

/-!
# Values that are kept until they are invalidated

A value comes from a source that is slow to ask, so it is kept. A `Memo` is the kept value with a
flag; the source is asked only while the flag is clear, and an answer may be a failure that leaves
its data behind all the same.

* `MemoEvent` is what happens to a memo, and `Memo.step` allows it or not.
* `Memo.exec_value` says what a memo offers after a run: the data of the latest successful answer,
  unless it was invalidated since.
* `Memo.exec_answers_le` bounds the successful answers by the invalidations.
-/

namespace EponManager.Lib

structure Memo (α : Type) where
  data : α
  valid : Bool

inductive MemoEvent (α : Type) where
  /-- the source is asked, and leaves `data` behind -/
  | asked (ok : Bool) (data : α)
  | invalidated

namespace MemoEvent

variable {α : Type}

/-- The source has answered. -/
def isAnswer : MemoEvent α → Bool
  | .asked ok _  => ok
  | .invalidated => false

def isInvalidation : MemoEvent α → Bool
  | .asked _ _   => false
  | .invalidated => true

/-- What can be offered after an event, from what could be offered before. -/
def note (offered : Option α) : MemoEvent α → Option α
  | .asked ok data => if ok then some data else offered
  | .invalidated   => none

end MemoEvent

namespace Memo

variable {α : Type}

/-- What a memo offers. -/
def value (m : Memo α) : Option α := if m.valid then some m.data else none

/-- The source is asked only if nothing is offered. -/
def step (m : Memo α) : MemoEvent α → Option (Memo α)
  | .asked ok data => if m.valid then none else some ⟨data, ok⟩
  | .invalidated   => some { m with valid := false }

/-- The number of answers that a memo still takes. -/
def credit (m : Memo α) : Nat := if m.valid then 0 else 1

variable {m m' : Memo α}

/-! ### What is offered -/

/-- Nothing is offered while the flag is clear. -/
theorem value_of_invalid (h : m.valid = false) : m.value = none := by
  rw [value, h]
  exact if_neg Bool.false_ne_true

/-- **Step lemma.** -/
theorem value_of_step {e : MemoEvent α} (h : m.step e = some m') : m'.value = e.note m.value := by
  cases e with
  | invalidated =>
      cases h
      exact value_of_invalid rfl
  | asked ok data =>
      cases hvalid : m.valid with
      | true =>
          rw [step, hvalid] at h
          cases h
      | false =>
          rw [step, hvalid] at h
          cases h
          rw [value_of_invalid hvalid]
          cases ok with
          | true => rfl
          | false => rfl

/-- **What a memo offers after a run.** -/
theorem exec_value {log : List (MemoEvent α)} (h : exec step m log = some m') :
    m'.value = log.foldl MemoEvent.note m.value := by
  induction log generalizing m with
  | nil =>
      cases h
      rfl
  | cons e log ih =>
      obtain ⟨m₁, hstep, hrest⟩ := exec_cons_eq_some.mp h
      rw [List.foldl_cons, ← value_of_step hstep]
      exact ih hrest

/-! ### How often it asks

An answer spends the credit that an invalidation gives. So there is at most one answer more than
there are invalidations.
-/

/-- A successful answer uses up the credit, an invalidation gives it back. -/
theorem credit_of_step {e : MemoEvent α} (h : m.step e = some m') :
    e.isAnswer.toNat + m'.credit ≤ m.credit + e.isInvalidation.toNat := by
  cases e with
  | invalidated =>
      cases h
      exact Nat.le_add_left _ _
  | asked ok data =>
      cases hvalid : m.valid with
      | true =>
          rw [step, hvalid] at h
          cases h
      | false =>
          have hcredit : m.credit = 1 := by simp [credit, hvalid]
          rw [step, hvalid] at h
          cases h
          rw [hcredit]
          cases ok with
          | true => exact Nat.le_refl _
          | false => exact Nat.le_refl _

/-- **The source answers once between two invalidations.** -/
theorem exec_answers_le {log : List (MemoEvent α)} (h : exec step m log = some m') :
    log.countP MemoEvent.isAnswer + m'.credit ≤
      m.credit + log.countP MemoEvent.isInvalidation := by
  induction log generalizing m with
  | nil =>
      cases h
      exact Nat.le_of_eq (Nat.add_comm _ _)
  | cons e log ih =>
      obtain ⟨m₁, hstep, hrest⟩ := exec_cons_eq_some.mp h
      have hhead := credit_of_step hstep
      have htail := ih hrest
      have hanswers : (e :: log).countP MemoEvent.isAnswer =
          log.countP MemoEvent.isAnswer + e.isAnswer.toNat := by
        rw [List.countP_cons]
        cases e.isAnswer <;> rfl
      have hinvalidations : (e :: log).countP MemoEvent.isInvalidation =
          log.countP MemoEvent.isInvalidation + e.isInvalidation.toNat := by
        rw [List.countP_cons]
        cases e.isInvalidation <;> rfl
      omega

end Memo

end EponManager.Lib
