import Mathlib.Data.List.Basic

/-!
# The bounded FIFO

What a queue of fixed capacity is for, with no mention of how one is stored: a list of at most
`cap` values, oldest first. A push is refused exactly when the list is full and a pop exactly when
it is empty; nothing else can go wrong and a refused call changes nothing.

* `BoundedFifo α cap` carries the bound, so an overfull queue cannot be built.
* `Op` and `Answer` are calls and what they return; `run` is a sequence of calls.
* `run_conservation` is the FIFO law over a whole run: what was accepted, behind what was there
  at the start, is what was delivered followed by what is still there.
* `Implements` says that a stored queue answers every call as a bounded FIFO does, and
  `Implements.run` carries that from one call to any sequence of calls.
-/

namespace EponManager.Lib

/-- A queue of at most `cap` values, oldest first. -/
structure BoundedFifo (α : Type) (cap : Nat) where
  contents : List α
  bounded : contents.length ≤ cap

namespace BoundedFifo

variable {α : Type} {cap : Nat}

/-- A call on a queue. -/
inductive Op (α : Type) where
  | push (event : α)
  | pop

/-- What a call returns: whether a push was accepted, the value a pop delivered (if any). -/
inductive Answer (α : Type) where
  | push (accepted : Bool)
  | pop (delivered : Option α)

theorem length_push_le {l : List α} (h : l.length < cap) (a : α) : (l ++ [a]).length ≤ cap := by
  rw [List.length_append, List.length_singleton]
  exact h

theorem length_pop_le {l as : List α} {a : α} (h : l.length ≤ cap) (hl : l = a :: as) :
    as.length ≤ cap := by
  rw [hl, List.length_cons] at h
  omega

def empty (α : Type) (cap : Nat) : BoundedFifo α cap := ⟨[], Nat.zero_le cap⟩

def push (f : BoundedFifo α cap) (a : α) : Answer α × BoundedFifo α cap :=
  if h : f.contents.length < cap then
    (.push true, ⟨f.contents ++ [a], length_push_le h a⟩)
  else
    (.push false, f)

def pop (f : BoundedFifo α cap) : Answer α × BoundedFifo α cap :=
  match h : f.contents with
  | []      => (.pop none, f)
  | a :: as => (.pop (some a), ⟨as, length_pop_le f.bounded h⟩)

def call (f : BoundedFifo α cap) : Op α → Answer α × BoundedFifo α cap
  | .push a => f.push a
  | .pop    => f.pop

def run (f : BoundedFifo α cap) : List (Op α) → List (Answer α) × BoundedFifo α cap
  | []      => ([], f)
  | o :: os => ((f.call o).1 :: ((f.call o).2.run os).1, ((f.call o).2.run os).2)

/-- A push appends, or is refused because the queue is full. -/
theorem push_contents (f : BoundedFifo α cap) (a : α) :
    (f.push a).2.contents = if f.contents.length < cap then f.contents ++ [a] else f.contents := by
  unfold push
  split
  · rfl
  · rfl

/-- What a pop delivers was at the front. -/
theorem contents_of_pop {f g : BoundedFifo α cap} {a : α} (h : f.pop = (.pop (some a), g)) :
    f.contents = a :: g.contents := by
  unfold pop at h
  split at h
  · cases h
  · next hcontents =>
    cases h
    exact hcontents

theorem pop_of_contents {f : BoundedFifo α cap} {a : α} {as : List α}
    (h : f.contents = a :: as) : ∃ g, f.pop = (.pop (some a), g) ∧ g.contents = as := by
  unfold pop
  split
  · next hnil =>
    rw [h] at hnil
    cases hnil
  · next hcons =>
    rw [h] at hcons
    cases hcons
    exact ⟨_, rfl, rfl⟩

theorem pop_of_empty {f : BoundedFifo α cap} (h : f.contents = []) : f.pop = (.pop none, f) := by
  unfold pop
  split
  · rfl
  · next hcons =>
    rw [h] at hcons
    cases hcons

/-! ### What a run accepted and what it delivered -/

/-- The values of the accepted pushes, in order. -/
def accepted : List (Op α) → List (Answer α) → List α
  | .push a :: os, .push true :: rs => a :: accepted os rs
  | _ :: os, _ :: rs                => accepted os rs
  | _, _                            => []

/-- The values the successful pops returned, in order. -/
def delivered : List (Answer α) → List α
  | []                 => []
  | .pop (some a) :: rs => a :: delivered rs
  | _ :: rs            => delivered rs

/-- **Conservation**: nothing is lost, duplicated or reordered by any sequence of calls. -/
theorem run_conservation (f : BoundedFifo α cap) (os : List (Op α)) :
    f.contents ++ accepted os (f.run os).1 = delivered (f.run os).1 ++ (f.run os).2.contents := by
  induction os generalizing f with
  | nil => simp [run, accepted, delivered]
  | cons o os ih =>
      cases o with
      | push a =>
          by_cases h : f.contents.length < cap
          · have hcall : f.call (.push a) =
                (.push true, ⟨f.contents ++ [a], length_push_le h a⟩) := by
              simp [call, push, h]
            have hrest := ih ⟨f.contents ++ [a], length_push_le h a⟩
            simp only [run, hcall, accepted, delivered]
            rw [← hrest, List.append_assoc, List.singleton_append]
          · have hcall : f.call (.push a) = (.push false, f) := by simp [call, push, h]
            simp only [run, hcall, accepted, delivered]
            exact ih f
      | pop =>
          obtain ⟨contents, hb⟩ := f
          cases contents with
          | nil => exact ih ⟨[], hb⟩
          | cons a as =>
              have hrest := ih ⟨as, by simp at hb; omega⟩
              simp only [run, call, pop, accepted, delivered, List.cons_append]
              rw [hrest]

/-! ### Queues that are stored some way -/

section Implements

variable {S ε : Type}

/-- A sequence of calls on a stored queue, whose calls may fault. -/
def runStored (callStored : S → Op α → Except ε (Answer α × S)) :
    S → List (Op α) → Except ε (List (Answer α) × S)
  | s, []      => .ok ([], s)
  | s, o :: os => do
      let (r, s₁) ← callStored s o
      let (rs, s₂) ← runStored callStored s₁ os
      return (r :: rs, s₂)

/-- A stored queue in relation `R` to a bounded FIFO answers each call without fault as the FIFO
does, and stays in relation to it. -/
def Implements (callStored : S → Op α → Except ε (Answer α × S))
    (R : S → BoundedFifo α cap → Prop) : Prop :=
  ∀ s f o, R s f → ∃ s', callStored s o = .ok ((f.call o).1, s') ∧ R s' (f.call o).2

/-- **Refinement of runs**: call by call is enough. -/
theorem Implements.run {callStored : S → Op α → Except ε (Answer α × S)}
    {R : S → BoundedFifo α cap → Prop} (himpl : Implements callStored R)
    {s : S} {f : BoundedFifo α cap} (hR : R s f) (os : List (Op α)) :
    ∃ s', runStored callStored s os = .ok ((f.run os).1, s') ∧ R s' (f.run os).2 := by
  induction os generalizing s f with
  | nil => exact ⟨s, rfl, hR⟩
  | cons o os ih =>
      obtain ⟨s₁, hcall, hR₁⟩ := himpl s f o hR
      obtain ⟨s₂, hrest, hR₂⟩ := ih hR₁
      refine ⟨s₂, ?_, hR₂⟩
      simp only [runStored, hcall, bind, Except.bind, hrest, pure, Except.pure, BoundedFifo.run]

end Implements

end BoundedFifo

end EponManager.Lib
