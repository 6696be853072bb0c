import Mathlib.Logic.Function.Basic

/-!
# Heap blocks and faulting operations of C

A pointer to an allocated array is `none` when it is `NULL` and otherwise the cells of the block.
The operations whose misuse is undefined behaviour in C return a `Fault` there, so that "the code
never does it" is a statement about the model and not a convention.
-/

namespace EponManager.Lib

/-- What a C program must not do. -/
inductive Fault where
  | nullDeref
  | outOfBounds
  | moduloByZero
  deriving DecidableEq, Repr

/-- A pointer to an array allocated with `malloc`. -/
abbrev Block (α : Type) := Option (Array α)

variable {α : Type}

/-- `p[i]` -/
def Block.load (p : Block α) (i : UInt32) : Except Fault α :=
  match p with
  | none   => .error .nullDeref
  | some a => if h : i.toNat < a.size then .ok a[i.toNat] else .error .outOfBounds

/-- `p[i] = v` -/
def Block.store (p : Block α) (i : UInt32) (v : α) : Except Fault (Block α) :=
  match p with
  | none   => .error .nullDeref
  | some a => if h : i.toNat < a.size then .ok (some (a.set i.toNat v)) else .error .outOfBounds

/-- `a % b` on `uint32_t`. -/
def umod (a b : UInt32) : Except Fault UInt32 :=
  if b = 0 then .error .moduloByZero else .ok (a % b)

/-- A load within the block returns the element. -/
theorem Block.load_of_lt {a : Array α} {i : UInt32} (h : i.toNat < a.size) :
    Block.load (some a) i = .ok a[i.toNat] := by
  simp [Block.load, h]

/-- A store within the block changes the element. -/
theorem Block.store_of_lt {a : Array α} {i : UInt32} (v : α) (h : i.toNat < a.size) :
    Block.store (some a) i v = .ok (some (a.set i.toNat v)) := by
  simp [Block.store, h]

/-- A remainder by something else than 0. -/
theorem umod_of_pos (a : UInt32) {b : UInt32} (h : 0 < b.toNat) : umod a b = .ok (a % b) := by
  have hb : b ≠ 0 := by
    rintro rfl
    simp at h
  simp [umod, hb]

/-- Storing into a block changes that cell and no other. -/
theorem getElem?_set_eq_update (a : Array α) {i : Nat} (h : i < a.size) (v : α) :
    (fun j => (a.set i v)[j]?) = Function.update (fun j => a[j]?) i (some v) := by
  funext j
  rw [Array.getElem?_set]
  by_cases hij : i = j
  · subst hij
    simp
  · rw [if_neg hij, Function.update_of_ne (Ne.symm hij)]

end EponManager.Lib
