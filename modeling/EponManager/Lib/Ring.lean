import Mathlib.Data.List.Basic
import Mathlib.Logic.Function.Basic

/-!
# Walking round a ring of cells

A ring of `cap` cells is read off by starting at some cell and taking a number of consecutive
cells, going back to cell `0` after cell `cap - 1`. `ringView` is that list, for any function
`cell` that says what a cell holds. The two laws are the ones a circular buffer needs: writing the
cell just past the view makes the view longer at its end, and leaving out its first cell is the
same as starting one cell later.
-/

namespace EponManager.Lib

variable {β : Type}

/-- The `count` cells of a ring of `cap` cells from cell `start` on. -/
def ringView (cell : Nat → β) (cap start count : Nat) : List β :=
  (List.range count).map (fun i => cell ((start + i) % cap))

variable {cell : Nat → β} {cap start count : Nat}

@[simp] theorem ringView_zero : ringView cell cap start 0 = [] := rfl

@[simp] theorem length_ringView : (ringView cell cap start count).length = count := by
  simp [ringView]

/-- Only the start's position in the ring matters. -/
theorem ringView_mod : ringView cell cap (start % cap) count = ringView cell cap start count := by
  simp [ringView]

/-- **Leaving out the first cell** is starting one cell later. -/
theorem ringView_succ :
    ringView cell cap start (count + 1) =
      cell (start % cap) :: ringView cell cap ((start + 1) % cap) count := by
  rw [ringView_mod]
  simp only [ringView, List.range_succ_eq_map, List.map_cons, List.map_map, Nat.add_zero]
  congr 2
  funext i
  simp only [Function.comp_apply]
  congr 2
  omega

/-- Two cells fewer than `cap` steps apart are the same cell only when the steps are none. -/
theorem add_mod_ne {i j : Nat} (hij : i < j) (hj : j < cap) :
    (start + i) % cap ≠ (start + j) % cap := by
  intro h
  have hmod : ((start + j) - (start + i)) % cap = 0 := Nat.sub_mod_eq_zero_of_mod_eq h.symm
  have hle : cap ≤ (start + j) - (start + i) :=
    Nat.le_of_dvd (by omega) (Nat.dvd_of_mod_eq_zero hmod)
  omega

/-- **Writing the cell just past the view** makes the view one cell longer, provided the ring has
room for it: no cell already in view is overwritten. -/
theorem ringView_update (hroom : count < cap) (b : β) :
    ringView (Function.update cell ((start + count) % cap) b) cap start (count + 1) =
      ringView cell cap start count ++ [b] := by
  simp only [ringView, List.range_succ, List.map_append, List.map_cons, List.map_nil,
    Function.update_self]
  congr 1
  apply List.map_congr_left
  intro i hi
  have hne : (start + i) % cap ≠ (start + count) % cap := add_mod_ne (List.mem_range.mp hi) hroom
  exact Function.update_of_ne hne b cell

end EponManager.Lib
