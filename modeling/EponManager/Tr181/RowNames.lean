import EponManager.Tr181.Handlers
import EponManager.Tr181.Rows

/-!
# Names of row parameters

A row parameter is called by the name of its row, a dot and the name of a field. The handlers search
that name for the table's name, read the instance number behind it, and compare the end of the name
with the fields. On the names that rbus can ask for, all of this finds what it should.

* `afterFirst_append`: what follows the first occurrence of a text is found again when more follows.
* `scanU_numeral`: the number in a row's name is read back.
* `hasSuffix_field`: the end of the name is a dot and `field` exactly if `field` is asked for.
-/

namespace EponManager

open Lib

/-- A parameter of a row. -/
def Table.param (table : Table) (inst : Nat) (field : String) : String :=
  table.rowName inst ++ "." ++ field

theorem Table.param_toList (table : Table) (inst : Nat) (field : String) :
    (table.param inst field).toList =
      table.path.toList ++ (Nat.toDigits 10 inst ++ '.' :: field.toList) := by
  rw [param, String.toList_append, String.toList_append, rowName_toList]
  simp

/-- A parameter's name has the characters of the table's name, digits, a dot, and the field's. -/
theorem Table.mem_param {table : Table} {inst : Nat} {field : String} {c : Char}
    (h : c ∈ (table.param inst field).toList) :
    c ∈ table.path.toList ∨ c.isDigit ∨ c = '.' ∨ c ∈ field.toList := by
  rw [param_toList] at h
  simp only [List.mem_append, List.mem_cons] at h
  rcases h with h | h | h | h
  · exact .inl h
  · exact .inr (.inl (isDigit_of_mem_numeral h))
  · exact .inr (.inr (.inl h))
  · exact .inr (.inr (.inr h))

namespace Tr181

/-! ### Finding the number -/

theorem length_le_of_afterFirst {s sub t : List Char} (h : afterFirst.go s sub = some t) :
    sub.length ≤ s.length := by
  induction s with
  | nil =>
      rw [afterFirst.go] at h
      cases sub with
      | nil => exact le_rfl
      | cons c sub => cases h
  | cons c s ih =>
      rw [afterFirst.go] at h
      by_cases hpre : sub.isPrefixOf (c :: s) = true
      · exact (List.isPrefixOf_iff_prefix.mp hpre).length_le
      · rw [if_neg hpre] at h
        exact (ih h).trans (Nat.le_succ _)

/-- The first occurrence stays the first when the text goes on. -/
theorem afterFirst_append {s sub t : List Char} (h : afterFirst.go s sub = some t)
    (rest : List Char) : afterFirst.go (s ++ rest) sub = some (t ++ rest) := by
  -- the first match is found before the part that is appended
  induction s with
  | nil =>
      rw [afterFirst.go] at h
      cases sub with
      | nil =>
          cases h
          cases rest with
          | nil => rfl
          | cons c rest => rfl
      | cons c sub => cases h
  | cons c s ih =>
      rw [afterFirst.go] at h
      rw [List.cons_append, afterFirst.go]
      by_cases hpre : sub.isPrefixOf (c :: s) = true
      · have hle := (List.isPrefixOf_iff_prefix.mp hpre).length_le
        have hpre' : sub.isPrefixOf (c :: (s ++ rest)) = true :=
          List.isPrefixOf_iff_prefix.mpr
            ((List.isPrefixOf_iff_prefix.mp hpre).trans (List.prefix_append (c :: s) rest))
        rw [if_pos hpre] at h
        rw [if_pos hpre', ← List.cons_append, List.drop_append_of_le_length hle]
        cases h
        rfl
      · rw [if_neg hpre] at h
        have hle := length_le_of_afterFirst h
        -- a longer text has no earlier match, because the rest is long enough for the one it has
        have hpre' : ¬ sub.isPrefixOf (c :: (s ++ rest)) = true := by
          rw [List.isPrefixOf_iff_prefix] at hpre ⊢
          intro hlong
          exact hpre (List.prefix_of_prefix_length_le hlong (List.prefix_append (c :: s) rest)
            (hle.trans (Nat.le_succ _)))
        rw [if_neg hpre']
        exact ih h

/-- **A number is read back from its numeral.** -/
theorem scanU_numeral {n : Nat} (hn : n < 2 ^ 32) {rest : List Char}
    (hrest : ∀ c ∈ rest.head?, c.isDigit = false) :
    scanU (Nat.toDigits 10 n ++ rest) = some (UInt32.ofNat n) := by
  have hread := digitsFrom_numeral n hrest
  obtain ⟨c, cs, hcons, hc⟩ := exists_numeral_eq_cons n
  have hminus : c ≠ '-' := ne_of_isDigit hc (by decide)
  have hplus : c ≠ '+' := ne_of_isDigit hc (by decide)
  rw [scanU, dropWhile_isSpace_numeral]
  rw [hcons, List.cons_append] at hread ⊢
  have hvalue : (1 * ((min (2 ^ 64 - 1) n : Nat) : Int) % 2 ^ 32).toNat = n := by omega
  split
  rename_i sign digits heq
  split at heq
  · rename_i heq'
    cases heq'
    exact absurd rfl hminus
  · rename_i heq'
    cases heq'
    exact absurd rfl hplus
  · cases heq
    rw [hread, hvalue, List.head?_cons, Option.map_some, Option.getD_some, if_pos hc]

/-- The number of a row is read from the name of each of its parameters. -/
theorem scanU_param {inst : Nat} (h : inst < 2 ^ 32) (field : String) :
    scanU (Nat.toDigits 10 inst ++ '.' :: field.toList) = some (UInt32.ofNat inst) := by
  apply scanU_numeral h
  intro c hc
  cases hc
  rfl

/-! ### Telling the fields apart -/

/-- **The end of a parameter's name is its field.** -/
theorem hasSuffix_field {table : Table} {inst : Nat} {field other : String}
    (hfield : '.' ∉ field.toList) (hother : '.' ∉ other.toList) :
    hasSuffix (table.param inst field) ("." ++ other) = decide (field = other) := by
  rw [Bool.eq_iff_iff, decide_eq_true_eq, hasSuffix, List.isSuffixOf_iff_suffix]
  have hdot (s : String) : ("." ++ s).toList = '.' :: s.toList := by
    rw [String.toList_append]
    rfl
  have hend : ("." ++ field).toList <:+ (table.param inst field).toList := by
    rw [Table.param_toList, hdot, ← List.append_assoc]
    exact List.suffix_append _ _
  constructor
  · intro h
    rw [hdot] at h hend
    rcases List.suffix_or_suffix_of_suffix h hend with h | h
    · rcases List.suffix_cons_iff.mp h with heq | hin
      · exact String.toList_inj.mp (List.cons.inj heq).2.symm
      · exact absurd (hin.subset List.mem_cons_self) hfield
    · rcases List.suffix_cons_iff.mp h with heq | hin
      · exact String.toList_inj.mp (List.cons.inj heq).2
      · exact absurd (hin.subset List.mem_cons_self) hother
  · rintro rfl
    exact hend

end Tr181

end EponManager
