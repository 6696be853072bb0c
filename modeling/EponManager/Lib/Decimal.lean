import EponManager.Lib.Atoi

/-!
# Decimal numerals

`%u` prints the decimal numeral of a number, `Nat.toDigits 10 n`. Reading starts at a digit, so no
white space and no sign is skipped, and stops at the first character that is no digit. So a numeral
reads back as the number it was printed from, whatever follows it.

* `digitsFrom_numeral`: the digits of `n`, and then anything but a digit, are read as `n`.
* `atoiU32_numeral`: `atoi` undoes `%u`.
* `numeralValue` is the number that a text spells, if it is a numeral and nothing else; leading
  zeros are allowed. `atoi` reads it (`atoiU32_of_numeralValue`), and a smaller number if the
  numeral was cut off (`ofDigitChars_take_lt`).
-/

namespace EponManager.Lib

/-! ### The characters of a numeral -/

theorem isDigit_of_mem_numeral {n : Nat} {c : Char} (h : c ∈ Nat.toDigits 10 n) : c.isDigit :=
  Nat.isDigit_of_mem_toDigits (by decide) (by decide) h

/-- A digit is a character between `'0'` and `'9'`. -/
theorem isDigit_bounds {c : Char} (h : c.isDigit) : 48 ≤ c.toNat ∧ c.toNat ≤ 57 := by
  simp only [Char.isDigit, Bool.and_eq_true, decide_eq_true_eq] at h
  exact ⟨UInt32.le_iff_toNat_le.mp h.1, UInt32.le_iff_toNat_le.mp h.2⟩

theorem ne_of_isDigit {c d : Char} (hc : c.isDigit) (hd : d.isDigit = false) : c ≠ d := by
  rintro rfl
  rw [hc] at hd
  cases hd

theorem isSpace_of_isDigit {c : Char} (h : c.isDigit) : isSpace c = false := by
  have hlow := (isDigit_bounds h).1
  have hne : c ≠ ' ' := ne_of_isDigit h (by decide)
  have hgt : ¬ c ≤ '\r' := by
    intro hle
    have hle' : c.toNat ≤ 13 := UInt32.le_iff_toNat_le.mp hle
    omega
  simp [isSpace, hne, hgt]

/-- Different numbers have different numerals. -/
theorem numeral_inj {n m : Nat} (h : Nat.toDigits 10 n = Nat.toDigits 10 m) : n = m := by
  have hn := Nat.ofDigitChars_ten_toDigits (n := n)
  rw [h, Nat.ofDigitChars_ten_toDigits] at hn
  exact hn.symm

/-- A numeral starts with a digit. -/
theorem exists_numeral_eq_cons (n : Nat) :
    ∃ c cs, Nat.toDigits 10 n = c :: cs ∧ c.isDigit := by
  cases h : Nat.toDigits 10 n with
  | nil => exact absurd h Nat.toDigits_ne_nil
  | cons c cs => exact ⟨c, cs, rfl, isDigit_of_mem_numeral (n := n) (by rw [h]; simp)⟩

/-! ### Reading it back -/

/-- The digits are read up to the first character that is none. -/
theorem digitsFrom_append {ds rest : List Char} (hds : ∀ c ∈ ds, c.isDigit)
    (hrest : ∀ c ∈ rest.head?, c.isDigit = false) (acc : Nat) :
    digitsFrom acc (ds ++ rest) = Nat.ofDigitChars 10 ds acc := by
  induction ds generalizing acc with
  | nil =>
      cases rest with
      | nil => rfl
      | cons c cs =>
          have hc := hrest c rfl
          simp [digitsFrom, hc]
  | cons d ds ih =>
      have hd := hds d List.mem_cons_self
      rw [List.cons_append, digitsFrom, if_pos hd, Nat.ofDigitChars_cons]
      exact ih (fun c hc => hds c (List.mem_cons_of_mem _ hc)) _

/-- **A numeral is read as its number.** -/
theorem digitsFrom_numeral (n : Nat) {rest : List Char}
    (hrest : ∀ c ∈ rest.head?, c.isDigit = false) :
    digitsFrom 0 (Nat.toDigits 10 n ++ rest) = n := by
  rw [digitsFrom_append (fun c hc => isDigit_of_mem_numeral hc) hrest,
    Nat.ofDigitChars_ten_toDigits]

/-- Nothing is skipped before a numeral. -/
theorem dropWhile_isSpace_numeral (n : Nat) (rest : List Char) :
    (Nat.toDigits 10 n ++ rest).dropWhile isSpace = Nat.toDigits 10 n ++ rest := by
  obtain ⟨c, cs, hcons, hc⟩ := exists_numeral_eq_cons n
  rw [hcons, List.cons_append, List.dropWhile_cons, isSpace_of_isDigit hc]
  rfl

/-- **Digits are read as the number they spell.** -/
theorem strtol_digits {ds : List Char} (hne : ds ≠ []) (hds : ∀ c ∈ ds, c.isDigit)
    (hlt : Nat.ofDigitChars 10 ds 0 < 2 ^ 63) : strtol ds = Nat.ofDigitChars 10 ds 0 := by
  have hread : digitsFrom 0 (ds ++ []) = _ := digitsFrom_append hds (by simp) 0
  rw [List.append_nil] at hread
  obtain ⟨c, cs, rfl⟩ := List.exists_cons_of_ne_nil hne
  have hc := hds c List.mem_cons_self
  have hminus : c ≠ '-' := ne_of_isDigit hc (by decide)
  have hplus : c ≠ '+' := ne_of_isDigit hc (by decide)
  have hskip : (c :: cs).dropWhile isSpace = c :: cs := by
    rw [List.dropWhile_cons, isSpace_of_isDigit hc]
    rfl
  rw [strtol, hskip]
  split
  · rename_i heq
    cases heq
    exact absurd rfl hminus
  · rename_i heq
    cases heq
    exact absurd rfl hplus
  · rw [hread]
    omega

theorem strtol_numeral {n : Nat} (hn : n < 2 ^ 63) : strtol (Nat.toDigits 10 n) = n := by
  have hvalue := Nat.ofDigitChars_ten_toDigits (n := n)
  rw [strtol_digits Nat.toDigits_ne_nil (fun c hc => isDigit_of_mem_numeral hc) (by rwa [hvalue]),
    hvalue]

/-- **`atoi` undoes `%u`.** -/
theorem atoiU32_numeral (n : UInt32) : atoiU32 (toString n.toNat) = n := by
  have hn := n.toNat_lt
  have hlist : (toString n.toNat).toList = Nat.toDigits 10 n.toNat := by
    rw [Nat.toString_eq_ofList_toDigits, String.toList_ofList]
  have hmod : ((n.toNat : Int) % 2 ^ 32).toNat = n.toNat := by omega
  rw [atoiU32, hlist, strtol_numeral (by omega), hmod, UInt32.ofNat_toNat]

/-! ### Signed numbers and 64 bits -/

/-- `%d` -/
def decimal : Int → List Char
  | .ofNat n   => Nat.toDigits 10 n
  | .negSucc n => '-' :: Nat.toDigits 10 (n + 1)

theorem decimal_ne_nil (n : Int) : decimal n ≠ [] := by
  cases n with
  | ofNat n => exact Nat.toDigits_ne_nil
  | negSucc n => exact List.cons_ne_nil _ _

/-- What stands in the text of a number. -/
theorem mem_decimal {n : Int} {c : Char} (h : c ∈ decimal n) : c.isDigit ∨ c = '-' := by
  cases n with
  | ofNat n => exact .inl (isDigit_of_mem_numeral h)
  | negSucc n =>
      rcases List.mem_cons.mp h with rfl | h
      · exact .inr rfl
      · exact .inl (isDigit_of_mem_numeral h)

/-- `%d` of an `int` takes at most eleven characters. -/
theorem length_decimal_le (n : Int32) : (decimal n.toInt).length ≤ 11 := by
  have hlow := n.le_toInt
  have hhigh := n.toInt_lt
  generalize n.toInt = k at hlow hhigh
  cases k with
  | ofNat k =>
      have hk : k < 2 ^ 31 := Int.ofNat_lt.mp hhigh
      exact (Nat.length_toDigits_le_iff (by decide) (by decide)).mpr (by omega)
  | negSucc k =>
      rw [decimal, List.length_cons, Nat.succ_le_succ_iff]
      exact (Nat.length_toDigits_le_iff (by decide) (by decide)).mpr (by omega)

theorem strtol_decimal {n : Int} (hlow : -2 ^ 63 ≤ n) (hhigh : n < 2 ^ 63) :
    strtol (decimal n) = n := by
  cases n with
  | ofNat n =>
      have hn : n < 2 ^ 63 := Int.ofNat_lt.mp hhigh
      exact strtol_numeral hn
  | negSucc n =>
      have hread : digitsFrom 0 (Nat.toDigits 10 (n + 1) ++ []) = n + 1 :=
        digitsFrom_numeral (n + 1) (by simp)
      rw [List.append_nil] at hread
      have hskip : (decimal (.negSucc n)).dropWhile isSpace = '-' :: Nat.toDigits 10 (n + 1) := by
        rw [decimal, List.dropWhile_cons, show isSpace '-' = false by decide]
        rfl
      rw [strtol, hskip]
      show max (-2 ^ 63) (min (2 ^ 63 - 1) (-(digitsFrom 0 (Nat.toDigits 10 (n + 1)) : Int))) = _
      rw [hread]
      omega

/-- **`atoi` undoes `%d`.** -/
theorem atoi_decimal (n : Int32) : atoi (decimal n.toInt) = n := by
  have hlow := n.le_toInt
  have hhigh := n.toInt_lt
  rw [atoi, strtol_decimal (by omega) (by omega), Int32.ofInt_toInt]

/-- **`(uint32_t)atoi` undoes `%u`**, also where the number is no `int`. -/
theorem toUInt32_atoi_numeral (n : UInt32) :
    (atoi (Nat.toDigits 10 n.toNat)).toUInt32 = n := by
  have hn := n.toNat_lt
  rw [atoi, strtol_numeral (by omega), Int32.ofInt_eq_ofNat, Int32.toUInt32_ofNat',
    UInt32.ofNat_toNat]

/-! ### Texts that are numerals -/

/-- The number that a text spells, if it consists of digits. -/
def numeralValue (s : List Char) : Option Nat :=
  if !s.isEmpty && s.all Char.isDigit then some (Nat.ofDigitChars 10 s 0) else none

/-- A text is a numeral if it consists of digits. -/
theorem numeralValue_eq_some {s : List Char} {n : Nat} :
    numeralValue s = some n ↔
      (s ≠ [] ∧ ∀ c ∈ s, c.isDigit) ∧ Nat.ofDigitChars 10 s 0 = n := by
  rw [numeralValue, Option.ite_none_right_eq_some, Option.some.injEq, Bool.and_eq_true,
    List.all_eq_true, Bool.not_eq_true', List.isEmpty_eq_false_iff]

/-- **A numeral spells its number.** -/
theorem numeralValue_numeral (n : Nat) : numeralValue (Nat.toDigits 10 n) = some n :=
  numeralValue_eq_some.mpr ⟨⟨Nat.toDigits_ne_nil, fun _ hc => isDigit_of_mem_numeral hc⟩,
    Nat.ofDigitChars_ten_toDigits⟩

/-- **`atoi` reads a numeral of 32 bits.** -/
theorem atoiU32_of_numeralValue {s : List Char} {n : Nat} (h : numeralValue s = some n)
    (hn : n < 2 ^ 32) : atoiU32 (String.ofList s) = UInt32.ofNat n := by
  obtain ⟨⟨hne, hds⟩, rfl⟩ := numeralValue_eq_some.mp h
  rw [atoiU32, String.toList_ofList, strtol_digits hne hds (by omega)]
  congr 1
  omega

/-- What is left of a numeral that was cut off. -/
theorem numeralValue_take {s : List Char} {n k : Nat} (h : numeralValue s = some n) (hk : 0 < k) :
    numeralValue (s.take k) = some (Nat.ofDigitChars 10 (s.take k) 0) := by
  obtain ⟨⟨hne, hds⟩, -⟩ := numeralValue_eq_some.mp h
  refine numeralValue_eq_some.mpr ⟨⟨fun hnil => ?_, fun c hc => hds c (List.mem_of_mem_take hc)⟩,
    rfl⟩
  rcases List.take_eq_nil_iff.mp hnil with rfl | hnil
  · cases hk
  · exact hne hnil

/-- **A numeral that was cut off spells a smaller number.** -/
theorem ofDigitChars_take_lt {s : List Char} {k : Nat} (hpos : 0 < Nat.ofDigitChars 10 s 0)
    (hk : k < s.length) : Nat.ofDigitChars 10 (s.take k) 0 < Nat.ofDigitChars 10 s 0 := by
  have hsplit := Nat.ofDigitChars_append (b := 10) (l := s.take k) (m := s.drop k) 0
  rw [List.take_append_drop, Nat.ofDigitChars_eq_ofDigitChars_zero (l := s.drop k),
    List.length_drop] at hsplit
  have hpow : 10 ≤ 10 ^ (s.length - k) := Nat.le_self_pow (by omega) 10
  have hmul := Nat.mul_le_mul_right (Nat.ofDigitChars 10 (s.take k) 0) hpow
  omega

end EponManager.Lib
