import Mathlib.Data.List.Infix
import Mathlib.Data.List.TakeWhile

/-!
# C strings

A `char` array is the list of its characters; the string it holds ends before the first NUL. The
functions of `string.h` are defined by their documented behaviour. A list that ends before a NUL is
read as if one followed.
-/

namespace EponManager.Lib

/-- The characters of a `char` array. -/
abbrev CharBuf := List Char

/-- The string a `char` array holds. -/
def cstr (buf : CharBuf) : CharBuf := buf.takeWhile (· ≠ '\x00')

/-- `strncmp(a, b, n) == 0` -/
def strncmpEq : CharBuf → CharBuf → Nat → Bool
  | _, _, 0                => true
  | [], [], _ + 1          => true
  | [], b :: _, _ + 1      => b = '\x00'
  | a :: _, [], _ + 1      => a = '\x00'
  | a :: as, b :: bs, n + 1 => a = b && (a = '\x00' || strncmpEq as bs n)

/-- `strstr(s, sub) != NULL` -/
def strstr (s sub : String) : Bool := go s.toList sub.toList
where
  go : List Char → List Char → Bool
    | [], sub     => sub.isEmpty
    | c :: s, sub => sub.isPrefixOf (c :: s) || go s sub

/-- `strcasecmp(s, t) == 0` in the C locale -/
def strcasecmpEq (s t : CharBuf) : Bool := (cstr s).map Char.toLower = (cstr t).map Char.toLower

/-- The text before the first `c` and the text after it, if `strchr(s, c)` finds one. -/
def splitAtChar (c : Char) (s : CharBuf) : Option (CharBuf × CharBuf) :=
  match s.dropWhile (· ≠ c) with
  | []        => none
  | _ :: rest => some (s.takeWhile (· ≠ c), rest)

/-- The string that `snprintf` leaves in a buffer of `size` characters. -/
def snprintf (size : Nat) (text : CharBuf) : CharBuf := text.take (size - 1)

/-- A `char` array of at least `n` characters with a NUL among the first `n`. -/
def Terminated (n : Nat) (buf : CharBuf) : Prop := '\x00' ∈ buf.take n

instance (n : Nat) (buf : CharBuf) : Decidable (Terminated n buf) :=
  inferInstanceAs (Decidable (_ ∈ _))

/-! ### Strings and the buffers that hold them -/

@[simp] theorem cstr_nil : cstr [] = [] := rfl

theorem cstr_cons (c : Char) (buf : CharBuf) :
    cstr (c :: buf) = if c = '\x00' then [] else c :: cstr buf := by
  simp only [cstr, List.takeWhile_cons]
  by_cases hc : c = '\x00' <;> simp [hc]

/-- **`strncmp` compares the strings up to `n` characters.** -/
theorem strncmpEq_iff_take {n : Nat} {a b : CharBuf} :
    strncmpEq a b n ↔ (cstr a).take n = (cstr b).take n := by
  induction n generalizing a b with
  | zero => simp [strncmpEq]
  | succ n ih =>
      cases a with
      | nil =>
          cases b with
          | nil => simp [strncmpEq]
          | cons y bs =>
              rw [strncmpEq, cstr_cons]
              by_cases hy : y = '\x00' <;> simp [hy]
      | cons x as =>
          cases b with
          | nil =>
              rw [strncmpEq, cstr_cons]
              by_cases hx : x = '\x00' <;> simp [hx]
          | cons y bs =>
              rw [strncmpEq, cstr_cons, cstr_cons]
              by_cases hx : x = '\x00'
              · subst hx
                by_cases hy : y = '\x00'
                · simp [hy]
                · have hy' : ¬ '\x00' = y := fun h => hy h.symm
                  simp [hy, hy']
              · by_cases hy : y = '\x00'
                · subst hy
                  simp [hx]
                · simp [hx, hy, ih]

/-- A terminated buffer holds its string within its first `n` characters. -/
theorem cstr_take {n : Nat} {buf : CharBuf} (h : Terminated n buf) :
    (cstr buf).take n = cstr buf := by
  induction n generalizing buf with
  | zero => simp [Terminated] at h
  | succ n ih =>
      cases buf with
      | nil => rfl
      | cons c buf =>
          rw [cstr_cons]
          by_cases hc : c = '\x00'
          · rw [if_pos hc, List.take_nil]
          · have h' : Terminated n buf := by
              simp only [Terminated, List.take_succ_cons, List.mem_cons] at h
              exact h.resolve_left (Ne.symm hc)
            rw [if_neg hc, List.take_succ_cons, ih h']

/-- Two terminated arrays compare equal exactly when they hold the same string. -/
theorem strncmpEq_iff {n : Nat} {a b : CharBuf} (ha : Terminated n a) (hb : Terminated n b) :
    strncmpEq a b n ↔ cstr a = cstr b := by
  rw [strncmpEq_iff_take, cstr_take ha, cstr_take hb]

/-- The string of a terminated array is shorter than the array. -/
theorem length_cstr_lt {n : Nat} {buf : CharBuf} (h : Terminated n buf) :
    (cstr buf).length < n := by
  induction n generalizing buf with
  | zero => simp [Terminated] at h
  | succ n ih =>
      cases buf with
      | nil => simp
      | cons c buf =>
          rw [cstr_cons]
          by_cases hc : c = '\x00'
          · simp [hc]
          · have h' : Terminated n buf := by
              simp only [Terminated, List.take_succ_cons, List.mem_cons] at h
              exact h.resolve_left (Ne.symm hc)
            rw [if_neg hc, List.length_cons]
            exact Nat.succ_lt_succ (ih h')

theorem ne_nul_of_mem_cstr {c : Char} {buf : CharBuf} (h : c ∈ cstr buf) : c ≠ '\x00' := by
  simpa using List.mem_takeWhile_imp h

/-- Characters before a NUL. -/
theorem cstr_append_nul {s : CharBuf} (h : ∀ c ∈ s, c ≠ '\x00') : cstr (s ++ ['\x00']) = s := by
  rw [cstr, List.takeWhile_append_of_pos (by simpa using h)]
  simp

/-- A string that is short enough, with its NUL. -/
theorem terminated_append_nul {n : Nat} {s : CharBuf} (h : s.length < n) :
    Terminated n (s ++ ['\x00']) := by
  have hle : (s ++ ['\x00']).length ≤ n := by
    rw [List.length_append]
    exact h
  rw [Terminated, List.take_of_length_le hle]
  simp

/-- A text without a NUL is read to its end. -/
theorem cstr_of_notMem {s : CharBuf} (h : '\x00' ∉ s) : cstr s = s := by
  rw [cstr, List.takeWhile_eq_self_iff]
  intro c hc
  simpa using ne_of_mem_of_not_mem hc h

/-! ### Parts of a text -/

/-- Every character of a part occurs in the whole. -/
theorem mem_of_strstr {s sub : String} (h : strstr s sub = true) {c : Char}
    (hc : c ∈ sub.toList) : c ∈ s.toList := by
  have hgo (cs : List Char) (hcs : strstr.go cs sub.toList = true) : c ∈ cs := by
    induction cs with
    | nil =>
        rw [strstr.go, List.isEmpty_iff] at hcs
        rw [hcs] at hc
        cases hc
    | cons d cs ih =>
        rw [strstr.go, Bool.or_eq_true, List.isPrefixOf_iff_prefix] at hcs
        rcases hcs with hpre | hrest
        · exact hpre.subset hc
        · exact List.mem_cons_of_mem _ (ih hrest)
  exact hgo s.toList h

/-- A text contains what it ends with. -/
theorem strstr_append (s sub : String) : strstr (s ++ sub) sub = true := by
  have hgo (cs : List Char) : strstr.go (cs ++ sub.toList) sub.toList = true := by
    induction cs with
    | nil =>
        rw [List.nil_append]
        cases h : sub.toList with
        | nil => rfl
        | cons c cs =>
            rw [strstr.go, Bool.or_eq_true, List.isPrefixOf_iff_prefix]
            exact .inl (List.prefix_refl _)
    | cons c cs ih => rw [List.cons_append, strstr.go, ih, Bool.or_true]
  rw [strstr, String.toList_append]
  exact hgo s.toList

end EponManager.Lib
