import EponManager.Lib.CString

/-!
# `strtok_r`

A text with one delimiter character is read token by token: a call of `strtok_r` skips the
delimiters, returns what comes before the next one, and leaves `saveptr` behind that.

* `strtokR` is one call, `tokens` what successive calls return; `tokens_eq` is the connection.
* `tokens_intercalate`: fields that are not empty and hold no delimiter are the tokens of the text
  that joins them, so this is how such a text is read back. An empty field is lost
  (`tokens_intercalate_eq`).
-/

namespace EponManager.Lib

/-- One call of `strtok_r` on the text `s`: the token, and the text that `saveptr` points to
afterwards. -/
def strtokR (d : Char) (s : CharBuf) : Option (CharBuf × CharBuf) :=
  match s.dropWhile (· = d) with
  | []      => none
  | c :: cs => some ((c :: cs).takeWhile (· ≠ d), ((c :: cs).dropWhile (· ≠ d)).tail)

/-- The tokens that successive calls of `strtok_r` return, before the first `NULL`. -/
def tokens (d : Char) (s : CharBuf) : List CharBuf := (s.splitOn d).filter (fun t => !t.isEmpty)

/-! ### The fields of a text -/

@[simp] theorem tokens_nil (d : Char) : tokens d [] = [] := rfl

/-- A delimiter at the front is skipped. -/
theorem tokens_delimiter (d : Char) (s : CharBuf) : tokens d (d :: s) = tokens d s := by
  rw [tokens, tokens, List.splitOn_cons_eq_if_modifyHead, if_pos (beq_self_eq_true d)]
  rfl

/-- A text without the delimiter is one token. -/
theorem tokens_of_notMem {d : Char} {s : CharBuf} (hd : d ∉ s) (hne : s ≠ []) :
    tokens d s = [s] := by
  rw [tokens, List.splitOn_eq_singleton hd]
  simp [hne]

/-- A token ends at the next delimiter. -/
theorem tokens_append_delimiter {d : Char} {t : CharBuf} (hd : d ∉ t) (hne : t ≠ [])
    (s : CharBuf) : tokens d (t ++ d :: s) = t :: tokens d s := by
  rw [tokens, List.splitOn_append_cons_self_of_not_mem hd, List.filter_cons_of_pos (by simp [hne])]
  rfl

/-- **Successive calls.** The tokens of a text are the first call's token and those of the rest. -/
theorem tokens_eq (d : Char) (s : CharBuf) :
    tokens d s = (strtokR d s).elim [] (fun p => p.1 :: tokens d p.2) := by
  induction s with
  | nil => rfl
  | cons c s ih =>
      -- leading delimiters are skipped by both
      by_cases hc : c = d
      · subst hc
        have hskip : strtokR c (c :: s) = strtokR c s := by
          rw [strtokR, List.dropWhile_cons_of_pos (by simp), ← strtokR]
        rw [tokens_delimiter, hskip, ih]
      · have hdrop : (c :: s).dropWhile (· = d) = c :: s :=
          List.dropWhile_cons_of_neg (by simp [hc])
        have hsplit := List.takeWhile_append_dropWhile (p := (· ≠ d)) (l := c :: s)
        have hhead : d ∉ (c :: s).takeWhile (· ≠ d) := fun hmem => by
          simpa using List.mem_takeWhile_imp hmem
        have hne : (c :: s).takeWhile (· ≠ d) ≠ [] := by
          rw [List.takeWhile_cons_of_pos (by simp [hc])]
          exact List.cons_ne_nil _ _
        rw [strtokR, hdrop]
        show tokens d (c :: s) = (c :: s).takeWhile (· ≠ d) ::
          tokens d ((c :: s).dropWhile (· ≠ d)).tail
        cases hrest : (c :: s).dropWhile (· ≠ d) with
        | nil =>
            rw [hrest, List.append_nil] at hsplit
            rw [List.tail_nil, tokens_nil]
            conv_lhs => rw [← hsplit]
            exact tokens_of_notMem hhead hne
        | cons e rest =>
            -- the scan of the token has stopped at a delimiter
            have he : e = d := by
              have hstop := List.head_dropWhile_not (p := (· ≠ d)) (l := c :: s)
                (by rw [hrest]; exact List.cons_ne_nil _ _)
              simp only [hrest, List.head_cons] at hstop
              simpa using hstop
            subst he
            rw [hrest] at hsplit
            conv_lhs => rw [← hsplit]
            exact tokens_append_delimiter hhead hne rest

/-! ### Fields that were joined -/

/-- **Reading joined fields back**: the fields that are not empty. -/
theorem tokens_intercalate_eq {d : Char} {fields : List CharBuf} (hd : ∀ t ∈ fields, d ∉ t) :
    tokens d ([d].intercalate fields) = fields.filter (fun t => !t.isEmpty) := by
  cases fields with
  | nil => rfl
  | cons t ts => rw [tokens, List.splitOn_intercalate d hd (List.cons_ne_nil _ _)]

/-- **Fields that are not empty are read back as they are.** -/
theorem tokens_intercalate {d : Char} {fields : List CharBuf} (hd : ∀ t ∈ fields, d ∉ t)
    (hne : ∀ t ∈ fields, t ≠ []) : tokens d ([d].intercalate fields) = fields := by
  rw [tokens_intercalate_eq hd, List.filter_eq_self]
  intro t ht
  simp [hne t ht]

/-- What a joined text is made of. -/
theorem mem_intercalate {d c : Char} {fields : List CharBuf} (h : c ∈ [d].intercalate fields) :
    c = d ∨ ∃ t ∈ fields, c ∈ t := by
  induction fields with
  | nil => cases h
  | cons t ts ih =>
      cases ts with
      | nil => exact .inr ⟨t, List.mem_cons_self, by simpa using h⟩
      | cons u us =>
          rw [List.intercalate_cons_cons, List.mem_append, List.mem_append,
            List.mem_singleton] at h
          rcases h with (h | h) | h
          · exact .inr ⟨t, List.mem_cons_self, h⟩
          · exact .inl h
          · rcases ih h with hd | ⟨v, hv, hc⟩
            · exact .inl hd
            · exact .inr ⟨v, List.mem_cons_of_mem _ hv, hc⟩

end EponManager.Lib
