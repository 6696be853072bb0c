import EponManager.Lib.CString

/-!
# Searches of written texts

A search of one written text for another is decided by evaluation, and what takes the time is to
take the texts apart. Here they are given letter by letter, and two letters are compared by their
codes.

* `Letters.contains_eq` is `strstr` on the letters.
* `Spelled` ties a table of texts to the table of their letters. `Spelled.exists_mem` finds the
  letters of an entry, and `Spelled.nodup` shows that no text is there twice.
-/

namespace EponManager.Lib

namespace Letters

/-- `List.isPrefixOf` -/
def startsWith : List Char → List Char → Bool
  | [], _               => true
  | _ :: _, []          => false
  | c :: sub, d :: s => bif Nat.beq c.toNat d.toNat then startsWith sub s else false

/-- `strstr.go` -/
def contains : List Char → List Char → Bool
  | [], sub     => sub.isEmpty
  | c :: s, sub => bif startsWith sub (c :: s) then true else contains s sub

/-- The letters are the same. -/
def equal : List Char → List Char → Bool
  | [], []          => true
  | c :: s, d :: s' => bif Nat.beq c.toNat d.toNat then equal s s' else false
  | _, _            => false

/-! ### The searches agree with those on strings -/

/-- Characters are compared by their codes, which the kernel does fast. -/
theorem beq_code (c d : Char) : Nat.beq c.toNat d.toNat = (c == d) := by
  rw [Bool.eq_iff_iff, Nat.beq_eq, beq_iff_eq]
  exact Char.toNat_inj

/-- The comparison of a prefix letter by letter. -/
theorem startsWith_eq (sub s : List Char) : startsWith sub s = sub.isPrefixOf s := by
  induction sub generalizing s with
  | nil => rfl
  | cons c sub ih =>
      cases s with
      | nil => rfl
      | cons d s =>
          rw [startsWith, List.isPrefixOf, beq_code, ih]
          cases c == d with
          | true => rfl
          | false => rfl

theorem equal_self (s : List Char) : equal s s = true := by
  induction s with
  | nil => rfl
  | cons c s ih => rw [equal, Nat.beq_refl, cond_true, ih]

/-- A search in the letters is the search of `strstr`. -/
theorem contains_eq (s sub : List Char) : contains s sub = strstr.go s sub := by
  induction s with
  | nil => rfl
  | cons c s ih =>
      rw [contains, strstr.go, startsWith_eq, ih]
      cases sub.isPrefixOf (c :: s) with
      | true => rfl
      | false => rfl

/-- A search in a text is a search in its letters. -/
theorem strstr_ofList (s sub : List Char) :
    strstr (String.ofList s) (String.ofList sub) = contains s sub := by
  rw [strstr, String.toList_ofList, String.toList_ofList, contains_eq]

end Letters

/-! ### Tables of texts -/

/-- A table of texts, and the table of their letters. -/
inductive Spelled {β : Type} : List (List Char × β) → List (String × β) → Prop where
  | nil : Spelled [] []
  | cons {s : List Char} {b : β} {letters : List (List Char × β)} {texts : List (String × β)} :
      Spelled letters texts → Spelled ((s, b) :: letters) ((String.ofList s, b) :: texts)

/-- Every text of the table has its letters in the spelled table. -/
theorem Spelled.exists_mem {β : Type} {letters : List (List Char × β)}
    {texts : List (String × β)} (h : Spelled letters texts) {text : String} {b : β}
    (hmem : (text, b) ∈ texts) : ∃ s, String.ofList s = text ∧ (s, b) ∈ letters := by
  induction h with
  | nil => cases hmem
  | @cons s b' letters texts _ ih =>
      rcases List.mem_cons.mp hmem with heq | hmem
      · cases heq
        exact ⟨s, rfl, List.mem_cons_self⟩
      · obtain ⟨s', hs', hmem'⟩ := ih hmem
        exact ⟨s', hs', List.mem_cons_of_mem _ hmem'⟩

/-- Two texts are different when their letters are. -/
theorem Spelled.nodup {β : Type} {letters : List (List Char × β)} {texts : List (String × β)}
    (h : Spelled letters texts)
    (hne : letters.Pairwise fun p q => Letters.equal p.1 q.1 = false) :
    (texts.map (·.1)).Nodup := by
  induction h with
  | nil => exact List.nodup_nil
  | @cons s b letters texts htexts ih =>
      obtain ⟨hs, hletters⟩ := List.pairwise_cons.mp hne
      rw [List.map_cons, List.nodup_cons]
      refine ⟨fun hmem => ?_, ih hletters⟩
      obtain ⟨⟨text, b'⟩, hmem, htext⟩ := List.mem_map.mp hmem
      obtain ⟨s', hs', hmem'⟩ := htexts.exists_mem hmem
      have heq : s' = s := String.ofList_injective (hs'.trans htext)
      have hdiff := hs _ hmem'
      rw [heq, Letters.equal_self] at hdiff
      cases hdiff

end EponManager.Lib
