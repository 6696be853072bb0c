import EponManager.StoredConfig

/-!
# Records that say nothing

`eponMgr_persistence_load` is to keep the value of a field whose record is invalid. What counts as
invalid is left to `atoi`, which reads the digits that a text starts with and calls everything else
zero, and to a comparison with the three words for true, which calls everything else false.

* `PsmRecord.wellFormed` is the value of a text that is valid as a whole; `Persistence.specified` is
  what the field is to be.
* `parse_of_wellFormed` and `parse_of_cut_off` compare it with what the getters read.
* `load_keeps_invalid_iff`: exactly when a field is what it is to be.
-/

namespace EponManager

open Lib

/-! ### Texts that are valid as a whole -/

namespace PsmRecord

/-- A numeral with a value in a range. -/
def numberIn (low high : Nat) (text : String) : Option PsmValue :=
  (numeralValue text.toList).bind fun n =>
    if low ≤ n ∧ n ≤ high then some (.number (UInt32.ofNat n)) else none

/-- One of the words for true and false. -/
def truthOf (text : String) : Option PsmValue :=
  if text ∈ ["TRUE", "true", "1"] then some (.truth true)
  else if text ∈ ["FALSE", "false", "0"] then some (.truth false)
  else none

/-- The value of a text that is valid as a whole. -/
def wellFormed : PsmRecord → String → Option PsmValue
  | .cacheTtl            => numberIn 1 300
  | .dpoeEnable          => truthOf
  | .statsPollerEnabled  => truthOf
  | .statsPollerInterval => numberIn 60 3600

/-- The characters of a text that fit into the getter's buffer. -/
def bufferLength : PsmRecord → Nat
  | .cacheTtl            => 31
  | .dpoeEnable          => 15
  | .statsPollerEnabled  => 15
  | .statsPollerInterval => 31

/-- The record is read as it is meant, or the difference does not show: a valid text fits into the
buffer, and what is read from an invalid one is not accepted or is the value from before. -/
def ReadAsMeant (r : PsmRecord) (text : String) (before : PsmValue) : Prop :=
  match r.wellFormed text with
  | some v => text.toList.length ≤ r.bufferLength ∨ ¬ r.Accepts (r.parse text) ∧ before = v
  | none   => ¬ r.Accepts (r.parse text) ∨ r.parse text = before

/-! ### What the getters read -/

section Numbers

variable {low high : Nat} {text : String} {v : PsmValue}

theorem numberIn_eq_some (h : numberIn low high text = some v) :
    ∃ n, numeralValue text.toList = some n ∧ (low ≤ n ∧ n ≤ high) ∧
      v = .number (UInt32.ofNat n) := by
  obtain ⟨n, hn, hv⟩ := Option.bind_eq_some_iff.mp h
  obtain ⟨hrange, hv⟩ := Option.ite_none_right_eq_some.mp hv
  exact ⟨n, hn, hrange, (Option.some.inj hv).symm⟩

theorem range_of_numberIn (hhigh : high < 2 ^ 32) (h : numberIn low high text = some v) :
    ∃ m : UInt32, v = .number m ∧ low ≤ m.toNat ∧ m.toNat ≤ high := by
  obtain ⟨n, -, hrange, rfl⟩ := numberIn_eq_some h
  refine ⟨_, rfl, ?_⟩
  rw [UInt32.toNat_ofNat', Nat.mod_eq_of_lt (by omega)]
  exact hrange

/-- A numeral that fits into the buffer is read. -/
theorem uintOf_of_numberIn (hhigh : high < 2 ^ 32) (h : numberIn low high text = some v)
    (hlen : text.toList.length ≤ 31) : PsmValue.number (Psm.uintOf text) = v := by
  obtain ⟨n, hn, hrange, rfl⟩ := numberIn_eq_some h
  rw [Psm.uintOf, List.take_of_length_le hlen, atoiU32_of_numeralValue hn (by omega)]

/-- A longer one is read as another number. -/
theorem uintOf_of_cut_off (hlow : 0 < low) (hhigh : high < 2 ^ 32)
    (h : numberIn low high text = some v) (hlen : 31 < text.toList.length) :
    PsmValue.number (Psm.uintOf text) ≠ v := by
  obtain ⟨n, hn, hrange, rfl⟩ := numberIn_eq_some h
  have hvalue := (numeralValue_eq_some.mp hn).2
  have hlt := ofDigitChars_take_lt (s := text.toList) (by omega) hlen
  rw [Psm.uintOf, atoiU32_of_numeralValue (numeralValue_take hn (by decide)) (by omega)]
  intro heq
  have htoNat := congrArg UInt32.toNat (PsmValue.number.inj heq)
  rw [UInt32.toNat_ofNat', UInt32.toNat_ofNat', Nat.mod_eq_of_lt (by omega),
    Nat.mod_eq_of_lt (by omega)] at htoNat
  omega

end Numbers

/-- One of the six words is read as it is meant, and fits into the buffer. -/
theorem boolOf_of_truthOf {text : String} {v : PsmValue} (h : truthOf text = some v) :
    PsmValue.truth (Psm.boolOf text) = v ∧ text.toList.length ≤ 15 := by
  rw [truthOf] at h
  split at h
  · rename_i hmem
    cases h
    simp only [List.mem_cons, List.not_mem_nil, or_false] at hmem
    rcases hmem with rfl | rfl | rfl <;> decide
  · obtain ⟨hmem, hv⟩ := Option.ite_none_right_eq_some.mp h
    cases hv
    simp only [List.mem_cons, List.not_mem_nil, or_false] at hmem
    rcases hmem with rfl | rfl | rfl <;> decide

/-! ### What is accepted -/

/-- **A valid text that fits into the buffer is read and accepted.** -/
theorem parse_of_wellFormed {r : PsmRecord} {text : String} {v : PsmValue}
    (h : r.wellFormed text = some v) (hlen : text.toList.length ≤ r.bufferLength) :
    r.parse text = v ∧ r.Accepts v := by
  cases r with
  | cacheTtl =>
      refine ⟨uintOf_of_numberIn (by decide) h hlen, ?_⟩
      obtain ⟨m, rfl, hlow, hhigh⟩ := range_of_numberIn (by decide) h
      exact ⟨UInt32.le_iff_toNat_le.mpr hlow, UInt32.le_iff_toNat_le.mpr hhigh⟩
  | dpoeEnable => exact ⟨(boolOf_of_truthOf h).1, trivial⟩
  | statsPollerEnabled => exact ⟨(boolOf_of_truthOf h).1, trivial⟩
  | statsPollerInterval =>
      refine ⟨uintOf_of_numberIn (by decide) h hlen, ?_⟩
      obtain ⟨m, rfl, hlow, hhigh⟩ := range_of_numberIn (by decide) h
      exact ⟨UInt32.le_iff_toNat_le.mpr hlow, UInt32.le_iff_toNat_le.mpr hhigh⟩

/-- **A valid text that is cut off is read as another value.** -/
theorem parse_of_cut_off {r : PsmRecord} {text : String} {v : PsmValue}
    (h : r.wellFormed text = some v) (hlen : r.bufferLength < text.toList.length) :
    r.parse text ≠ v := by
  cases r with
  | cacheTtl => exact uintOf_of_cut_off (by decide) (by decide) h hlen
  | dpoeEnable => exact absurd hlen (Nat.not_lt.mpr (boolOf_of_truthOf h).2)
  | statsPollerEnabled => exact absurd hlen (Nat.not_lt.mpr (boolOf_of_truthOf h).2)
  | statsPollerInterval => exact uintOf_of_cut_off (by decide) (by decide) h hlen

/-- What is stored is the valid value or the one from before, if and only if the text is read as it
is meant. -/
theorem accepted_iff_readAsMeant (r : PsmRecord) (text : String) (before : PsmValue) :
    (if r.Accepts (r.parse text) then r.parse text else before) =
      (r.wellFormed text).getD before ↔ r.ReadAsMeant text before := by
  rw [ReadAsMeant]
  cases hvalid : r.wellFormed text with
  | none =>
      show _ = before ↔ (_ ∨ _)
      by_cases haccepts : r.Accepts (r.parse text)
      · rw [if_pos haccepts]
        exact (or_iff_right (not_not_intro haccepts)).symm
      · rw [if_neg haccepts]
        exact iff_of_true rfl (.inl haccepts)
  | some v =>
      show _ = v ↔ (_ ∨ _)
      by_cases hlen : text.toList.length ≤ r.bufferLength
      · obtain ⟨hparse, haccepts⟩ := parse_of_wellFormed hvalid hlen
        rw [hparse, if_pos haccepts]
        exact iff_of_true rfl (.inl hlen)
      · have hne := parse_of_cut_off hvalid (Nat.lt_of_not_le hlen)
        rw [or_iff_right hlen]
        by_cases haccepts : r.Accepts (r.parse text)
        · rw [if_pos haccepts]
          exact iff_of_false hne fun h => h.1 haccepts
        · rw [if_neg haccepts]
          exact (and_iff_right haccepts).symm

end PsmRecord

/-! ### Loading -/

namespace Persistence

/-- What a field is to be after loading: the value of a valid text, or its own. -/
def specified (config : Persistence) (text : Option String) (r : PsmRecord) : PsmValue :=
  (text.bind r.wellFormed).getD (r.field config)

/-- The text that loading reads from a record, if it can. -/
def textRead (env : Env) (w : World) (r : PsmRecord) : Option String :=
  if w.rbusInitialized && env.psmGet (w.tick + r.position) then w.psm r.key else none

/-- Loading returns, whether rbus is open or not. -/
theorem load_alone (config : Persistence) (env : Env) (w : World) :
    ∃ w', Prog.alone config.load env w =
      some (config.loaded (fun r => w.rbusInitialized && env.psmGet (w.tick + r.position)) w.psm,
        w') := by
  cases hrbus : w.rbusInitialized with
  | true =>
      simp only [Bool.true_and]
      exact ⟨_, Prog.alone_eq_some.mpr ⟨_, load_run (s := ⟨fun _ => 0, w⟩) hrbus config⟩⟩
  | false =>
      refine ⟨w, Prog.alone_eq_some.mpr ⟨fun _ => 0, ?_⟩⟩
      have hget (param : String) (size : Nat) :
          Psm.getString param size env ⟨fun _ => 0, w⟩ = .ok (none, ⟨fun _ => 0, w⟩) := by
        show (if w.rbusInitialized then _ else _ : M (Option String)) env _ = _
        rw [hrbus]
        rfl
      have huint (param : String) :
          Psm.getUint param env ⟨fun _ => 0, w⟩ = .ok (none, ⟨fun _ => 0, w⟩) :=
        Prog.bind_of_ok (hget param 32)
      have hbool (param : String) :
          Psm.getBool param env ⟨fun _ => 0, w⟩ = .ok (none, ⟨fun _ => 0, w⟩) :=
        Prog.bind_of_ok (hget param 16)
      rw [load, Prog.bind_of_ok (huint _), Prog.bind_of_ok (hbool _), Prog.bind_of_ok (hbool _),
        Prog.bind_of_ok (huint _)]
      rfl

end Persistence

open Persistence in
/-- **When a field is loaded as it is to be**: for every configuration, content of PSM and pattern
of failing reads, a field gets the value of its record, or keeps its own where the record is absent,
unreadable or invalid, if and only if the text that is read, if any, is read as it is meant. -/
theorem load_keeps_invalid_iff (config : Persistence) (env : Env) (w : World) :
    ∃ config' w', Prog.alone config.load env w = some (config', w') ∧ ∀ r : PsmRecord,
      (r.field config' = config.specified (textRead env w r) r ↔
        ∀ text, textRead env w r = some text → r.ReadAsMeant text (r.field config)) := by
  obtain ⟨w', hrun⟩ := load_alone config env w
  refine ⟨_, w', hrun, fun r => ?_⟩
  rw [field_loaded, loadedValue, textRead]
  by_cases hreads : (w.rbusInitialized && env.psmGet (w.tick + r.position)) = true
  · rw [if_pos hreads, if_pos hreads, PsmRecord.denotes]
    cases htext : w.psm r.key with
    | none => simp [specified]
    | some text =>
        simp only [Option.map_some, Option.some.injEq, forall_eq']
        exact r.accepted_iff_readAsMeant text (r.field config)
  · rw [if_neg hreads, if_neg hreads]
    simp [specified]

/-- PSM holds `60abc` for the TTL of the caches. -/
def trailingText : World :=
  { World.ready with psm := fun key => if key = Psm.cacheTtl then some "60abc" else none }

/-- `60abc` is no number, but the TTL is set to 60. -/
theorem trailing_text_is_loaded :
    ∃ config' w', Persistence.textRead Env.quiet trailingText .cacheTtl = some "60abc" ∧
      PsmRecord.cacheTtl.wellFormed "60abc" = none ∧
      Prog.alone Persistence.initDefaults.load Env.quiet trailingText = some (config', w') ∧
      Persistence.initDefaults.cacheTtlSeconds = 30 ∧ config'.cacheTtlSeconds = 60 := by
  obtain ⟨w', hrun⟩ := Persistence.load_alone Persistence.initDefaults Env.quiet trailingText
  exact ⟨_, w', by decide +kernel, by decide +kernel, hrun, rfl, by decide +kernel⟩

end EponManager
