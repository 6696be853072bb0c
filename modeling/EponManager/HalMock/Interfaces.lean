import EponManager.Controller.InterfaceStatus
import EponManager.HalMock.Mock

/-!
# The mock's interface list

The mock searches its list for the name in the command and stores the name cut off to
`EPON_HAL_INTERFACE_NAME_LEN - 1` characters. A name that is too long is never found, so it is
appended each time. `Repeats` is the one situation in which that does harm: the name is too long,
its beginning is in the list already, and there is space for another entry.

* `updateInterface_spec` says what an accepted name does to the list.
* `updateInterface_nodup_iff`: the names stay distinct exactly when the update is no repeat.
* `updateInterface_eq_update_iff`: the update is the one that the controller makes when it is called
  back exactly when it is no repeat.
-/

namespace EponManager.HalMock

open Lib

/-- The names in an interface list. -/
def names (l : InterfaceList) : List CharBuf := l.entries.map InterfaceInfo.key

/-- Every name is as the mock stores names. -/
def Canonical (limits : HalLimits) (l : InterfaceList) : Prop :=
  ∀ e ∈ l.entries, e.name = interfaceName limits e.name

/-- The name is too long, its beginning is in the list and there is space for it. -/
def Repeats (limits : HalLimits) (name : CharBuf) (l : InterfaceList) : Prop :=
  limits.interfaceNameLen ≤ (cstr name).length ∧ cstr (interfaceName limits name) ∈ names l ∧
    l.interfaceCount < limits.maxInterfaces

instance (limits : HalLimits) (name : CharBuf) (l : InterfaceList) :
    Decidable (Repeats limits name l) :=
  inferInstanceAs (Decidable (_ ∧ _ ∧ _))

section Names

variable {limits : HalLimits} (name : CharBuf)

theorem cstr_interfaceName :
    cstr (interfaceName limits name) = (cstr name).take (limits.interfaceNameLen - 1) :=
  cstr_append_nul fun _ hc => ne_nul_of_mem_cstr (List.mem_of_mem_take hc)

/-- A name that was cut once is not cut again. -/
theorem interfaceName_interfaceName :
    interfaceName limits (interfaceName limits name) = interfaceName limits name := by
  rw [interfaceName, cstr_interfaceName, List.take_take, min_self, interfaceName]

/-- A name that fits is stored in full. -/
theorem cstr_interfaceName_of_short (hshort : (cstr name).length < limits.interfaceNameLen) :
    cstr (interfaceName limits name) = cstr name := by
  rw [cstr_interfaceName, List.take_of_length_le (by omega)]

variable (hlen : 0 < limits.interfaceNameLen)

include hlen

theorem length_cstr_interfaceName :
    (cstr (interfaceName limits name)).length < limits.interfaceNameLen := by
  rw [cstr_interfaceName, List.length_take]
  omega

theorem terminated_interfaceName :
    Terminated limits.interfaceNameLen (interfaceName limits name) := by
  have hshort := length_cstr_interfaceName name hlen
  rw [cstr_interfaceName] at hshort
  exact terminated_append_nul hshort

/-- **A stored name is the name of a command** exactly when the whole of it is. -/
theorem strncmpEq_interfaceName_iff {a : CharBuf} :
    strncmpEq (interfaceName limits a) name limits.interfaceNameLen ↔
      cstr (interfaceName limits a) = cstr name := by
  have ha := length_cstr_interfaceName a hlen
  rw [strncmpEq_iff_take, List.take_of_length_le (Nat.le_of_lt ha)]
  constructor
  · intro h
    have hcut : (cstr name).length ≤ limits.interfaceNameLen := by
      by_contra hlong
      have hlength := congrArg List.length h
      rw [List.length_take] at hlength
      omega
    rwa [List.take_of_length_le hcut] at h
  · intro h
    rw [← h, List.take_of_length_le (Nat.le_of_lt ha)]

end Names

/-! ### One update -/

section Update

variable {limits : HalLimits} {l : InterfaceList}

/-- The names are those of the cells below the count. -/
theorem mem_names {k : CharBuf} :
    k ∈ names l ↔ ∃ i < l.interfaceCount.toNat, cstr (l.interface i).name = k := by
  rw [names, List.mem_map]
  constructor
  · rintro ⟨e, he, rfl⟩
    obtain ⟨i, hi, rfl⟩ := InterfaceList.mem_entries.mp he
    exact ⟨i, hi, rfl⟩
  · rintro ⟨i, hi, rfl⟩
    exact ⟨_, InterfaceList.mem_entries.mpr ⟨i, hi, rfl⟩, rfl⟩

/-- A cell is what storing its name would write. -/
theorem Canonical.cell (hl : Canonical limits l) {i : Nat} (hi : i < l.interfaceCount.toNat) :
    (l.interface i).name = interfaceName limits (l.interface i).name :=
  hl _ (InterfaceList.mem_entries.mpr ⟨i, hi, rfl⟩)

variable (hlen : 0 < limits.interfaceNameLen) (hl : Canonical limits l)

include hlen hl

/-- Comparing a cell with a name is comparing the names. -/
theorem Canonical.strncmpEq_cell_iff {i : Nat} (hi : i < l.interfaceCount.toNat) (name : CharBuf) :
    strncmpEq (l.interface i).name name limits.interfaceNameLen ↔
      cstr (l.interface i).name = cstr name := by
  rw [hl.cell hi]
  exact strncmpEq_interfaceName_iff name hlen

/-- The search stops at the first entry with the name. -/
theorem Canonical.find_congr {a b : CharBuf} (hab : cstr a = cstr b) :
    l.find limits a = l.find limits b := by
  rw [InterfaceList.find, InterfaceList.find, ← List.head?_filter, ← List.head?_filter]
  congr 1
  refine List.filter_congr fun i hi => ?_
  have hi' := List.mem_range.mp hi
  rw [Bool.eq_iff_iff, hl.strncmpEq_cell_iff hlen hi', hl.strncmpEq_cell_iff hlen hi', hab]

theorem Canonical.find_eq_none_iff (name : CharBuf) :
    l.find limits name = none ↔ cstr name ∉ names l := by
  rw [InterfaceList.find, List.find?_eq_none, mem_names]
  constructor
  · rintro h ⟨i, hi, heq⟩
    exact h i (List.mem_range.mpr hi) ((hl.strncmpEq_cell_iff hlen hi name).mpr heq)
  · intro h i hi hmatch
    have hi' := List.mem_range.mp hi
    exact h ⟨i, hi', (hl.strncmpEq_cell_iff hlen hi' name).mp hmatch⟩

/-! ### What an update does to the names -/

/-- A name that is found is not too long. -/
theorem Canonical.short_of_mem {name : CharBuf} (hname : cstr name ∈ names l) :
    (cstr name).length < limits.interfaceNameLen := by
  obtain ⟨i, hi, heq⟩ := mem_names.mp hname
  rw [← heq, hl.cell hi]
  exact length_cstr_interfaceName _ hlen

/-- **What an accepted name does to the list**: its entry is updated where it is, or one is
appended. -/
theorem updateInterface_spec {name : CharBuf} {status : InterfaceStatus} {l' : InterfaceList}
    (h : updateInterface limits name status l = some l') :
    (∃ i < l.interfaceCount.toNat, l.find limits name = some i ∧ cstr name ∈ names l ∧
      l' = l.store i ⟨interfaceName limits name, status⟩) ∨
    (l.find limits name = none ∧ cstr name ∉ names l ∧
      l.interfaceCount < limits.maxInterfaces ∧
      l' = { l.store l.interfaceCount.toNat ⟨interfaceName limits name, status⟩ with
        interfaceCount := l.interfaceCount + 1 }) := by
  rw [updateInterface] at h
  cases hfind : l.find limits name with
  | some i =>
      rw [hfind] at h
      cases h
      obtain ⟨hi, hmatch, -⟩ := InterfaceList.find_eq_some hfind
      have heq := (hl.strncmpEq_cell_iff hlen hi name).mp hmatch
      have hname : (l.interface i).name = interfaceName limits name := by
        rw [hl.cell hi, interfaceName, heq, ← interfaceName]
      refine .inl ⟨i, hi, rfl, mem_names.mpr ⟨i, hi, heq⟩, ?_⟩
      show l.store i ⟨(l.interface i).name, status⟩ = _
      rw [hname]
  | none =>
      rw [hfind] at h
      by_cases hspace : l.interfaceCount < limits.maxInterfaces
      · simp only [if_pos hspace] at h
        cases h
        exact .inr ⟨rfl, (hl.find_eq_none_iff hlen name).mp hfind, hspace, rfl⟩
      · simp only [if_neg hspace] at h
        cases h

/-- The names after an accepted update. -/
theorem names_updateInterface {name : CharBuf} {status : InterfaceStatus} {l' : InterfaceList}
    (h : updateInterface limits name status l = some l') :
    names l' = if cstr name ∈ names l then names l
      else names l ++ [cstr (interfaceName limits name)] := by
  rcases updateInterface_spec hlen hl h with ⟨i, hi, hfind, hmem, rfl⟩ | ⟨-, hnew, hspace, rfl⟩
  · obtain ⟨-, hmatch, -⟩ := InterfaceList.find_eq_some hfind
    have heq := (hl.strncmpEq_cell_iff hlen hi name).mp hmatch
    have hshort := hl.short_of_mem hlen hmem
    have hcell : (names l)[i]? = some (cstr (interfaceName limits name)) := by
      rw [names, List.getElem?_map, InterfaceList.entries_getElem?, if_pos hi,
        cstr_interfaceName_of_short name hshort, ← heq]
      rfl
    rw [if_pos hmem, names, InterfaceList.store_entries, List.map_set]
    obtain ⟨hi', hget⟩ := List.getElem?_eq_some_iff.mp hcell
    show (names l).set i (cstr (interfaceName limits name)) = names l
    rw [← hget, List.set_getElem_self]
  · rw [if_neg hnew, names, InterfaceList.append_entries l _ (InterfaceList.count_succ hspace),
      List.map_append]
    rfl

/-- An update writes a name in this form, or none. -/
theorem Canonical.updateInterface {name : CharBuf} {status : InterfaceStatus} {l' : InterfaceList}
    (h : updateInterface limits name status l = some l') : Canonical limits l' := by
  rcases updateInterface_spec hlen hl h with ⟨i, hi, -, -, rfl⟩ | ⟨-, -, hspace, rfl⟩
  · intro e he
    rw [InterfaceList.store_entries] at he
    rcases List.mem_or_eq_of_mem_set he with hold | rfl
    · exact hl e hold
    · exact (interfaceName_interfaceName name).symm
  · intro e he
    rw [InterfaceList.append_entries l _ (InterfaceList.count_succ hspace), List.mem_append,
      List.mem_singleton] at he
    rcases he with hold | rfl
    · exact hl e hold
    · exact (interfaceName_interfaceName name).symm

/-- **An accepted name that fits is accepted again**, and then changes nothing. -/
theorem updateInterface_again {name : CharBuf} {status : InterfaceStatus} {l' : InterfaceList}
    (h : updateInterface limits name status l = some l')
    (hshort : (cstr name).length < limits.interfaceNameLen) :
    updateInterface limits name status l' = some l' := by
  have hmatch : strncmpEq (interfaceName limits name) name limits.interfaceNameLen = true :=
    (strncmpEq_interfaceName_iff name hlen).mpr (cstr_interfaceName_of_short name hshort)
  rcases updateInterface_spec hlen hl h with ⟨i, hi, hfind, -, rfl⟩ | ⟨hnone, -, hspace, rfl⟩
  · have hfind' : (l.store i ⟨interfaceName limits name, status⟩).find limits name = some i := by
      obtain ⟨-, -, hfirst⟩ := InterfaceList.find_eq_some hfind
      rw [InterfaceList.find, List.find?_range_eq_some]
      refine ⟨?_, List.mem_range.mpr hi, fun j hj => ?_⟩
      · simpa [InterfaceList.store] using hmatch
      · simpa [InterfaceList.store, Nat.ne_of_lt hj] using hfirst j hj
    rw [HalMock.updateInterface, hfind']
    simp [setStatus, InterfaceList.store]
  · have hfind' : InterfaceList.find limits { l.store l.interfaceCount.toNat
        ⟨interfaceName limits name, status⟩ with interfaceCount := l.interfaceCount + 1 } name =
        some l.interfaceCount.toNat := by
      rw [InterfaceList.find, List.find?_range_eq_some]
      refine ⟨?_, ?_, fun j hj => ?_⟩
      · simpa [InterfaceList.store] using hmatch
      · rw [InterfaceList.count_succ hspace]
        exact List.mem_range.mpr (Nat.lt_succ_self _)
      · have hother := InterfaceList.find_eq_none hnone j hj
        simpa [InterfaceList.store, Nat.ne_of_lt hj] using hother
    rw [HalMock.updateInterface, hfind']
    simp [setStatus, InterfaceList.store]

/-- **The names stay distinct** exactly when the update is no repeat. -/
theorem updateInterface_nodup_iff {name : CharBuf} {status : InterfaceStatus} {l' : InterfaceList}
    (h : updateInterface limits name status l = some l') (hdistinct : (names l).Nodup) :
    (names l').Nodup ↔ ¬ Repeats limits name l := by
  rw [names_updateInterface hlen hl h]
  -- a name that is found is overwritten; one that is not is appended, cut to its cell
  by_cases hmem : cstr name ∈ names l
  · have hshort := hl.short_of_mem hlen hmem
    rw [if_pos hmem]
    constructor
    · rintro - ⟨hlong, -, -⟩
      omega
    · intro _
      exact hdistinct
  · rw [if_neg hmem]
    have hspace : l.interfaceCount < limits.maxInterfaces := by
      rcases updateInterface_spec hlen hl h with ⟨-, -, -, hmem', -⟩ | ⟨-, -, hspace, -⟩
      · exact absurd hmem' hmem
      · exact hspace
    rw [List.nodup_append]
    constructor
    · rintro ⟨-, -, hdisjoint⟩ ⟨-, hkey, -⟩
      exact hdisjoint _ hkey _ (List.mem_singleton.mpr rfl) rfl
    · intro hno
      refine ⟨hdistinct, List.nodup_singleton _, ?_⟩
      intro k hk k' hk' hkk'
      rw [List.mem_singleton] at hk'
      subst hkk' hk'
      refine hno ⟨?_, hk, hspace⟩
      by_contra hshort
      rw [cstr_interfaceName_of_short name (by omega)] at hk
      exact hmem hk

/-! ### The mock's update and the manager's

The mock looks for the whole name and stores what fits; the manager looks for what is stored. They
agree unless a name that is too long is there already.
-/

/-- **The mock and the controller make the same update** exactly when it is no repeat. -/
theorem updateInterface_eq_update_iff {name : CharBuf} {status : InterfaceStatus}
    {l' : InterfaceList} (h : updateInterface limits name status l = some l') :
    l.update limits ⟨interfaceName limits name, status⟩ = l' ↔ ¬ Repeats limits name l := by
  rcases updateInterface_spec hlen hl h with ⟨i, hi, hfind, hmem, rfl⟩ | ⟨-, hnew, hspace, rfl⟩
  · have hshort := hl.short_of_mem hlen hmem
    have hfind' : l.find limits (interfaceName limits name) = some i := by
      rw [hl.find_congr hlen (cstr_interfaceName_of_short name hshort), hfind]
    constructor
    · rintro - ⟨hlong, -, -⟩
      omega
    · intro _
      simp only [InterfaceList.update, hfind']
  · by_cases hkey : cstr (interfaceName limits name) ∈ names l
    · -- the controller finds the entry that was made for the beginning of the name
      have hlong : limits.interfaceNameLen ≤ (cstr name).length := by
        by_contra hshort
        rw [cstr_interfaceName_of_short name (by omega)] at hkey
        exact hnew hkey
      constructor
      · intro heq
        exfalso
        cases hfind' : l.find limits (interfaceName limits name) with
        | some i =>
            simp only [InterfaceList.update, hfind'] at heq
            have hcount := congrArg (fun l => l.interfaceCount.toNat) heq
            have hsucc := InterfaceList.count_succ hspace
            simp only [InterfaceList.store] at hcount
            omega
        | none => exact (hl.find_eq_none_iff hlen _).mp hfind' hkey
      · intro hno
        exact absurd ⟨hlong, hkey, hspace⟩ hno
    · have hfind' := (hl.find_eq_none_iff hlen _).mpr hkey
      constructor
      · rintro - ⟨-, hkey', -⟩
        exact hkey hkey'
      · intro _
        simp only [InterfaceList.update, hfind', if_pos hspace]

/-- A repeat makes the list longer. -/
theorem Repeats.length_names {name : CharBuf} {status : InterfaceStatus} {l' : InterfaceList}
    (hrepeats : Repeats limits name l) (h : updateInterface limits name status l = some l') :
    (names l').length = (names l).length + 1 := by
  obtain ⟨hlong, -, -⟩ := hrepeats
  have hnew : cstr name ∉ names l := fun hname => by
    have hshort := hl.short_of_mem hlen hname
    omega
  rw [names_updateInterface hlen hl h, if_neg hnew, List.length_append, List.length_singleton]

/-- **As tables of latest records**: the update is an upsert exactly when it is no repeat. -/
theorem updateInterface_entries_iff {name : CharBuf} {status : InterfaceStatus}
    {l' : InterfaceList} (h : updateInterface limits name status l = some l') :
    l'.entries = upsert InterfaceInfo.key ⟨interfaceName limits name, status⟩ l.entries ↔
      ¬ Repeats limits name l := by
  constructor
  · intro heq hrepeats
    have hlength := hrepeats.length_names hlen hl h
    have hmem : cstr (interfaceName limits name) ∈ l.entries.map InterfaceInfo.key :=
      hrepeats.2.1
    rw [names, heq, map_upsert, InterfaceInfo.key, if_pos hmem, names] at hlength
    omega
  · intro hno
    rw [← (updateInterface_eq_update_iff hlen hl h).mpr hno]
    refine InterfaceList.update_entries (fun e he => ?_) (terminated_interfaceName name hlen) ?_
    · rw [hl e he]
      exact terminated_interfaceName e.name hlen
    · rcases updateInterface_spec hlen hl h with ⟨-, -, -, hmem, -⟩ | ⟨-, -, hspace, -⟩
      · left
        rw [InterfaceInfo.key, cstr_interfaceName_of_short name (hl.short_of_mem hlen hmem)]
        exact hmem
      · exact .inr hspace

/-- An update that changes no entry is no repeat. -/
theorem not_repeats_of_entries_eq {name : CharBuf} {status : InterfaceStatus}
    {l' : InterfaceList} (h : updateInterface limits name status l = some l')
    (heq : l'.entries = l.entries) : ¬ Repeats limits name l := by
  intro hrepeats
  have hlength := hrepeats.length_names hlen hl h
  rw [names, heq, names] at hlength
  omega

end Update

end EponManager.HalMock
