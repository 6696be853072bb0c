import EponManager.Controller.Events
import EponManager.Lib.StepSystem

/-!
# The interface list under concurrent refresh

`process_interface_status_event` takes no mutex, so a refresh of the interface list by another
thread can come between any two of its steps: each iteration of its search loop, the test of the
count, the store into a cell, and the increment of the count. A refresh replaces the whole list.

* `ListRace.step` is the interleaving; without a refresh it is `InterfaceList.update`
  (`ListRace.steps_update`).
* `Compatible pc l`: what the controller's thread has found out before it stopped at `pc` is true of
  the refreshed list `l` as well, as far as the rest of its steps rely on it.
* `interface_list_well_formed_iff`: in a run all of whose refreshes are compatible the list stays
  well formed, and after one that is not the controller's thread alone destroys it.
-/

namespace EponManager

open Lib

/-- The part of a name that `strncmp` compares. -/
def HalLimits.nameOf (limits : HalLimits) (info : InterfaceInfo) : CharBuf :=
  (cstr info.name).take limits.interfaceNameLen

namespace InterfaceList

/-- The names of the first `n` cells are pairwise distinct. -/
def DistinctBelow (limits : HalLimits) (l : InterfaceList) (n : Nat) : Prop :=
  ∀ i < n, ∀ j < i, limits.nameOf (l.interface j) ≠ limits.nameOf (l.interface i)

/-- None of the first `n` cells has the name of `info`. -/
def Absent (limits : HalLimits) (l : InterfaceList) (info : InterfaceInfo) (n : Nat) : Prop :=
  ∀ j < n, limits.nameOf (l.interface j) ≠ limits.nameOf info

/-- The list is well formed if `n` is its count. -/
def WellFormedWith (limits : HalLimits) (l : InterfaceList) (n : UInt32) : Prop :=
  n ≤ limits.maxInterfaces ∧ l.DistinctBelow limits n.toNat

def WellFormed (limits : HalLimits) (l : InterfaceList) : Prop :=
  l.WellFormedWith limits l.interfaceCount

instance (limits : HalLimits) (l : InterfaceList) (n : Nat) :
    Decidable (l.DistinctBelow limits n) :=
  inferInstanceAs (Decidable (∀ i < n, ∀ j < i, _))

instance (limits : HalLimits) (l : InterfaceList) : Decidable (l.WellFormed limits) :=
  inferInstanceAs (Decidable (_ ∧ _))

end InterfaceList

/-! ### The interleaving -/

/-- Where the controller's thread is in the part of `process_interface_status_event` that updates
the list. -/
inductive ListPc where
  | idle
  /-- before the test of the loop at index `i` -/
  | scan (info : InterfaceInfo) (i : Nat)
  /-- before the store into the found cell -/
  | found (info : InterfaceInfo) (i : Nat)
  /-- before the test of the count -/
  | notFound (info : InterfaceInfo)
  /-- before the store into the cell `interface_count` -/
  | append (info : InterfaceInfo)
  /-- before the increment, with the count that was the index of the store -/
  | increment (stored : UInt32)

/-- The shared list, the controller's thread, and whether a store went past the array. -/
structure ListRace where
  list : InterfaceList
  pc : ListPc
  overrun : Bool

inductive ListAction where
  /-- the controller's thread takes an event -/
  | event (info : InterfaceInfo)
  /-- its next step; C leaves open whether the increment reads the count once more -/
  | controller (rereads : Bool)
  /-- a complete call of `eponMgr_data_get_interface_list` by another thread -/
  | refresh (l : InterfaceList)

namespace ListRace

/-- One step of the controller's thread. -/
def controllerStep (limits : HalLimits) (rereads : Bool) (s : ListRace) : Option ListRace :=
  match s.pc with
  | .idle => none
  | .scan info i =>
      if i < s.list.interfaceCount.toNat then
        if strncmpEq (s.list.interface i).name info.name limits.interfaceNameLen then
          some { s with pc := .found info i }
        else
          some { s with pc := .scan info (i + 1) }
      else
        some { s with pc := .notFound info }
  | .found info i =>
      some ⟨s.list.store i info, .idle, s.overrun || decide (limits.maxInterfaces.toNat ≤ i)⟩
  | .notFound info =>
      if s.list.interfaceCount < limits.maxInterfaces then some { s with pc := .append info }
      else some { s with pc := .idle }
  | .append info =>
      some ⟨s.list.store s.list.interfaceCount.toNat info, .increment s.list.interfaceCount,
        s.overrun || decide (limits.maxInterfaces ≤ s.list.interfaceCount)⟩
  | .increment stored =>
      some { s with
        list := { s.list with
          interfaceCount := (if rereads then s.list.interfaceCount else stored) + 1 }
        pc := .idle }

/-- The list from the HAL has distinct names and at most `EPON_HAL_MAX_INTERFACES` entries. -/
def step (limits : HalLimits) (s : ListRace) : ListAction → Option ListRace
  | .event info =>
      match s.pc with
      | .idle => some { s with pc := .scan info 0 }
      | _     => none
  | .controller rereads => s.controllerStep limits rereads
  | .refresh l => if l.WellFormed limits then some { s with list := l } else none

/-- The list is well formed, and no store went past the array. -/
structure Ok (limits : HalLimits) (s : ListRace) : Prop where
  wellFormed : s.list.WellFormed limits
  inBounds : s.overrun = false

/-- What the rest of the controller's steps relies on. -/
def Compatible (limits : HalLimits) (l : InterfaceList) : ListPc → Prop
  | .idle => True
  | .scan info i =>
      l.interfaceCount < limits.maxInterfaces → l.Absent limits info (min i l.interfaceCount.toNat)
  | .found info i => i < l.interfaceCount.toNat → ∀ j < l.interfaceCount.toNat, j ≠ i →
      limits.nameOf (l.interface j) ≠ limits.nameOf info
  | .notFound info =>
      l.interfaceCount < limits.maxInterfaces → l.Absent limits info l.interfaceCount.toNat
  | .append info =>
      l.interfaceCount < limits.maxInterfaces ∧ l.Absent limits info l.interfaceCount.toNat
  | .increment stored =>
      l.WellFormedWith limits (l.interfaceCount + 1) ∧ l.WellFormedWith limits (stored + 1)

/-- The condition on a step: a refresh is compatible with what the controller's thread is doing. -/
def CompatibleStep (limits : HalLimits) (s : ListRace) : ListAction → Prop
  | .refresh l => Compatible limits l s.pc
  | _          => True

/-- The invariant. -/
structure Safe (limits : HalLimits) (s : ListRace) : Prop where
  ok : s.Ok limits
  compatible : Compatible limits s.list s.pc
  slot : ∀ info i, s.pc = .found info i → i < limits.maxInterfaces.toNat

end ListRace

/-! ### Distinct names -/

namespace InterfaceList

variable {limits : HalLimits} {l : InterfaceList} {info : InterfaceInfo}

/-- `strncmp` compares as much of a name as the list keeps. -/
theorem matches_iff (e : InterfaceInfo) :
    strncmpEq e.name info.name limits.interfaceNameLen = true ↔
      limits.nameOf e = limits.nameOf info :=
  strncmpEq_iff_take

/-- Storing a name that no other of the first `n` cells has. -/
theorem DistinctBelow.store {n i : Nat} (h : l.DistinctBelow limits n)
    (hother : i < n → ∀ j < n, j ≠ i → limits.nameOf (l.interface j) ≠ limits.nameOf info) :
    (l.store i info).DistinctBelow limits n := by
  intro a ha b hb
  show limits.nameOf (Function.update l.interface i info b) ≠
    limits.nameOf (Function.update l.interface i info a)
  by_cases hai : a = i
  · subst hai
    rw [Function.update_self, Function.update_of_ne (Nat.ne_of_lt hb)]
    exact hother ha b (Nat.lt_trans hb ha) (Nat.ne_of_lt hb)
  · rw [Function.update_of_ne hai]
    by_cases hbi : b = i
    · subst hbi
      rw [Function.update_self]
      exact Ne.symm (hother (Nat.lt_trans hb ha) a ha hai)
    · rw [Function.update_of_ne hbi]
      exact h a ha b hb

/-- One more cell, with a name that is not there. -/
theorem DistinctBelow.succ {n : Nat} (h : l.DistinctBelow limits n)
    (hnew : l.Absent limits (l.interface n) n) : l.DistinctBelow limits (n + 1) := by
  intro i hi j hj
  rcases Nat.lt_succ_iff_lt_or_eq.mp hi with hlt | rfl
  · exact h i hlt j hj
  · exact hnew j hj

/-- Two cells with one name. -/
theorem not_distinctBelow {n i j : Nat} (hi : i < n) (hj : j < n) (hij : i ≠ j)
    (hname : limits.nameOf (l.interface i) = limits.nameOf (l.interface j)) :
    ¬ l.DistinctBelow limits n := by
  intro h
  rcases Nat.lt_or_gt_of_ne hij with hlt | hgt
  · exact h j hj i hlt hname
  · exact h i hi j hgt hname.symm

/-- A name that is not absent is in one of the cells. -/
theorem exists_of_not_absent {n : Nat} (h : ¬ l.Absent limits info n) :
    ∃ j < n, limits.nameOf (l.interface j) = limits.nameOf info := by
  by_contra hnone
  exact h fun j hj hname => hnone ⟨j, hj, hname⟩

end InterfaceList

/-! ### Compatible refreshes keep the list well formed -/

namespace ListRace

variable {limits : HalLimits} {s t : ListRace}

variable {l : InterfaceList} {info : InterfaceInfo} {overrun rereads : Bool}

/-- A cell is compared, or the search is over. -/
theorem Safe.scan {i : Nat} (hs : Safe limits ⟨l, .scan info i, overrun⟩)
    (h : ListRace.controllerStep limits rereads ⟨l, .scan info i, overrun⟩ = some t) :
    t.Safe limits := by
  obtain ⟨⟨⟨hbound, hdistinct⟩, rfl⟩, hcompat, -⟩ := hs
  unfold ListRace.controllerStep at h
  simp only at h
  split at h
  · next hi =>
    split at h
    · -- the name is found: it is the only entry with this name
      next hmatch =>
      cases h
      have hname := (InterfaceList.matches_iff _).mp hmatch
      refine ⟨⟨⟨hbound, hdistinct⟩, rfl⟩, ?_, ?_⟩
      · intro _ j hj hji heq
        exact InterfaceList.not_distinctBelow hj hi hji (heq.trans hname.symm) hdistinct
      · rintro _ _ ⟨⟩
        exact Nat.lt_of_lt_of_le hi (UInt32.le_iff_toNat_le.mp hbound)
    · next hmatch =>
      cases h
      refine ⟨⟨⟨hbound, hdistinct⟩, rfl⟩, ?_, nofun⟩
      intro hspace j hj
      by_cases hji : j = i
      · -- the cell that was compared just now
        subst hji
        exact fun hname => hmatch ((InterfaceList.matches_iff _).mpr hname)
      · apply hcompat hspace j
        show j < min i l.interfaceCount.toNat
        have : j < min (i + 1) l.interfaceCount.toNat := hj
        omega
  · next hi =>
    cases h
    refine ⟨⟨⟨hbound, hdistinct⟩, rfl⟩, ?_, nofun⟩
    intro hspace j hj
    apply hcompat hspace j
    show j < min i l.interfaceCount.toNat
    have : j < l.interfaceCount.toNat := hj
    omega

/-- The entry that was found is overwritten. -/
theorem Safe.found {i : Nat} (hs : Safe limits ⟨l, .found info i, overrun⟩)
    (h : ListRace.controllerStep limits rereads ⟨l, .found info i, overrun⟩ = some t) :
    t.Safe limits := by
  obtain ⟨⟨⟨hbound, hdistinct⟩, rfl⟩, hcompat, hslot⟩ := hs
  cases h
  -- `i` was below the count when the search stopped, whatever the count is now
  have hi := hslot info i rfl
  refine ⟨⟨⟨hbound, ?_⟩, ?_⟩, trivial, nofun⟩
  · exact InterfaceList.DistinctBelow.store hdistinct hcompat
  · show (false || decide (limits.maxInterfaces.toNat ≤ i)) = false
    rw [Bool.false_or, decide_eq_false_iff_not]
    omega

/-- With room the entry may be appended; without, the event is dropped. -/
theorem Safe.notFound (hs : Safe limits ⟨l, .notFound info, overrun⟩)
    (h : ListRace.controllerStep limits rereads ⟨l, .notFound info, overrun⟩ = some t) :
    t.Safe limits := by
  obtain ⟨⟨hwf, rfl⟩, hcompat, -⟩ := hs
  unfold ListRace.controllerStep at h
  simp only at h
  split at h
  · next hspace =>
    cases h
    exact ⟨⟨hwf, rfl⟩, ⟨hspace, hcompat hspace⟩, nofun⟩
  · cases h
    exact ⟨⟨hwf, rfl⟩, trivial, nofun⟩

/-- The entry is stored past the last one, before it is counted. -/
theorem Safe.append (hs : Safe limits ⟨l, .append info, overrun⟩)
    (h : ListRace.controllerStep limits rereads ⟨l, .append info, overrun⟩ = some t) :
    t.Safe limits := by
  obtain ⟨⟨⟨hbound, hdistinct⟩, rfl⟩, hcompat, -⟩ := hs
  cases h
  have hspace : l.interfaceCount < limits.maxInterfaces := hcompat.1
  have habsent : l.Absent limits info l.interfaceCount.toNat := hcompat.2
  have hsucc := InterfaceList.count_succ hspace
  have hle : l.interfaceCount + 1 ≤ limits.maxInterfaces := by
    have hlt : l.interfaceCount.toNat < limits.maxInterfaces.toNat :=
      UInt32.lt_iff_toNat_lt.mp hspace
    rw [UInt32.le_iff_toNat_le, hsucc]
    omega
  -- the cell past the last entry is not compared yet
  have hstore : (l.store l.interfaceCount.toNat info).DistinctBelow limits
      l.interfaceCount.toNat :=
    InterfaceList.DistinctBelow.store hdistinct fun hlt => absurd hlt (Nat.lt_irrefl _)
  have hnext : (l.store l.interfaceCount.toNat info).WellFormedWith limits
      (l.interfaceCount + 1) := by
    refine ⟨hle, ?_⟩
    rw [hsucc]
    apply InterfaceList.DistinctBelow.succ hstore
    intro j hj
    show limits.nameOf (Function.update l.interface _ info j) ≠
      limits.nameOf (Function.update l.interface _ info _)
    rw [Function.update_self, Function.update_of_ne (Nat.ne_of_lt hj)]
    exact habsent j hj
  refine ⟨⟨⟨hbound, hstore⟩, ?_⟩, ⟨hnext, hnext⟩, nofun⟩
  show (false || decide (limits.maxInterfaces ≤ l.interfaceCount)) = false
  rw [Bool.false_or, decide_eq_false_iff_not]
  exact UInt32.not_le.mpr hspace

/-- The entry is counted, with either reading of the count. -/
theorem Safe.increment {stored : UInt32} (hs : Safe limits ⟨l, .increment stored, overrun⟩)
    (h : ListRace.controllerStep limits rereads ⟨l, .increment stored, overrun⟩ = some t) :
    t.Safe limits := by
  obtain ⟨⟨-, rfl⟩, hcompat, -⟩ := hs
  cases h
  refine ⟨⟨?_, rfl⟩, trivial, nofun⟩
  cases rereads with
  | true => exact hcompat.1
  | false => exact hcompat.2

/-! ### A step, and a run -/

/-- **Step lemma**, for the controller's thread. -/
theorem Safe.controllerStep (hs : s.Safe limits)
    (h : s.controllerStep limits rereads = some t) : t.Safe limits := by
  obtain ⟨l, pc, overrun⟩ := s
  cases pc with
  | idle => cases h
  | scan info i => exact hs.scan h
  | found info i => exact hs.found h
  | notFound info => exact hs.notFound h
  | append info => exact hs.append h
  | increment stored => exact hs.increment h

/-- **Step lemma.** -/
theorem Safe.step {a : ListAction} (hs : s.Safe limits) (ha : s.CompatibleStep limits a)
    (h : s.step limits a = some t) : t.Safe limits := by
  cases a with
  | event info =>
      obtain ⟨l, pc, overrun⟩ := s
      cases pc with
      | idle =>
          cases h
          refine ⟨⟨hs.ok.wellFormed, hs.ok.inBounds⟩, fun _ j hj => ?_, fun _ _ hpc => by cases hpc⟩
          rw [Nat.zero_min] at hj
          omega
      | _ => cases h
  | controller rereads => exact hs.controllerStep h
  | refresh l =>
      unfold ListRace.step at h
      simp only at h
      split at h
      · next hl =>
        cases h
        exact ⟨⟨hl, hs.ok.inBounds⟩, ha, hs.slot⟩
      · cases h

/-- **Run lemma.** -/
theorem Safe.exec {as : List ListAction} (hs : s.Safe limits)
    (has : Along (ListRace.step limits) (CompatibleStep limits) s as)
    (h : exec (ListRace.step limits) s as = some t) : t.Safe limits :=
  exec_invariant_along (P := Safe limits) (fun _ _ _ hs ha hstep => hs.step ha hstep) hs has h

/-! ### The search loop

What the loop comes to if nobody interferes; it is used to run on to the point where the damage
shows.
-/

/-- `n` steps of the controller's thread. -/
def controllerSteps (n : Nat) : List ListAction := List.replicate n (.controller true)

/-- An entry with another name is passed over. -/
theorem step_scan_next {l : InterfaceList} {info : InterfaceInfo} {overrun : Bool} {i : Nat}
    (hi : i < l.interfaceCount.toNat) (hno : limits.nameOf (l.interface i) ≠ limits.nameOf info) :
    step limits ⟨l, .scan info i, overrun⟩ (.controller true) =
      some ⟨l, .scan info (i + 1), overrun⟩ := by
  show (if i < l.interfaceCount.toNat then (if _ then _ else _) else _) = _
  rw [if_pos hi, if_neg]
  intro hmatch
  exact hno ((InterfaceList.matches_iff _).mp hmatch)

/-- Without a match, the loop comes to the end. -/
theorem scan_to_end {l : InterfaceList} {info : InterfaceInfo} {overrun : Bool} (n : Nat) {i : Nat}
    (hn : l.interfaceCount.toNat - i = n)
    (hno : ∀ k, i ≤ k → k < l.interfaceCount.toNat →
      limits.nameOf (l.interface k) ≠ limits.nameOf info) :
    exec (step limits) ⟨l, .scan info i, overrun⟩ (controllerSteps (n + 1)) =
      some ⟨l, .notFound info, overrun⟩ := by
  -- the cells that are left to look at
  induction n generalizing i with
  | zero =>
      refine exec_cons_eq_some.mpr ⟨⟨l, .notFound info, overrun⟩, ?_, rfl⟩
      show (if i < l.interfaceCount.toNat then _ else _) = _
      rw [if_neg (by omega)]
  | succ n ih =>
      refine exec_cons_eq_some.mpr ⟨⟨l, .scan info (i + 1), overrun⟩, ?_, ?_⟩
      · have hi : i < l.interfaceCount.toNat := by omega
        exact step_scan_next hi (hno i (Nat.le_refl i) hi)
      · exact ih (by omega) fun k hk => hno k (by omega)

/-- With a match, it comes to the first one. -/
theorem scan_to_match {l : InterfaceList} {info : InterfaceInfo} {overrun : Bool} (n : Nat)
    {i k : Nat} (hn : k - i = n) (hik : i ≤ k) (hk : k < l.interfaceCount.toNat)
    (hmatch : limits.nameOf (l.interface k) = limits.nameOf info)
    (hfirst : ∀ j, i ≤ j → j < k → limits.nameOf (l.interface j) ≠ limits.nameOf info) :
    exec (step limits) ⟨l, .scan info i, overrun⟩ (controllerSteps (n + 1)) =
      some ⟨l, .found info k, overrun⟩ := by
  induction n generalizing i with
  | zero =>
      have hik' : i = k := by omega
      subst hik'
      refine exec_cons_eq_some.mpr ⟨⟨l, .found info i, overrun⟩, ?_, rfl⟩
      show (if i < l.interfaceCount.toNat then (if _ then _ else _) else _) = _
      rw [if_pos hk, if_pos ((InterfaceList.matches_iff _).mpr hmatch)]
  | succ n ih =>
      refine exec_cons_eq_some.mpr ⟨⟨l, .scan info (i + 1), overrun⟩, ?_, ?_⟩
      · exact step_scan_next (by omega) (hfirst i (Nat.le_refl i) (by omega))
      · exact ih (by omega) (by omega) fun j hj => hfirst j (by omega)

/-- **Refinement**: undisturbed, the steps of an event are `InterfaceList.update`. -/
theorem steps_update {l : InterfaceList} (hl : l.WellFormed limits) (info : InterfaceInfo) :
    ∃ n, exec (step limits) ⟨l, .idle, false⟩ (.event info :: controllerSteps n) =
      some ⟨l.update limits info, .idle, false⟩ := by
  have hbound : l.interfaceCount.toNat ≤ limits.maxInterfaces.toNat :=
    UInt32.le_iff_toNat_le.mp hl.1
  have happend (m n : Nat) : controllerSteps (m + n) = controllerSteps m ++ controllerSteps n := by
    rw [controllerSteps, List.replicate_add]
    rfl
  unfold InterfaceList.update
  cases hfind : l.find limits info.name with
  | some k =>
      rw [InterfaceList.find, List.find?_range_eq_some] at hfind
      -- the search stops at the first match
      obtain ⟨hmatch, hmem, hfirst⟩ := hfind
      have hk : k < l.interfaceCount.toNat := List.mem_range.mp hmem
      refine ⟨k + 1 + 1, exec_cons_eq_some.mpr ⟨⟨l, .scan info 0, false⟩, rfl, ?_⟩⟩
      rw [happend, exec_append_of_eq_some (scan_to_match k rfl (Nat.zero_le k) hk
        ((InterfaceList.matches_iff _).mp hmatch) fun j _ hj hname => ?_)]
      · show some (⟨l.store k info, .idle, false || decide (limits.maxInterfaces.toNat ≤ k)⟩ :
          ListRace) = _
        rw [decide_eq_false (by omega)]
        rfl
      · have hno := hfirst j hj
        rw [(InterfaceList.matches_iff _).mpr hname] at hno
        cases hno
  | none =>
      rw [InterfaceList.find, List.find?_range_eq_none] at hfind
      -- the search compares every entry
      have hend : exec (step limits) ⟨l, .scan info 0, false⟩
          (controllerSteps (l.interfaceCount.toNat + 1)) = some ⟨l, .notFound info, false⟩ := by
        refine scan_to_end _ (by omega) fun j _ hj hname => ?_
        have hno := hfind j hj
        rw [(InterfaceList.matches_iff _).mpr hname] at hno
        cases hno
      · by_cases hspace : l.interfaceCount < limits.maxInterfaces
        · refine ⟨l.interfaceCount.toNat + 1 + 3, exec_cons_eq_some.mpr
            ⟨⟨l, .scan info 0, false⟩, rfl, ?_⟩⟩
          rw [happend, exec_append_of_eq_some hend]
          refine exec_cons_eq_some.mpr ⟨⟨l, .append info, false⟩, ?_, ?_⟩
          · show (if l.interfaceCount < limits.maxInterfaces then _ else _) = _
            rw [if_pos hspace]
          · show some (ListRace.mk { l.store l.interfaceCount.toNat info with
              interfaceCount := l.interfaceCount + 1 } .idle
              (false || decide (limits.maxInterfaces ≤ l.interfaceCount))) =
              some ⟨if l.interfaceCount < limits.maxInterfaces then _ else _, .idle, false⟩
            rw [if_pos hspace, decide_eq_false (UInt32.not_le.mpr hspace)]
            rfl
        · -- a full list drops the interface
          refine ⟨l.interfaceCount.toNat + 1 + 1, exec_cons_eq_some.mpr
            ⟨⟨l, .scan info 0, false⟩, rfl, ?_⟩⟩
          rw [happend, exec_append_of_eq_some hend]
          refine exec_cons_eq_some.mpr ⟨⟨l, .idle, false⟩, ?_, ?_⟩
          · show (if l.interfaceCount < limits.maxInterfaces then _ else _) = _
            rw [if_neg hspace]
          · show some (ListRace.mk l .idle false) =
              some ⟨if l.interfaceCount < limits.maxInterfaces then _ else _, .idle, false⟩
            rw [if_neg hspace]

/-! ### An incompatible refresh destroys the list

Where the refresh is not compatible with the place of the search, running on alone destroys the
list.
-/

/-- The controller's thread alone reaches a state that is not well formed. -/
def Breaks (limits : HalLimits) (s : ListRace) : Prop :=
  ∃ as t, (∀ a ∈ as, ∃ rereads, a = .controller rereads) ∧
    exec (step limits) s as = some t ∧ ¬ t.Ok limits

/-- The damage may show some steps later. -/
theorem Breaks.of_exec {n : Nat} (hrun : exec (step limits) s (controllerSteps n) = some t)
    (ht : t.Breaks limits) : s.Breaks limits := by
  obtain ⟨as, u, has, hu, hbad⟩ := ht
  refine ⟨controllerSteps n ++ as, u, fun a ha => ?_, by rw [exec_append_of_eq_some hrun, hu], hbad⟩
  rcases List.mem_append.mp ha with ha | ha
  · exact ⟨true, List.eq_of_mem_replicate ha⟩
  · exact has a ha

theorem Breaks.of_step (rereads : Bool) (hstep : s.controllerStep limits rereads = some t)
    (ht : ¬ t.Ok limits) : s.Breaks limits :=
  ⟨[.controller rereads], t, fun _ ha => ⟨rereads, List.mem_singleton.mp ha⟩,
    exec_cons_eq_some.mpr ⟨t, hstep, rfl⟩, ht⟩

variable {l : InterfaceList} {info : InterfaceInfo}

/-- Counted, the list is not well formed. -/
theorem breaks_increment {stored : UInt32}
    (h : ¬ Compatible limits l (.increment stored)) :
    Breaks limits ⟨l, .increment stored, false⟩ := by
  by_cases hreread : l.WellFormedWith limits (l.interfaceCount + 1)
  · refine Breaks.of_step false rfl fun hok => h ⟨hreread, ?_⟩
    exact hok.wellFormed
  · refine Breaks.of_step true rfl fun hok => hreread ?_
    exact hok.wellFormed

/-- Without room, the store runs over; with room, the name is there twice. -/
theorem breaks_append (h : ¬ Compatible limits l (.append info)) :
    Breaks limits ⟨l, .append info, false⟩ := by
  by_cases hspace : l.interfaceCount < limits.maxInterfaces
  · obtain ⟨j, hj, hname⟩ := InterfaceList.exists_of_not_absent fun habsent => h ⟨hspace, habsent⟩
    refine Breaks.of_exec (n := 1) (t := ⟨l.store l.interfaceCount.toNat info,
      .increment l.interfaceCount, false⟩) ?_ (breaks_increment fun hcompat => ?_)
    · show some (ListRace.mk _ _ (false || decide (limits.maxInterfaces ≤ l.interfaceCount))) = _
      rw [decide_eq_false (UInt32.not_le.mpr hspace)]
      rfl
    · -- the name is in the cell `j` and in the new one
      have hsucc := InterfaceList.count_succ hspace
      have hdistinct := hcompat.2.2
      rw [hsucc] at hdistinct
      refine InterfaceList.not_distinctBelow (i := j) (j := l.interfaceCount.toNat) (by omega)
        (by omega) (by omega) ?_ hdistinct
      show limits.nameOf (Function.update l.interface _ info j) =
        limits.nameOf (Function.update l.interface _ info _)
      rw [Function.update_self, Function.update_of_ne (by omega)]
      exact hname
  · -- the store is past the last cell
    refine Breaks.of_step true rfl fun hok => ?_
    have hover : (false || decide (limits.maxInterfaces ≤ l.interfaceCount)) = false := hok.inBounds
    rw [Bool.false_or, decide_eq_false_iff_not] at hover
    exact hover (UInt32.not_lt.mp hspace)

/-- There is room, and a cell of that name that the search has not seen. -/
theorem breaks_notFound (h : ¬ Compatible limits l (.notFound info)) :
    Breaks limits ⟨l, .notFound info, false⟩ := by
  have hspace : l.interfaceCount < limits.maxInterfaces := by
    by_contra hfull
    exact h fun hspace => absurd hspace hfull
  refine Breaks.of_exec (n := 1) (t := ⟨l, .append info, false⟩) ?_
    (breaks_append fun hcompat => h fun _ => hcompat.2)
  show (if l.interfaceCount < limits.maxInterfaces then _ else _ : Option ListRace).bind _ = _
  rw [if_pos hspace]
  rfl

/-- Another cell has the name, and the one that was found is given it too. -/
theorem breaks_found {i : Nat} (h : ¬ Compatible limits l (.found info i)) :
    Breaks limits ⟨l, .found info i, false⟩ := by
  refine Breaks.of_step true rfl fun hok => h fun hi j hj hji hname => ?_
  refine InterfaceList.not_distinctBelow hj hi hji ?_ hok.wellFormed.2
  show limits.nameOf (Function.update l.interface i info j) =
    limits.nameOf (Function.update l.interface i info i)
  rw [Function.update_self, Function.update_of_ne hji]
  exact hname

/-- The name is in a cell that the loop has already passed. -/
theorem breaks_scan (hl : l.WellFormed limits) {i : Nat}
    (h : ¬ Compatible limits l (.scan info i)) : Breaks limits ⟨l, .scan info i, false⟩ := by
  have hspace : l.interfaceCount < limits.maxInterfaces := by
    by_contra hfull
    exact h fun hspace => absurd hspace hfull
  obtain ⟨j, hj, hname⟩ := InterfaceList.exists_of_not_absent fun habsent => h fun _ => habsent
  -- the name is behind the loop, so the loop does not find it again
  have hend : exec (step limits) ⟨l, .scan info i, false⟩
      (controllerSteps (l.interfaceCount.toNat - i + 1)) = some ⟨l, .notFound info, false⟩ :=
    scan_to_end _ rfl fun k hik hk hmatch => InterfaceList.not_distinctBelow (by omega) hk
      (by omega) (hname.trans hmatch.symm) hl.2
  refine Breaks.of_exec hend (breaks_notFound fun hcompat => ?_)
  exact hcompat hspace j (by omega) hname

/-- **A refresh that does not fit the search destroys the list**, wherever the search is. -/
theorem breaks_of_not_compatible (hl : l.WellFormed limits) {pc : ListPc}
    (h : ¬ Compatible limits l pc) : Breaks limits ⟨l, pc, false⟩ := by
  cases pc with
  | idle => exact absurd trivial h
  | scan info i => exact breaks_scan hl h
  | found info i => exact breaks_found h
  | notFound info => exact breaks_notFound h
  | append info => exact breaks_append h
  | increment stored => exact breaks_increment h

/-! ### The result -/

/-- **When the interface list stays well formed.** In every run in which each refresh is compatible
with what the controller's thread is doing, the count stays within the bound, no store goes past the
array and the names stay distinct; and after a refresh that is not compatible, the rest of the
controller's steps alone lead to a state where this is not so. -/
theorem interface_list_well_formed_iff (limits : HalLimits) {l₀ : InterfaceList}
    (hl₀ : l₀.WellFormed limits) {as : List ListAction} {s : ListRace}
    (has : Along (step limits) (CompatibleStep limits) ⟨l₀, .idle, false⟩ as)
    (hrun : exec (step limits) ⟨l₀, .idle, false⟩ as = some s) :
    s.Ok limits ∧ ∀ l : InterfaceList, l.WellFormed limits →
      (Compatible limits l s.pc ↔ ¬ Breaks limits { s with list := l }) := by
  have hstart : Safe limits ⟨l₀, .idle, false⟩ :=
    ⟨⟨hl₀, rfl⟩, trivial, fun _ _ hpc => by cases hpc⟩
  have hs : s.Safe limits := hstart.exec has hrun
  refine ⟨hs.ok, fun l hl => ⟨?_, fun hnot => ?_⟩⟩
  · rintro hcompat ⟨as', t, hcontroller, hrun', hbad⟩
    have hs' : Safe limits { s with list := l } := ⟨⟨hl, hs.ok.inBounds⟩, hcompat, hs.slot⟩
    refine hbad (exec_invariant_along (P := Safe limits)
      (G := fun _ a => ∃ rereads, a = .controller rereads) ?_ hs' ?_ hrun').ok
    · rintro u a v hu ⟨rereads, rfl⟩ hstep
      exact hu.controllerStep hstep
    · exact along_of_forall hcontroller
  · by_contra hcompat
    refine hnot ?_
    have hbreaks := breaks_of_not_compatible hl hcompat
    rw [← hs.ok.inBounds] at hbreaks
    exact hbreaks

/-- A list with one entry. -/
def one (info : InterfaceInfo) : InterfaceList := ⟨1, fun _ => info⟩

/-- The HAL reports another interface while the loop is about to start. -/
theorem interface_list_well_formed_other :
    ∃ s, exec (step HalLimits.small) ⟨⟨0, fun _ => default⟩, .idle, false⟩
        [.event ⟨"veip0\x00".toList, .linkUp⟩, .refresh (one ⟨"veip1\x00".toList, .linkUp⟩)] =
          some s ∧
      s.Ok HalLimits.small ∧ ∀ l : InterfaceList, l.WellFormed HalLimits.small →
        (Compatible HalLimits.small l s.pc ↔ ¬ Breaks HalLimits.small { s with list := l }) := by
  have hl₀ : InterfaceList.WellFormed HalLimits.small ⟨0, fun _ => default⟩ := by decide
  have hrun : exec (step HalLimits.small) ⟨⟨0, fun _ => default⟩, .idle, false⟩
      [.event ⟨"veip0\x00".toList, .linkUp⟩, .refresh (one ⟨"veip1\x00".toList, .linkUp⟩)] =
      some ⟨one ⟨"veip1\x00".toList, .linkUp⟩, .scan ⟨"veip0\x00".toList, .linkUp⟩ 0, false⟩ := by
    rfl
  refine ⟨_, hrun, interface_list_well_formed_iff HalLimits.small hl₀ ?_ hrun⟩
  refine ⟨trivial, ?_⟩
  rintro t ⟨⟩
  refine ⟨fun _ j hj => absurd hj (by simp), ?_⟩
  rintro t ⟨⟩
  trivial

/-- The loop has not found the interface, the refresh brings it, and it is appended once more. -/
theorem refresh_duplicates_name :
    InterfaceList.WellFormed HalLimits.small ⟨0, fun _ => default⟩ ∧
      ∃ s, exec (step HalLimits.small) ⟨⟨0, fun _ => default⟩, .idle, false⟩
          [.event ⟨"veip0\x00".toList, .linkUp⟩, .controller true,
            .refresh (one ⟨"veip0\x00".toList, .linkUp⟩),
            .controller true, .controller true, .controller true] = some s ∧
        ¬ s.Ok HalLimits.small := by
  refine ⟨by decide, _, rfl, fun hok => ?_⟩
  have hwf := hok.wellFormed
  revert hwf
  decide

end ListRace

end EponManager
