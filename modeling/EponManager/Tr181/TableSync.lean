import EponManager.Lib.StepSystem
import EponManager.Tr181.Rows
import Mathlib.Order.Interval.Set.Defs

/-!
# Table rows and the lists they come from

A sync registers rows for the entries of its list; it never unregisters any. So after a run of syncs
a table has a row for every entry of the longest list so far, and its rows match the current list
only if no earlier one was longer.

* `TableList` is a list as the HAL hands it over, with an array if it has entries.
* `exec_sync` is what a run of syncs registers.
* `table_rows_match_iff`: exactly when the rows match the current list.
-/

namespace EponManager

open Lib

/-! ### Lists -/

namespace Table

/-- What the HAL hands over for a table. -/
def Contents : Table → Type
  | .llid => LlidList
  | .cpe  => CpeMacTable
  | .veip => InterfaceList

/-- The number of entries; the CPE table has static and dynamic ones. -/
def length : (table : Table) → table.Contents → Nat
  | .llid, l => (LlidList.llidCount l).toNat
  | .cpe, l  => (CpeMacTable.staticCpeCount l).toNat + (CpeMacTable.dynamicCpeCount l).toNat
  | .veip, l => (InterfaceList.interfaceCount l).toNat

/-- There is an array of entries; the interfaces are part of their list. -/
def Allocated : (table : Table) → table.Contents → Prop
  | .llid, l => (LlidList.llidList l).isSome
  | .cpe, l  => (CpeMacTable.cpeList l).isSome
  | .veip, _ => True

/-- The data context with the list in it. -/
def store : (table : Table) → table.Contents → Data → Data
  | .llid, l, d => { d with llidList := l }
  | .cpe, l, d  => { d with cpeTable := l }
  | .veip, l, d => { d with interfaceList := l }

end Table

/-- A list with an array if it has entries. -/
structure TableList (table : Table) where
  contents : table.Contents
  allocated : table.length contents ≠ 0 → table.Allocated contents

namespace TableList

variable {table : Table}

def length (l : TableList table) : Nat := table.length l.contents

/-- The length as the process computes it, in 32 bits. -/
def counted (l : TableList table) : Nat := (table.count (table.store l.contents Data.zero)).toNat

theorem count_store (l : TableList table) (d : Data) :
    (table.count (table.store l.contents d)).toNat = l.counted := by
  cases table <;> rfl

theorem rows_store (l : TableList table) (d : Data) :
    table.rows (table.store l.contents d) = min l.counted (Tr181.maxInstances table) := by
  rw [Table.rows, l.count_store]

/-- Only a CPE list can be too long to be counted. -/
theorem counted_eq (l : TableList table) : l.counted = l.length % 2 ^ 32 := by
  obtain ⟨contents, -⟩ := l
  cases table with
  | llid => exact (Nat.mod_eq_of_lt (LlidList.llidCount contents).toNat_lt).symm
  | cpe => exact UInt32.toNat_add _ _
  | veip => exact (Nat.mod_eq_of_lt (InterfaceList.interfaceCount contents).toNat_lt).symm

/-- The entries of a list that is not empty are allocated. -/
theorem isSome_cell_store {l : TableList table} (hlen : l.length ≠ 0) (d : Data) (i : Nat) :
    (table.cell (table.store l.contents d) i).isSome := by
  have halloc := l.allocated hlen
  obtain ⟨contents, allocated⟩ := l
  cases table with
  | llid => exact Option.isSome_map.trans halloc
  | cpe => exact Option.isSome_map.trans halloc
  | veip => rfl

/-- What is counted is there. -/
theorem hasEntries (l : TableList table) (d : Data) :
    table.HasEntries (table.store l.contents d) := by
  intro i hi
  rw [rows_store] at hi
  have hcount : i < l.counted := lt_of_lt_of_le hi (Nat.min_le_left _ _)
  have hlen : l.length ≠ 0 := by
    intro hzero
    rw [l.counted_eq, hzero] at hcount
    exact Nat.not_lt_zero _ hcount
  rw [Table.entry_eq (by rw [l.count_store]; exact hcount)]
  exact isSome_cell_store hlen d i

end TableList

/-! ### Runs of syncs -/

/-- The list is replaced and the table is synced. -/
def syncStep (env : Env) (table : Table) (w : World) (l : TableList table) : Option World :=
  (Prog.alone table.sync env { w with
    eponData := { w.eponData with obj := table.store l.contents w.eponData.obj } }).map Prod.snd

/-- The instance numbers that are marked registered. -/
def registeredSet (w : World) (table : Table) : Set Nat :=
  {k | 1 ≤ k ∧ w.tr181.registered table (k - 1) = true}

/-- The instance numbers of the rows on the bus. -/
def busSet (w : World) (table : Table) : Set Nat := {k | table.rowName k ∈ bus w.trace}

/-- The marks are right about the bus. -/
theorem Matched.busSet_eq {w : World} (h : Matched w) (table : Table) :
    busSet w table = registeredSet w table := by
  ext k
  show table.rowName k ∈ bus w.trace ↔ 1 ≤ k ∧ w.tr181.registered table (k - 1) = true
  rw [mem_bus_iff h.kept]
  constructor
  · intro hk
    obtain ⟨table', i, -, hname⟩ := h.named _ hk
    obtain ⟨rfl, rfl⟩ := Table.rowName_inj hname
    exact ⟨by omega, (h.created _ _).mpr hk⟩
  · rintro ⟨hk, hreg⟩
    have hcreated := (h.created _ _).mp hreg
    rwa [Nat.sub_add_cancel hk] at hcreated

section Runs

variable {env : Env} {table : Table}

/-- **Run lemma**: a run of syncs adds the rows of all its lists. -/
theorem exec_sync (hrbus : ∀ n, env.registerRow n = true) {w : World}
    (hhandle : w.tr181.rbusHandle = true) (hdata : w.eponData.isSet = true) (hw : Matched w)
    (lists : List (TableList table)) :
    ∃ w', exec (syncStep env table) w lists = some w' ∧ Matched w' ∧
      ∀ i, w'.tr181.registered table i = true ↔ w.tr181.registered table i = true ∨
        ∃ l ∈ lists, i < min l.counted (Tr181.maxInstances table) := by
  induction lists generalizing w with
  | nil => exact ⟨w, rfl, hw, by simp⟩
  | cons l lists ih =>
      -- the memory in which the sync runs
      let v : World :=
        { w with eponData := { w.eponData with obj := table.store l.contents w.eponData.obj } }
      have hv : Matched v := ⟨hw.created, hw.nodup, hw.named, hw.kept⟩
      have hstep : syncStep env table w l = some (table.synced env v) := by
        rw [syncStep, Table.sync_alone (w := v) table hhandle hdata]
        rfl
      have honly := Table.synced_onlyRows env table v
      obtain ⟨w', hrun, hw', hreg⟩ := ih (honly.rbusHandle.trans hhandle)
        ((congrArg Pointer.isSet honly.eponData).trans hdata) (hv.synced env table)
      refine ⟨w', exec_cons_eq_some.mpr ⟨_, hstep, hrun⟩, hw', fun i => ?_⟩
      rw [hreg, Table.registered_synced hrbus (l.hasEntries _), l.rows_store]
      simp [v, or_assoc]

/-! ### The result -/

/-- **When the rows match the list**: after a run of syncs in which every registration succeeds, the
marked instances and the rows on the bus are exactly those of the last list's entries if and only if
no list of the run counted more entries than that, as far as the table goes, and some list counted
as many (the last one does, unless its length does not fit into 32 bits). -/
theorem table_rows_match_iff {limits : HalLimits} {boot : Env} {psm : String → Option String}
    {w₀ : World}
    (hinit : Prog.alone (Controller.init limits) boot (World.boot psm) = some (true, w₀))
    (hrbus : ∀ n, env.registerRow n = true) (lists : List (TableList table))
    (l : TableList table) :
    ∃ w, exec (syncStep env table) w₀ (lists ++ [l]) = some w ∧
      ((registeredSet w table = Set.Icc 1 (min l.length (Tr181.maxInstances table)) ∧
          busSet w table = Set.Icc 1 (min l.length (Tr181.maxInstances table))) ↔
        (∀ l' ∈ lists ++ [l], min l'.counted (Tr181.maxInstances table) ≤
            min l.length (Tr181.maxInstances table)) ∧
          ∃ l' ∈ lists ++ [l], min l.length (Tr181.maxInstances table) ≤ l'.counted) := by
  have hfresh : Fresh w₀ := (init_fresh limits).alone (blank_boot psm) hinit rfl
  obtain ⟨w, hrun, hmatched, hreg⟩ := exec_sync hrbus hfresh.rbusHandle hfresh.eponData
    hfresh.matched (lists ++ [l])
  refine ⟨w, hrun, ?_⟩
  have hmem (k : Nat) : k ∈ registeredSet w table ↔
      1 ≤ k ∧ ∃ l' ∈ lists ++ [l], k - 1 < min l'.counted (Tr181.maxInstances table) := by
    show (1 ≤ k ∧ w.tr181.registered table (k - 1) = true) ↔ _
    rw [hreg, hfresh.registered]
    simp
  rw [hmatched.busSet_eq, and_self]
  have hbound : min l.length (Tr181.maxInstances table) ≤ Tr181.maxInstances table :=
    Nat.min_le_right _ _
  constructor
  · intro heq
    have hmem' (k : Nat) : k ∈ registeredSet w table ↔
        1 ≤ k ∧ k ≤ min l.length (Tr181.maxInstances table) := by
      rw [heq]
      exact Set.mem_Icc
    refine ⟨fun l' hl' => ?_, ?_⟩
    · -- the last row of that list is registered
      rcases Nat.eq_zero_or_pos (min l'.counted (Tr181.maxInstances table)) with hzero | hpos
      · omega
      · exact ((hmem' _).mp ((hmem _).mpr ⟨hpos, l', hl', by omega⟩)).2
    · rcases Nat.eq_zero_or_pos (min l.length (Tr181.maxInstances table)) with hzero | hpos
      · exact ⟨l, by simp, by omega⟩
      · obtain ⟨-, l', hl', hlt⟩ := (hmem _).mp ((hmem' _).mpr ⟨hpos, le_rfl⟩)
        exact ⟨l', hl', by omega⟩
  · rintro ⟨hle, l₁, hl₁, hge⟩
    ext k
    rw [hmem, Set.mem_Icc]
    refine and_congr_right fun hk => ⟨?_, fun hk' => ⟨l₁, hl₁, by omega⟩⟩
    rintro ⟨l', hl', hlt⟩
    have hle' := hle l' hl'
    omega

end Runs

/-- A list of `n` LLIDs. -/
def llidsOfLength (n : UInt32) : TableList .llid :=
  ⟨⟨n, n, some fun _ => default⟩, fun _ => rfl⟩

/-- One LLID, and then a second. -/
theorem table_rows_match_growing :
    ∃ w₀ w, Prog.alone (Controller.init HalLimits.small) Env.quiet (World.boot fun _ => none) =
        some (true, w₀) ∧
      exec (syncStep Env.quiet .llid) w₀ ([llidsOfLength 1] ++ [llidsOfLength 2]) = some w ∧
      busSet w .llid = Set.Icc 1 2 := by
  obtain ⟨t, ht⟩ := Controller.init_quiet
  have hinit := Prog.alone_eq_some.mpr ⟨t.held, ht⟩
  obtain ⟨w, hrun, hiff⟩ := table_rows_match_iff hinit
    (fun n => (rfl : Env.quiet.registerRow n = true)) [llidsOfLength 1] (llidsOfLength 2)
  refine ⟨t.mem, w, hinit, hrun, (hiff.mpr ⟨?_, llidsOfLength 2, by simp, by decide⟩).2⟩
  intro l' hl'
  simp only [List.cons_append, List.nil_append, List.mem_cons, List.not_mem_nil, or_false] at hl'
  rcases hl' with rfl | rfl
  · decide
  · decide

/-- Two LLIDs, and then only one: the second row stays. -/
theorem table_keeps_row_of_shorter_list :
    ∃ w₀ w, Prog.alone (Controller.init HalLimits.small) Env.quiet (World.boot fun _ => none) =
        some (true, w₀) ∧
      exec (syncStep Env.quiet .llid) w₀ [llidsOfLength 2, llidsOfLength 1] = some w ∧
      (llidsOfLength 1).length = 1 ∧ registeredSet w .llid ≠ Set.Icc 1 (min 1 64) := by
  have h : ((Prog.alone (Controller.init HalLimits.small) Env.quiet
        (World.boot fun _ => none)).bind fun a =>
      (exec (syncStep Env.quiet .llid) a.2 [llidsOfLength 2, llidsOfLength 1]).map fun w =>
        (a.1, w.tr181.registered .llid 1)) = some (true, true) := by
    decide +kernel
  simp only [Option.bind_eq_some_iff, Option.map_eq_some_iff, Prod.mk.injEq] at h
  obtain ⟨⟨ok, w₀⟩, h₀, w, h₁, rfl, hreg⟩ := h
  refine ⟨w₀, w, h₀, h₁, rfl, fun heq => ?_⟩
  have hmem : 2 ∈ registeredSet w .llid := ⟨by decide, hreg⟩
  rw [heq] at hmem
  exact absurd hmem.2 (by decide)

end EponManager
