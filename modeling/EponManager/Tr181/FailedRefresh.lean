import EponManager.Tr181.RowsReadable

/-!
# A refresh that the HAL refuses

The functions that ask the HAL for the LLID or the CPE list free the old array and set its counts to
zero before they know whether the HAL has another. So when the HAL refuses and writes nothing, the
"cached data" that the table handlers go on with is the empty list.

* `ListTable.released` is the data context after the array was freed; `refresh_refused` says that
  this is what a refused refresh leaves.
* `Kept` is what the handlers rely on: the counts, the entries and what the `..._at_index` functions
  return are those from before.
* `refused_refresh_keeps_list_iff`: they are exactly when there was nothing to free or nothing in
  it.
-/

namespace EponManager

open Lib

/-! ### What is seen of a list -/

namespace Table

/-- The list in the data context. -/
def current : (table : Table) → Data → table.Contents
  | .llid => Data.llidList
  | .cpe  => Data.cpeTable
  | .veip => Data.interfaceList

/-- The counts of the list. -/
def counts : Table → Data → List UInt32
  | .llid, d => [d.llidList.llidCount]
  | .cpe, d  => [d.cpeTable.staticCpeCount, d.cpeTable.dynamicCpeCount]
  | .veip, d => [d.interfaceList.interfaceCount]

end Table

namespace ListTable

/-- `eponMgr_data_get_llid_at_index`, `eponMgr_data_get_cpe_at_index` -/
def atIndex : (t : ListTable) → UInt32 → M (Option t.table.Entry)
  | .llid => Data.getLlidAtIndex
  | .cpe  => Data.getCpeAtIndex

theorem atIndex_eq (t : ListTable) : t.atIndex = Data.getAtIndex t.table.entry := by
  cases t <;> rfl

/-- What is seen of the list is the same in both memories. -/
structure Kept (t : ListTable) (w w' : World) : Prop where
  counts : t.table.counts w'.eponData.obj = t.table.counts w.eponData.obj
  entries : ∀ i < t.table.length (t.table.current w.eponData.obj),
    t.table.cell w'.eponData.obj i = t.table.cell w.eponData.obj i
  atIndex : ∀ env index, (Prog.alone (t.atIndex index) env w').map Prod.fst =
    (Prog.alone (t.atIndex index) env w).map Prod.fst

/-- The HAL refuses the call and writes nothing. -/
def Refuses : ListTable → Env → Nat → Prop
  | .llid, env, n => ∀ before, (env.halGetLlidInfo n before).1 ≠ .success ∧
      (env.halGetLlidInfo n before).2 = before
  | .cpe, env, n  => ∀ before, (env.halGetCpeMacTable n before).1 ≠ .success ∧
      (env.halGetCpeMacTable n before).2 = before

/-- The data context after the array was freed, if there was one. -/
def released : ListTable → Data → Data
  | .llid, d => match d.llidList.llidList with
      | none   => d
      | some _ => { d with llidList := { d.llidList with llidList := none, llidCount := 0 } }
  | .cpe, d  => match d.cpeTable.cpeList with
      | none   => d
      | some _ => { d with cpeTable :=
          { d.cpeTable with cpeList := none, staticCpeCount := 0, dynamicCpeCount := 0 } }

end ListTable

/-! ### What a refused refresh leaves -/

section Refused

variable {t : ListTable} {env : Env} {w : World}

theorem getAtIndex_alone {α : Type} (entry : Data → UInt32 → Option α) (index : UInt32) :
    Prog.alone (Data.getAtIndex entry index) env w = some (entry w.eponData.obj index, w) := by
  refine Prog.alone_eq_some.mpr ⟨fun _ => 0, ?_⟩
  have hlock := Prog.lock_of_recursive (m := MutexId.data) rfl env ⟨fun _ => 0, w⟩
  have hread (held : Held MutexId) : readData (fun d => entry d index) env ⟨held, w⟩ =
      .ok (entry w.eponData.obj index, ⟨held, w⟩) := rfl
  rw [Data.getAtIndex, Prog.bind_of_ok hlock, Prog.bind_of_ok (hread _)]
  exact Prog.bind_of_ok (Prog.unlock_acquired MutexId.data env ⟨fun _ => 0, w⟩)

/-- A refresh, whatever it frees first: when the HAL refuses, what was freed stays free. -/
theorem fetch_refused (table : Table) {clear : Data → Data}
    {query : Env → Nat → table.Contents → HalReturn × table.Contents} {after : M Bool}
    (hquery : ∀ before, (query env w.tick before).1 ≠ .success ∧
      (query env w.tick before).2 = before) :
    Prog.alone (do
      Prog.lock .data
      modifyData clear
      let before ← readData table.current
      let answer ← ask (fun env n => query env n before)
      modifyData (table.store answer.2)
      if answer.1 = .success then
        after
      else
        Prog.unlock .data
        return false) env w =
      some (false, { w with
        tick := w.tick + 1
        eponData := { w.eponData with obj := clear w.eponData.obj } }) := by
  refine Prog.alone_eq_some.mpr ⟨fun _ => 0, ?_⟩
  obtain ⟨hrefused, hsame⟩ := hquery (table.current (clear w.eponData.obj))
  -- the world after the list was cleared
  obtain ⟨v, hv⟩ : ∃ v : World, v =
    { w with eponData := { w.eponData with obj := clear w.eponData.obj } } := ⟨_, rfl⟩
  -- the refusal leaves the list that it was given, so storing it changes nothing
  have hstore (d : Data) : table.store (table.current d) d = d := by cases table <;> rfl
  have hlock := Prog.lock_of_recursive (m := MutexId.data) rfl env ⟨fun _ => 0, w⟩
  have hclear (held : Held MutexId) :
      modifyData clear env ⟨held, w⟩ = .ok ((), ⟨held, v⟩) := by rw [hv]; rfl
  have hread (held : Held MutexId) : readData table.current env ⟨held, v⟩ =
      .ok (table.current (clear w.eponData.obj), ⟨held, v⟩) := by rw [hv]; rfl
  have hask (held : Held MutexId) :
      ask (fun env n => query env n (table.current (clear w.eponData.obj))) env ⟨held, v⟩ =
        .ok (query env w.tick (table.current (clear w.eponData.obj)),
          ⟨held, { v with tick := w.tick + 1 }⟩) := by rw [hv]; rfl
  have hwrite (held : Held MutexId) :
      modifyData (table.store (table.current (clear w.eponData.obj))) env
          ⟨held, { v with tick := w.tick + 1 }⟩ =
        .ok ((), ⟨held, { v with tick := w.tick + 1 }⟩) := by
    rw [hv]
    show Except.ok ((), LockState.mk held { w with
      tick := w.tick + 1
      eponData := { w.eponData with obj := table.store _ (clear w.eponData.obj) } }) = _
    rw [hstore]
  rw [Prog.bind_of_ok hlock, Prog.bind_of_ok (hclear _), Prog.bind_of_ok (hread _),
    Prog.bind_of_ok (hask _), hsame, Prog.bind_of_ok (hwrite _), if_neg hrefused]
  have hunlock := Prog.unlock_acquired MutexId.data env
    ⟨fun _ => 0, { v with tick := w.tick + 1 }⟩
  rw [hv] at hunlock ⊢
  exact Prog.bind_of_ok hunlock

/-- **A refused refresh returns `NULL`** and leaves the list as the free did. -/
theorem refresh_refused (hhal : t.Refuses env w.tick) :
    Prog.alone t.refresh env w = some (false, { w with
      tick := w.tick + 1
      eponData := { w.eponData with obj := t.released w.eponData.obj } }) := by
  cases t with
  | llid => exact fetch_refused .llid hhal
  | cpe => exact fetch_refused .cpe hhal

/-! ### What is left of the list -/

theorem released_of_not_allocated {d : Data}
    (h : ¬ t.table.Allocated (t.table.current d)) : t.released d = d := by
  cases t with
  | llid =>
      cases hcells : d.llidList.llidList with
      | none => rw [ListTable.released, hcells]
      | some cells => exact absurd (Option.isSome_iff_exists.mpr ⟨cells, hcells⟩) h
  | cpe =>
      cases hcells : d.cpeTable.cpeList with
      | none => rw [ListTable.released, hcells]
      | some cells => exact absurd (Option.isSome_iff_exists.mpr ⟨cells, hcells⟩) h

/-- An array that was freed leaves counts of zero. -/
theorem counts_released {d : Data} (h : t.table.Allocated (t.table.current d)) :
    ∀ n ∈ t.table.counts (t.released d), n = 0 := by
  cases t with
  | llid =>
      obtain ⟨cells, hcells⟩ := Option.isSome_iff_exists.mp h
      have hcells' : d.llidList.llidList = some cells := hcells
      simp [ListTable.released, ListTable.table, Table.counts, hcells']
  | cpe =>
      obtain ⟨cells, hcells⟩ := Option.isSome_iff_exists.mp h
      have hcells' : d.cpeTable.cpeList = some cells := hcells
      simp [ListTable.released, ListTable.table, Table.counts, hcells']

/-- The counts say how long the list is. -/
theorem length_eq_zero_iff (t : ListTable) (d : Data) :
    t.table.length (t.table.current d) = 0 ↔ ∀ n ∈ t.table.counts d, n = 0 := by
  have hzero (n : UInt32) : n.toNat = 0 ↔ n = 0 := UInt32.toNat_inj (b := 0)
  cases t with
  | llid => simp [ListTable.table, Table.length, Table.current, Table.counts, hzero]
  | cpe => simp [ListTable.table, Table.length, Table.current, Table.counts, hzero]

/-- Lists of length zero have the same counts, and no entries. -/
theorem kept_of_empty {w' : World} (h : ∀ n ∈ t.table.counts w.eponData.obj, n = 0)
    (h' : ∀ n ∈ t.table.counts w'.eponData.obj, n = 0) : t.Kept w w' := by
  have hentry {d : Data} (hd : ∀ n ∈ t.table.counts d, n = 0) (index : UInt32) :
      t.table.entry d index = none := by
    have hcount : t.table.count d = 0 := by
      cases t with
      | llid => exact hd _ List.mem_cons_self
      | cpe =>
          have hstatic := hd _ List.mem_cons_self
          have hdynamic := hd _ (List.mem_cons_of_mem _ List.mem_cons_self)
          exact (congrArg₂ (· + ·) hstatic hdynamic).trans rfl
    rw [Table.entry, hcount, if_pos (UInt32.le_iff_toNat_le.mpr (Nat.zero_le _))]
  refine ⟨?_, fun i hi => ?_, fun env index => ?_⟩
  · refine List.ext_getElem (by cases t <;> rfl) fun i hi hi' => ?_
    rw [h' _ (List.getElem_mem hi), h _ (List.getElem_mem hi')]
  · rw [(length_eq_zero_iff t _).mpr h] at hi
    cases hi
  · rw [ListTable.atIndex_eq, getAtIndex_alone, getAtIndex_alone, Option.map_some, Option.map_some,
      hentry h, hentry h']

end Refused

/-! ### The result -/

/-- **When a refused refresh keeps the list**: when the HAL refuses and writes nothing, the function
returns `NULL`, and what is seen of the list is the same as before if and only if the list had no
entries or there was no array. -/
theorem refused_refresh_keeps_list_iff (t : ListTable) {env : Env} {w : World}
    (hhal : t.Refuses env w.tick) :
    ∃ w', Prog.alone t.refresh env w = some (false, w') ∧
      (t.Kept w w' ↔ t.table.length (t.table.current w.eponData.obj) = 0 ∨
        ¬ t.table.Allocated (t.table.current w.eponData.obj)) := by
  refine ⟨_, refresh_refused hhal, ?_⟩
  constructor
  · intro hkept
    by_cases halloc : t.table.Allocated (t.table.current w.eponData.obj)
    · refine .inl ((length_eq_zero_iff t _).mpr ?_)
      rw [← hkept.counts]
      exact counts_released halloc
    · exact .inr halloc
  · intro h
    by_cases halloc : t.table.Allocated (t.table.current w.eponData.obj)
    · have hempty := (length_eq_zero_iff t _).mp (h.resolve_right (not_not_intro halloc))
      exact kept_of_empty hempty (counts_released halloc)
    · refine ⟨?_, fun i _ => ?_, fun env index => ?_⟩
      · show t.table.counts (t.released _) = _
        rw [released_of_not_allocated halloc]
      · show t.table.cell (t.released _) i = _
        rw [released_of_not_allocated halloc]
      · rw [ListTable.atIndex_eq, getAtIndex_alone, getAtIndex_alone]
        show some (t.table.entry (t.released _) index) = _
        rw [released_of_not_allocated halloc]
        rfl

/-- The HAL refuses both calls and writes nothing. -/
def Env.refusing : Env :=
  { Env.quiet with
    halGetLlidInfo := fun _ l => (.errorInvalidParam, l)
    halGetCpeMacTable := fun _ l => (.errorInvalidParam, l) }

/-- Such an environment is possible. -/
theorem Env.refusing_refuses (t : ListTable) (n : Nat) : t.Refuses Env.refusing n := by
  have hne : HalReturn.errorInvalidParam ≠ .success := by decide
  cases t with
  | llid => exact fun _ => ⟨hne, rfl⟩
  | cpe => exact fun _ => ⟨hne, rfl⟩

/-- There is an array for LLIDs, and none in it. -/
def noLlid : World :=
  { World.ready with
    eponData := ⟨true, Table.store .llid (llidsOfLength 0).contents Data.zero⟩ }

/-- A table without an array, and a list whose array is freed. -/
theorem refused_refresh_keeps_list_empty :
    (∃ w', Prog.alone ListTable.cpe.refresh Env.refusing World.ready = some (false, w') ∧
      ListTable.cpe.Kept World.ready w') ∧
    ∃ w', Prog.alone ListTable.llid.refresh Env.refusing noLlid = some (false, w') ∧
      Table.llid.Allocated (Table.llid.current noLlid.eponData.obj) ∧
      ¬ Table.llid.Allocated (Table.llid.current w'.eponData.obj) ∧
      ListTable.llid.Kept noLlid w' := by
  constructor
  · obtain ⟨w', hrun, hkept⟩ :=
      refused_refresh_keeps_list_iff .cpe (w := World.ready) (Env.refusing_refuses .cpe _)
    exact ⟨w', hrun, hkept.mpr (.inl rfl)⟩
  · obtain ⟨w', hrun, hkept⟩ :=
      refused_refresh_keeps_list_iff .llid (w := noLlid) (Env.refusing_refuses .llid _)
    have hfreed : (Prog.alone ListTable.llid.refresh Env.refusing noLlid).map
        (fun p => p.2.eponData.obj.llidList.llidList.isSome) = some false := by decide +kernel
    rw [hrun, Option.map_some, Option.some_inj] at hfreed
    exact ⟨w', hrun, rfl, Bool.not_eq_true _ ▸ hfreed, hkept.mpr (.inl rfl)⟩

/-- The data context holds one LLID. -/
def oneLlid : World :=
  { World.ready with
    eponData := ⟨true, Table.store .llid (llidsOfLength 1).contents Data.zero⟩ }

/-- The list of one LLID is gone, and the handler answers that there are none. -/
theorem refused_refresh_empties_list :
    ∃ w' w'', Prog.alone Data.getLlidInfo Env.refusing oneLlid = some (false, w') ∧
      oneLlid.eponData.obj.getLlidCount = 1 ∧ w'.eponData.obj.getLlidCount = 0 ∧
      ¬ ListTable.llid.Kept oneLlid w' ∧
      Prog.alone (Tr181.llidTableHandler ListTable.llid.countParam) Env.refusing oneLlid =
        some (⟨.success, some (.uint32 0)⟩, w'') := by
  have h : (Prog.alone Data.getLlidInfo Env.refusing oneLlid).map
      (fun p => (p.1, p.2.eponData.obj.getLlidCount)) = some (false, 0) := by decide +kernel
  have hhandler : (Prog.alone (Tr181.llidTableHandler ListTable.llid.countParam) Env.refusing
      oneLlid).map Prod.fst = some ⟨.success, some (.uint32 0)⟩ := by decide +kernel
  simp only [Option.map_eq_some_iff, Prod.mk.injEq] at h hhandler
  obtain ⟨⟨ok, w'⟩, hrun, rfl, hcount⟩ := h
  obtain ⟨⟨a, w''⟩, hrun', rfl⟩ := hhandler
  refine ⟨w', w'', hrun, by decide +kernel, hcount, fun hkept => ?_, hrun'⟩
  have hcounts : [w'.eponData.obj.getLlidCount] = [1] := hkept.counts
  rw [hcount] at hcounts
  exact absurd hcounts (by decide)

end EponManager
