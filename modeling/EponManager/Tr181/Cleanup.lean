import EponManager.Tr181.TableSync
import Mathlib.Data.List.Nodup

/-!
# Removing the rows (`eponMgr_tr181_cleanup`)

At shutdown every marked row is unregistered, table by table. Only the VEIP loop puts the instance
number into the name that it passes to `rbusTable_unregisterRow`; the other two pass the name of the
table, once for every marked row.

* `Tr181.cleanup` is the function; `unregistered` the memory that one of its loops leaves, and
  `cleanup_alone` the memory that all of it does.
* `rowOf_veip` and `rowOf_other` say what the names mean to rbus.
* `cleanup_undoes_iff`: exactly when the calls name the rows that were created.
-/

namespace EponManager

open Lib

namespace Tr181

/-- The name that the loop over a table passes for row `i + 1`. -/
def cleanupName : Table → Nat → String
  | .veip, i => "Device.Optical.Interface.1.X_RDK_EPON.VEIP_Interface." ++ toString (i + 1) ++ "."
  | .llid, _ => "Device.Optical.Interface.1.X_RDK_EPON.LLID."
  | .cpe, _  => "Device.Optical.Interface.1.X_RDK_EPON.DPOE.CPE."

/-- Take the mark off row `i + 1` of a table. -/
def clearRegistered (table : Table) (i : Nat) (t : Tr181) : Tr181 :=
  { t with
    registered :=
      Function.update t.registered table (Function.update (t.registered table) i false) }

/-- The body of the three loops; what `rbusTable_unregisterRow` returns is not looked at. -/
def cleanupRow (table : Table) (i : Nat) : M Unit := do
  let registered ← Prog.read (fun w => w.tr181.registered table i)
  if registered then
    let ok ← ask Env.unregisterRow
    emit (.unregisterRow (cleanupName table i) ok)
    Prog.write (fun w => { w with tr181 := clearRegistered table i w.tr181 })
  else
    return ()

/-- One of the three loops. -/
def cleanupTable (table : Table) : M Unit :=
  Prog.forEach (cleanupRow table) (List.range (maxInstances table))

/-- `eponMgr_tr181_cleanup`, given whether its handle is not `NULL`. -/
def cleanup (handle : Bool) : M Unit := do
  let paramCount ← Prog.read (fun w => w.tr181.paramCount)
  if ¬ handle ∨ paramCount = 0 then
    return ()
  else
    cleanupTable .veip
    cleanupTable .llid
    cleanupTable .cpe
    -- `rbus_unregDataElements` comes here
    Prog.write (fun w => { w with tr181 := { w.tr181 with rbusHandle := false, paramCount := 0 } })

/-! ### What the loops do -/

/-- The effect of removing row `i + 1`, if rbus accepts it. -/
def removal (table : Table) (i : Nat) : Effect := .unregisterRow (cleanupName table i) true

/-- One round of a loop. -/
def cleanupStep (env : Env) (table : Table) (w : World) (i : Nat) : World :=
  if w.tr181.registered table i then
    { w with
      tick := w.tick + 1
      trace := w.trace ++ [.unregisterRow (cleanupName table i) (env.unregisterRow w.tick)]
      tr181 := clearRegistered table i w.tr181 }
  else w

/-- A row that is marked is unregistered, and its flag cleared whatever rbus answers. -/
theorem cleanupRow_run (env : Env) (table : Table) (i : Nat) (s : LockState MutexId World) :
    cleanupRow table i env s = .ok ((), { s with mem := cleanupStep env table s.mem i }) := by
  show (if s.mem.tr181.registered table i then _ else _ : M Unit) env s = _
  rw [cleanupStep]
  by_cases hreg : s.mem.tr181.registered table i = true
  · rw [if_pos hreg, if_pos hreg]
    rfl
  · rw [if_neg hreg, if_neg hreg]
    rfl

/-- The memory after one of the loops. -/
def unregistered (env : Env) (table : Table) (w : World) : World :=
  (List.range (maxInstances table)).foldl (cleanupStep env table) w

theorem cleanupTable_run (env : Env) (table : Table) (s : LockState MutexId World) :
    cleanupTable table env s = .ok ((), { s with mem := unregistered env table s.mem }) :=
  Prog.forEach_of_ok (cleanupRow_run env table) _ _

theorem clearRegistered_registered (table table' : Table) (i j : Nat) (t : Tr181) :
    (clearRegistered table i t).registered table' j =
      (t.registered table' j && !(table' = table ∧ j = i)) := by
  rw [clearRegistered]
  by_cases htable : table' = table
  · subst htable
    by_cases hj : j = i
    · simp [hj]
    · simp [hj]
  · simp [htable]

/-! ### The marked rows -/

/-- The marked rows of a table. -/
def marked (t : Tr181) (table : Table) : List Nat :=
  (List.range (maxInstances table)).filter (t.registered table)

/-- After the first `m` rounds their rows have no mark, whatever rbus answers, and the others are as
before. -/
theorem cleanupRounds_registered (env : Env) (table : Table) (w : World) (m : Nat) (table' : Table)
    (j : Nat) :
    ((List.range m).foldl (cleanupStep env table) w).tr181.registered table' j =
      (w.tr181.registered table' j && !(table' = table ∧ j < m)) := by
  induction m generalizing table' j with
  | zero => simp
  | succ m ih =>
      -- this round finds the mark from before the loop
      have hmark : ((List.range m).foldl (cleanupStep env table) w).tr181.registered table m =
          w.tr181.registered table m := by
        rw [ih]
        simp
      rw [List.range_succ, List.foldl_append, List.foldl_cons, List.foldl_nil, cleanupStep, hmark]
      by_cases hrow : table' = table ∧ j = m
      · obtain ⟨rfl, rfl⟩ := hrow
        cases hreg : w.tr181.registered table' j with
        | true =>
            rw [if_pos rfl]
            show (clearRegistered table' j _).registered table' j = _
            rw [clearRegistered_registered]
            simp
        | false =>
            rw [if_neg Bool.false_ne_true, hmark, hreg]
            rfl
      · have hbelow : (table' = table ∧ j < m + 1) ↔ (table' = table ∧ j < m) := by
          apply and_congr_right
          intro htable
          have hne : j ≠ m := fun hj => hrow ⟨htable, hj⟩
          omega
        cases w.tr181.registered table m with
        | true =>
            rw [if_pos rfl]
            show (clearRegistered table m _).registered table' j = _
            rw [clearRegistered_registered, ih]
            simp only [hrow, hbelow, decide_false, Bool.not_false, Bool.and_true]
        | false =>
            rw [if_neg Bool.false_ne_true, ih]
            simp only [hbelow]

/-- A loop takes the marks off its table and leaves the other tables alone. -/
theorem unregistered_registered (env : Env) (table : Table) (w : World) (table' : Table) (j : Nat) :
    (unregistered env table w).tr181.registered table' j =
      (w.tr181.registered table' j && !(table' = table ∧ j < maxInstances table)) :=
  cleanupRounds_registered env table w _ table' j

/-- A loop removes the marked rows of its table, in order, and no others. -/
theorem unregistered_trace {env : Env} (hrbus : ∀ n, env.unregisterRow n = true) (table : Table)
    (w : World) :
    (unregistered env table w).trace = w.trace ++ (marked w.tr181 table).map (removal table) := by
  have hbelow (m : Nat) : ((List.range m).foldl (cleanupStep env table) w).trace =
      w.trace ++ ((List.range m).filter (w.tr181.registered table)).map (removal table) := by
    induction m with
    | zero => simp
    | succ m ih =>
        rw [List.range_succ, List.foldl_append, List.foldl_cons, List.foldl_nil, cleanupStep,
          cleanupRounds_registered, List.filter_append, List.map_append]
        cases hreg : w.tr181.registered table m with
        | false =>
            rw [if_neg (by simp), ih]
            simp [hreg]
        | true =>
            rw [if_pos (by simp)]
            show _ ++ _ = _
            rw [ih, hrbus, List.append_assoc]
            simp [hreg, removal]
  exact hbelow _

/-- What the whole function removes. -/
def removals (t : Tr181) : List Effect :=
  (marked t .veip).map (removal .veip) ++ (marked t .llid).map (removal .llid) ++
    (marked t .cpe).map (removal .cpe)

/-- The marked rows are those whose flag is set. -/
theorem mem_marked {t : Tr181} {table : Table} {i : Nat} :
    i ∈ marked t table ↔ i < maxInstances table ∧ t.registered table i = true := by
  rw [marked, List.mem_filter, List.mem_range]

/-- Without a flag, no row is marked. -/
theorem marked_eq_nil {t : Tr181} {table : Table} (h : ∀ i, t.registered table i = false) :
    marked t table = [] := by
  rw [marked, List.filter_eq_nil_iff]
  intro i _
  rw [h i]
  exact Bool.false_ne_true

/-- What is removed is a row of one of the tables. -/
theorem removals_form {t : Tr181} {e : Effect} (he : e ∈ removals t) :
    ∃ table i, e = removal table i := by
  simp only [removals, List.mem_append, List.mem_map] at he
  rcases he with (⟨i, -, rfl⟩ | ⟨i, -, rfl⟩) | ⟨i, -, rfl⟩
  · exact ⟨.veip, i, rfl⟩
  · exact ⟨.llid, i, rfl⟩
  · exact ⟨.cpe, i, rfl⟩

theorem marked_congr {t t' : Tr181} {table : Table}
    (h : ∀ j, t.registered table j = t'.registered table j) : marked t table = marked t' table := by
  have hfun : t.registered table = t'.registered table := funext h
  rw [marked, hfun]
  rfl

/-- A loop leaves the marks of another table. -/
theorem marked_unregistered (env : Env) {table table' : Table} (hne : table' ≠ table) (w : World) :
    marked (unregistered env table w).tr181 table' = marked w.tr181 table' := by
  apply marked_congr
  intro j
  rw [unregistered_registered]
  simp [hne]

/-! ### The three loops -/

/-- The memory after the three loops. -/
def allUnregistered (env : Env) (w : World) : World :=
  unregistered env .cpe (unregistered env .llid (unregistered env .veip w))

/-- No mark is left. -/
theorem allUnregistered_registered (env : Env) (w : World) (table : Table) (j : Nat) :
    (allUnregistered env w).tr181.registered table j =
      (w.tr181.registered table j && !(j < maxInstances table)) := by
  rw [allUnregistered, unregistered_registered, unregistered_registered, unregistered_registered]
  cases table <;> simp

/-- **The function returns**, with all marks taken off and the handle gone. -/
theorem cleanup_alone (env : Env) {w : World} (hparams : w.tr181.paramCount ≠ 0) :
    Prog.alone (cleanup true) env w = some ((), { allUnregistered env w with
      tr181 := { (allUnregistered env w).tr181 with rbusHandle := false, paramCount := 0 } }) := by
  refine Prog.alone_eq_some.mpr ⟨fun _ => 0, ?_⟩
  have hveip := cleanupTable_run env .veip ⟨fun _ => 0, w⟩
  have hllid := cleanupTable_run env .llid ⟨fun _ => 0, unregistered env .veip w⟩
  have hcpe := cleanupTable_run env .cpe
    ⟨fun _ => 0, unregistered env .llid (unregistered env .veip w)⟩
  rw [allUnregistered]
  generalize unregistered env .cpe _ = w' at hcpe ⊢
  show (if ¬ true = true ∨ w.tr181.paramCount = 0 then _ else _ : M Unit) env _ = _
  rw [if_neg (by simpa using hparams), Prog.bind_of_ok hveip, Prog.bind_of_ok hllid,
    Prog.bind_of_ok hcpe]
  rfl

/-- Afterwards no flag is set within the bounds. -/
theorem cleanup_registered {env : Env} {w w' : World} (hparams : w.tr181.paramCount ≠ 0)
    (hrun : Prog.alone (cleanup true) env w = some ((), w')) (table : Table) (j : Nat) :
    w'.tr181.registered table j = (w.tr181.registered table j && !(j < maxInstances table)) := by
  have hflags := allUnregistered_registered env w table j
  rw [cleanup_alone env hparams] at hrun
  generalize allUnregistered env w = v at hrun hflags
  cases hrun
  exact hflags

theorem allUnregistered_trace {env : Env} (hrbus : ∀ n, env.unregisterRow n = true) (w : World) :
    (allUnregistered env w).trace = w.trace ++ removals w.tr181 := by
  rw [allUnregistered, unregistered_trace hrbus, unregistered_trace hrbus, unregistered_trace hrbus,
    marked_unregistered env (by decide), marked_unregistered env (by decide),
    marked_unregistered env (by decide), removals, List.append_assoc, List.append_assoc,
    List.append_assoc]

/-- If rbus accepts it, the marked rows are removed. -/
theorem cleanup_run {env : Env} (hrbus : ∀ n, env.unregisterRow n = true) {w : World}
    (hparams : w.tr181.paramCount ≠ 0) :
    ∃ w', Prog.alone (cleanup true) env w = some ((), w') ∧
      w'.trace = w.trace ++ removals w.tr181 := by
  have htrace := allUnregistered_trace hrbus w
  have hrun := cleanup_alone env hparams
  generalize allUnregistered env w = w' at htrace hrun
  exact ⟨_, hrun, htrace⟩

/-! ### What the names mean

For LLID and CPE, cleanup passes the table's name without the number of the row.
-/

/-- The VEIP loop names its rows. -/
theorem rowOf_veip (i : Nat) : rowOf (cleanupName .veip i) = Table.veip.rowName (i + 1) := by
  have hname : cleanupName .veip i = Table.veip.rowName (i + 1) ++ "." := rfl
  have hlist : (cleanupName .veip i).toList = (Table.veip.rowName (i + 1)).toList ++ ['.'] := by
    rw [hname, String.toList_append]
    rfl
  rw [rowOf, hlist, if_pos (by simp), List.dropLast_concat, String.ofList_toList]

theorem rowOf_llidTable :
    (rowOf "Device.Optical.Interface.1.X_RDK_EPON.LLID.").toList.length <
        Table.llid.path.toList.length ∧
      (rowOf "Device.Optical.Interface.1.X_RDK_EPON.LLID.").toList[38]? =
        some Table.llid.letter := by
  decide +kernel

theorem rowOf_cpeTable :
    (rowOf "Device.Optical.Interface.1.X_RDK_EPON.DPOE.CPE.").toList.length <
        Table.cpe.path.toList.length ∧
      (rowOf "Device.Optical.Interface.1.X_RDK_EPON.DPOE.CPE.").toList[38]? =
        some Table.cpe.letter := by
  decide +kernel

/-- The other two loops name no row at all. -/
theorem rowOf_other {table : Table} (h : table ≠ .veip) (i : Nat) (table' : Table) (k : Nat) :
    rowOf (cleanupName table i) ≠ table'.rowName k := by
  intro heq
  have hshort : (rowOf (cleanupName table i)).toList.length < table.path.toList.length ∧
      (rowOf (cleanupName table i)).toList[38]? = some table.letter := by
    cases table with
    | llid => exact rowOf_llidTable
    | cpe => exact rowOf_cpeTable
    | veip => exact absurd rfl h
  have hletter := hshort.2
  have hlen := hshort.1
  rw [heq, Table.rowName_letter] at hletter
  rw [heq, Table.rowName_toList, List.length_append] at hlen
  have htable : table' = table := by
    cases table <;> cases table' <;> first | rfl | exact absurd hletter (by decide)
  subst htable
  omega

end Tr181

/-! ### Runs -/

/-- The rows that the calls of a trace named for removal. -/
def removedRows (trace : List Effect) : List String :=
  trace.filterMap fun
    | .unregisterRow name _ => some (rowOf name)
    | _                     => none

/-- A list for one of the tables. -/
abbrev AnyList := (table : Table) × TableList table

/-- Replace the list of a table and sync it. -/
def anySyncStep (env : Env) (w : World) (l : AnyList) : Option World := syncStep env l.1 w l.2

/-- What the syncs keep. -/
structure Cleanable (w : World) : Prop where
  matched : Matched w
  rbusHandle : w.tr181.rbusHandle = true
  eponData : w.eponData.isSet = true
  paramCount : w.tr181.paramCount ≠ 0

/-- What holds after the start-up is what cleanup relies on. -/
theorem Fresh.cleanable {w : World} (h : Fresh w) : Cleanable w :=
  ⟨h.matched, h.rbusHandle, h.eponData, h.paramCount⟩

/-- **A sync keeps what cleanup relies on.** -/
theorem Cleanable.step {env : Env} {w w' : World} {l : AnyList} (hw : Cleanable w)
    (h : anySyncStep env w l = some w') : Cleanable w' := by
  obtain ⟨table, l⟩ := l
  let v : World :=
    { w with eponData := { w.eponData with obj := table.store l.contents w.eponData.obj } }
  have hv : Matched v := ⟨hw.matched.created, hw.matched.nodup, hw.matched.named, hw.matched.kept⟩
  have honly := Table.synced_onlyRows env table v
  rw [anySyncStep, syncStep, Table.sync_alone (w := v) table hw.rbusHandle hw.eponData] at h
  cases h
  refine ⟨hv.synced env table, honly.rbusHandle.trans hw.rbusHandle,
    (congrArg Pointer.isSet honly.eponData).trans hw.eponData, ?_⟩
  rw [honly.paramCount]
  exact hw.paramCount

/-- The rows that were created are those marked, table by table. -/
theorem Matched.createdRows_perm {w : World} (h : Matched w) :
    (createdRows w.trace).Perm
      ((Tr181.marked w.tr181 .veip).map (fun i => Table.veip.rowName (i + 1)) ++
        (Tr181.marked w.tr181 .llid).map (fun i => Table.llid.rowName (i + 1)) ++
        (Tr181.marked w.tr181 .cpe).map (fun i => Table.cpe.rowName (i + 1))) := by
  have hnodup (table : Table) :
      ((Tr181.marked w.tr181 table).map (fun i => table.rowName (i + 1))).Nodup := by
    refine List.Nodup.map ?_ (List.nodup_range.filter _)
    intro i j hij
    have hinst := (Table.rowName_inj hij).2
    omega
  have hdisjoint {table table' : Table} (hne : table ≠ table') :
      List.Disjoint ((Tr181.marked w.tr181 table).map (fun i => table.rowName (i + 1)))
        ((Tr181.marked w.tr181 table').map (fun i => table'.rowName (i + 1))) := by
    intro name hname hname'
    obtain ⟨i, -, rfl⟩ := List.mem_map.mp hname
    obtain ⟨j, -, hj⟩ := List.mem_map.mp hname'
    exact hne (Table.rowName_inj hj.symm).1
  have hmem (table : Table) (name : String) :
      name ∈ (Tr181.marked w.tr181 table).map (fun i => table.rowName (i + 1)) ↔
        ∃ i < Tr181.maxInstances table,
          w.tr181.registered table i = true ∧ table.rowName (i + 1) = name := by
    simp only [List.mem_map, Tr181.mem_marked, and_assoc]
  -- no name comes twice on either side, so it is enough to compare their members
  refine (List.perm_ext_iff_of_nodup h.nodup ?_).mpr fun name => ?_
  · refine List.nodup_append'.mpr ⟨List.nodup_append'.mpr
      ⟨hnodup _, hnodup _, hdisjoint (by decide)⟩, hnodup _, ?_⟩
    rw [List.disjoint_append_left]
    exact ⟨hdisjoint (by decide), hdisjoint (by decide)⟩
  · simp only [List.mem_append, hmem]
    constructor
    · intro hname
      obtain ⟨table, i, hi, rfl⟩ := h.named name hname
      have hreg := (h.created _ _).mpr hname
      cases table with
      | llid => exact .inl (.inr ⟨i, hi, hreg, rfl⟩)
      | cpe => exact .inr ⟨i, hi, hreg, rfl⟩
      | veip => exact .inl (.inl ⟨i, hi, hreg, rfl⟩)
    · rintro ((⟨i, -, hreg, rfl⟩ | ⟨i, -, hreg, rfl⟩) | ⟨i, -, hreg, rfl⟩)
      · exact (h.created _ _).mp hreg
      · exact (h.created _ _).mp hreg
      · exact (h.created _ _).mp hreg

/-! ### What rbus is told to remove -/

/-- Accepted removals take their rows off the bus. -/
theorem foldl_removals (rows : List String) {l : List Effect}
    (hl : ∀ e ∈ l, ∃ table i, e = Tr181.removal table i) :
    l.foldl busStep rows = rows.filter (· ∉ removedRows l) := by
  induction l generalizing rows with
  | nil => simp [removedRows]
  | cons e l ih =>
      obtain ⟨table, i, rfl⟩ := hl e List.mem_cons_self
      rw [List.foldl_cons, ih _ fun e he => hl e (List.mem_cons_of_mem _ he)]
      show (rows.filter _).filter _ = _
      rw [List.filter_filter]
      congr 1
      funext name
      simp [removedRows, Tr181.removal, Bool.and_comm]

theorem removedRows_append (l l' : List Effect) :
    removedRows (l ++ l') = removedRows l ++ removedRows l' :=
  List.filterMap_append

/-- What the calls of the cleanup name: the VEIP loop its rows, the other two only their table. -/
theorem removedRows_removals (t : Tr181) :
    removedRows (Tr181.removals t) =
      (Tr181.marked t .veip).map (fun i => Table.veip.rowName (i + 1)) ++
        (Tr181.marked t .llid).map (fun i => rowOf (Tr181.cleanupName .llid i)) ++
        (Tr181.marked t .cpe).map (fun i => rowOf (Tr181.cleanupName .cpe i)) := by
  have hmap (table : Table) : removedRows ((Tr181.marked t table).map (Tr181.removal table)) =
      (Tr181.marked t table).map (fun i => rowOf (Tr181.cleanupName table i)) := by
    rw [removedRows, List.filterMap_map, ← List.filterMap_eq_map]
    rfl
  rw [Tr181.removals, removedRows_append, removedRows_append, hmap, hmap, hmap]
  simp only [Tr181.rowOf_veip]

/-- Only rows within the bounds of their table are marked. -/
theorem Matched.mem_marked {w : World} (h : Matched w) {table : Table} {i : Nat} :
    i ∈ Tr181.marked w.tr181 table ↔ w.tr181.registered table i = true := by
  refine Tr181.mem_marked.trans ⟨And.right, fun hreg => ⟨?_, hreg⟩⟩
  obtain ⟨table', j, hj, hname⟩ := h.named _ ((h.created table i).mp hreg)
  obtain ⟨rfl, hij⟩ := Table.rowName_inj hname
  omega

/-- A loop that names only its table removes no row that was created. -/
theorem Matched.rowOf_not_created {w : World} (h : Matched w) {table : Table}
    (hne : table ≠ .veip) (i : Nat) :
    rowOf (Tr181.cleanupName table i) ∉ createdRows w.trace := by
  intro hmem
  obtain ⟨table', j, -, hrow⟩ := h.named _ hmem
  exact Tr181.rowOf_other hne i table' (j + 1) hrow

/-- Removals that name every created row leave none on the bus. -/
theorem Matched.bus_removals {w : World} (h : Matched w)
    (hsub : createdRows w.trace ⊆ removedRows (Tr181.removals w.tr181)) :
    bus (w.trace ++ Tr181.removals w.tr181) = [] := by
  rw [bus, List.foldl_append, foldl_removals _ fun _ => Tr181.removals_form,
    List.filter_eq_nil_iff]
  intro name hname
  simpa using hsub ((mem_bus_iff h.kept).mp hname)

/-- Every run of syncs after a successful start-up. -/
theorem cleanable_of_syncs {limits : HalLimits} {boot env : Env} {psm : String → Option String}
    {w₀ w : World}
    (hinit : Prog.alone (Controller.init limits) boot (World.boot psm) = some (true, w₀))
    {lists : List AnyList} (hrun : exec (anySyncStep env) w₀ lists = some w) : Cleanable w := by
  have hfresh : Fresh w₀ := (init_fresh limits).alone (blank_boot psm) hinit rfl
  exact exec_invariant (fun _ _ _ h hstep => h.step hstep) hfresh.cleanable hrun

/-! ### The result -/

/-- **When cleanup undoes registration**: after any run of syncs, whatever rbus answered to the
registrations, the removals accepted at shutdown name exactly the rows that were created, each of
them once, and leave none on the bus, if and only if no LLID row and no CPE row is registered. -/
theorem cleanup_undoes_iff {limits : HalLimits} {boot env env' : Env}
    {psm : String → Option String} {w₀ w : World}
    (hinit : Prog.alone (Controller.init limits) boot (World.boot psm) = some (true, w₀))
    (hrbus : ∀ n, env'.unregisterRow n = true) (lists : List AnyList)
    (hrun : exec (anySyncStep env) w₀ lists = some w) :
    ∃ w' calls, Prog.alone (Tr181.cleanup true) env' w = some ((), w') ∧
      w'.trace = w.trace ++ calls ∧
      ((removedRows calls).Perm (createdRows w.trace) ∧ bus w'.trace = [] ↔
        ∀ i, w.tr181.registered .llid i = false ∧ w.tr181.registered .cpe i = false) := by
  have hw : Cleanable w := cleanable_of_syncs hinit hrun
  obtain ⟨w', hcleanup, htrace⟩ := Tr181.cleanup_run hrbus hw.paramCount
  refine ⟨w', _, hcleanup, htrace, ?_⟩
  rw [htrace]
  constructor
  · -- a row of the other two tables is removed under a name that no row has
    rintro ⟨hperm, -⟩ i
    have hnone {table : Table} (hne : table ≠ .veip) (hsub : ∀ i ∈ Tr181.marked w.tr181 table,
        rowOf (Tr181.cleanupName table i) ∈ removedRows (Tr181.removals w.tr181)) :
        w.tr181.registered table i = false := by
      by_contra hreg
      have hmarked : i ∈ Tr181.marked w.tr181 table :=
        hw.matched.mem_marked.mpr (by simpa using hreg)
      exact hw.matched.rowOf_not_created hne i (hperm.subset (hsub i hmarked))
    refine ⟨hnone (by decide) fun j hj => ?_, hnone (by decide) fun j hj => ?_⟩
    · rw [removedRows_removals]
      exact List.mem_append_left _ (List.mem_append_right _ (List.mem_map_of_mem hj))
    · rw [removedRows_removals]
      exact List.mem_append_right _ (List.mem_map_of_mem hj)
  · intro hnone
    have hllid := Tr181.marked_eq_nil fun i => (hnone i).1
    have hcpe := Tr181.marked_eq_nil fun i => (hnone i).2
    have hperm : (removedRows (Tr181.removals w.tr181)).Perm (createdRows w.trace) := by
      have hcreated := hw.matched.createdRows_perm
      rw [hllid, hcpe] at hcreated
      rw [removedRows_removals, hllid, hcpe]
      exact hcreated.symm
    exact ⟨hperm, hw.matched.bus_removals hperm.symm.subset⟩

/-- Two interfaces and nothing else. -/
def twoInterfaces : TableList .veip := ⟨⟨2, fun _ => default⟩, fun _ => trivial⟩

/-- Both rows are registered, and both are gone after the cleanup. -/
theorem cleanup_undoes_veip :
    ∃ w₀ w w' calls, Prog.alone (Controller.init HalLimits.small) Env.quiet
        (World.boot fun _ => none) = some (true, w₀) ∧
      exec (anySyncStep Env.quiet) w₀ [⟨.veip, twoInterfaces⟩] = some w ∧
      Prog.alone (Tr181.cleanup true) Env.quiet w = some ((), w') ∧
      createdRows w.trace = [Table.veip.rowName 1, Table.veip.rowName 2] ∧
      w'.trace = w.trace ++ calls ∧ (removedRows calls).Perm (createdRows w.trace) ∧
      bus w'.trace = [] := by
  have h : ((Prog.alone (Controller.init HalLimits.small) Env.quiet
        (World.boot fun _ => none)).bind fun a =>
      (exec (anySyncStep Env.quiet) a.2 [⟨.veip, twoInterfaces⟩]).map fun w =>
        (a.1, createdRows w.trace, Tr181.marked w.tr181 .llid, Tr181.marked w.tr181 .cpe)) =
      some (true, [Table.veip.rowName 1, Table.veip.rowName 2], [], []) := by
    decide +kernel
  simp only [Option.bind_eq_some_iff, Option.map_eq_some_iff, Prod.mk.injEq] at h
  obtain ⟨⟨ok, w₀⟩, h₀, w, h₁, rfl, hcreated, hllid, hcpe⟩ := h
  have hrbus (n : Nat) : Env.quiet.unregisterRow n = true := rfl
  obtain ⟨w', calls, hrun, htrace, hiff⟩ := cleanup_undoes_iff h₀ hrbus _ h₁
  have hmatched := (cleanable_of_syncs h₀ h₁).matched
  have hnone {table : Table} (hnil : Tr181.marked w.tr181 table = []) (i : Nat) :
      w.tr181.registered table i = false := by
    by_contra hreg
    have hmem := hmatched.mem_marked.mpr (Bool.not_eq_false _ ▸ hreg)
    rw [hnil] at hmem
    cases hmem
  obtain ⟨hperm, hbus⟩ := hiff.mpr fun i => ⟨hnone hllid i, hnone hcpe i⟩
  exact ⟨w₀, w, w', calls, h₀, h₁, hrun, hcreated, htrace, hperm, hbus⟩

/-- One LLID: its row is still on the bus after the cleanup. -/
theorem cleanup_leaves_llid_row :
    ∃ w₀ w w', Prog.alone (Controller.init HalLimits.small) Env.quiet (World.boot fun _ => none) =
        some (true, w₀) ∧
      exec (anySyncStep Env.quiet) w₀ [⟨.llid, llidsOfLength 1⟩] = some w ∧
      Prog.alone (Tr181.cleanup true) Env.quiet w = some ((), w') ∧
      createdRows w.trace = ["Device.Optical.Interface.1.X_RDK_EPON.LLID.1"] ∧
      removedRows w'.trace = ["Device.Optical.Interface.1.X_RDK_EPON.LLID"] ∧
      bus w'.trace = ["Device.Optical.Interface.1.X_RDK_EPON.LLID.1"] := by
  have h : ((Prog.alone (Controller.init HalLimits.small) Env.quiet
        (World.boot fun _ => none)).bind fun a =>
      (exec (anySyncStep Env.quiet) a.2 [⟨.llid, llidsOfLength 1⟩]).bind fun w =>
      (Prog.alone (Tr181.cleanup true) Env.quiet w).map fun b =>
        (a.1, createdRows w.trace, removedRows b.2.trace, bus b.2.trace)) =
      some (true, ["Device.Optical.Interface.1.X_RDK_EPON.LLID.1"],
        ["Device.Optical.Interface.1.X_RDK_EPON.LLID"],
        ["Device.Optical.Interface.1.X_RDK_EPON.LLID.1"]) := by
    decide +kernel
  simp only [Option.bind_eq_some_iff, Option.map_eq_some_iff, Prod.mk.injEq] at h
  obtain ⟨⟨ok, w₀⟩, h₀, w, h₁, ⟨_, w'⟩, h₂, rfl, hcreated, hremoved, hbus⟩ := h
  exact ⟨w₀, w, w', h₀, h₁, h₂, hcreated, hremoved, hbus⟩

end EponManager
