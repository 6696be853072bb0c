import EponManager.Controller.Init
import EponManager.Lib.Decimal

/-!
# Table rows on the bus

The three sync functions are the same loop over the LLID, CPE or VEIP list: register a row for each
entry that has none yet. `Table.sync` is that loop with the table as its parameter, and
`Table.synced` the memory it leaves, as a fold over the entries.

* `rowName` is the row that `rbusTable_registerRow` creates; `bus` are the rows that are left after
  the calls of a trace.
* `Matched` ties the `registered` flags to the trace: a row is marked exactly if its registration
  succeeded, and no registration succeeds twice. Every sync keeps it.
* `Fresh` is what a start-up leaves, because the lists are empty then.
-/

namespace EponManager

open Lib
open Lib.Prog (Ensures Respects)

/-! ### Names -/

namespace Table

/-- The name under which rbus knows the table. -/
def path : Table → String
  | .llid => "Device.Optical.Interface.1.X_RDK_EPON.LLID."
  | .cpe  => "Device.Optical.Interface.1.X_RDK_EPON.DPOE.CPE."
  | .veip => "Device.Optical.Interface.1.X_RDK_EPON.VEIP_Interface."

/-- The row that `rbusTable_registerRow` creates: the table's name followed by the number. -/
def rowName (table : Table) (inst : Nat) : String := table.path ++ toString inst

/-- A row's name is the table's name and the number. -/
theorem rowName_toList (table : Table) (inst : Nat) :
    (table.rowName inst).toList = table.path.toList ++ Nat.toDigits 10 inst := by
  rw [rowName, String.toList_append, Nat.toString_eq_ofList_toDigits, String.toList_ofList]

/-- The first letter in which the three names differ. -/
def letter : Table → Char
  | .llid => 'L'
  | .cpe  => 'D'
  | .veip => 'V'

/-- The tables differ in one letter, so their rows do. -/
theorem rowName_letter (table : Table) (inst : Nat) :
    (table.rowName inst).toList[38]? = some table.letter := by
  rw [rowName_toList]
  cases table with
  | llid => rw [List.getElem?_append_left (by decide)]; decide
  | cpe => rw [List.getElem?_append_left (by decide)]; decide
  | veip => rw [List.getElem?_append_left (by decide)]; decide

/-- **A row's name tells its table and its number.** -/
theorem rowName_inj {table table' : Table} {inst inst' : Nat}
    (h : table.rowName inst = table'.rowName inst') : table = table' ∧ inst = inst' := by
  have htable : table = table' := by
    have hl := rowName_letter table inst
    rw [h, rowName_letter] at hl
    cases table <;> cases table' <;> first | rfl | exact absurd hl (by decide)
  subst htable
  refine ⟨rfl, numeral_inj ?_⟩
  have hlist := congrArg String.toList h
  rw [rowName_toList, rowName_toList] at hlist
  exact List.append_cancel_left hlist

end Table

/-! ### The bus -/

/-- The row that the argument of `rbusTable_unregisterRow` names; a trailing dot is
insignificant. -/
def rowOf (name : String) : String :=
  if name.toList.getLast? = some '.' then String.ofList name.toList.dropLast else name

/-- The rows on the bus after one more call. -/
def busStep (rows : List String) : Effect → List String
  | .registerRow table inst true => table.rowName inst :: rows
  | .unregisterRow name true     => rows.filter (· ≠ rowOf name)
  | _                            => rows

/-- The rows on the bus after the calls of a trace. -/
def bus (trace : List Effect) : List String := trace.foldl busStep []

/-- The row that a call created, if it did. -/
def Effect.created : Effect → Option String
  | .registerRow table inst true => some (table.rowName inst)
  | _                            => none

/-- The rows whose registration succeeded. -/
def createdRows (trace : List Effect) : List String := trace.filterMap Effect.created

/-- The effect is a call that removes a row. -/
def Effect.Unregisters : Effect → Prop
  | .unregisterRow .. => True
  | _                 => False

/-- The effect is a call about a row. -/
def Effect.IsRow : Effect → Prop
  | .registerRow ..   => True
  | .unregisterRow .. => True
  | _                 => False

/-! ### The rows that rbus knows -/

/-- As long as nothing is unregistered, rows are only added. -/
theorem busStep_of_not_unregisters {e : Effect} (he : ¬ e.Unregisters) (rows : List String) :
    busStep rows e = e.created.toList ++ rows := by
  cases e with
  | registerRow table inst ok => cases ok <;> rfl
  | unregisterRow name ok => exact absurd trivial he
  | _ => rfl

theorem createdRows_cons (e : Effect) (l : List Effect) :
    createdRows (e :: l) = e.created.toList ++ createdRows l := by
  rw [createdRows, List.filterMap_cons]
  cases e.created <;> rfl

theorem createdRows_append (l l' : List Effect) :
    createdRows (l ++ l') = createdRows l ++ createdRows l' := List.filterMap_append

/-- As long as nothing was unregistered, the bus has the rows that were created. -/
theorem mem_bus_iff {trace : List Effect} (h : ∀ e ∈ trace, ¬ e.Unregisters) {name : String} :
    name ∈ bus trace ↔ name ∈ createdRows trace := by
  have hfold (rows : List String) :
      name ∈ trace.foldl busStep rows ↔ name ∈ createdRows trace ∨ name ∈ rows := by
    induction trace generalizing rows with
    | nil => simp [createdRows]
    | cons e trace ih =>
        have he := h e List.mem_cons_self
        rw [List.foldl_cons, ih (fun e' he' => h e' (List.mem_cons_of_mem _ he')),
          busStep_of_not_unregisters he, createdRows_cons]
        simp only [List.mem_append]
        tauto
  rw [bus, hfold []]
  simp

/-! ### The sync functions as one -/

namespace Table

/-- An entry of the list behind a table. -/
def Entry : Table → Type
  | .llid => LlidInfo
  | .cpe  => CpeMacEntry
  | .veip => InterfaceInfo

def count : Table → Data → UInt32
  | .llid => Data.getLlidCount
  | .cpe  => Data.getCpeCount
  | .veip => Data.getInterfaceCount

/-- A cell of the array behind the list; none if there is no array. -/
def cell : (table : Table) → Data → Nat → Option table.Entry
  | .llid => fun d i => d.llidList.llidList.map (fun cells => cells i)
  | .cpe  => fun d i => d.cpeTable.cpeList.map (fun cells => cells i)
  | .veip => fun d i => some (d.interfaceList.interface i)

/-- What the `..._at_index` function of the list returns. -/
def entry (table : Table) (d : Data) (index : UInt32) : Option table.Entry :=
  if index ≥ table.count d then none else table.cell d index.toNat

/-- What a sync keeps of an entry: the VEIP table keeps its name. -/
def record : (table : Table) → table.Entry → Nat → Tr181 → Tr181
  | .llid, _, _, t    => t
  | .cpe, _, _, t     => t
  | .veip, info, i, t =>
      { t with veipName := Function.update t.veipName i (Tr181.copyName (InterfaceInfo.name info)) }

/-- The sync function of the table. -/
def sync (table : Table) : M Int :=
  Tr181.syncTable table table.count (Data.getAtIndex table.entry) table.record

theorem sync_llid : sync .llid = Tr181.syncLlidTable := rfl

theorem sync_cpe : sync .cpe = Tr181.syncCpeTable := rfl

theorem sync_veip : sync .veip = Tr181.syncVeipTable := rfl

end Table

/-! ### What a sync does to the memory -/

namespace Table

/-- The number of rows that a sync goes through. -/
def rows (table : Table) (d : Data) : Nat := min (table.count d).toNat (Tr181.maxInstances table)

/-- Asking rbus for row `i + 1`, and marking it if that succeeds. -/
def register (env : Env) (table : Table) (info : table.Entry) (i : Nat) (w : World) : World :=
  let ok := env.registerRow w.tick
  { w with
    tick := w.tick + 1
    trace := w.trace ++ [.registerRow table (i + 1) ok]
    tr181 := if ok then Tr181.setRegistered table i (table.record info i w.tr181) else w.tr181 }

/-- The entries below the count are there if their cells are. -/
theorem entry_eq {table : Table} {d : Data} {i : Nat} (h : i < (table.count d).toNat) :
    table.entry d (UInt32.ofNat i) = table.cell d i := by
  have hlt := (table.count d).toNat_lt
  have hindex : (UInt32.ofNat i).toNat = i := by
    rw [UInt32.toNat_ofNat', Nat.mod_eq_of_lt (by omega)]
  have hbelow : ¬ UInt32.ofNat i ≥ table.count d := by
    rw [ge_iff_le, UInt32.le_iff_toNat_le, hindex]
    omega
  rw [entry, if_neg hbelow, hindex]

/-- One round of the loop. -/
def rowStep (env : Env) (table : Table) (w : World) (i : Nat) : World :=
  if w.tr181.registered table i then w
  else
    match table.entry w.eponData.obj (UInt32.ofNat i) with
    | none      => w
    | some info => register env table info i w

/-- The memory after a sync. -/
def synced (env : Env) (table : Table) (w : World) : World :=
  (List.range (table.rows w.eponData.obj)).foldl (rowStep env table) w

/-- Reading an entry leaves everything as it was. -/
theorem getAtIndex_run {α : Type} (get : Data → UInt32 → Option α) (index : UInt32) (env : Env)
    (s : LockState MutexId World) :
    Data.getAtIndex get index env s = .ok (get s.mem.eponData.obj index, s) := by
  have hread : readData (fun d => get d index) env { s with held := s.held.acquire .data } =
      .ok (get s.mem.eponData.obj index, { s with held := s.held.acquire .data }) := rfl
  rw [Data.getAtIndex, Prog.bind_of_ok (Prog.lock_of_recursive rfl env s), Prog.bind_of_ok hread]
  exact Prog.bind_of_ok (Prog.unlock_acquired .data env s)

/-- Registering one row: the flag is set only if rbus agrees. -/
theorem register_run (env : Env) (table : Table) (info : table.Entry) (i : Nat)
    (s : LockState MutexId World) :
    (do
      let ok ← ask Env.registerRow
      emit (.registerRow table (i + 1) ok)
      if ok then
        Prog.write (fun w =>
          { w with tr181 := Tr181.setRegistered table i (table.record info i w.tr181) })
      else
        return () : M Unit) env s =
      .ok ((), { s with mem := register env table info i s.mem }) := by
  rw [register]
  cases hok : env.registerRow s.mem.tick with
  | false =>
      have hask : ask Env.registerRow env s =
          .ok (false, { s with mem := { s.mem with tick := s.mem.tick + 1 } }) := by
        rw [← hok]
        rfl
      rw [Prog.bind_of_ok hask]
      rfl
  | true =>
      have hask : ask Env.registerRow env s =
          .ok (true, { s with mem := { s.mem with tick := s.mem.tick + 1 } }) := by
        rw [← hok]
        rfl
      rw [Prog.bind_of_ok hask]
      rfl

/-! ### One row -/

/-- One round of the loop returns. -/
theorem syncRow_run (env : Env) (table : Table) (i : Nat) (s : LockState MutexId World) :
    Tr181.syncRow table (Data.getAtIndex table.entry) table.record i env s =
      .ok ((), { s with mem := rowStep env table s.mem i }) := by
  show (if s.mem.tr181.registered table i then _ else _ : M Unit) env s = _
  rw [rowStep]
  by_cases hreg : s.mem.tr181.registered table i = true
  · rw [if_pos hreg, if_pos hreg]
    rfl
  · rw [if_neg hreg, if_neg hreg, Prog.bind_of_ok (getAtIndex_run _ _ env s)]
    cases table.entry s.mem.eponData.obj (UInt32.ofNat i) with
    | none => rfl
    | some info => exact register_run env table info i s

/-- The three outcomes of a round: nothing to do, a failed registration, a successful one. -/
theorem rowStep_cases (env : Env) (table : Table) (w : World) (i : Nat) :
    ((w.tr181.registered table i = true ∨ table.entry w.eponData.obj (UInt32.ofNat i) = none) ∧
      rowStep env table w i = w) ∨
    ∃ info, w.tr181.registered table i = false ∧
      table.entry w.eponData.obj (UInt32.ofNat i) = some info ∧
      rowStep env table w i = register env table info i w := by
  rw [rowStep]
  cases hreg : w.tr181.registered table i with
  | true => exact .inl ⟨.inl rfl, rfl⟩
  | false =>
      cases hentry : table.entry w.eponData.obj (UInt32.ofNat i) with
      | none => exact .inl ⟨.inr rfl, rfl⟩
      | some info => exact .inr ⟨info, rfl, rfl, rfl⟩

/-- What registering rows leaves alone. -/
structure OnlyRows (w w' : World) : Prop where
  eponData : w'.eponData = w.eponData
  controller : w'.controller = w.controller
  rbusHandle : w'.tr181.rbusHandle = w.tr181.rbusHandle
  paramCount : w'.tr181.paramCount = w.tr181.paramCount

/-! ### What a row changes -/

theorem OnlyRows.trans {w₁ w₂ w₃ : World} (h : OnlyRows w₁ w₂) (h' : OnlyRows w₂ w₃) :
    OnlyRows w₁ w₃ :=
  ⟨h'.eponData.trans h.eponData, h'.controller.trans h.controller,
    h'.rbusHandle.trans h.rbusHandle, h'.paramCount.trans h.paramCount⟩

@[simp] theorem record_rbusHandle (table : Table) (info : table.Entry) (i : Nat) (t : Tr181) :
    (table.record info i t).rbusHandle = t.rbusHandle := by
  cases table <;> rfl

@[simp] theorem record_paramCount (table : Table) (info : table.Entry) (i : Nat) (t : Tr181) :
    (table.record info i t).paramCount = t.paramCount := by
  cases table <;> rfl

@[simp] theorem record_registered (table : Table) (info : table.Entry) (i : Nat) (t : Tr181) :
    (table.record info i t).registered = t.registered := by
  cases table <;> rfl

/-- One turn of the loop changes rows and the trace. -/
theorem rowStep_onlyRows (env : Env) (table : Table) (w : World) (i : Nat) :
    OnlyRows w (rowStep env table w i) := by
  rcases rowStep_cases env table w i with ⟨-, heq⟩ | ⟨info, -, -, heq⟩
  · rw [heq]
    exact ⟨rfl, rfl, rfl, rfl⟩
  · rw [heq, register]
    refine ⟨rfl, rfl, ?_, ?_⟩
    · cases env.registerRow w.tick <;> simp [Tr181.setRegistered]
    · cases env.registerRow w.tick <;> simp [Tr181.setRegistered]

/-- **The rule of a sync's loop**: `P i` is what holds when `i` rounds are done. -/
theorem synced_induction {env : Env} {table : Table} {P : Nat → World → Prop} {w : World}
    (hstep : ∀ w' i, i < table.rows w.eponData.obj → OnlyRows w w' → P i w' →
      P (i + 1) (rowStep env table w' i)) (hw : P 0 w) :
    P (table.rows w.eponData.obj) (table.synced env w) := by
  have hbelow (m : Nat) (hm : m ≤ table.rows w.eponData.obj) :
      OnlyRows w ((List.range m).foldl (rowStep env table) w) ∧
        P m ((List.range m).foldl (rowStep env table) w) := by
    induction m with
    | zero => exact ⟨⟨rfl, rfl, rfl, rfl⟩, hw⟩
    | succ m ih =>
        obtain ⟨honly, hp⟩ := ih (by omega)
        rw [List.range_succ, List.foldl_append]
        exact ⟨honly.trans (rowStep_onlyRows env table _ m), hstep _ m (by omega) honly hp⟩
  exact (hbelow _ le_rfl).2

/-- What every round keeps holds after the sync. -/
theorem synced_invariant {env : Env} {table : Table} {P : World → Prop} {w : World}
    (hstep : ∀ w' i, i < table.rows w.eponData.obj → OnlyRows w w' → P w' →
      P (rowStep env table w' i)) (hw : P w) : P (table.synced env w) :=
  synced_induction (P := fun _ => P) hstep hw

theorem synced_onlyRows (env : Env) (table : Table) (w : World) :
    OnlyRows w (table.synced env w) :=
  synced_invariant (fun _ i _ _ h => h.trans (rowStep_onlyRows env table _ i))
    ⟨rfl, rfl, rfl, rfl⟩

/-- The context is locked if it is there. -/
theorem lock_run {env : Env} {s : LockState MutexId World} (hdata : s.mem.eponData.isSet = true) :
    Data.lock env s = .ok (true, { s with held := s.held.acquire .data }) := by
  show (if s.mem.eponData.isSet then _ else _ : M Bool) env s = _
  rw [if_pos hdata, Prog.bind_of_ok (Prog.lock_of_recursive rfl env s)]
  rfl

theorem unlock_run {env : Env} {s : LockState MutexId World} (hdata : s.mem.eponData.isSet = true) :
    Data.unlock env { s with held := s.held.acquire .data } = .ok ((), s) := by
  show (if s.mem.eponData.isSet then _ else _ : M Unit) env _ = _
  rw [if_pos hdata]
  exact Prog.unlock_acquired .data env s

/-- **A sync returns and folds `rowStep` over the entries**, once the handle and the data context
are there. -/
theorem sync_run {env : Env} {s : LockState MutexId World} (table : Table)
    (hhandle : s.mem.tr181.rbusHandle = true) (hdata : s.mem.eponData.isSet = true) :
    table.sync env s = .ok (0, { s with mem := table.synced env s.mem }) := by
  show (if s.mem.tr181.rbusHandle then _ else _ : M Int) env s = _
  rw [if_pos hhandle]
  have hcount : readData table.count env { s with held := s.held.acquire .data } =
      .ok (table.count s.mem.eponData.obj, { s with held := s.held.acquire .data }) := rfl
  rw [Prog.bind_of_ok (lock_run hdata), if_pos rfl, Prog.bind_of_ok hcount,
    Prog.bind_of_ok (Prog.forEach_of_ok (syncRow_run env table) _ _)]
  have hset : (table.synced env s.mem).eponData.isSet = true := by
    rw [(synced_onlyRows env table s.mem).eponData]
    exact hdata
  exact Prog.bind_of_ok (unlock_run (s := { s with mem := table.synced env s.mem }) hset)

/-- A call of the sync. -/
theorem sync_alone {env : Env} {w : World} (table : Table) (hhandle : w.tr181.rbusHandle = true)
    (hdata : w.eponData.isSet = true) :
    Prog.alone table.sync env w = some (0, table.synced env w) :=
  Prog.alone_eq_some.mpr ⟨_, sync_run table hhandle hdata⟩

/-! ### Flags -/

/-- One flag is set, and no other. -/
theorem setRegistered_registered (table table' : Table) (i j : Nat) (t : Tr181) :
    (Tr181.setRegistered table i t).registered table' j = true ↔
      t.registered table' j = true ∨ (table' = table ∧ j = i) := by
  rw [Tr181.setRegistered]
  by_cases htable : table' = table
  · subst htable
    by_cases hj : j = i
    · simp [hj]
    · simp [hj]
  · simp [htable]

/-- The flags after a registration. -/
theorem register_registered (env : Env) (table table' : Table) (info : table.Entry) (i j : Nat)
    (w : World) :
    (register env table info i w).tr181.registered table' j = true ↔
      w.tr181.registered table' j = true ∨
        (env.registerRow w.tick = true ∧ table' = table ∧ j = i) := by
  rw [register]
  cases env.registerRow w.tick with
  | false => simp
  | true => simp [setRegistered_registered]

/-- A row that is marked stays marked. -/
theorem registered_rowStep {env : Env} {table table' : Table} {w : World} {i j : Nat}
    (h : w.tr181.registered table' j = true) :
    (rowStep env table w i).tr181.registered table' j = true := by
  rcases rowStep_cases env table w i with ⟨-, heq⟩ | ⟨info, -, -, heq⟩
  · rwa [heq]
  · rw [heq, register_registered]
    exact .inl h

/-- The list behind the table has the entries that it counts. -/
def HasEntries (table : Table) (d : Data) : Prop :=
  ∀ i < table.rows d, (table.entry d (UInt32.ofNat i)).isSome

/-- A round finds a row that is marked already, or registers it. -/
theorem HasEntries.rowStep_cases {env : Env} {table : Table} {w w' : World} {i : Nat}
    (hentries : table.HasEntries w.eponData.obj) (honly : OnlyRows w w')
    (hi : i < table.rows w.eponData.obj) :
    (w'.tr181.registered table i = true ∧ rowStep env table w' i = w') ∨
      ∃ info, w'.tr181.registered table i = false ∧
        table.entry w.eponData.obj (UInt32.ofNat i) = some info ∧
        rowStep env table w' i = register env table info i w' := by
  have hsome := hentries i hi
  rcases Table.rowStep_cases env table w' i with ⟨hdone, heq⟩ | ⟨info, hfree, hinfo, heq⟩
  · refine .inl ⟨hdone.resolve_right fun hnone => ?_, heq⟩
    rw [honly.eponData] at hnone
    rw [hnone] at hsome
    cases hsome
  · rw [honly.eponData] at hinfo
    exact .inr ⟨info, hfree, hinfo, heq⟩

/-- **If every registration succeeds**, a sync adds the rows of all entries. -/
theorem registered_synced {env : Env} (hrbus : ∀ n, env.registerRow n = true) {table : Table}
    {w : World} (hentries : table.HasEntries w.eponData.obj) (table' : Table) (j : Nat) :
    (table.synced env w).tr181.registered table' j = true ↔
      w.tr181.registered table' j = true ∨ (table' = table ∧ j < table.rows w.eponData.obj) := by
  refine synced_induction (P := fun m w' => w'.tr181.registered table' j = true ↔
    w.tr181.registered table' j = true ∨ (table' = table ∧ j < m)) (fun w' m hm honly hiff => ?_)
    (by simp)
  have hsplit : (table' = table ∧ j < m + 1) ↔
      (table' = table ∧ j < m) ∨ (table' = table ∧ j = m) := by
    rw [← and_or_left]
    exact and_congr_right fun _ => by omega
  rcases hentries.rowStep_cases honly hm with ⟨hreg, heq⟩ | ⟨info, -, -, heq⟩
  · rw [heq, hiff, hsplit]
    constructor
    · rintro (h | h)
      · exact .inl h
      · exact .inr (.inl h)
    · rintro (h | h | ⟨rfl, rfl⟩)
      · exact .inl h
      · exact .inr h
      · exact hiff.mp hreg
  · rw [heq, register_registered, hiff, hsplit, or_assoc]
    simp [hrbus]

end Table

/-! ### Flags and the trace -/

/-- **The flags tell which registrations succeeded**, and none of them was made twice. -/
structure Matched (w : World) : Prop where
  created : ∀ table i, w.tr181.registered table i = true ↔
    table.rowName (i + 1) ∈ createdRows w.trace
  nodup : (createdRows w.trace).Nodup
  named : ∀ name ∈ createdRows w.trace, ∃ (table : Table) (i : Nat),
    i < Tr181.maxInstances table ∧ name = table.rowName (i + 1)
  kept : ∀ e ∈ w.trace, ¬ e.Unregisters

/-- A row is registered and its flag set: the two agree again. -/
theorem Matched.register {w : World} (h : Matched w) {env : Env} {table : Table}
    {info : table.Entry} {i : Nat} (hi : i < Tr181.maxInstances table)
    (hreg : w.tr181.registered table i = false) : Matched (Table.register env table info i w) := by
  have hkept : ∀ e ∈ (Table.register env table info i w).trace, ¬ e.Unregisters := by
    intro e he
    rcases List.mem_append.mp he with he | he
    · exact h.kept e he
    · rw [List.mem_singleton.mp he]
      exact id
  have hflags (table' : Table) (j : Nat) :=
    Table.register_registered env table table' info i j w
  have htrace : createdRows (Table.register env table info i w).trace =
      createdRows w.trace ++
        createdRows [.registerRow table (i + 1) (env.registerRow w.tick)] :=
    createdRows_append _ _
  cases hok : env.registerRow w.tick with
  | false =>
      rw [hok] at htrace
      have hsame : createdRows (Table.register env table info i w).trace =
          createdRows w.trace := by
        rw [htrace]
        exact List.append_nil _
      refine ⟨fun t j => ?_, by rw [hsame]; exact h.nodup, by rw [hsame]; exact h.named, hkept⟩
      rw [hflags, hsame, hok, h.created]
      simp
  | true =>
      rw [hok] at htrace
      have hnew : createdRows (Table.register env table info i w).trace =
          createdRows w.trace ++ [table.rowName (i + 1)] := htrace
      have hfresh : table.rowName (i + 1) ∉ createdRows w.trace := by
        rw [← h.created, hreg]
        exact Bool.false_ne_true
      refine ⟨fun t j => ?_, ?_, fun name hname => ?_, hkept⟩
      · rw [hflags, hnew, hok, h.created, List.mem_append, List.mem_singleton]
        refine or_congr_right ⟨?_, fun heq => ?_⟩
        · rintro ⟨-, rfl, rfl⟩
          rfl
        · obtain ⟨htable, hinst⟩ := Table.rowName_inj heq
          exact ⟨rfl, htable, by omega⟩
      · rw [hnew]
        refine List.nodup_append.mpr ⟨h.nodup, by simp, fun a ha b hb => ?_⟩
        rw [List.mem_singleton.mp hb]
        rintro rfl
        exact hfresh ha
      · rw [hnew] at hname
        rcases List.mem_append.mp hname with hname | hname
        · exact h.named name hname
        · exact ⟨table, i, hi, List.mem_singleton.mp hname⟩

/-- A round of the loop keeps the flags and the trace together, whatever rbus answers. -/
theorem Matched.rowStep {w : World} (h : Matched w) (env : Env) {table : Table} {i : Nat}
    (hi : i < Tr181.maxInstances table) : Matched (Table.rowStep env table w i) := by
  rcases Table.rowStep_cases env table w i with ⟨-, heq⟩ | ⟨info, hreg, -, heq⟩
  · rwa [heq]
  · rw [heq]
    exact h.register hi hreg

/-- And so does a sync. -/
theorem Matched.synced {w : World} (h : Matched w) (env : Env) (table : Table) :
    Matched (Table.synced env table w) :=
  Table.synced_invariant
    (fun _ _ hi _ hw' => hw'.rowStep env (lt_of_lt_of_le hi (Nat.min_le_right _ _))) h

/-- Nothing registered, nothing on the bus. -/
theorem matched_of_noRows {w : World} (hreg : ∀ table i, w.tr181.registered table i = false)
    (hrows : ∀ e ∈ w.trace, ¬ e.IsRow) : Matched w := by
  have hnone : createdRows w.trace = [] := by
    apply List.filterMap_eq_nil_iff.mpr
    intro e he
    have hrow := hrows e he
    cases e with
    | registerRow table inst ok => exact absurd trivial hrow
    | _ => rfl
  refine ⟨fun table i => ?_, ?_, ?_, fun e he hrow => ?_⟩
  · rw [hreg, hnone]
    simp
  · rw [hnone]
    exact List.nodup_nil
  · rw [hnone]
    exact fun _ h => absurd h List.not_mem_nil
  · apply hrows e he
    cases e with
    | registerRow table inst ok => trivial
    | unregisterRow name ok => trivial
    | _ => exact hrow

/-! ### After the start-up -/

/-- No list has an entry and no row was registered. -/
structure Blank (w : World) : Prop where
  lists : w.eponData.obj.lists = Data.zero.lists
  registered : ∀ table i, w.tr181.registered table i = false
  noRows : ∀ e ∈ w.trace, ¬ e.IsRow

/-- What keeps it so. -/
structure BlankKept (w w' : World) : Prop where
  isSet : w'.eponData.isSet = w.eponData.isSet
  lists : w'.eponData.obj.lists = w.eponData.obj.lists
  tr181 : w'.tr181 = w.tr181
  trace : ∃ l, w'.trace = w.trace ++ l ∧ ∀ e ∈ l, ¬ e.IsRow

/-- The rows, the lists and the trace are untouched. -/
theorem BlankKept.of_eq {w w' : World} (hset : w'.eponData.isSet = w.eponData.isSet)
    (hlists : w'.eponData.obj.lists = w.eponData.obj.lists) (htr181 : w'.tr181 = w.tr181)
    (htrace : w'.trace = w.trace) : BlankKept w w' :=
  ⟨hset, hlists, htr181, [], by rw [htrace, List.append_nil], fun _ h => absurd h List.not_mem_nil⟩

instance : Reports BlankKept (fun e => ¬ e.IsRow) where
  refl _ := BlankKept.of_eq rfl rfl rfl rfl
  trans _ _ _ h h' := by
    obtain ⟨l, ht, hl⟩ := h.trace
    obtain ⟨l', ht', hl'⟩ := h'.trace
    refine ⟨h'.isSet.trans h.isSet, h'.lists.trans h.lists, h'.tr181.trans h.tr181, l ++ l', ?_,
      fun e he => ?_⟩
    · rw [ht', ht, List.append_assoc]
    · exact (List.mem_append.mp he).elim (hl e) (hl' e)
  tick _ := BlankKept.of_eq rfl rfl rfl rfl
  emit _ e he := ⟨rfl, rfl, rfl, [e], rfl, by simpa using he⟩
  index _ _ := BlankKept.of_eq rfl rfl rfl rfl

theorem Blank.of_kept {w w' : World} (h : BlankKept w w') (hw : Blank w) : Blank w' := by
  obtain ⟨l, ht, hl⟩ := h.trace
  refine ⟨h.lists.trans hw.lists, by rw [h.tr181]; exact hw.registered, fun e he => ?_⟩
  rw [ht] at he
  exact (List.mem_append.mp he).elim (hw.noRows e) (hl e)

theorem blank_ensures {α : Type} {f : M α} (hf : Respects BlankKept f) :
    Ensures Blank f (fun _ => Blank) :=
  hf.ensures fun _ _ h => Blank.of_kept h

/-- The same with the data context in place. -/
theorem blankSet_ensures {α : Type} {f : M α} (hf : Respects BlankKept f) :
    Ensures (fun w => Blank w ∧ w.eponData.isSet = true) f
      (fun _ w => Blank w ∧ w.eponData.isSet = true) :=
  hf.ensures fun _ _ h hw => ⟨hw.1.of_kept h, h.isSet.trans hw.2⟩

/-- **What a successful start-up leaves of the tables**: the handle is there, and no row. -/
structure Fresh (w : World) : Prop extends Blank w where
  eponData : w.eponData.isSet = true
  rbusHandle : w.tr181.rbusHandle = true
  paramCount : w.tr181.paramCount ≠ 0

/-! ### The start-up syncs empty lists -/

/-- A sync of an empty list does nothing. -/
theorem Table.synced_blank {w : World} (hw : Blank w) (env : Env) (table : Table) :
    table.synced env w = w := by
  have hcount : (table.count w.eponData.obj).toNat = 0 := by
    have hlists := hw.lists
    simp only [Data.lists, Prod.mk.injEq] at hlists
    obtain ⟨hif, hllid, hcpe, -⟩ := hlists
    cases table with
    | llid => rw [Table.count, Data.getLlidCount, hllid]; rfl
    | cpe => rw [Table.count, Data.getCpeCount, hcpe]; rfl
    | veip => rw [Table.count, Data.getInterfaceCount, hif]; rfl
  rw [Table.synced, Table.rows, hcount, Nat.zero_min, List.range_zero, List.foldl_nil]

/-- A sync of a table whose list is empty registers nothing. -/
theorem Table.sync_blank (table : Table) {P : World → Prop} (hP : ∀ w, P w → Blank w ∧
    w.tr181.rbusHandle = true ∧ w.eponData.isSet = true) :
    Ensures P table.sync (fun _ => P) := by
  intro env s rc t hs hrun
  obtain ⟨hblank, hhandle, hdata⟩ := hP _ hs
  -- an empty list leaves the loop nothing to do
  rw [table.sync_run hhandle hdata, Table.synced_blank hblank] at hrun
  cases hrun
  exact hs

/-- The three syncs of the start-up leave no row behind. -/
theorem registerTr181_fresh :
    Ensures (fun w => Blank w ∧ w.eponData.isSet = true) Rbus.registerTr181
      (fun ok w => ok = true → Fresh w) := by
  refine Ensures.bind (Q := fun _ w => Blank w ∧ w.eponData.isSet = true)
    (Ensures.read fun _ h => h) fun _ => Ensures.ite (fun _ => ?_)
    (fun _ => Controller.ensures_abandon)
  refine Ensures.bind (Q := fun _ => Fresh) (Ensures.write ?_) fun _ =>
    Ensures.bind (Q := fun _ => Fresh) (startupCall_ensures ?_) fun _ =>
    Ensures.ite (fun _ => ?_) (fun _ => Controller.ensures_abandon)
  · rintro w ⟨hw, hdata⟩
    exact ⟨⟨hw.lists, hw.registered, hw.noRows⟩, hdata, rfl, Nat.succ_ne_zero _⟩
  · exact fun w hw => ⟨⟨hw.lists, hw.registered, hw.noRows⟩, hw.eponData, hw.rbusHandle,
      hw.paramCount⟩
  · have hsync (table : Table) : Ensures Fresh table.sync (fun _ => Fresh) :=
      table.sync_blank fun w hw => ⟨hw.toBlank, hw.rbusHandle, hw.eponData⟩
    exact (hsync .llid).bind fun _ => (hsync .cpe).bind fun _ => (hsync .veip).bind fun _ =>
      Ensures.pure fun _ hw _ => hw

theorem initData_blank :
    Ensures Blank Controller.initData (fun ok w => ok = true →
      Blank w ∧ w.eponData.isSet = true) := by
  have hrbus : Respects BlankKept Rbus.init :=
    Respects.read.bind fun _ => Respects.ite Respects.pure (Respects.bind (ask_outside _)
      fun _ => Respects.ite (Respects.bind (Respects.write fun _ => BlankKept.of_eq rfl rfl rfl rfl)
        fun _ => Respects.pure) Respects.pure)
  refine Ensures.of_within fun env => Controller.initData_rule (A := Blank) (R := Blank)
    (S := Blank) (L := fun _ => Blank) (C := fun _ => Blank) ?_
    ((Controller.ensures_regardless (blank_ensures hrbus)).within env) ?_
    ((blank_ensures (Persistence.load_outside _)).within env) ?_ ?_ ?_
  · exact fun _ hw => ⟨hw.lists, hw.registered, hw.noRows⟩
  · exact fun _ hw => ⟨hw.lists, hw.registered, hw.noRows⟩
  · exact fun _ _ hw => ⟨hw.lists, hw.registered, hw.noRows⟩
  · exact fun _ _ hw => ⟨hw.lists, hw.registered, hw.noRows⟩
  · exact fun _ _ hw => ⟨⟨rfl, hw.registered, hw.noRows⟩, rfl⟩

/-- **A successful start-up has registered nothing yet.** -/
theorem init_fresh (limits : HalLimits) :
    Ensures Blank (Controller.init limits) (fun ok w => ok = true → Fresh w) := by
  have hhal : Respects BlankKept (Controller.initHal limits) :=
    Controller.initHal_outside (fun _ _ => id)
      (fun w f hf => BlankKept.of_eq rfl (hf _).1 rfl rfl) limits
  refine Ensures.of_within fun env => Controller.init_rule
    (B := fun w => Blank w ∧ w.eponData.isSet = true) (initData_blank.within env)
    ((blankSet_ensures hhal).within env) (fun config => ?_) (registerTr181_fresh.within env)
    (fun w hw => ?_)
  · have hset := blankSet_ensures (Controller.pollerInit_respects
      (fun _ _ => BlankKept.of_eq rfl rfl rfl rfl) config.statsPollerEnabled
      config.statsPollerIntervalSeconds)
    exact (Controller.ensures_regardless (hset.conseq (fun _ h => h.2) fun _ _ h => h)).within env
  · exact ⟨⟨hw.lists, hw.registered, hw.noRows⟩, hw.eponData, hw.rbusHandle, hw.paramCount⟩

theorem blank_boot (psm : String → Option String) : Blank (World.boot psm) :=
  ⟨rfl, fun _ _ => rfl, fun _ h => absurd h List.not_mem_nil⟩

theorem Blank.matched {w : World} (h : Blank w) : Matched w :=
  matched_of_noRows h.registered h.noRows

end EponManager
