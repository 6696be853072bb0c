import EponManager.Controller.InterfaceStatus
import EponManager.Tr181.Rows

/-!
# The VEIP rows and the count of interfaces

The VEIP table is synced by an interface event or by a refresh of the interface list when the number
of interfaces differs from the number at the last sync. That number is remembered even if rbus
refused a row, so the row is asked for again only when the number of interfaces changes once more.

* `VeipOp` are the operations on the list and its table, `VeipAfter` is what each of them leaves.
* `synced_refused_iff`: a sync leaves a row out exactly if rbus refused one.
* `count_cache_hides_no_row_iff`: exactly in which runs the remembered number never hides a missing
  row.
-/

namespace EponManager

open Lib
open Lib.Prog (Respects)

/-! ### Rows that rbus refused -/

/-- The row of the table that a failed registration was about. -/
def Effect.refused (table : Table) : Effect → Option Nat
  | .registerRow table' inst false => if table' = table then some inst else none
  | _                              => none

/-- The rows that rbus refused so far. -/
def World.refused (w : World) (table : Table) : List Nat := w.trace.filterMap (Effect.refused table)

theorem refused_of_not_isRow {l : List Effect} (h : ∀ e ∈ l, ¬ e.IsRow) (table : Table) :
    l.filterMap (Effect.refused table) = [] := by
  apply List.filterMap_eq_nil_iff.mpr
  intro e he
  cases e with
  | registerRow table' inst ok => exact absurd trivial (h _ he)
  | _ => rfl

namespace Table

/-- A row that rbus refuses is noted. -/
theorem register_refused (env : Env) (table : Table) (info : table.Entry) (i : Nat) (w : World) :
    (register env table info i w).refused table =
      w.refused table ++ if env.registerRow w.tick then [] else [i + 1] := by
  rw [World.refused, register, List.filterMap_append]
  congr 1
  cases env.registerRow w.tick with
  | false => simp [Effect.refused]
  | true => simp [Effect.refused]

/-- **A sync leaves a row out exactly if rbus refused one.** -/
theorem synced_refused_iff {env : Env} {table : Table} {w : World}
    (hentries : table.HasEntries w.eponData.obj) :
    (table.synced env w).refused table = w.refused table ↔
      ∀ i < table.rows w.eponData.obj, (table.synced env w).tr181.registered table i = true := by
  have hrounds : ∃ l, (table.synced env w).refused table = w.refused table ++ l ∧
      (l = [] ↔ ∀ i < table.rows w.eponData.obj,
        (table.synced env w).tr181.registered table i = true) := by
    -- the invariant of the loop: no refusal so far exactly when all rows so far are marked
    refine synced_induction (P := fun m w' => ∃ l, w'.refused table = w.refused table ++ l ∧
      (l = [] ↔ ∀ i < m, w'.tr181.registered table i = true)) (fun w' m hm honly hw' => ?_)
      ⟨[], (List.append_nil _).symm, by simp⟩
    obtain ⟨l, hl, hiff⟩ := hw'
    rcases hentries.rowStep_cases honly hm with ⟨hreg, heq⟩ | ⟨info, hno, -, heq⟩
    · rw [heq]
      refine ⟨l, hl, hiff.trans ⟨fun h i hi => ?_, fun h i hi => h i (by omega)⟩⟩
      rcases Nat.lt_succ_iff_lt_or_eq.mp hi with hi | rfl
      · exact h i hi
      · exact hreg
    · rw [heq, register_refused, hl, List.append_assoc]
      refine ⟨_, rfl, ?_⟩
      rw [List.append_eq_nil_iff, hiff]
      have hflags (i : Nat) := register_registered env table table info m i w'
      constructor
      · rintro ⟨hold, hok⟩ i hi
        rw [hflags]
        rcases Nat.lt_succ_iff_lt_or_eq.mp hi with hi | rfl
        · exact .inl (hold i hi)
        · refine .inr ⟨?_, rfl, rfl⟩
          by_contra hno
          rw [if_neg hno] at hok
          cases hok
      · intro hall
        refine ⟨fun i hi => ?_, ?_⟩
        · rcases (hflags i).mp (hall i (by omega)) with h | ⟨-, -, rfl⟩
          · exact h
          · exact absurd hi (lt_irrefl _)
        · rcases (hflags m).mp (hall m (by omega)) with h | ⟨hok, -, -⟩
          · rw [hno] at h
            cases h
          · rw [if_pos hok]
  obtain ⟨l, hl, hiff⟩ := hrounds
  rw [hl, ← hiff]
  exact List.append_right_eq_self

/-- Rows that are marked stay marked. -/
theorem registered_of_synced {env : Env} {table : Table} {w : World} {i : Nat}
    (h : w.tr181.registered table i = true) :
    (table.synced env w).tr181.registered table i = true :=
  synced_invariant (P := fun w => w.tr181.registered table i = true)
    (fun _ _ _ _ => registered_rowStep) h

/-- Every interface is there. -/
theorem veip_hasEntries (d : Data) : Table.veip.HasEntries d := by
  intro i hi
  rw [entry_eq (lt_of_lt_of_le hi (Nat.min_le_left _ _))]
  rfl

end Table

/-! ### Operations on the interface list -/

/-- What changes the interface list or its table. -/
inductive VeipOp where
  /-- the controller processes an interface event -/
  | event (info : InterfaceInfo)
  /-- `eponMgr_data_get_interface_list` -/
  | refresh
  /-- `eponMgr_tr181_sync_veip_table` -/
  | sync
  deriving DecidableEq, Repr

namespace VeipOp

def run (limits : HalLimits) : VeipOp → M Unit
  | .event info => Controller.processInterfaceStatusEvent limits info
  | .refresh    => do let _ ← Data.getInterfaceList
  | .sync       => do let _ ← Tr181.syncVeipTable

/-- One operation, by a thread that holds no mutex. -/
def step (limits : HalLimits) (env : Env) (w : World) (op : VeipOp) : Option World :=
  (Prog.alone (op.run limits) env w).map Prod.snd

/-- The interface list that the operation leaves. -/
def list (limits : HalLimits) (env : Env) (w : World) : VeipOp → InterfaceList
  | .event info => w.interfaceList.update limits info
  | .refresh    => (env.halGetInterfaceList w.tick w.interfaceList).2
  | .sync       => w.interfaceList

/-- The operation compares the number of interfaces with the remembered one. -/
def Compares (env : Env) (w : World) : VeipOp → Prop
  | .event _ => True
  | .refresh => (env.halGetInterfaceList w.tick w.interfaceList).1 = .success
  | .sync    => False

instance (env : Env) (w : World) (op : VeipOp) : Decidable (op.Compares env w) := by
  cases op <;> unfold Compares <;> infer_instance

end VeipOp

/-- `if_list_count_cache` -/
def World.ifListCountCache (w : World) : UInt32 := w.eponData.obj.ifListCountCache

/-- The memory with the number of interfaces remembered. -/
def World.remember (w : World) : World :=
  { w with
    eponData := { w.eponData with
      obj := { w.eponData.obj with ifListCountCache := w.eponData.obj.getInterfaceCount } } }

/-- What the operations need. -/
structure VeipReady (w : World) : Prop where
  initialised : Initialised w
  rbusHandle : w.tr181.rbusHandle = true

/-- The same rows as before, and the list `l`. -/
structure RowsKept (w v : World) (l : InterfaceList) : Prop where
  tr181 : v.tr181 = w.tr181
  refused : v.refused .veip = w.refused .veip
  list : v.interfaceList = l

/-- The operation syncs the table. -/
def VeipOp.Syncs (limits : HalLimits) (env : Env) (w : World) (op : VeipOp) : Prop :=
  op = .sync ∨
    (op.Compares env w ∧ (op.list limits env w).interfaceCount ≠ w.ifListCountCache)

/-- **What an operation leaves.** -/
structure VeipAfter (limits : HalLimits) (env : Env) (w : World) (op : VeipOp) (w' : World) :
    Prop where
  ready : VeipReady w'
  list : w'.interfaceList = op.list limits env w
  cache : w'.ifListCountCache =
    if op.Compares env w then (op.list limits env w).interfaceCount else w.ifListCountCache
  synced : op.Syncs limits env w → ∃ v, RowsKept w v (op.list limits env w) ∧
    w'.tr181 = (Table.synced env .veip v).tr181 ∧
    w'.refused .veip = (Table.synced env .veip v).refused .veip
  kept : ¬ op.Syncs limits env w → RowsKept w w' (op.list limits env w)

/-! ### What one operation does -/

section Step

variable {limits : HalLimits} {env : Env} {w : World}

/-- An operation that touches neither rows nor lists. -/
theorem RowsKept.of_blankKept {w v : World} (h : BlankKept w v) : RowsKept w v w.interfaceList := by
  obtain ⟨l, htrace, hl⟩ := h.trace
  refine ⟨h.tr181, ?_, congrArg Prod.fst h.lists⟩
  rw [World.refused, htrace, List.filterMap_append, refused_of_not_isRow hl, List.append_nil]
  rfl

theorem announceInterface_blankKept (info : InterfaceInfo) :
    Respects BlankKept (Controller.announceInterface info) :=
  (WanManager.updateVirtualInterface_outside _ fun _ _ _ => id).bind fun rc =>
    (Controller.reportFailure_outside (fun _ => id) rc).bind fun _ =>
    Telemetry.dispatch_outside fun _ => id

theorem announcePhy_blankKept (phyIsUp : Bool) :
    Respects BlankKept (Controller.announcePhy phyIsUp) :=
  (WanManager.notifyPhyStatus_outside id fun _ _ => id).bind fun rc =>
    (Controller.reportFailure_outside (fun _ => id) rc).bind fun _ =>
    Telemetry.dispatch_outside fun _ => id

/-- The last step of an event returns; the sync never reports a failure. -/
theorem syncIfCountChanged_run {s : LockState MutexId World}
    (hhandle : s.mem.tr181.rbusHandle = true) (hdata : s.mem.eponData.isSet = true) :
    Controller.syncIfCountChanged env s = .ok ((), { s with mem :=
      if s.mem.eponData.obj.getInterfaceCount ≠ s.mem.ifListCountCache then
        (Table.synced env .veip s.mem).remember
      else s.mem }) := by
  show (if decide (s.mem.eponData.obj.getInterfaceCount ≠ s.mem.ifListCountCache) = true
    then _ else _ : M Unit) env s = _
  by_cases hne : s.mem.eponData.obj.getInterfaceCount ≠ s.mem.ifListCountCache
  · rw [if_pos (decide_eq_true hne), if_pos hne]
    exact (Prog.bind_of_ok (Table.sync_run .veip hhandle hdata)).trans rfl
  · rw [if_neg (by simpa using hne), if_neg hne]
    rfl

/-- A step is a run of the operation by a thread that holds nothing. -/
theorem VeipOp.step_eq_some {op : VeipOp} {w' : World} :
    op.step limits env w = some w' ↔
      ∃ h, op.run limits env ⟨fun _ => 0, w⟩ = .ok ((), ⟨h, w'⟩) := by
  rw [VeipOp.step, Option.map_eq_some_iff]
  constructor
  · rintro ⟨⟨⟨⟩, _⟩, hrun, rfl⟩
    exact Prog.alone_eq_some.mp hrun
  · rintro ⟨h, hrun⟩
    exact ⟨_, Prog.alone_eq_some.mpr ⟨h, hrun⟩, rfl⟩

/-- An operation that compares the number of interfaces syncs exactly if it changed. -/
theorem VeipAfter.of_compares {op : VeipOp} {w' : World} (hop : op.Compares env w)
    (hready : VeipReady w') (hlist : w'.interfaceList = op.list limits env w)
    (hcache : w'.ifListCountCache = (op.list limits env w).interfaceCount)
    (hsynced : (op.list limits env w).interfaceCount ≠ w.ifListCountCache →
      ∃ v, RowsKept w v (op.list limits env w) ∧ w'.tr181 = (Table.synced env .veip v).tr181 ∧
        w'.refused .veip = (Table.synced env .veip v).refused .veip)
    (hkept : (op.list limits env w).interfaceCount = w.ifListCountCache →
      RowsKept w w' (op.list limits env w)) : VeipAfter limits env w op w' := by
  refine ⟨hready, hlist, by rw [if_pos hop, hcache], fun hsyncs => ?_, fun hno => ?_⟩
  · rcases hsyncs with rfl | hsyncs
    · exact hop.elim
    · exact hsynced hsyncs.2
  · refine hkept ?_
    by_contra hne
    exact hno (.inr ⟨hop, hne⟩)

/-! ### The operations

An event, a sync and a refresh, each with what it leaves of the rows and of the remembered number.
-/

/-- An event updates the list and syncs if the number has changed. -/
theorem VeipAfter.event {info : InterfaceInfo} {w' : World} (hready : VeipReady w)
    (hinit : Initialised w') (hstep : VeipOp.step limits env w (.event info) = some w') :
    VeipAfter limits env w (.event info) w' := by
  obtain ⟨h, hrun⟩ := VeipOp.step_eq_some.mp hstep
  obtain ⟨⟨⟩, s₁, hstore, hrun₁⟩ := Prog.bind_eq_ok.mp hrun
  obtain ⟨⟨⟩, s₂, hintf, hrun₂⟩ := Prog.bind_eq_ok.mp hrun₁
  obtain ⟨phyIsUp, s₃, hread, hrun₃⟩ := Prog.bind_eq_ok.mp hrun₂
  obtain ⟨⟨⟩, s₄, hphy, hend⟩ := Prog.bind_eq_ok.mp hrun₃
  cases hstore
  cases hread
  -- between the store and the sync, only reports are made
  have hkept : BlankKept _ s₄.mem := trans_of BlankKept
    (announceInterface_blankKept info env _ _ _ hintf) (announcePhy_blankKept _ env _ _ _ hphy)
  have hhandle : s₄.mem.tr181.rbusHandle = true := by
    rw [hkept.tr181]
    exact hready.rbusHandle
  have hdata : s₄.mem.eponData.isSet = true := hkept.isSet.trans hready.initialised.eponData
  have hv : RowsKept w s₄.mem (w.interfaceList.update limits info) :=
    have hsame := RowsKept.of_blankKept hkept
    ⟨hsame.tr181, hsame.refused, hsame.list⟩
  have hcount : s₄.mem.eponData.obj.getInterfaceCount =
      (w.interfaceList.update limits info).interfaceCount :=
    congrArg InterfaceList.interfaceCount hv.list
  have hcache : s₄.mem.ifListCountCache = w.ifListCountCache :=
    congrArg (fun l => l.2.2.2.1) hkept.lists
  rw [syncIfCountChanged_run hhandle hdata, hcount, hcache] at hend
  have honly := Table.synced_onlyRows env .veip s₄.mem
  -- the sync depends on the remembered number alone
  by_cases hne : (w.interfaceList.update limits info).interfaceCount ≠ w.ifListCountCache
  · rw [if_pos hne] at hend
    cases hend
    refine VeipAfter.of_compares trivial ⟨hinit, honly.rbusHandle.trans hhandle⟩ ?_ ?_
      (fun _ => ⟨s₄.mem, hv, rfl, rfl⟩) (fun heq => absurd heq hne)
    · exact (congrArg (fun p => p.obj.interfaceList) honly.eponData).trans hv.list
    · exact (congrArg (fun p => p.obj.getInterfaceCount) honly.eponData).trans hcount
  · rw [if_neg hne] at hend
    cases hend
    exact VeipAfter.of_compares trivial ⟨hinit, hhandle⟩ hv.list
      (hcache.trans (not_not.mp hne).symm) (fun h => absurd h hne) (fun _ => hv)

/-- A sync registers the rows that are missing. -/
theorem VeipAfter.sync {w' : World} (hready : VeipReady w) (hinit : Initialised w')
    (hstep : VeipOp.step limits env w .sync = some w') : VeipAfter limits env w .sync w' := by
  obtain ⟨h, hrun⟩ := VeipOp.step_eq_some.mp hstep
  have hsync : Table.veip.sync env ⟨fun _ => 0, w⟩ = _ :=
    Table.sync_run .veip hready.rbusHandle hready.initialised.eponData
  have hrun' := (Prog.bind_of_ok hsync).symm.trans hrun
  cases hrun'
  have honly := Table.synced_onlyRows env .veip w
  refine ⟨⟨hinit, honly.rbusHandle.trans hready.rbusHandle⟩, ?_, ?_, fun _ =>
    ⟨w, ⟨rfl, rfl, rfl⟩, rfl, rfl⟩, fun hno => absurd (.inl rfl) hno⟩
  · exact congrArg (fun p => p.obj.interfaceList) honly.eponData
  · rw [if_neg (show ¬ VeipOp.sync.Compares env w from id)]
    exact congrArg (fun p => p.obj.ifListCountCache) honly.eponData

/-! ### A refresh -/

/-- The memory with the list that the HAL handed over. -/
def World.listRefreshed (env : Env) (w : World) : World :=
  { w with
    tick := w.tick + 1
    trace := w.trace ++ [.halGetInterfaceList (env.halGetInterfaceList w.tick w.interfaceList).1]
    eponData := { w.eponData with
      obj := { w.eponData.obj with
        interfaceList := (env.halGetInterfaceList w.tick w.interfaceList).2 } } }

/-- The memory that a refresh of the interface list leaves. -/
def World.afterRefresh (env : Env) (w : World) : World :=
  if (env.halGetInterfaceList w.tick w.interfaceList).1 = .success ∧
      (w.listRefreshed env).interfaceList.interfaceCount ≠ w.ifListCountCache then
    Table.synced env .veip (w.listRefreshed env).remember
  else
    w.listRefreshed env

/-- A refresh of the interface list returns. -/
theorem getInterfaceList_run {s : LockState MutexId World}
    (hhandle : s.mem.tr181.rbusHandle = true) (hdata : s.mem.eponData.isSet = true) :
    ∃ ok, Data.getInterfaceList env s = .ok (ok, { s with mem := s.mem.afterRefresh env }) := by
  rw [World.afterRefresh, Data.getInterfaceList,
    Prog.bind_of_ok (Prog.lock_of_recursive rfl env s)]
  show ∃ ok, (if (env.halGetInterfaceList s.mem.tick s.mem.interfaceList).1 = .success
    then _ else _ : M Bool) env ⟨s.held.acquire .data, s.mem.listRefreshed env⟩ = _
  by_cases hsuccess : (env.halGetInterfaceList s.mem.tick s.mem.interfaceList).1 = .success
  · rw [if_pos hsuccess]
    show ∃ ok, (if decide ((s.mem.listRefreshed env).interfaceList.interfaceCount ≠
      s.mem.ifListCountCache) = true then _ else _ : M Bool) env
      ⟨s.held.acquire .data, s.mem.listRefreshed env⟩ = _
    by_cases hne : (s.mem.listRefreshed env).interfaceList.interfaceCount ≠ s.mem.ifListCountCache
    · rw [if_pos (decide_eq_true hne), if_pos ⟨hsuccess, hne⟩]
      have hmodify : modifyData (fun d => { d with ifListCountCache := d.getInterfaceCount }) env
          ⟨s.held.acquire .data, s.mem.listRefreshed env⟩ =
          .ok ((), ⟨s.held.acquire .data, (s.mem.listRefreshed env).remember⟩) := rfl
      refine ⟨true, (Prog.bind_of_ok hmodify).trans ((Prog.bind_of_ok (Prog.unlock_acquired .data
        env { s with mem := (s.mem.listRefreshed env).remember })).trans ?_)⟩
      have hsync : Table.veip.sync env
          { s with mem := (s.mem.listRefreshed env).remember } = _ :=
        Table.sync_run .veip hhandle hdata
      exact (Prog.bind_of_ok hsync).trans rfl
    · rw [if_neg (by simpa using hne), if_neg fun h => hne h.2]
      exact ⟨true, (Prog.bind_of_ok (Prog.unlock_acquired .data env
        { s with mem := s.mem.listRefreshed env })).trans rfl⟩
  · rw [if_neg hsuccess, if_neg fun h => hsuccess h.1]
    exact ⟨false, (Prog.bind_of_ok (Prog.unlock_acquired .data env
      { s with mem := s.mem.listRefreshed env })).trans rfl⟩

/-- A refresh replaces the list and syncs if the number has changed. -/
theorem VeipAfter.refresh {w' : World} (hready : VeipReady w) (hinit : Initialised w')
    (hstep : VeipOp.step limits env w .refresh = some w') :
    VeipAfter limits env w .refresh w' := by
  obtain ⟨h, hrun⟩ := VeipOp.step_eq_some.mp hstep
  obtain ⟨ok, hget⟩ : ∃ ok, Data.getInterfaceList env ⟨fun _ => 0, w⟩ = .ok (ok, _) :=
    getInterfaceList_run hready.rbusHandle hready.initialised.eponData
  have hw' : w' = w.afterRefresh env := by
    have hrun' := (Prog.bind_of_ok hget).symm.trans hrun
    cases hrun'
    rfl
  have hkept : RowsKept w (w.listRefreshed env)
      (env.halGetInterfaceList w.tick w.interfaceList).2 := by
    refine ⟨rfl, ?_, rfl⟩
    rw [World.refused, World.listRefreshed, List.filterMap_append]
    exact List.append_nil _
  by_cases hsuccess : (env.halGetInterfaceList w.tick w.interfaceList).1 = .success
  · -- after a success too, the sync depends on the remembered number
    by_cases hne : (w.listRefreshed env).interfaceList.interfaceCount ≠ w.ifListCountCache
    · rw [World.afterRefresh, if_pos ⟨hsuccess, hne⟩] at hw'
      subst hw'
      have honly := Table.synced_onlyRows env .veip (w.listRefreshed env).remember
      refine VeipAfter.of_compares hsuccess
        ⟨hinit, honly.rbusHandle.trans hready.rbusHandle⟩ ?_ ?_
        (fun _ => ⟨(w.listRefreshed env).remember, ⟨hkept.tr181, hkept.refused, hkept.list⟩, rfl,
          rfl⟩) (fun heq => absurd heq hne)
      · exact congrArg (fun p => p.obj.interfaceList) honly.eponData
      · exact congrArg (fun p => p.obj.ifListCountCache) honly.eponData
    · rw [World.afterRefresh, if_neg fun h => hne h.2] at hw'
      subst hw'
      exact VeipAfter.of_compares hsuccess ⟨hinit, hready.rbusHandle⟩ rfl (not_not.mp hne).symm
        (fun h => absurd h hne) (fun _ => hkept)
  · rw [World.afterRefresh, if_neg fun h => hsuccess h.1] at hw'
    subst hw'
    refine ⟨⟨hinit, hready.rbusHandle⟩, rfl, ?_, fun hsyncs => ?_, fun _ => hkept⟩
    · rw [if_neg (show ¬ VeipOp.refresh.Compares env w from hsuccess)]
      rfl
    · rcases hsyncs with hsync | hsyncs
      · cases hsync
      · exact absurd hsyncs.1 hsuccess

/-- Every operation comes back. -/
theorem VeipOp.run_moves (limits : HalLimits) (op : VeipOp) :
    Prog.Moves Initialised (op.run limits) (fun _ => 0) (fun _ => 0) (fun _ => True) := by
  cases op with
  | event info => exact Controller.processInterfaceStatusEvent_moves (fun _ _ => rfl) limits info
  | refresh => exact Data.getInterfaceList_moves.bind fun _ _ => Prog.Moves.pure trivial
  | sync => exact Tr181.syncVeipTable_moves.bind fun _ _ => Prog.Moves.pure trivial

/-! ### A run -/

/-- **Step lemma**: every operation returns. -/
theorem VeipReady.step (hready : VeipReady w) (limits : HalLimits) (env : Env) (op : VeipOp) :
    ∃ w', op.step limits env w = some w' ∧ VeipAfter limits env w op w' := by
  obtain ⟨⟨⟩, w', hrun, hinit, -⟩ := (op.run_moves limits).alone hready.initialised env
  have hstep : op.step limits env w = some w' := by
    rw [VeipOp.step, hrun]
    rfl
  refine ⟨w', hstep, ?_⟩
  cases op with
  | event info => exact VeipAfter.event hready hinit hstep
  | refresh => exact VeipAfter.refresh hready hinit hstep
  | sync => exact VeipAfter.sync hready hinit hstep

end Step

/-- Every run of operations gets to its end. -/
theorem VeipReady.exec {w : World} (hready : VeipReady w) (limits : HalLimits) (env : Env)
    (ops : List VeipOp) : ∃ w', exec (VeipOp.step limits env) w ops = some w' := by
  induction ops generalizing w with
  | nil => exact ⟨w, rfl⟩
  | cons op ops ih =>
      obtain ⟨w₁, hstep, hafter⟩ := hready.step limits env op
      obtain ⟨w', hrest⟩ := ih hafter.ready
      exact ⟨w', exec_cons_eq_some.mpr ⟨w₁, hstep, hrest⟩⟩

/-- A start-up leaves what the operations need. -/
theorem veipReady_init {limits : HalLimits} {boot : Env} {psm : String → Option String} {w₀ : World}
    (hinit : Prog.alone (Controller.init limits) boot (World.boot psm) = some (true, w₀)) :
    VeipReady w₀ :=
  ⟨(Controller.init_initialised limits).alone trivial hinit rfl,
    ((init_fresh limits).alone (blank_boot psm) hinit rfl).rbusHandle⟩

/-! ### The remembered number and the rows -/

/-- A row is registered for each interface that the remembered number counts, as far as the table
goes. -/
def Covered (w : World) : Prop :=
  ∀ i < min w.ifListCountCache.toNat (Tr181.maxInstances .veip),
    w.tr181.registered .veip i = true

/-- If the number of interfaces is the remembered one, every interface has a row. -/
def HidesNoRow (w : World) : Prop :=
  w.ifListCountCache = w.interfaceList.interfaceCount →
    ∀ inst, 1 ≤ inst → inst ≤ min w.interfaceList.interfaceCount.toNat 16 →
      w.tr181.registered .veip (inst - 1) = true

/-- rbus refuses no row that the operation asks for, if it is an event or a refresh. -/
def VeipOp.Accepted (limits : HalLimits) (env : Env) (w : World) (op : VeipOp) : Prop :=
  op ≠ .sync → ∀ w', op.step limits env w = some w' → w'.refused .veip = w.refused .veip

/-- If every row is there, none is hidden. -/
theorem Covered.hidesNoRow {w : World} (h : Covered w) : HidesNoRow w := by
  intro heq inst hpos hinst
  refine h (inst - 1) ?_
  rw [heq]
  show inst - 1 < min _ 16
  omega

/-- Nothing is remembered after a start-up. -/
theorem covered_init {limits : HalLimits} {boot : Env} {psm : String → Option String} {w₀ : World}
    (hinit : Prog.alone (Controller.init limits) boot (World.boot psm) = some (true, w₀)) :
    Covered w₀ := by
  have hlists := ((init_fresh limits).alone (blank_boot psm) hinit rfl).lists
  simp only [Data.lists, Prod.mk.injEq] at hlists
  intro i hi
  rw [World.ifListCountCache, hlists.2.2.2.1] at hi
  exact absurd hi (Nat.not_lt_zero _)

section Runs

variable {limits : HalLimits} {env : Env} {w w' : World} {op : VeipOp}

/-- A sync asked for all rows of the list, and rbus refused none exactly if all are registered. -/
theorem VeipAfter.refused_iff (h : VeipAfter limits env w op w')
    (hsyncs : op.Syncs limits env w) :
    w'.refused .veip = w.refused .veip ↔
      ∀ i < min w'.interfaceList.interfaceCount.toNat 16,
        w'.tr181.registered .veip i = true := by
  obtain ⟨v, hv, htr181, hrefused⟩ := h.synced hsyncs
  have hrows : Table.veip.rows v.eponData.obj =
      min w'.interfaceList.interfaceCount.toNat 16 := by
    rw [h.list, ← hv.list]
    rfl
  rw [hrefused, htr181, ← hv.refused, ← hrows]
  exact Table.synced_refused_iff (Table.veip_hasEntries _)

/-- Rows are never taken away. -/
theorem VeipAfter.registered (h : VeipAfter limits env w op w') {i : Nat}
    (hi : w.tr181.registered .veip i = true) : w'.tr181.registered .veip i = true := by
  by_cases hsyncs : op.Syncs limits env w
  · obtain ⟨v, hv, htr181, -⟩ := h.synced hsyncs
    rw [htr181]
    rw [← hv.tr181] at hi
    exact Table.registered_of_synced hi
  · rw [(h.kept hsyncs).tr181]
    exact hi

/-- **Step lemma**: an operation whose rows are accepted keeps the rows of the remembered number. -/
theorem Covered.step (hw : Covered w) (hstep : op.step limits env w = some w')
    (h : VeipAfter limits env w op w') (hok : op.Accepted limits env w) : Covered w' := by
  intro i hi
  rw [h.cache] at hi
  by_cases hop : op.Compares env w
  · have hne : op ≠ .sync := by
      rintro rfl
      exact hop
    rw [if_pos hop] at hi
    by_cases hgate : (op.list limits env w).interfaceCount = w.ifListCountCache
    · rw [hgate] at hi
      exact h.registered (hw i hi)
    · have hall := (h.refused_iff (.inr ⟨hop, hgate⟩)).mp (hok hne w' hstep)
      refine hall i ?_
      rw [h.list]
      exact hi
  · rw [if_neg hop] at hi
    exact h.registered (hw i hi)

/-! ### The condition -/

/-- If no row is hidden after an operation, rbus has refused none in it. -/
theorem VeipOp.accepted_of_hidesNoRow (hready : VeipReady w)
    (hpost : ∀ w', op.step limits env w = some w' → HidesNoRow w') :
    op.Accepted limits env w := by
  intro hne w' hstep
  obtain ⟨w'', hstep', hafter⟩ := hready.step limits env op
  rw [hstep] at hstep'
  cases hstep'
  by_cases hsyncs : op.Syncs limits env w
  · have hop := (hsyncs.resolve_left hne).1
    rw [hafter.refused_iff hsyncs]
    intro i hi
    have hcache : w'.ifListCountCache = w'.interfaceList.interfaceCount := by
      rw [hafter.cache, if_pos hop, hafter.list]
    exact hpost w' hstep hcache (i + 1) (by omega) (by omega)
  · exact (hafter.kept hsyncs).refused

/-- If rbus accepts every row, it refuses none. -/
theorem VeipOp.accepted_of_rbus (hrbus : ∀ n, env.registerRow n = true) (hready : VeipReady w)
    (op : VeipOp) : op.Accepted limits env w := by
  intro _ w' hstep
  obtain ⟨w'', hstep', hafter⟩ := hready.step limits env op
  rw [hstep] at hstep'
  cases hstep'
  by_cases hsyncs : op.Syncs limits env w
  · obtain ⟨v, hv, -, hrefused⟩ := hafter.synced hsyncs
    have hentries := Table.veip_hasEntries v.eponData.obj
    rw [hrefused, (Table.synced_refused_iff hentries).mpr, hv.refused]
    intro i hi
    exact (Table.registered_synced hrbus hentries .veip i).mpr (.inr ⟨rfl, hi⟩)
  · exact (hafter.kept hsyncs).refused

/-- If rbus accepts every row, no operation leaves one out. -/
theorem VeipReady.along_accepted (hready : VeipReady w) (hrbus : ∀ n, env.registerRow n = true)
    (ops : List VeipOp) :
    Along (VeipOp.step limits env) (fun w op => op.Accepted limits env w) w ops := by
  induction ops generalizing w with
  | nil => trivial
  | cons op ops ih =>
      refine ⟨VeipOp.accepted_of_rbus hrbus hready op, fun t hstep => ?_⟩
      obtain ⟨t', hstep', hafter⟩ := hready.step limits env op
      rw [hstep] at hstep'
      cases hstep'
      exact ih hafter.ready

/-! ### The result -/

/-- **Which runs hide no row**: after every operation of a run, each interface has a row if the
remembered number is the number of interfaces, if and only if rbus refuses no row that an event or a
refresh of the run asks for. -/
theorem count_cache_hides_no_row_iff {boot : Env} {psm : String → Option String} {w₀ : World}
    (hinit : Prog.alone (Controller.init limits) boot (World.boot psm) = some (true, w₀))
    (env : Env) (ops : List VeipOp) :
    (∃ w, exec (VeipOp.step limits env) w₀ ops = some w) ∧
      (Along (VeipOp.step limits env)
          (fun w op => ∀ w', op.step limits env w = some w' → HidesNoRow w') w₀ ops ↔
        Along (VeipOp.step limits env) (fun w op => op.Accepted limits env w) w₀ ops) := by
  have hready := veipReady_init hinit
  refine ⟨hready.exec limits env ops, Iff.symm ?_⟩
  refine along_iff (P := fun w => VeipReady w ∧ Covered w) (D := fun _ _ => True)
    (fun s a t hs _ hok hstep => ?_) (fun s a hs _ => ⟨fun hok t hstep => ?_, fun hpost => ?_⟩)
    ⟨hready, covered_init hinit⟩ (along_of_forall fun _ _ => trivial)
  · obtain ⟨t', hstep', hafter⟩ := hs.1.step limits env a
    rw [hstep] at hstep'
    cases hstep'
    exact ⟨hafter.ready, hs.2.step hstep hafter hok⟩
  · obtain ⟨t', hstep', hafter⟩ := hs.1.step limits env a
    rw [hstep] at hstep'
    cases hstep'
    exact (hs.2.step hstep hafter hok).hidesNoRow
  · exact VeipOp.accepted_of_hidesNoRow hs.1 hpost

end Runs

/-- Two interfaces come up and the list is refreshed, and rbus accepts both rows. -/
theorem count_cache_hides_no_row_two :
    ∃ w₀, Prog.alone (Controller.init HalLimits.small) Env.quiet (World.boot fun _ => none) =
        some (true, w₀) ∧
      Along (VeipOp.step HalLimits.small Env.quiet)
        (fun w op => ∀ w', op.step HalLimits.small Env.quiet w = some w' → HidesNoRow w') w₀
        [.event ⟨"veip0\x00".toList, .linkUp⟩, .event ⟨"veip1\x00".toList, .linkUp⟩, .refresh] := by
  obtain ⟨t, ht⟩ := Controller.init_quiet
  have hinit := Prog.alone_eq_some.mpr ⟨t.held, ht⟩
  refine ⟨t.mem, hinit, (count_cache_hides_no_row_iff hinit Env.quiet _).2.mpr ?_⟩
  exact (veipReady_init hinit).along_accepted (fun _ => rfl) _

/-- An rbus that refuses rows at first. -/
def slowRbus : Env := { Env.quiet with registerRow := fun n => decide (20 ≤ n) }

/-- rbus refuses the row of the first interface. The number of interfaces is remembered all the
same, so a refresh and the next event do not ask for the row again. -/
theorem count_cache_hides_refused_row :
    ∃ w₀ w, Prog.alone (Controller.init HalLimits.small) Env.quiet (World.boot fun _ => none) =
        some (true, w₀) ∧
      exec (VeipOp.step HalLimits.small slowRbus) w₀ [.event ⟨"veip0\x00".toList, .linkUp⟩,
        .refresh, .event ⟨"veip0\x00".toList, .linkDown⟩] = some w ∧
      w.refused .veip = [1] ∧ ¬ HidesNoRow w := by
  have h : ((Prog.alone (Controller.init HalLimits.small) Env.quiet
        (World.boot fun _ => none)).bind fun p =>
      (exec (VeipOp.step HalLimits.small slowRbus) p.2 [.event ⟨"veip0\x00".toList, .linkUp⟩,
        .refresh, .event ⟨"veip0\x00".toList, .linkDown⟩]).map fun w =>
        (p.1, w.refused .veip, w.ifListCountCache, w.interfaceList.interfaceCount,
          w.tr181.registered .veip 0)) = some (true, [1], 1, 1, false) := by
    decide +kernel
  simp only [Option.bind_eq_some_iff, Option.map_eq_some_iff, Prod.mk.injEq] at h
  obtain ⟨⟨ok, w₀⟩, h₀, w, h₁, rfl, hrefused, hcache, hcount, hreg⟩ := h
  refine ⟨w₀, w, h₀, h₁, hrefused, fun hhides => ?_⟩
  have hrow := hhides (hcache.trans hcount.symm) 1 le_rfl (by rw [hcount]; decide)
  rw [hreg] at hrow
  cases hrow

end EponManager
