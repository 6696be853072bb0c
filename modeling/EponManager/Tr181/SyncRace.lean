import EponManager.Lib.Exclusive
import EponManager.Tr181.Cleanup
import EponManager.Tr181.FailedRefresh

/-!
# Threads that sync the tables

Any thread may sync a table at any time. It looks at the handle first, takes the data mutex, reads
the length of the list and goes through the rows. Meanwhile other threads call syncs of their own,
and the lists are replaced. A cleanup takes no mutex; here it is one move, which may come between
any two rounds of a sync.

* `SyncRace.step` is the interleaving of any number of threads, round by round; `exec_sync_moves`
  says that the moves of one thread, uninterrupted, are the sync function.
* `SyncRace.Moved` says what a move can do, and `Moved.trace` where registrations come from.
* `SyncRace.Inv` is the invariant: since the last cleanup the flags and the calls agree.
-/

namespace EponManager

open Lib
open Lib.Prog (Respects)

/-! ### Calls and rounds -/

/-- The number of a row of the table whose registration succeeded. -/
def Effect.accepted (table : Table) : Effect → Option Nat
  | .registerRow table' inst true => if table' = table then some inst else none
  | _                             => none

/-- Row `inst` was created if and only if the call for it succeeded. -/
theorem rowName_mem_createdRows {table : Table} {inst : Nat} {trace : List Effect} :
    table.rowName inst ∈ createdRows trace ↔ Effect.registerRow table inst true ∈ trace := by
  rw [createdRows, List.mem_filterMap]
  constructor
  · rintro ⟨e, he, hname⟩
    cases e with
    | registerRow table' inst' ok =>
        cases ok with
        | true =>
            obtain ⟨rfl, rfl⟩ := Table.rowName_inj (Option.some.inj hname)
            exact he
        | false => cases hname
    | _ => cases hname
  · intro h
    exact ⟨_, h, rfl⟩

theorem accepted_sublist (table : Table) (trace : List Effect) :
    ((trace.filterMap (Effect.accepted table)).map table.rowName).Sublist (createdRows trace) := by
  induction trace with
  | nil => exact List.Sublist.slnil
  | cons e trace ih =>
      rw [createdRows_cons]
      cases e with
      | registerRow table' inst ok =>
          cases ok with
          | true =>
              by_cases htable : table' = table
              · subst htable
                simpa [Effect.accepted, Effect.created] using ih
              · simpa [Effect.accepted, Effect.created, htable] using ih.cons _
          | false => exact ih
      | _ => exact ih

/-- No number succeeds twice. -/
theorem Matched.accepted_nodup {w : World} (h : Matched w) (table : Table) :
    (w.trace.filterMap (Effect.accepted table)).Nodup :=
  List.Nodup.of_map _ (h.nodup.sublist (accepted_sublist table w.trace))

/-- Only the rows that a table can have are marked. -/
theorem Matched.lt_maxInstances {w : World} (h : Matched w) {table : Table} {i : Nat}
    (hreg : w.tr181.registered table i = true) : i < Tr181.maxInstances table := by
  obtain ⟨table', i', hi', hname⟩ := h.named _ ((h.created table i).mp hreg)
  obtain ⟨rfl, hinst⟩ := Table.rowName_inj hname
  omega

namespace Table

variable {env : Env} {table : Table} {w : World} {i : Nat}

/-! ### One turn of the loop -/

/-- What a round adds to the trace: at most one call, for a row without a mark whose entry is
there. -/
theorem rowStep_trace (env : Env) (table : Table) (w : World) (i : Nat) :
    ∃ l, (rowStep env table w i).trace = w.trace ++ l ∧ ∀ e ∈ l,
      e = .registerRow table (i + 1) (env.registerRow w.tick) ∧
        w.tr181.registered table i = false ∧
        table.entry w.eponData.obj (UInt32.ofNat i) ≠ none := by
  rcases rowStep_cases env table w i with ⟨-, heq⟩ | ⟨info, hreg, hentry, heq⟩
  · refine ⟨[], ?_, ?_⟩
    · rw [heq, List.append_nil]
    · intro e he
      cases he
  · refine ⟨[.registerRow table (i + 1) (env.registerRow w.tick)], ?_, ?_⟩
    · rw [heq]
      rfl
    · intro e he
      rw [hentry]
      exact ⟨List.mem_singleton.mp he, hreg, Option.some_ne_none info⟩

/-- A round does the same whatever came before in the trace. -/
theorem rowStep_drop (env : Env) (table : Table) (w : World) (i : Nat) {m : Nat}
    (hm : m ≤ w.trace.length) :
    { rowStep env table w i with trace := (rowStep env table w i).trace.drop m } =
      rowStep env table { w with trace := w.trace.drop m } i := by
  rw [rowStep, rowStep]
  by_cases hreg : w.tr181.registered table i = true
  · rw [if_pos hreg, if_pos hreg]
  · rw [if_neg hreg, if_neg hreg]
    cases table.entry w.eponData.obj (UInt32.ofNat i) with
    | none => rfl
    | some info =>
        show _ = { register env table info i w with
          trace := w.trace.drop m ++ [Effect.registerRow table (i + 1) (env.registerRow w.tick)] }
        rw [← List.drop_append_of_le_length hm]
        rfl

/-- A round keeps the name of a row that is marked already. -/
theorem rowStep_veipName (env : Env) (table : Table) (i : Nat) {j : Nat}
    (hreg : w.tr181.registered .veip j = true) :
    (rowStep env table w i).tr181.veipName j = w.tr181.veipName j := by
  rcases rowStep_cases env table w i with ⟨-, heq⟩ | ⟨info, hfree, -, heq⟩
  · rw [heq]
  · rw [heq, register]
    cases env.registerRow w.tick with
    | false => rfl
    | true =>
        cases table with
        | llid => rfl
        | cpe => rfl
        | veip =>
            have hne : j ≠ i := by
              rintro rfl
              rw [hreg] at hfree
              cases hfree
            show Function.update w.tr181.veipName i _ j = _
            rw [Function.update_of_ne hne]

/-- A round over an entry that is there either fails or leaves the row marked. -/
theorem rowStep_settles (env : Env) (table : Table) (w : World) (i : Nat) :
    (rowStep env table w i).tr181.registered table i = true ∨
      table.entry w.eponData.obj (UInt32.ofNat i) = none ∨
      (rowStep env table w i).trace = w.trace ++ [.registerRow table (i + 1) false] := by
  rcases rowStep_cases env table w i with ⟨hdone, heq⟩ | ⟨info, -, -, heq⟩
  · rw [heq]
    exact hdone.imp id .inl
  · rw [heq]
    cases hok : env.registerRow w.tick with
    | true => exact .inl ((register_registered ..).mpr (.inr ⟨hok, rfl, rfl⟩))
    | false =>
        refine .inr (.inr ?_)
        rw [register, hok]

/-- What a sync sees of the data context is the list of its table. -/
theorem sees_current {table : Table} {d d' : Data} (h : table.current d = table.current d') :
    table.count d = table.count d' ∧ table.entry d = table.entry d' := by
  have hcount : table.count d = table.count d' := by
    cases table with
    | llid => exact congrArg LlidList.llidCount h
    | cpe => exact congrArg (fun l : CpeMacTable => l.staticCpeCount + l.dynamicCpeCount) h
    | veip => exact congrArg InterfaceList.interfaceCount h
  have hcell : table.cell d = table.cell d' := by
    cases table with
    | llid => exact congrArg (fun (l : LlidList) i => l.llidList.map (fun cells => cells i)) h
    | cpe => exact congrArg (fun (l : CpeMacTable) i => l.cpeList.map (fun cells => cells i)) h
    | veip => exact congrArg (fun (l : InterfaceList) i => some (l.interface i)) h
  refine ⟨hcount, ?_⟩
  funext index
  rw [entry, entry, hcount, hcell]

end Table

/-! ### The interleaving -/

/-- Where a thread is. -/
inductive SyncPhase where
  | outside
  /-- the handle was there, and the data mutex is next -/
  | waiting (table : Table)
  /-- the mutex is held; row `i` of `n` is next -/
  | looping (table : Table) (n i : Nat)
  deriving DecidableEq, Repr

/-- The thread holds the data mutex. -/
def SyncPhase.holds : SyncPhase → Bool
  | .looping .. => true
  | _           => false

/-- The threads, numbered by `ι`, and the memory. `cleaned` is the length of the trace when the last
cleanup returned. -/
structure SyncRace (ι : Type) where
  world : World
  phase : ι → SyncPhase
  owner : Option ι
  cleaned : Nat

/-- What a thread can do. -/
inductive SyncMove (ι : Type) where
  /-- call the sync function of a table -/
  | call (t : ι) (table : Table)
  /-- lock the data context -/
  | lock (t : ι)
  /-- one round of the loop -/
  | row (t : ι)
  /-- unlock the data context -/
  | unlock (t : ι)
  /-- replace what the data context holds -/
  | refresh (data : Pointer Data)
  /-- `eponMgr_tr181_init` stores the handle -/
  | attach (params : Nat)
  /-- `eponMgr_tr181_cleanup` -/
  | cleanup (handle : Bool)

namespace SyncRace

variable {ι : Type}

/-! ### The steps -/

/-- No thread has called anything. -/
def start (w : World) : SyncRace ι := ⟨w, fun _ => .outside, none, 0⟩

/-- The calls since the last cleanup. -/
def since (s : SyncRace ι) : List Effect := s.world.trace.drop s.cleaned

/-- The calls of a run that leads from `s` to `s'`. -/
def calls (s s' : SyncRace ι) : List Effect := s'.world.trace.drop s.world.trace.length

/-- What a further move adds to the trace is what it adds to the calls. -/
theorem calls_append {s v s' : SyncRace ι} {l : List Effect}
    (hgrown : s.world.trace <+: v.world.trace) (htrace : s'.world.trace = v.world.trace ++ l) :
    s.calls s' = s.calls v ++ l := by
  rw [calls, calls, htrace, List.drop_append_of_le_length hgrown.length_le]

section Step

variable [DecidableEq ι]

/-- A thread is somewhere else. -/
def goto (s : SyncRace ι) (t : ι) (phase : SyncPhase) : SyncRace ι :=
  { s with phase := Function.update s.phase t phase }

/-- One move. The list may change while a thread holds the mutex, because
`process_interface_status_event` does not take it. -/
def step (env : Env) (s : SyncRace ι) : SyncMove ι → Option (SyncRace ι)
  | .call t table => match s.phase t with
      | .outside => some (if s.world.tr181.rbusHandle then s.goto t (.waiting table) else s)
      | _        => none
  | .lock t => match s.phase t with
      | .waiting table =>
          if s.world.eponData.isSet then
            if s.owner.isNone then
              some { s.goto t (.looping table (table.rows s.world.eponData.obj) 0) with
                owner := some t }
            else
              none
          else
            some (s.goto t .outside)
      | _ => none
  | .row t => match s.phase t with
      | .looping table n i =>
          if i < n then
            some { s.goto t (.looping table n (i + 1)) with
              world := Table.rowStep env table s.world i }
          else
            none
      | _ => none
  | .unlock t => match s.phase t with
      | .looping _ n i => if i < n then none else some { s.goto t .outside with owner := none }
      | _              => none
  | .refresh data => some { s with world := { s.world with eponData := data } }
  | .attach params => some { s with world := { s.world with
      tr181 := { s.world.tr181 with rbusHandle := true, paramCount := params } } }
  | .cleanup handle => (Prog.alone (Tr181.cleanup handle) env s.world).map fun p =>
      { s with
        world := p.2
        -- a cleanup that finds nothing to clean up returns at once
        cleaned := if handle ∧ s.world.tr181.paramCount ≠ 0 then p.2.trace.length else s.cleaned }

/-! ### What a step can do -/

/-- What a move can do: one case for each way through it. -/
inductive Moved (env : Env) (s : SyncRace ι) : SyncMove ι → SyncRace ι → Prop
  | refused (t table) : s.phase t = .outside → Moved env s (.call t table) s
  | called (t table) : s.phase t = .outside →
      Moved env s (.call t table) (s.goto t (.waiting table))
  | unset (t table) : s.phase t = .waiting table → Moved env s (.lock t) (s.goto t .outside)
  | locked (t table) : s.phase t = .waiting table → s.owner = none →
      Moved env s (.lock t)
        { s.goto t (.looping table (table.rows s.world.eponData.obj) 0) with owner := some t }
  | row (t table) (n i : Nat) : s.phase t = .looping table n i → i < n →
      Moved env s (.row t) { s.goto t (.looping table n (i + 1)) with
        world := Table.rowStep env table s.world i }
  | unlocked (t table) (n i : Nat) : s.phase t = .looping table n i → n ≤ i →
      Moved env s (.unlock t) { s.goto t .outside with owner := none }
  | refreshed (data) : Moved env s (.refresh data)
      { s with world := { s.world with eponData := data } }
  | attached (params) : Moved env s (.attach params) { s with world := { s.world with
      tr181 := { s.world.tr181 with rbusHandle := true, paramCount := params } } }
  | skipped (handle) : Moved env s (.cleanup handle) s
  | cleaned (w) : Prog.alone (Tr181.cleanup true) env s.world = some ((), w) →
      s.world.tr181.paramCount ≠ 0 →
      Moved env s (.cleanup true) { s with world := w, cleaned := w.trace.length }

variable {env : Env} {s s' : SyncRace ι} {a : SyncMove ι}

theorem moved_of_step (h : step env s a = some s') : Moved env s a s' := by
  cases a with
  | call t table =>
      simp only [step] at h
      split at h
      · rename_i hphase
        split at h
        · cases h
          exact .called t table hphase
        · cases h
          exact .refused t table hphase
      · cases h
  | lock t =>
      simp only [step] at h
      split at h
      · rename_i table hphase
        split at h
        · split at h
          · rename_i howner
            cases h
            exact .locked t table hphase (Option.isNone_iff_eq_none.mp howner)
          · cases h
        · cases h
          exact .unset t table hphase
      · cases h
  | row t =>
      simp only [step] at h
      split at h
      · rename_i table n i hphase
        split at h
        · rename_i hi
          cases h
          exact .row t table n i hphase hi
        · cases h
      · cases h
  | unlock t =>
      simp only [step] at h
      split at h
      · rename_i table n i hphase
        split at h
        · cases h
        · rename_i hi
          cases h
          exact .unlocked t table n i hphase (Nat.le_of_not_lt hi)
      · cases h
  | refresh data =>
      cases h
      exact .refreshed data
  | attach params =>
      cases h
      exact .attached params
  | cleanup handle =>
      obtain ⟨⟨u, w⟩, hrun, rfl⟩ := Option.map_eq_some_iff.mp h
      by_cases hactive : handle = true ∧ s.world.tr181.paramCount ≠ 0
      · obtain ⟨rfl, hparams⟩ := hactive
        rw [if_pos ⟨rfl, hparams⟩]
        exact .cleaned w hrun hparams
      · rw [if_neg hactive]
        -- without a handle or parameters, cleanup returns at once
        have hsame : Prog.alone (Tr181.cleanup handle) env s.world = some ((), s.world) := by
          show Prog.alone (if ¬ handle = true ∨ s.world.tr181.paramCount = 0 then _ else _ : M Unit)
            env s.world = _
          rw [if_pos (by tauto)]
          rfl
        rw [hsame] at hrun
        cases hrun
        exact .skipped handle

/-! ### What a move keeps -/

/-- A cleanup registers nothing. -/
theorem cleanup_outside (handle : Bool) :
    Respects (Outside Effect.Unregisters) (Tr181.cleanup handle) := by
  have hrow (table : Table) (i : Nat) :
      Respects (Outside Effect.Unregisters) (Tr181.cleanupRow table i) :=
    Respects.read.bind fun _ => Respects.ite
      ((ask_outside _).bind fun _ => (emit_outside trivial).bind fun _ =>
        Respects.write fun w => ReportsRows.tr181 w _)
      Respects.pure
  have htable (table : Table) :
      Respects (Outside Effect.Unregisters) (Tr181.cleanupTable table) :=
    Respects.forEach (hrow table)
  exact Respects.read.bind fun _ => Respects.ite Respects.pure
    ((htable .veip).bind fun _ => (htable .llid).bind fun _ => (htable .cpe).bind fun _ =>
      Respects.write fun w => ReportsRows.tr181 w _)

/-- **The trace grows, and a registration is the work of a thread in its loop**: it is for the row
that is next, which has no mark and whose entry is there. -/
theorem Moved.trace (h : Moved env s a s') :
    ∃ l, s'.world.trace = s.world.trace ++ l ∧
      ∀ table k ok, Effect.registerRow table k ok ∈ l →
        ∃ t n i, a = .row t ∧ s.phase t = .looping table n i ∧ i < n ∧ k = i + 1 ∧
          s.world.tr181.registered table i = false ∧
          table.entry s.world.eponData.obj (UInt32.ofNat i) ≠ none := by
  -- the moves that call nobody
  have hsame (w : World) (hw : w.trace = s.world.trace) : ∃ l, w.trace = s.world.trace ++ l ∧
      ∀ table k ok, Effect.registerRow table k ok ∈ l →
        ∃ t n i, a = .row t ∧ s.phase t = .looping table n i ∧ i < n ∧ k = i + 1 ∧
          s.world.tr181.registered table i = false ∧
          table.entry s.world.eponData.obj (UInt32.ofNat i) ≠ none := by
    refine ⟨[], by rw [hw, List.append_nil], ?_⟩
    intro table k ok hmem
    cases hmem
  cases h with
  | row t table n i hphase hi =>
      obtain ⟨l, htrace, hl⟩ := Table.rowStep_trace env table s.world i
      refine ⟨l, htrace, ?_⟩
      intro table' k ok hmem
      obtain ⟨heq, hfree, hentry⟩ := hl _ hmem
      cases heq
      exact ⟨t, n, i, rfl, hphase, hi, rfl, hfree, hentry⟩
  | cleaned w hrun hparams =>
      obtain ⟨l, htrace, hl⟩ := ((cleanup_outside true).alone hrun).trace
      refine ⟨l, htrace, ?_⟩
      intro table k ok hmem
      exact absurd (hl _ hmem) id
  | refused => exact hsame _ rfl
  | called => exact hsame _ rfl
  | unset => exact hsame _ rfl
  | locked => exact hsame _ rfl
  | unlocked => exact hsame _ rfl
  | refreshed => exact hsame _ rfl
  | attached => exact hsame _ rfl
  | skipped => exact hsame _ rfl

/-- The phase of a thread after a move. -/
theorem goto_phase (s : SyncRace ι) (t : ι) (phase : SyncPhase) (t' : ι) :
    (s.goto t phase).phase t' = if t' = t then phase else s.phase t' :=
  Function.update_apply ..

/-- A move that goes from one phase to another in which the mutex is held as before. -/
theorem holds_goto {t : ι} {phase : SyncPhase} (h : phase.holds = (s.phase t).holds) (t' : ι) :
    ((s.goto t phase).phase t').holds = (s.phase t').holds := by
  rw [goto_phase]
  by_cases ht : t' = t
  · rw [if_pos ht, ht, h]
  · rw [if_neg ht]

theorem holds_goto_of_ne {t : ι} {phase : SyncPhase} {t' : ι} (h : t' ≠ t) :
    ((s.goto t phase).phase t').holds = (s.phase t').holds := by
  rw [goto_phase, if_neg h]

/-- At most one thread is in its loop. -/
theorem Moved.exclusive (h : Moved env s a s')
    (hs : Exclusive s.owner fun t => (s.phase t).holds) :
    Exclusive s'.owner fun t => (s'.phase t).holds := by
  cases h with
  | called t table hphase => exact hs.stay (holds_goto (by rw [hphase]; rfl))
  | unset t table hphase => exact hs.stay (holds_goto (by rw [hphase]; rfl))
  | locked t table hphase hfree =>
      rw [hfree] at hs
      exact hs.lock fun t' ht' => holds_goto_of_ne ht'
  | row t table n i hphase hi => exact hs.stay (holds_goto (by rw [hphase]; rfl))
  | unlocked t table n i hphase hi =>
      refine hs.unlock (a := t) (by rw [hphase]; rfl) (fun t' ht' => holds_goto_of_ne ht') ?_
      show ((s.goto t .outside).phase t).holds = false
      rw [goto_phase, if_pos rfl]
      rfl
  | refused => exact hs
  | refreshed => exact hs
  | attached => exact hs
  | skipped => exact hs
  | cleaned => exact hs

end Step

/-! ### The invariant -/

/-- **Since the last cleanup, the flags and the calls agree**, and the mutex has one owner. -/
structure Inv (s : SyncRace ι) : Prop where
  cleaned : s.cleaned ≤ s.world.trace.length
  matched : Matched { s.world with trace := s.since }
  bound : ∀ t table n i, s.phase t = .looping table n i → n ≤ Tr181.maxInstances table
  exclusive : Exclusive s.owner fun t => (s.phase t).holds

theorem Inv.start (psm : String → Option String) :
    Inv (SyncRace.start (World.boot psm) : SyncRace ι) where
  cleaned := Nat.le_refl 0
  matched := (blank_boot psm).matched
  bound _ _ _ _ h := nomatch h
  exclusive _ h := nomatch h

section Run

variable [DecidableEq ι] {env : Env} {s s' : SyncRace ι} {a : SyncMove ι}

/-- A loop never goes beyond the rows that the table can have. -/
theorem Inv.bound_goto (h : Inv s) {t : ι} {phase : SyncPhase}
    (hphase : ∀ table n i, phase = .looping table n i → n ≤ Tr181.maxInstances table) (t' : ι)
    (table : Table) (n i : Nat) (ht' : (s.goto t phase).phase t' = .looping table n i) :
    n ≤ Tr181.maxInstances table := by
  rw [goto_phase] at ht'
  split at ht'
  · exact hphase _ _ _ ht'
  · exact h.bound _ _ _ _ ht'

/-- **Step lemma.** -/
theorem Inv.step (h : Inv s) (hmove : Moved env s a s') : Inv s' := by
  have hexclusive := hmove.exclusive h.exclusive
  have hm := h.matched
  cases hmove with
  | refused => exact h
  | called t table hphase => exact ⟨h.cleaned, hm, h.bound_goto (by simp), hexclusive⟩
  | unset t table hphase => exact ⟨h.cleaned, hm, h.bound_goto (by simp), hexclusive⟩
  | locked t table hphase hfree =>
      refine ⟨h.cleaned, hm, h.bound_goto ?_, hexclusive⟩
      rintro table' n i ⟨⟩
      exact Nat.min_le_right _ _
  | row t table n i hphase hi =>
      have hn := h.bound _ _ _ _ hphase
      obtain ⟨l, htrace, -⟩ := Table.rowStep_trace env table s.world i
      constructor
      · show s.cleaned ≤ (Table.rowStep env table s.world i).trace.length
        rw [htrace, List.length_append]
        exact Nat.le_add_right_of_le h.cleaned
      · show Matched { Table.rowStep env table s.world i with
          trace := (Table.rowStep env table s.world i).trace.drop s.cleaned }
        -- the invariant is about the trace since the last cleanup, which this row extends
        rw [Table.rowStep_drop env table s.world i h.cleaned]
        exact hm.rowStep env (Nat.lt_of_lt_of_le hi hn)
      · apply h.bound_goto
        rintro table' n' i' ⟨⟩
        exact hn
      · exact hexclusive
  | unlocked t table n i hphase hi => exact ⟨h.cleaned, hm, h.bound_goto (by simp), hexclusive⟩
  | refreshed data =>
      exact ⟨h.cleaned, ⟨hm.created, hm.nodup, hm.named, hm.kept⟩, h.bound, hexclusive⟩
  | attached params =>
      exact ⟨h.cleaned, ⟨hm.created, hm.nodup, hm.named, hm.kept⟩, h.bound, hexclusive⟩
  | skipped => exact h
  | cleaned w hrun hparams =>
      refine ⟨Nat.le_refl _, ?_, h.bound, hexclusive⟩
      -- cleanup clears every flag, and the trace is counted anew
      apply matched_of_noRows
      · intro table i
        show w.tr181.registered table i = false
        rw [Tr181.cleanup_registered hparams hrun]
        cases hreg : s.world.tr181.registered table i with
        | false => rfl
        | true => simp [hm.lt_maxInstances hreg]
      · intro e he
        rw [since, List.drop_length] at he
        cases he

/-- **Run lemma.** -/
theorem Inv.exec (h : Inv s) {moves : List (SyncMove ι)}
    (hrun : exec (SyncRace.step env) s moves = some s') : Inv s' :=
  exec_invariant (fun _ _ _ hs hstep => hs.step (moved_of_step hstep)) h hrun

/-! ### One thread alone -/

/-- The rounds of a thread that nobody interrupts. -/
theorem exec_rounds {t : ι} {table : Table} {n i : Nat} (m : Nat)
    (hphase : s.phase t = .looping table n i) (hm : i + m ≤ n) :
    exec (SyncRace.step env) s (List.replicate m (.row t)) =
      some { s.goto t (.looping table n (i + m)) with
        world := (List.range' i m).foldl (Table.rowStep env table) s.world } := by
  induction m generalizing s i with
  | zero =>
      have hsame : Function.update s.phase t (.looping table n i) = s.phase := by
        rw [← hphase, Function.update_eq_self]
      rw [Nat.add_zero, goto, hsame]
      rfl
  | succ m ih =>
      have hi : i < n := by omega
      have hstep : SyncRace.step env s (.row t) = some { s.goto t (.looping table n (i + 1)) with
          world := Table.rowStep env table s.world i } := by
        simp only [SyncRace.step, hphase, hi, if_true]
      have hnext : { s.goto t (.looping table n (i + 1)) with
          world := Table.rowStep env table s.world i }.phase t = .looping table n (i + 1) := by
        show (s.goto t _).phase t = _
        rw [goto_phase, if_pos rfl]
      rw [List.replicate_succ, exec, hstep, Option.bind_some, ih hnext (by omega)]
      simp only [goto, Function.update_idem, List.range'_succ, List.foldl_cons, Nat.add_assoc,
        Nat.add_comm 1 m]

/-- **The moves of one thread, uninterrupted, are the sync function.** -/
theorem exec_sync_moves {t : ι} {table : Table} (hphase : s.phase t = .waiting table)
    (hfree : s.owner = none) (hhandle : s.world.tr181.rbusHandle = true)
    (hdata : s.world.eponData.isSet = true) :
    ∃ w', Prog.alone table.sync env s.world = some (0, w') ∧
      exec (SyncRace.step env) s (.lock t ::
          List.replicate (table.rows s.world.eponData.obj) (.row t) ++ [.unlock t]) =
        some { s.goto t .outside with world := w' } := by
  refine ⟨_, table.sync_alone hhandle hdata, ?_⟩
  have hlock : SyncRace.step env s (.lock t) =
      some { s.goto t (.looping table (table.rows s.world.eponData.obj) 0) with
        owner := some t } := by
    simp only [SyncRace.step, hphase, hdata, hfree, Option.isNone_none, if_true]
  have hlocked : { s.goto t (.looping table (table.rows s.world.eponData.obj) 0) with
      owner := some t }.phase t = .looping table (table.rows s.world.eponData.obj) 0 := by
    show (s.goto t _).phase t = _
    rw [goto_phase, if_pos rfl]
  rw [List.cons_append, exec, hlock, Option.bind_some,
    exec_append_of_eq_some (exec_rounds _ hlocked (by omega)), Table.synced, List.range_eq_range']
  simp [exec, SyncRace.step, goto, hfree]

end Run

end SyncRace

end EponManager
