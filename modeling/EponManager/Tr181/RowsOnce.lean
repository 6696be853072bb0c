import EponManager.Tr181.SyncRace

/-!
# Rows are registered once

* `Syncing` is a stretch of a run in which one thread holds the mutex to sync a table;
  `Syncing.attempts` says which rows it asks for.
* `exec_keeps`: a marked row stays marked and keeps its name.
* `Underway` is what holds while a sync lasts, and `Idle` what it leaves if no registration failed:
  there is nothing left to register.
* `rows_registered_once`: what holds of every run.
-/

namespace EponManager

open Lib

namespace SyncRace

section Run

variable {ι : Type} [DecidableEq ι] {env : Env} {s s' : SyncRace ι} {a : SyncMove ι}

/-! ### The calls of a run -/

/-- **What every registration of a run satisfies**, if it follows at each round from an invariant of
the run. -/
theorem calls_induction {G : SyncRace ι → SyncMove ι → Prop} {J : SyncRace ι → Prop}
    {P : Table → Nat → Prop} (hkeep : ∀ u a v, J u → G u a → Moved env u a v → J v)
    (hmade : ∀ u t table n i, J u → u.phase t = .looping table n i → i < n →
      u.world.tr181.registered table i = false →
      table.entry u.world.eponData.obj (UInt32.ofNat i) ≠ none → P table (i + 1))
    (hs : J s) {moves : List (SyncMove ι)} (hG : Along (SyncRace.step env) G s moves)
    (hrun : exec (SyncRace.step env) s moves = some s') :
    ∀ table k ok, Effect.registerRow table k ok ∈ s.calls s' → P table k := by
  have hcalls := exec_invariant_along
    (P := fun u => J u ∧ ∃ l, u.world.trace = s.world.trace ++ l ∧
      ∀ table k ok, Effect.registerRow table k ok ∈ l → P table k)
    (fun u a v hu hGa hstep => ?_) ⟨hs, [], (List.append_nil _).symm, nofun⟩ hG hrun
  · obtain ⟨-, l, htrace, hl⟩ := hcalls
    rw [calls, htrace, List.drop_left]
    exact hl
  · obtain ⟨hJ, l, htrace, hl⟩ := hu
    have hmove := moved_of_step hstep
    obtain ⟨l', htrace', hl'⟩ := hmove.trace
    refine ⟨hkeep u a v hJ hGa hmove, l ++ l', ?_, ?_⟩
    · rw [htrace', htrace, List.append_assoc]
    · intro table k ok hmem
      rcases List.mem_append.mp hmem with hmem | hmem
      · exact hl table k ok hmem
      · obtain ⟨t, n, i, -, hphase, hi, rfl, hfree, hentry⟩ := hl' table k ok hmem
        exact hmade u t table n i hJ hphase hi hfree hentry

/-- A thread stays in its loop until it leaves it, and only its own rounds bring it further. -/
theorem Moved.looping (h : Moved env s a s') (hs : Exclusive s.owner fun t => (s.phase t).holds)
    {t : ι} {table : Table} {n i : Nat} (hphase : s.phase t = .looping table n i)
    (hstays : a ≠ .unlock t) :
    s'.phase t = .looping table n i ∨
      s'.phase t = .looping table n (i + 1) ∧ s'.world = Table.rowStep env table s.world i := by
  have hother {t' : ι} {phase : SyncPhase} (hne : t ≠ t') :
      (s.goto t' phase).phase t = .looping table n i := by
    rw [goto_phase, if_neg hne, hphase]
  -- the thread in the loop holds the mutex, so no other thread is in one
  have hholds : (s.phase t).holds = true := by rw [hphase]; rfl
  cases h with
  | called t' table' hphase' =>
      refine .inl (hother ?_)
      rintro rfl
      cases hphase.symm.trans hphase'
  | unset t' table' hphase' =>
      refine .inl (hother ?_)
      rintro rfl
      cases hphase.symm.trans hphase'
  | locked t' table' hphase' hfree =>
      refine .inl (hother ?_)
      rintro rfl
      cases hphase.symm.trans hphase'
  | row t' table' n' i' hphase' hi =>
      have ht : t' = t := hs.unique (by rw [hphase']; rfl) hholds
      subst ht
      obtain ⟨rfl, rfl, rfl⟩ := SyncPhase.looping.inj (hphase.symm.trans hphase')
      refine .inr ⟨?_, rfl⟩
      show (s.goto t' _).phase t' = _
      rw [goto_phase, if_pos rfl]
  | unlocked t' table' n' i' hphase' hi =>
      have ht : t' = t := hs.unique (by rw [hphase']; rfl) hholds
      exact absurd (by rw [ht]) hstays
  | refused => exact .inl hphase
  | refreshed => exact .inl hphase
  | attached => exact .inl hphase
  | skipped => exact .inl hphase
  | cleaned => exact .inl hphase

/-! ### A sync of one thread -/

/-- A thread has taken the mutex in `s` to sync a table; after `moves`, in `s'`, it still holds
it. -/
structure Syncing (env : Env) (t : ι) (table : Table) (s : SyncRace ι) (moves : List (SyncMove ι))
    (s' : SyncRace ι) : Prop where
  waiting : s.phase t = .waiting table
  data : s.world.eponData.isSet = true
  run : exec (SyncRace.step env) s (.lock t :: moves) = some s'
  stays : SyncMove.unlock t ∉ moves

/-- Taking the mutex changes nothing in the memory. -/
theorem Syncing.locked {t : ι} {table : Table} {moves : List (SyncMove ι)}
    (h : Syncing env t table s moves s') :
    ∃ u, u.world = s.world ∧ u.phase t = .looping table (table.rows s.world.eponData.obj) 0 ∧
      Moved env s (.lock t) u ∧ exec (SyncRace.step env) u moves = some s' := by
  obtain ⟨u, hlock, hrest⟩ := exec_cons_eq_some.mp h.run
  have hmove := moved_of_step hlock
  simp only [SyncRace.step, h.waiting, h.data, if_true] at hlock
  split at hlock
  · cases hlock
    refine ⟨{ s.goto t (.looping table (table.rows s.world.eponData.obj) 0) with owner := some t },
      rfl, ?_, hmove, hrest⟩
    show (s.goto t _).phase t = _
    rw [goto_phase, if_pos rfl]
  · cases hlock

/-- **What a sync attempts**: rows of its own table, up to the length of the list when it took the
mutex. -/
theorem Syncing.attempts (hs : Inv s) {t : ι} {table : Table} {moves : List (SyncMove ι)}
    (h : Syncing env t table s moves s') :
    ∀ table' k ok, Effect.registerRow table' k ok ∈ s.calls s' →
      table' = table ∧ k ∈ Set.Icc 1 (table.rows s.world.eponData.obj) := by
  obtain ⟨u, hworld, hphase, hmove, hrest⟩ := h.locked
  have hcalls : s.calls s' = u.calls s' := by rw [calls, calls, hworld]
  rw [hcalls]
  refine calls_induction (G := fun _ a => a ≠ .unlock t)
    (J := fun v => (Exclusive v.owner fun t => (v.phase t).holds) ∧
      ∃ i, v.phase t = .looping table (table.rows s.world.eponData.obj) i)
    (P := fun table' k => table' = table ∧ k ∈ Set.Icc 1 (table.rows s.world.eponData.obj))
    ?_ ?_ ⟨hmove.exclusive hs.exclusive, 0, hphase⟩ (along_of_forall ?_) hrest
  · rintro v a v' ⟨hv, i, hi⟩ hstays hmove'
    refine ⟨hmove'.exclusive hv, ?_⟩
    rcases hmove'.looping hv hi hstays with hsame | ⟨hnext, -⟩
    · exact ⟨i, hsame⟩
    · exact ⟨i + 1, hnext⟩
  · rintro v t' table' n i' ⟨hv, i, hi⟩ hphase' hlt - -
    have ht : t' = t := hv.unique (by rw [hphase']; rfl) (by rw [hi]; rfl)
    subst ht
    obtain ⟨rfl, rfl, rfl⟩ := SyncPhase.looping.inj (hi.symm.trans hphase')
    exact ⟨rfl, Nat.le_add_left 1 i, hlt⟩
  · rintro a ha rfl
    exact h.stays ha

/-! ### Marked rows -/

/-- **A marked row stays marked and keeps its name**, until the next cleanup. -/
theorem Moved.keeps (h : Moved env s a s') (hkeep : ∀ handle, a ≠ .cleanup handle)
    {table : Table} {i : Nat} (hreg : s.world.tr181.registered table i = true) :
    s'.world.tr181.registered table i = true ∧
      (table = .veip → s'.world.tr181.veipName i = s.world.tr181.veipName i) := by
  cases h with
  | row t table' n j hphase hj =>
      refine ⟨Table.registered_rowStep hreg, ?_⟩
      rintro rfl
      exact Table.rowStep_veipName env table' j hreg
  | skipped handle => exact absurd rfl (hkeep handle)
  | cleaned => exact absurd rfl (hkeep true)
  | refused => exact ⟨hreg, fun _ => rfl⟩
  | called => exact ⟨hreg, fun _ => rfl⟩
  | unset => exact ⟨hreg, fun _ => rfl⟩
  | locked => exact ⟨hreg, fun _ => rfl⟩
  | unlocked => exact ⟨hreg, fun _ => rfl⟩
  | refreshed => exact ⟨hreg, fun _ => rfl⟩
  | attached => exact ⟨hreg, fun _ => rfl⟩

/-- Without a cleanup, a marked row stays marked. -/
theorem exec_keeps {moves : List (SyncMove ι)} (hkeep : ∀ handle, SyncMove.cleanup handle ∉ moves)
    (hrun : exec (SyncRace.step env) s moves = some s') {table : Table} {i : Nat}
    (hreg : s.world.tr181.registered table i = true) :
    s'.world.tr181.registered table i = true ∧
      (table = .veip → s'.world.tr181.veipName i = s.world.tr181.veipName i) := by
  refine exec_invariant_along (G := fun _ a => ∀ handle, a ≠ .cleanup handle)
    (P := fun u => u.world.tr181.registered table i = true ∧
      (table = .veip → u.world.tr181.veipName i = s.world.tr181.veipName i))
    ?_ ⟨hreg, fun _ => rfl⟩ (along_of_forall ?_) hrun
  · rintro u a v ⟨hu, hname⟩ hG hstep
    obtain ⟨hv, hname'⟩ := (moved_of_step hstep).keeps hG hu
    exact ⟨hv, fun htable => (hname' htable).trans (hname htable)⟩
  · rintro a ha handle rfl
    exact hkeep handle ha

/-! ### A sync without failures -/

end Run

end SyncRace

/-- The move leaves the list of a table, which is the one of `d`, and is not a cleanup. -/
def SyncMove.Unchanging {ι : Type} (table : Table) (d : Data) : SyncMove ι → Prop
  | .refresh data => table.current data.obj = table.current d
  | .cleanup _    => False
  | _             => True

/-- The first `m` rows of the list of `d` are marked, unless they have no entry. -/
def Settled (table : Table) (d : Data) (m : Nat) (w : World) : Prop :=
  ∀ j < m, w.tr181.registered table j = true ∨ table.entry d (UInt32.ofNat j) = none

theorem Settled.zero (table : Table) (d : Data) (w : World) : Settled table d 0 w :=
  fun _ hj => absurd hj (Nat.not_lt_zero _)

theorem Settled.succ {table : Table} {d : Data} {m : Nat} {w : World} (h : Settled table d m w)
    (hm : w.tr181.registered table m = true ∨ table.entry d (UInt32.ofNat m) = none) :
    Settled table d (m + 1) w := by
  intro j hj
  rcases Nat.lt_succ_iff_lt_or_eq.mp hj with hlt | rfl
  · exact h j hlt
  · exact hm

namespace SyncRace

section Settle

variable {ι : Type} [DecidableEq ι] {env : Env} {s s' : SyncRace ι} {a : SyncMove ι} {t : ι}
  {table : Table} {d : Data}

/-- Rows that need nothing more need nothing more after a move. -/
theorem Moved.settled (h : Moved env s a s') (hsame : a.Unchanging table d)
    (hdata : table.current s.world.eponData.obj = table.current d) :
    table.current s'.world.eponData.obj = table.current d ∧
      ∀ m, Settled table d m s.world → Settled table d m s'.world := by
  have hkeep : ∀ handle, a ≠ .cleanup handle := by
    rintro handle rfl
    exact hsame
  constructor
  · cases h with
    | row t table' n i hphase hi =>
        show table.current (Table.rowStep env table' s.world i).eponData.obj = _
        rw [(Table.rowStep_onlyRows env table' s.world i).eponData]
        exact hdata
    | refreshed data => exact hsame
    | cleaned => exact absurd rfl (hkeep true)
    | refused => exact hdata
    | called => exact hdata
    | unset => exact hdata
    | locked => exact hdata
    | unlocked => exact hdata
    | attached => exact hdata
    | skipped => exact hdata
  · intro m hm j hj
    exact (hm j hj).imp (fun hreg => (h.keeps hkeep hreg).1) id

/-! ### After a sync -/

/-- There is nothing left to register in a table, also for the threads that are in its loop. -/
structure Idle (table : Table) (d : Data) (s : SyncRace ι) : Prop where
  current : table.current s.world.eponData.obj = table.current d
  settled : Settled table d (table.rows d) s.world
  bound : ∀ t n i, s.phase t = .looping table n i → n = table.rows d

/-- A thread that is outside the loop, or in it for the rows of the list, leaves the table idle. -/
theorem Idle.bound_goto (h : Idle table d s) {phase : SyncPhase}
    (hphase : ∀ n i, phase = .looping table n i → n = table.rows d) (t' : ι) (n i : Nat)
    (ht' : (s.goto t phase).phase t' = .looping table n i) : n = table.rows d := by
  rw [goto_phase] at ht'
  split at ht'
  · exact hphase n i ht'
  · exact h.bound t' n i ht'

/-- **Step lemma.** -/
theorem Idle.step (h : Idle table d s) (hsame : a.Unchanging table d) (hmove : Moved env s a s') :
    Idle table d s' := by
  obtain ⟨hcurrent, hsettled⟩ := hmove.settled hsame h.current
  refine ⟨hcurrent, hsettled _ h.settled, ?_⟩
  cases hmove with
  | locked t table' hphase hfree =>
      apply h.bound_goto
      rintro n i ⟨⟩
      rw [Table.rows, Table.rows, (Table.sees_current h.current).1]
  | row t table' n i hphase hi =>
      apply h.bound_goto
      rintro n' i' ⟨⟩
      exact h.bound t _ _ hphase
  | called t table' hphase => exact h.bound_goto (by simp)
  | unset t table' hphase => exact h.bound_goto (by simp)
  | unlocked t table' n i hphase hi => exact h.bound_goto (by simp)
  | refused => exact h.bound
  | refreshed => exact h.bound
  | attached => exact h.bound
  | skipped => exact h.bound
  | cleaned => exact h.bound

/-- **An idle table gets no call** as long as its list stays the same. -/
theorem Idle.no_calls (h : Idle table d s) {moves : List (SyncMove ι)}
    (hsame : ∀ a ∈ moves, a.Unchanging table d)
    (hrun : exec (SyncRace.step env) s moves = some s') (k : Nat) (ok : Bool) :
    Effect.registerRow table k ok ∉ s.calls s' := by
  have hcalls := calls_induction (G := fun _ a => a.Unchanging table d) (J := Idle table d)
    (P := fun table' _ => table' ≠ table) (fun u a v hu hun hmove => hu.step hun hmove) ?_ h
    (along_of_forall hsame) hrun
  · intro hmem
    exact hcalls table k ok hmem rfl
  · rintro u t table' n i hu hphase hi hfree hentry rfl
    rw [hu.bound t n i hphase] at hi
    rcases hu.settled i hi with hreg | hnone
    · rw [hreg] at hfree
      cases hfree
    · rw [(Table.sees_current hu.current).2] at hentry
      exact hentry hnone

/-! ### During a sync -/

/-- The sync that began in `s` is at row `i`, and either a registration has failed or the rows
before need nothing more. -/
structure Underway (s : SyncRace ι) (t : ι) (table : Table) (d : Data) (s' : SyncRace ι) :
    Prop where
  grown : s.world.trace <+: s'.world.trace
  exclusive : Exclusive s'.owner fun t => (s'.phase t).holds
  current : table.current s'.world.eponData.obj = table.current d
  progress : ∃ i, s'.phase t = .looping table (table.rows d) i ∧
    ((∃ k, Effect.registerRow table k false ∈ s.calls s') ∨ Settled table d i s'.world)

/-- **Step lemma.** -/
theorem Underway.step {v : SyncRace ι} (h : Underway s t table d v) (hstays : a ≠ .unlock t)
    (hsame : a.Unchanging table d) (hmove : Moved env v a s') : Underway s t table d s' := by
  obtain ⟨i, hphase, hdone⟩ := h.progress
  obtain ⟨l, htrace, -⟩ := hmove.trace
  obtain ⟨hcurrent, hsettled⟩ := hmove.settled hsame h.current
  have hcalls := calls_append h.grown htrace
  have hfailed (hfail : ∃ k, Effect.registerRow table k false ∈ s.calls v) :
      ∃ k, Effect.registerRow table k false ∈ s.calls s' := by
    obtain ⟨k, hk⟩ := hfail
    rw [hcalls]
    exact ⟨k, List.mem_append_left l hk⟩
  refine ⟨?_, hmove.exclusive h.exclusive, hcurrent, ?_⟩
  · rw [htrace]
    exact h.grown.trans (List.prefix_append _ l)
  · rcases hmove.looping h.exclusive hphase hstays with hphase' | ⟨hphase', hworld⟩
    · exact ⟨i, hphase', hdone.imp hfailed (hsettled i)⟩
    · refine ⟨i + 1, hphase', ?_⟩
      rcases hdone with hfail | hdone
      · exact .inl (hfailed hfail)
      · -- this round marks its row, finds no entry, or fails
        have hround := Table.rowStep_settles env table v.world i
        rw [← hworld, (Table.sees_current h.current).2] at hround
        rcases hround with hreg | hnone | hfail
        · exact .inr ((hsettled i hdone).succ (.inl hreg))
        · exact .inr ((hsettled i hdone).succ (.inr hnone))
        · refine .inl ⟨i + 1, ?_⟩
          rw [calls_append h.grown hfail]
          exact List.mem_append_right _ List.mem_cons_self

/-- A sync that has just taken the mutex has done nothing yet. -/
theorem Syncing.underway (hs : Inv s) {moves : List (SyncMove ι)} {s₁ : SyncRace ι}
    (h : Syncing env t table s moves s₁) (hsame : ∀ a ∈ moves, a.Unchanging table d)
    (hdata : table.current s.world.eponData.obj = table.current d) :
    Underway s t table d s₁ := by
  obtain ⟨u, hworld, hphase, hmove, hrest⟩ := h.locked
  rw [Table.rows, (Table.sees_current hdata).1] at hphase
  have hstart : Underway s t table d u := by
    constructor
    · rw [hworld]
    · exact hmove.exclusive hs.exclusive
    · rw [hworld]
      exact hdata
    · exact ⟨0, hphase, .inr (Settled.zero table d u.world)⟩
  refine exec_invariant_along (G := fun _ a => a ≠ .unlock t ∧ a.Unchanging table d)
    (fun v a v' hv hG hstep => ?_) hstart (along_of_forall ?_) hrest
  · exact hv.step hG.1 hG.2 (moved_of_step hstep)
  · intro a ha
    refine ⟨?_, hsame a ha⟩
    rintro rfl
    exact h.stays ha

/-- **A sync without failures leaves its table idle.** -/
theorem Syncing.settles (hs : Inv s) {moves : List (SyncMove ι)} {s₁ : SyncRace ι}
    (h : Syncing env t table s moves s₁) (hsame : ∀ a ∈ moves, a.Unchanging table d)
    (hdata : table.current s.world.eponData.obj = table.current d)
    (hunlock : SyncRace.step env s₁ (.unlock t) = some s')
    (hok : ∀ table' k, Effect.registerRow table' k false ∉ s.calls s') : Idle table d s' := by
  have hunder := h.underway hs hsame hdata
  obtain ⟨i, hi, hdone⟩ := hunder.progress
  have hexclusive := (moved_of_step hunlock).exclusive hunder.exclusive
  cases moved_of_step hunlock with
  | unlocked _ table' n i' hphase hle =>
      obtain ⟨rfl, rfl, rfl⟩ := SyncPhase.looping.inj (hi.symm.trans hphase)
      refine ⟨hunder.current, ?_, ?_⟩
      · rcases hdone with ⟨k, hfail⟩ | hsettled
        · exact absurd hfail (hok table k)
        · intro j hj
          exact hsettled j (Nat.lt_of_lt_of_le hj hle)
      · -- nobody holds the mutex
        intro t' n i hphase'
        have howner := hexclusive t' (congrArg SyncPhase.holds hphase')
        cases howner

end Settle

end SyncRace

/-! ### The result -/

/-- **Rows are registered once**: in every run of any number of threads, with any lists and whatever
rbus answers,
* since the last cleanup no registration has succeeded twice, and a row is marked exactly if its
  registration has succeeded;
* a sync attempts rows of its own table only, up to the length that the list had when it took the
  mutex, as far as the table goes;
* a marked row stays marked and keeps its name until the next cleanup;
* after a sync in which no registration failed, the table gets no further call as long as its list
  stays the same and there is no cleanup. -/
theorem rows_registered_once {ι : Type} [DecidableEq ι] (env : Env) (psm : String → Option String)
    {before : List (SyncMove ι)} {s : SyncRace ι}
    (hrun : exec (SyncRace.step env) (.start (World.boot psm)) before = some s) :
    (∀ table, (s.since.filterMap (Effect.accepted table)).Nodup ∧
      ∀ i, s.world.tr181.registered table i = true ↔
        Effect.registerRow table (i + 1) true ∈ s.since) ∧
    (∀ t table moves s', s.Syncing env t table moves s' →
      ∀ table' k ok, Effect.registerRow table' k ok ∈ s.calls s' → table' = table ∧
        k ∈ Set.Icc 1 (min (table.count s.world.eponData.obj).toNat (Tr181.maxInstances table))) ∧
    (∀ moves s', exec (SyncRace.step env) s moves = some s' →
      (∀ handle, SyncMove.cleanup handle ∉ moves) →
      ∀ i, s.world.tr181.registered .veip i = true →
        s'.world.tr181.registered .veip i = true ∧
          s'.world.tr181.veipName i = s.world.tr181.veipName i) ∧
    (∀ t table moves s₁ s₂ more s₃, s.Syncing env t table moves s₁ →
      SyncRace.step env s₁ (.unlock t) = some s₂ →
      (∀ table' k, Effect.registerRow table' k false ∉ s.calls s₂) →
      exec (SyncRace.step env) s₂ more = some s₃ →
      (∀ a ∈ moves ++ more, a.Unchanging table s.world.eponData.obj) →
      ∀ k ok, Effect.registerRow table k ok ∉ s₂.calls s₃) := by
  have hinv : s.Inv := (SyncRace.Inv.start psm).exec hrun
  refine ⟨fun table => ⟨hinv.matched.accepted_nodup table, fun i => ?_⟩, ?_, ?_, ?_⟩
  · exact (hinv.matched.created table i).trans rowName_mem_createdRows
  · intro t table moves s' hsync
    exact hsync.attempts hinv
  · intro moves s' hrun' hkeep i hreg
    obtain ⟨hreg', hname⟩ := SyncRace.exec_keeps hkeep hrun' hreg
    exact ⟨hreg', hname rfl⟩
  · intro t table moves s₁ s₂ more s₃ hsync hunlock hok hrun' hsame
    -- when the sync unlocks, every row that could be registered is marked
    have hidle : SyncRace.Idle table s.world.eponData.obj s₂ :=
      hsync.settles hinv (fun a ha => hsame a (List.mem_append_left _ ha)) rfl hunlock hok
    exact hidle.no_calls (fun a ha => hsame a (List.mem_append_right _ ha)) hrun'

/-- The effect is not a registration that failed. -/
def Effect.succeeded : Effect → Bool
  | .registerRow _ _ ok => ok
  | _                   => true

/-- The handle is stored, there are two LLIDs, and two threads have called the sync. -/
def twoSyncsCalled : List (SyncMove Bool) :=
  [.attach 76, .refresh ⟨true, Table.store .llid (llidsOfLength 2).contents Data.zero⟩,
    .call false .llid, .call true .llid]

/-- The first thread registers both rows, and the second finds nothing to register. -/
theorem rows_registered_once_two_threads :
    ∃ s s₁ s₂ s₃ : SyncRace Bool,
      exec (SyncRace.step Env.quiet) (.start (World.boot fun _ => none)) twoSyncsCalled = some s ∧
      s.Syncing Env.quiet false .llid [.row false, .row false] s₁ ∧
      SyncRace.step Env.quiet s₁ (.unlock false) = some s₂ ∧
      exec (SyncRace.step Env.quiet) s₂ [.lock true, .row true, .row true, .unlock true] =
        some s₃ ∧
      s₂.since.filterMap (Effect.accepted .llid) = [1, 2] ∧
      ∀ k ok, Effect.registerRow .llid k ok ∉ s₂.calls s₃ := by
  have h : ((exec (SyncRace.step Env.quiet) (.start (World.boot fun _ => none))
        twoSyncsCalled).bind fun s =>
      (exec (SyncRace.step Env.quiet) s [.lock false, .row false, .row false]).bind fun s₁ =>
      (SyncRace.step Env.quiet s₁ (.unlock false)).bind fun s₂ =>
      (exec (SyncRace.step Env.quiet) s₂ [.lock true, .row true, .row true, .unlock true]).map
        fun _ => (s.phase false, s.world.eponData.isSet,
          s₂.since.filterMap (Effect.accepted .llid), (s.calls s₂).all Effect.succeeded)) =
      some (.waiting .llid, true, [1, 2], true) := by
    decide +kernel
  simp only [Option.bind_eq_some_iff, Option.map_eq_some_iff, Prod.mk.injEq] at h
  obtain ⟨s, hrun, s₁, hrun₁, s₂, hunlock, s₃, hrun₃, hphase, hdata, haccepted, hok⟩ := h
  have hsync : s.Syncing Env.quiet false .llid [.row false, .row false] s₁ :=
    ⟨hphase, hdata, hrun₁, by simp⟩
  refine ⟨s, s₁, s₂, s₃, hrun, hsync, hunlock, hrun₃, haccepted, ?_⟩
  refine (rows_registered_once Env.quiet (fun _ => none) hrun).2.2.2 false .llid _ s₁ s₂ _ s₃ hsync
    hunlock ?_ hrun₃ ?_
  · intro table k hmem
    exact absurd (List.all_eq_true.mp hok _ hmem) Bool.false_ne_true
  · simp [SyncMove.Unchanging]

end EponManager
