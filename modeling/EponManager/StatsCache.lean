import EponManager.Controller.Init
import EponManager.Lib.StepSystem

/-!
# The statistics that are served

The link's and the transceiver's statistics are cached with a TTL. A getter whose entry ran out
hands that entry to the HAL: what a failed call leaves in it is there, under the old clock reading
and still marked valid, and is served when the clock comes back to before the TTL ran out.

* `StatsKind` are the two kinds of statistics; `StatsKind.get` is what a getter does
  (`getCached_run`).
* `Observed` is the process with the log of what happened to the caches, `Served` what a getter may
  return.
* `Trusted` is the invariant. It is kept unless a failed call changes a valid record, and then a
  getter can return it (`stats_served_fresh_iff`).
-/

namespace EponManager

open Lib
open Lib.Prog (Ensures Keeps Respects)

/-! ### The two kinds of statistics -/

/-- The caches with a TTL. -/
inductive StatsKind where
  | linkStats
  | transceiverStats
  deriving DecidableEq, Repr

namespace StatsKind

@[reducible] def kind : StatsKind → CacheKind
  | .linkStats        => .linkStats
  | .transceiverStats => .transceiverStats

abbrev Record (k : StatsKind) : Type := k.kind.Record

def entry : (k : StatsKind) → StatsData → TimedEntry k.Record
  | .linkStats        => StatsData.linkStats
  | .transceiverStats => StatsData.transceiverStats

def setEntry : (k : StatsKind) → TimedEntry k.Record → StatsData → StatsData
  | .linkStats        => fun e s => { s with linkStats := e }
  | .transceiverStats => fun e s => { s with transceiverStats := e }

def getter : (k : StatsKind) → M (Option k.Record)
  | .linkStats        => Data.getLinkStats
  | .transceiverStats => Data.getTransceiverStats

/-! ### The fields of the two entries -/

@[simp] theorem entry_setEntry (k : StatsKind) (e : TimedEntry k.Record) (s : StatsData) :
    k.entry (k.setEntry e s) = e := by
  cases k <;> rfl

theorem entry_setEntry_of_ne {k l : StatsKind} (h : l ≠ k) (e : TimedEntry k.Record)
    (s : StatsData) : l.entry (k.setEntry e s) = l.entry s := by
  cases k <;> cases l <;> first | rfl | exact absurd rfl h

@[simp] theorem setEntry_ttlSeconds (k : StatsKind) (e : TimedEntry k.Record) (s : StatsData) :
    (k.setEntry e s).ttlSeconds = s.ttlSeconds := by
  cases k <;> rfl

@[simp] theorem setEntry_setEntry (k : StatsKind) (e e' : TimedEntry k.Record) (s : StatsData) :
    k.setEntry e (k.setEntry e' s) = k.setEntry e s := by
  cases k <;> rfl

/-- Invalidating clears the flag and keeps the record. -/
theorem entry_invalidated (k : StatsKind) (s : StatsData) :
    k.entry s.invalidated = { k.entry s with valid := false, timestamp := 0 } := by
  cases k <;> rfl

/-- The getters are the one of an entry with a TTL. -/
theorem getter_eq (k : StatsKind) :
    k.getter = Data.getCached (Data.timedSlot k.kind k.entry k.setEntry) := by
  cases k <;> rfl

end StatsKind

/-! ### What a getter does -/

def World.stats (w : World) : StatsData := w.eponData.obj.statsData

/-- The memory with other statistics. -/
def World.withStats (w : World) (s : StatsData) : World :=
  { w with eponData := { w.eponData with obj := { w.eponData.obj with statsData := s } } }

/-- By a clock that shows `now`, the TTL of what was stored at `t` has not run out. -/
def WithinTtl (ttlSeconds : UInt32) (t now : Int) : Prop :=
  0 ≤ now - t ∧ now - t < ttlSeconds.toNat

instance (ttlSeconds : UInt32) (t now : Int) : Decidable (WithinTtl ttlSeconds t now) :=
  inferInstanceAs (Decidable (_ ∧ _))

namespace StatsKind

/-- The entry is marked valid and has a clock reading, so that the clock decides. -/
def Stored (k : StatsKind) (s : StatsData) : Prop :=
  (k.entry s).valid = true ∧ (k.entry s).timestamp ≠ 0

instance (k : StatsKind) (s : StatsData) : Decidable (k.Stored s) :=
  inferInstanceAs (Decidable (_ ∧ _))

/-- The getter serves what is stored. -/
def Hit (k : StatsKind) (env : Env) (w : World) : Prop :=
  k.Stored w.stats ∧ WithinTtl w.stats.ttlSeconds (k.entry w.stats).timestamp (env.time w.tick)

instance (k : StatsKind) (env : Env) (w : World) : Decidable (k.Hit env w) :=
  inferInstanceAs (Decidable (_ ∧ _))

/-- The number of calls made when the getter has looked at the clock, if it does. -/
def halTick (k : StatsKind) (w : World) : Nat := if k.Stored w.stats then w.tick + 1 else w.tick

/-! ### The getter as a function

The same steps as a function on the world, from which its equations are read.
-/

/-- What the HAL answers to the getter. -/
def answer (k : StatsKind) (env : Env) (w : World) : HalReturn × k.Record :=
  env.halRead k.kind (k.halTick w) (k.entry w.stats).data

/-- After the HAL call. -/
def fetched (k : StatsKind) (env : Env) (w : World) : World :=
  { w.withStats (k.setEntry { k.entry w.stats with data := (k.answer env w).2 } w.stats) with
    tick := k.halTick w + 1
    trace := w.trace ++ [.halRead k.kind (k.answer env w).1 (k.answer env w).2] }

/-- After a HAL call that succeeded: the entry is marked valid. -/
def stamped (k : StatsKind) (env : Env) (w : World) : World :=
  { (k.fetched env w).withStats (k.setEntry { k.entry (k.fetched env w).stats with
      timestamp := env.time (k.fetched env w).tick, valid := true } (k.fetched env w).stats) with
    tick := (k.fetched env w).tick + 1 }

/-- What a getter returns and leaves. -/
def get (k : StatsKind) (env : Env) (w : World) : Option k.Record × World :=
  if k.Hit env w then (some (k.entry w.stats).data, { w with tick := w.tick + 1 })
  else if (k.answer env w).1 = .success then (some (k.answer env w).2, k.stamped env w)
  else (none, k.fetched env w)

section Get

variable {k : StatsKind} {env : Env}

/-- The slot of a kind of statistics. -/
abbrev slot (k : StatsKind) : Data.Slot k.kind := Data.timedSlot k.kind k.entry k.setEntry

/-- The test asks the clock only if the entry is flagged valid and has a time. -/
theorem isValid_run (s : LockState MutexId World) :
    k.slot.isValid env s =
      .ok (decide (k.Hit env s.mem), { s with mem := { s.mem with tick := k.halTick s.mem } }) := by
  show (if (k.entry s.mem.stats).valid = true then
    StatsData.isStatsValid (k.entry s.mem.stats).timestamp s.mem.stats.ttlSeconds
    else return false : M Bool) env s = _
  by_cases hvalid : (k.entry s.mem.stats).valid = true
  · rw [if_pos hvalid, StatsData.isStatsValid]
    by_cases hzero : (k.entry s.mem.stats).timestamp = 0
    · have hno : ¬ k.Stored s.mem.stats := fun h => h.2 hzero
      rw [if_pos hzero, halTick, if_neg hno, decide_eq_false fun h : k.Hit env s.mem => hno h.1]
      rfl
    · have hstored : k.Stored s.mem.stats := ⟨hvalid, hzero⟩
      rw [if_neg hzero, halTick, if_pos hstored]
      show Except.ok
        (decide (env.time s.mem.tick - (k.entry s.mem.stats).timestamp ≥ 0) &&
          decide (env.time s.mem.tick - (k.entry s.mem.stats).timestamp <
            s.mem.stats.ttlSeconds.toNat), _) = _
      congr 2
      rw [← Bool.decide_and]
      exact decide_eq_decide.mpr ⟨fun h => ⟨hstored, h⟩, fun h => h.2⟩
  · have hno : ¬ k.Stored s.mem.stats := fun h => hvalid h.1
    rw [if_neg hvalid, halTick, if_neg hno, decide_eq_false fun h : k.Hit env s.mem => hno h.1]
    rfl

/-- The end of a getter that returns a record. -/
theorem serve_run (held : Held MutexId) (w : World) :
    (do
      let record ← readData k.slot.record
      Prog.unlock .data
      return some record : M (Option k.Record)) env ⟨held.acquire .data, w⟩ =
      .ok (some (k.entry w.stats).data, ⟨held, w⟩) := by
  have hread : readData k.slot.record env ⟨held.acquire .data, w⟩ =
      .ok ((k.entry w.stats).data, ⟨held.acquire .data, w⟩) := rfl
  rw [Prog.bind_of_ok hread, Prog.bind_of_ok (Prog.unlock_acquired .data env ⟨held, w⟩)]
  rfl

/-- What is stored is what the HAL answered, under the clock reading after the call. -/
theorem entry_stamped (env : Env) (w : World) :
    k.entry (k.stamped env w).stats =
      ⟨(k.answer env w).2, env.time (k.halTick w + 1), true⟩ := by
  show k.entry (k.setEntry _ (k.setEntry _ _)) = _
  rw [entry_setEntry]
  show (⟨(k.entry (k.setEntry _ _)).data, _, _⟩ : TimedEntry k.Record) = _
  rw [entry_setEntry]
  rfl

/-- **What a getter does.** -/
theorem getCached_run (s : LockState MutexId World) :
    k.getter env s = .ok ((k.get env s.mem).1, { s with mem := (k.get env s.mem).2 }) := by
  rw [getter_eq, Data.getCached, Prog.bind_of_ok (Prog.lock_of_recursive rfl env s),
    Prog.bind_of_ok (isValid_run _)]
  by_cases hhit : k.Hit env s.mem
  · have htick : k.halTick s.mem = s.mem.tick + 1 := if_pos hhit.1
    rw [decide_eq_true hhit, if_pos rfl, get, if_pos hhit, htick]
    exact serve_run s.held { s.mem with tick := s.mem.tick + 1 }
  · rw [decide_eq_false hhit, if_neg Bool.false_ne_true, get, if_neg hhit]
    -- the HAL has been called
    show (if (k.answer env s.mem).1 = .success then _ else _ : M (Option k.Record)) env
      ⟨s.held.acquire .data, k.fetched env s.mem⟩ = _
    by_cases hok : (k.answer env s.mem).1 = .success
    · rw [if_pos hok, if_pos hok]
      refine (serve_run s.held (k.stamped env s.mem)).trans ?_
      rw [entry_stamped]
    · rw [if_neg hok, if_neg hok]
      exact Prog.bind_of_ok (Prog.unlock_acquired .data env ⟨s.held, k.fetched env s.mem⟩)

/-- A call of a getter by a thread that holds no mutex. -/
theorem alone_getter (k : StatsKind) (env : Env) (w : World) :
    Prog.alone k.getter env w = some (k.get env w) :=
  Prog.alone_eq_some.mpr ⟨_, getCached_run ⟨fun _ => 0, w⟩⟩

/-- A fetch writes the record, whether it succeeds or not. -/
theorem entry_fetched (k : StatsKind) (env : Env) (w : World) :
    k.entry (k.fetched env w).stats = { k.entry w.stats with data := (k.answer env w).2 } :=
  k.entry_setEntry _ _

/-! ### The three ways a getter goes -/

/-- A record that is still valid is served; the clock was asked. -/
theorem get_hit {w : World} (h : k.Hit env w) :
    k.get env w = (some (k.entry w.stats).data, { w with tick := w.tick + 1 }) := if_pos h

/-- A record that was read is stamped and served. -/
theorem get_success {w : World} (h : ¬ k.Hit env w) (hok : (k.answer env w).1 = .success) :
    k.get env w = (some (k.answer env w).2, k.stamped env w) := by
  rw [get, if_neg h, if_pos hok]

/-- A read that fails serves nothing. -/
theorem get_failure {w : World} (h : ¬ k.Hit env w) (hfail : (k.answer env w).1 ≠ .success) :
    k.get env w = (none, k.fetched env w) := by
  rw [get, if_neg h, if_neg hfail]

/-- A getter does not touch the entry of the other kind. -/
theorem entry_get_of_ne {l : StatsKind} (hne : l ≠ k) (env : Env) (w : World) :
    l.entry (k.get env w).2.stats = l.entry w.stats := by
  by_cases hhit : k.Hit env w
  · rw [get_hit hhit]
    rfl
  · by_cases hok : (k.answer env w).1 = .success
    · rw [get_success hhit hok]
      exact (entry_setEntry_of_ne hne _ _).trans (entry_setEntry_of_ne hne _ _)
    · rw [get_failure hhit hok]
      exact entry_setEntry_of_ne hne _ _

theorem get_ttlSeconds (k : StatsKind) (env : Env) (w : World) :
    (k.get env w).2.stats.ttlSeconds = w.stats.ttlSeconds := by
  by_cases hhit : k.Hit env w
  · rw [get_hit hhit]
    rfl
  · by_cases hok : (k.answer env w).1 = .success
    · rw [get_success hhit hok]
      exact (k.setEntry_ttlSeconds _ _).trans (k.setEntry_ttlSeconds _ _)
    · rw [get_failure hhit hok]
      exact k.setEntry_ttlSeconds _ _

end Get

end StatsKind

/-- `eponMgr_statsData_invalidate_all` -/
theorem alone_invalidateAll (env : Env) (w : World) :
    Prog.alone StatsData.invalidateAll env w = some ((), w.withStats w.stats.invalidated) := rfl

/-! ### Runs -/

/-- What happened to the caches. -/
inductive StatsEvent where
  /-- a HAL call that succeeded: the record, and the clock reading that was stored with it -/
  | read (k : StatsKind) (record : k.Record) (reading : Int)
  | invalidated

/-- The events that a cache depends on. -/
def StatsEvent.concerns (k : StatsKind) : StatsEvent → Bool
  | .read l _ _  => l = k
  | .invalidated => true

/-- The calls that read and invalidate the caches. -/
inductive StatsCall where
  | get (k : StatsKind)
  /-- `eponMgr_statsData_invalidate_all` -/
  | invalidateAll
  deriving DecidableEq, Repr

/-- The process with the log of its caches, the latest event first. -/
structure Observed where
  world : World
  log : List StatsEvent

/-- A call, with what the HAL and the clock answer from then on. -/
structure StatsAction where
  env : Env
  call : StatsCall

namespace StatsCall

def run : StatsCall → M Unit
  | .get k         => do let _ ← k.getter
  | .invalidateAll => StatsData.invalidateAll

/-- The event that an effect of a getter is, given the clock reading that is stored afterwards. -/
def readEvent (reading : Int) : Effect → Option StatsEvent
  | .halRead .linkStats .success record        => some (.read .linkStats record reading)
  | .halRead .transceiverStats .success record => some (.read .transceiverStats record reading)
  | _                                          => none

/-- The events of a call that led from `w` to `w'`. -/
def events (w w' : World) : StatsCall → List StatsEvent
  | .get k         =>
      (w'.trace.drop w.trace.length).filterMap (readEvent (k.entry w'.stats).timestamp)
  | .invalidateAll => [.invalidated]

end StatsCall

namespace Observed

/-- After a call that led to `w`. -/
def after (o : Observed) (c : StatsCall) (w : World) : Observed := ⟨w, c.events o.world w ++ o.log⟩

/-- One call, by a thread that holds no mutex. -/
def step (o : Observed) (a : StatsAction) : Option Observed :=
  (Prog.alone a.call.run a.env o.world).map fun p => o.after a.call p.2

/-- Before the first call. -/
def start (w : World) : Observed := ⟨w, []⟩

/-- **What a getter may return**: the record of the latest successful HAL call of its kind, which
was made after the latest invalidation and within the TTL by the clock reading the getter took
last. -/
def Served (o : Observed) (k : StatsKind) (env : Env) : Prop :=
  ∀ record w, Prog.alone k.getter env o.world = some (some record, w) →
    ∃ t, (o.after (.get k) w).log.find? (StatsEvent.concerns k) = some (.read k record t) ∧
      WithinTtl w.stats.ttlSeconds t (env.time (w.tick - 1))

/-- The condition on a call: if the HAL call of a getter fails, it does not change a record that is
marked valid. -/
def KeepsRecord (o : Observed) (a : StatsAction) : Prop :=
  ∀ k, a.call = .get k → k.Stored o.world.stats → ¬ k.Hit a.env o.world →
    (k.answer a.env o.world).1 ≠ .success →
    (k.answer a.env o.world).2 = (k.entry o.world.stats).data

/-- **The invariant**: a record that the clock may still release is the one of the latest event. -/
structure Trusted (o : Observed) : Prop where
  stored : ∀ k : StatsKind, k.Stored o.world.stats →
    o.log.find? (StatsEvent.concerns k) =
      some (.read k (k.entry o.world.stats).data (k.entry o.world.stats).timestamp)
  ttlPos : 0 < o.world.stats.ttlSeconds.toNat

end Observed

/-! ### What one call does to the log -/

section Log

variable {k : StatsKind} {env : Env} {o : Observed} {w : World}

/-- A successful read is logged with its record. -/
theorem StatsCall.readEvent_success (reading : Int) (record : k.Record) :
    readEvent reading (.halRead k.kind .success record) = some (.read k record reading) := by
  cases k <;> rfl

theorem StatsCall.readEvent_failure (reading : Int) {ret : HalReturn} (hret : ret ≠ .success)
    (record : k.Record) : readEvent reading (.halRead k.kind ret record) = none := by
  cases ret with
  | success => exact absurd rfl hret
  | _ => cases k <;> rfl

namespace Observed

/-- A hit adds nothing to the log. -/
theorem after_hit (h : k.Hit env o.world) :
    o.after (.get k) (k.get env o.world).2 = ⟨(k.get env o.world).2, o.log⟩ := by
  rw [StatsKind.get_hit h, after, StatsCall.events, List.drop_length]
  rfl

theorem after_success (h : ¬ k.Hit env o.world) (hok : (k.answer env o.world).1 = .success) :
    o.after (.get k) (k.get env o.world).2 =
      ⟨(k.get env o.world).2,
        .read k (k.answer env o.world).2 (env.time (k.halTick o.world + 1)) :: o.log⟩ := by
  rw [StatsKind.get_success h hok, after, StatsCall.events, StatsKind.entry_stamped]
  show (⟨_, (List.drop _ (_ ++ [Effect.halRead k.kind (k.answer env o.world).1 _])).filterMap _ ++
    _⟩ : Observed) = _
  rw [List.drop_left, hok, List.filterMap_cons, StatsCall.readEvent_success]
  rfl

theorem after_failure (h : ¬ k.Hit env o.world) (hfail : (k.answer env o.world).1 ≠ .success) :
    o.after (.get k) (k.get env o.world).2 = ⟨(k.get env o.world).2, o.log⟩ := by
  rw [StatsKind.get_failure h hfail, after, StatsCall.events]
  show (⟨_, (List.drop _ (_ ++ [Effect.halRead k.kind _ _])).filterMap _ ++ _⟩ : Observed) = _
  rw [List.drop_left, List.filterMap_cons, StatsCall.readEvent_failure _ hfail]
  rfl

/-- The latest read is the one that is looked for. -/
@[simp] theorem find_read (k : StatsKind) (record : k.Record) (t : Int) (log : List StatsEvent) :
    (StatsEvent.read k record t :: log).find? (StatsEvent.concerns k) =
      some (.read k record t) :=
  List.find?_cons_of_pos (decide_eq_true rfl)

/-- A call for the other kind adds nothing that concerns this one. -/
theorem find_after_of_ne {l : StatsKind} (hne : l ≠ k) :
    (o.after (.get k) (k.get env o.world).2).log.find? (StatsEvent.concerns l) =
      o.log.find? (StatsEvent.concerns l) := by
  by_cases hhit : k.Hit env o.world
  · rw [after_hit hhit]
  · by_cases hok : (k.answer env o.world).1 = .success
    · have hno : ¬ StatsEvent.concerns l (.read k (k.answer env o.world).2
          (env.time (k.halTick o.world + 1))) = true := by
        rw [StatsEvent.concerns, decide_eq_true_iff]
        exact hne.symm
      rw [after_success hhit hok, List.find?_cons_of_neg hno]
    · rw [after_failure hhit hok]

/-- A getter's step, with what it adds to the log. -/
theorem step_get (o : Observed) (k : StatsKind) (env : Env) :
    o.step ⟨env, .get k⟩ = some (o.after (.get k) (k.get env o.world).2) := by
  have hrun : Prog.alone (StatsCall.run (.get k)) env o.world =
      some ((), (k.get env o.world).2) := by
    apply Prog.alone_eq_some.mpr
    refine ⟨fun _ => 0, ?_⟩
    show (k.getter >>= fun _ => pure ()) env _ = _
    rw [Prog.bind_of_ok (StatsKind.getCached_run _)]
    rfl
  show (Prog.alone (StatsCall.run (.get k)) env o.world).map _ = _
  rw [hrun]
  rfl

theorem step_invalidateAll (o : Observed) (env : Env) :
    o.step ⟨env, .invalidateAll⟩ =
      some ⟨o.world.withStats o.world.stats.invalidated, .invalidated :: o.log⟩ := by
  show (Prog.alone StatsData.invalidateAll env o.world).map _ = _
  rw [alone_invalidateAll]
  rfl

/-- Every call returns. -/
theorem exec_isSome (o : Observed) (as : List StatsAction) : ∃ o', exec step o as = some o' := by
  induction as generalizing o with
  | nil => exact ⟨o, rfl⟩
  | cons a as ih =>
      obtain ⟨env, call⟩ := a
      have hstep : ∃ o₁, o.step ⟨env, call⟩ = some o₁ := by
        cases call with
        | get k => exact ⟨_, o.step_get k env⟩
        | invalidateAll => exact ⟨_, o.step_invalidateAll env⟩
      obtain ⟨o₁, h₁⟩ := hstep
      obtain ⟨o', h'⟩ := ih o₁
      exact ⟨o', exec_cons_eq_some.mpr ⟨o₁, h₁, h'⟩⟩

end Observed

end Log

/-! ### The invariant -/

namespace Observed

variable {o : Observed} {env : Env}

/-- **A trusted cache serves what it may.** -/
theorem Trusted.served (h : o.Trusted) (k : StatsKind) (env : Env) : o.Served k env := by
  intro record w hrun
  have hget := Option.some.inj ((k.alone_getter env o.world).symm.trans hrun)
  have hw : (k.get env o.world).2 = w := congrArg Prod.snd hget
  by_cases hhit : k.Hit env o.world
  · refine ⟨(k.entry o.world.stats).timestamp, ?_, ?_⟩
    · rw [← hw, after_hit hhit, h.stored k hhit.1]
      rw [StatsKind.get_hit hhit] at hget
      cases hget
      rfl
    · rw [StatsKind.get_hit hhit] at hget
      cases hget
      exact hhit.2
  · by_cases hok : (k.answer env o.world).1 = .success
    · refine ⟨env.time (k.halTick o.world + 1), ?_, ?_⟩
      · rw [← hw, after_success hhit hok, find_read]
        rw [StatsKind.get_success hhit hok] at hget
        cases hget
        rfl
      · -- the record is as old as the reading that is stored with it
        have httl := k.get_ttlSeconds env o.world
        rw [hw] at httl
        rw [StatsKind.get_success hhit hok] at hget
        have htick : w.tick - 1 = k.halTick o.world + 1 := by
          cases hget
          rfl
        rw [htick, httl, WithinTtl, Int.sub_self]
        exact ⟨Int.le_refl 0, Int.natCast_pos.mpr h.ttlPos⟩
    · rw [StatsKind.get_failure hhit hok] at hget
      cases hget

/-- The entry that a getter uses. -/
theorem Trusted.stored_get {k : StatsKind} (h : o.Trusted) (ha : o.KeepsRecord ⟨env, .get k⟩)
    (hk : k.Stored (k.get env o.world).2.stats) :
    (o.after (.get k) (k.get env o.world).2).log.find? (StatsEvent.concerns k) =
      some (.read k (k.entry (k.get env o.world).2.stats).data
        (k.entry (k.get env o.world).2.stats).timestamp) := by
  by_cases hhit : k.Hit env o.world
  · rw [after_hit hhit, StatsKind.get_hit hhit]
    exact h.stored k hhit.1
  · by_cases hok : (k.answer env o.world).1 = .success
    · rw [after_success hhit hok, StatsKind.get_success hhit hok, StatsKind.entry_stamped]
      exact find_read ..
    · -- the HAL has written into the entry, and nothing else has changed
      rw [StatsKind.get_failure hhit hok] at hk ⊢
      rw [StatsKind.Stored, StatsKind.entry_fetched] at hk
      have hkept := ha k rfl hk hhit hok
      rw [StatsKind.entry_fetched, hkept]
      have hlog := after_failure hhit hok
      rw [StatsKind.get_failure hhit hok] at hlog
      rw [hlog]
      exact h.stored k hk

/-- **Step lemma.** -/
theorem Trusted.step {a : StatsAction} {o' : Observed} (h : o.Trusted) (ha : o.KeepsRecord a)
    (hstep : o.step a = some o') : o'.Trusted := by
  obtain ⟨env, call⟩ := a
  cases call with
  | get k =>
      rw [step_get] at hstep
      cases hstep
      refine ⟨fun l hl => ?_, ?_⟩
      · -- the getter writes its own entry and leaves the other
        by_cases hlk : l = k
        · subst hlk
          exact h.stored_get ha hl
        · rw [find_after_of_ne hlk]
          have hentry : l.entry (k.get env o.world).2.stats = l.entry o.world.stats :=
            StatsKind.entry_get_of_ne hlk env o.world
          show _ = some (StatsEvent.read l (l.entry (k.get env o.world).2.stats).data
            (l.entry (k.get env o.world).2.stats).timestamp)
          rw [hentry]
          refine h.stored l ?_
          rw [StatsKind.Stored, ← hentry]
          exact hl
      · show 0 < (k.get env o.world).2.stats.ttlSeconds.toNat
        rw [k.get_ttlSeconds]
        exact h.ttlPos
  | invalidateAll =>
      rw [step_invalidateAll] at hstep
      cases hstep
      refine ⟨fun l hl => ?_, h.ttlPos⟩
      have hvalid : (l.entry o.world.stats.invalidated).valid = true := hl.1
      rw [l.entry_invalidated] at hvalid
      cases hvalid

/-- **The clock can come back.** If the next getter is served right whatever the clock shows, a
failed call has not changed a valid record. -/
theorem keepsRecord_of_served {a : StatsAction} (h : o.Trusted)
    (hserved : ∀ o', o.step a = some o' → ∀ k env, o'.Served k env) : o.KeepsRecord a := by
  obtain ⟨env, call⟩ := a
  rintro k rfl hstored hmiss hfail
  -- the clock shows again what it showed when the record was stored
  let back : Env := { env with time := fun _ => (k.entry o.world.stats).timestamp }
  have hhit : k.Hit back (k.fetched env o.world) := by
    rw [StatsKind.Hit, StatsKind.Stored, StatsKind.entry_fetched]
    refine ⟨hstored, ?_, ?_⟩
    · exact Int.le_of_eq (Int.sub_self _).symm
    · show _ - _ < ((k.setEntry _ _).ttlSeconds.toNat : Int)
      rw [Int.sub_self, k.setEntry_ttlSeconds]
      exact Int.natCast_pos.mpr h.ttlPos
  have hserved' := hserved _ (o.step_get k env) k back
  rw [after_failure hmiss hfail, StatsKind.get_failure hmiss hfail] at hserved'
  have hrun := (k.alone_getter back (k.fetched env o.world)).trans
    (congrArg some (StatsKind.get_hit hhit))
  obtain ⟨t, ht, -⟩ := hserved' _ _ hrun
  have hlog := after_hit (o := ⟨k.fetched env o.world, o.log⟩) hhit
  rw [StatsKind.get_hit hhit] at hlog
  rw [hlog, h.stored k hstored, StatsKind.entry_fetched] at ht
  injection ht with ht
  injection ht with _ hrecord
  exact hrecord.symm

end Observed

/-! ### After the start-up

Nothing is cached when the run begins, so the invariant holds there.
-/

/-- No record is stored, and the TTL is positive. -/
structure Cold (w : World) : Prop where
  notStored : ∀ k : StatsKind, ¬ k.Stored w.stats
  ttlPos : 0 < w.stats.ttlSeconds.toNat

section Boot

open Controller (ensures_trivial ensures_regardless)

instance : ReportsRows (fun w w' => World.stats w' = World.stats w) (fun _ => True) :=
  ReportsRows.of_view (fun _ => rfl) (fun _ _ => rfl) (fun _ _ => rfl) (fun _ _ => rfl)

/-- Stages that do not touch the statistics leave them cold. -/
theorem cold_ensures {α : Type} {f : M α} (hf : Keeps World.stats f) :
    Ensures Cold f (fun _ => Cold) :=
  hf.ensures fun w w' h hw => by
    have hstats : w'.stats = w.stats := h
    exact ⟨by rw [hstats]; exact hw.notStored, by rw [hstats]; exact hw.ttlPos⟩

/-- The caches are allocated cold. -/
theorem cold_initial (dpoeSupported : Bool) {cacheTtl : UInt32} (hpos : 0 < cacheTtl.toNat)
    {w : World} (hw : w.eponData.obj = Data.initial dpoeSupported cacheTtl) : Cold w := by
  have hstats : w.stats = (Data.initial dpoeSupported cacheTtl).statsData :=
    congrArg Data.statsData hw
  refine ⟨fun k hk => ?_, by rw [hstats]; exact hpos⟩
  rw [hstats] at hk
  cases k <;> exact absurd hk.1 Bool.false_ne_true

/-- The TTL that is loaded is at least a second. -/
theorem load_ttl {P : World → Prop} :
    Ensures P Persistence.initDefaults.load (fun config _ => 0 < config.cacheTtlSeconds.toNat) := by
  refine Ensures.bind ensures_trivial fun cacheTtl => Ensures.bind ensures_trivial fun _ =>
    Ensures.bind ensures_trivial fun _ => Ensures.bind ensures_trivial fun _ =>
    Ensures.pure fun _ _ => ?_
  show 0 < (Persistence.inRange 1 300 cacheTtl 30).toNat
  cases cacheTtl with
  | none => decide
  | some n =>
      rw [Persistence.inRange]
      split
      · decide
      · next h =>
        have hlow : ¬ n < 1 := fun hlt => h (.inl hlt)
        rw [UInt32.lt_iff_toNat_lt] at hlow
        have : (1 : UInt32).toNat = 1 := rfl
        omega

theorem initData_cold :
    Ensures (fun _ => True) Controller.initData (fun ok w => ok = true → Cold w) := by
  refine Ensures.of_within fun env => Controller.initData_rule (A := fun _ => True)
    (R := fun _ => True) (S := fun _ => True)
    (L := fun config _ => 0 < config.cacheTtlSeconds.toNat)
    (C := fun config _ => 0 < config.cacheTtlSeconds.toNat) (fun _ _ => trivial)
    (ensures_regardless ensures_trivial) (fun _ _ => trivial) (load_ttl.within env)
    (fun _ _ h => h) (fun _ _ h => h) ?_
  intro config w hpos
  exact cold_initial config.dpoeEnabled hpos rfl

/-- **A successful start-up leaves both caches empty.** -/
theorem init_cold (limits : HalLimits) :
    Ensures (fun _ => True) (Controller.init limits) (fun ok w => ok = true → Cold w) := by
  have hhal : Keeps World.stats (Controller.initHal limits) :=
    Controller.initHal_outside (fun _ _ => trivial) (fun _ _ hf => (hf _).2) limits
  have htr181 : Ensures Cold Rbus.registerTr181 (fun _ => Cold) :=
    cold_ensures (Controller.registerTr181_outside fun _ _ _ => trivial)
  refine Ensures.of_within fun env => Controller.init_rule (B := Cold) (C := Cold)
    (initData_cold.within env) ((cold_ensures hhal).within env) (fun config => ?_)
    ((ensures_regardless htr181).within env)
    (fun _ h => ⟨h.notStored, h.ttlPos⟩)
  have hcold := cold_ensures (Controller.pollerInit_respects (fun _ _ => rfl)
    config.statsPollerEnabled config.statsPollerIntervalSeconds)
  exact (ensures_regardless (hcold.conseq (fun _ h => h.2) fun _ _ h => h)).within env

end Boot

/-! ### Which records are served -/

namespace Observed

/-- **Cold caches can be trusted**, because they serve nothing. -/
theorem Trusted.of_cold {w : World} (hw : Cold w) : (start w).Trusted :=
  ⟨fun k hk => absurd hk (hw.notStored k), hw.ttlPos⟩

/-- **Which runs serve fresh records**: wherever a run of getters and invalidations gets to, every
getter returns the record of the latest successful HAL call since the latest invalidation, and
within its TTL, if and only if no failed HAL call of the run changes a record that is marked
valid. -/
theorem stats_served_fresh_iff {limits : HalLimits} {boot : Env} {psm : String → Option String}
    {w₀ : World}
    (hinit : Prog.alone (Controller.init limits) boot (World.boot psm) = some (true, w₀))
    (as : List StatsAction) :
    (∃ o, exec step (start w₀) as = some o) ∧
      ((∀ done o, done <+: as → exec step (start w₀) done = some o → ∀ k env, o.Served k env) ↔
        Along step KeepsRecord (start w₀) as) := by
  have htrusted := Trusted.of_cold ((init_cold limits).alone trivial hinit rfl)
  refine ⟨exec_isSome _ _, forall_reached_iff.trans ?_⟩
  have hiff : Along step KeepsRecord (start w₀) as ↔
      Along step (fun o a => ∀ o', o.step a = some o' → ∀ k env, o'.Served k env) (start w₀) as :=
    along_iff (P := Trusted) (D := fun _ _ => True)
      (fun _ _ _ hs _ ha hstep => hs.step ha hstep)
      (fun _ _ hs _ => ⟨fun ha _ hstep => (hs.step ha hstep).served, keepsRecord_of_served hs⟩)
      htrusted (along_of_forall fun _ _ => trivial)
  exact ⟨fun h => hiff.mpr h.2, fun h => ⟨htrusted.served, hiff.mp h⟩⟩

/-- A HAL that never fails changes no record by failing. -/
theorem keepsRecord_of_success {a : StatsAction}
    (h : ∀ (k : StatsKind) n r, (a.env.halRead k.kind n r).1 = .success) (o : Observed) :
    o.KeepsRecord a :=
  fun k _ _ _ hfail => absurd (h k _ _) hfail

/-- Both kinds are read, invalidated and read again. -/
theorem stats_served_fresh_quiet :
    ∃ w₀, Prog.alone (Controller.init HalLimits.small) Env.quiet (World.boot fun _ => none) =
        some (true, w₀) ∧
      ∀ done o, done <+: [⟨Env.quiet, .get .linkStats⟩, ⟨Env.quiet, .get .transceiverStats⟩,
          ⟨Env.quiet, .invalidateAll⟩, ⟨Env.quiet, .get .linkStats⟩] →
        exec step (start w₀) done = some o → ∀ k env, o.Served k env := by
  obtain ⟨t, ht⟩ := Controller.init_quiet
  have hinit := Prog.alone_eq_some.mpr ⟨t.held, ht⟩
  refine ⟨t.mem, hinit, (stats_served_fresh_iff hinit _).2.mpr ?_⟩
  have hquiet (c : StatsCall) (o : Observed) : o.KeepsRecord ⟨Env.quiet, c⟩ :=
    keepsRecord_of_success (fun k _ _ => by cases k <;> rfl) o
  exact ⟨hquiet _ _, fun _ _ => ⟨hquiet _ _, fun _ _ => ⟨hquiet _ _, fun _ _ =>
    ⟨hquiet _ _, fun _ _ => trivial⟩⟩⟩⟩

end Observed

/-- The clock shows `now`, and the HAL answers a read of the link statistics with `ret` and this
many bytes. -/
def Env.linkBytes (now : Int) (ret : HalReturn) (bytesSent : UInt64) : Env :=
  { Env.quiet with
    time := fun _ => now
    halReadLinkStats := fun _ r => (ret, { r with bytesSent }) }

/-- 5 bytes are read at 100. At 200 they are too old, and the HAL fails and leaves 7 bytes. At 110
these are served. -/
theorem failed_refresh_served :
    ∃ w₀ o r w, Prog.alone (Controller.init HalLimits.small) Env.quiet (World.boot fun _ => none) =
        some (true, w₀) ∧
      exec Observed.step (Observed.start w₀) [⟨Env.linkBytes 100 .success 5, .get .linkStats⟩,
        ⟨Env.linkBytes 200 (.other 1) 7, .get .linkStats⟩] = some o ∧
      Prog.alone Data.getLinkStats (Env.linkBytes 110 .success 9) o.world = some (some r, w) ∧
      r.bytesSent = 7 ∧ ¬ o.Served .linkStats (Env.linkBytes 110 .success 9) := by
  let bytes : StatsEvent → Option UInt64
    | .read .linkStats r _ => some r.bytesSent
    | _                    => none
  have h : ((Prog.alone (Controller.init HalLimits.small) Env.quiet
        (World.boot fun _ => none)).bind fun p =>
      (exec Observed.step (Observed.start p.2) [⟨Env.linkBytes 100 .success 5, .get .linkStats⟩,
        ⟨Env.linkBytes 200 (.other 1) 7, .get .linkStats⟩]).bind fun o =>
      (Prog.alone Data.getLinkStats (Env.linkBytes 110 .success 9) o.world).map fun q =>
        (p.1, q.1.map LinkStats.bytesSent,
          ((o.after (.get .linkStats) q.2).log.find? (StatsEvent.concerns .linkStats)).bind
            bytes)) = some (true, some 7, some 5) := by
    decide +kernel
  simp only [Option.bind_eq_some_iff, Option.map_eq_some_iff, Prod.mk.injEq] at h
  obtain ⟨⟨ok, w₀⟩, h₀, o, h₁, ⟨r, w⟩, h₂, rfl, ⟨r, rfl, hr⟩, e, he, hbytes⟩ := h
  refine ⟨w₀, o, r, w, h₀, h₁, h₂, hr, fun hserved => ?_⟩
  obtain ⟨t, ht, -⟩ := hserved r w h₂
  rw [ht] at he
  cases he
  have hfive : r.bytesSent = 5 := Option.some.inj hbytes
  rw [hr] at hfive
  exact absurd hfive (by decide)

end EponManager
