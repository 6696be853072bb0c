import EponManager.Lib.Spacing
import EponManager.StatsCache

/-!
# How often the statistics are read

The TTL is there to spare the HAL. While the clock is not set back, the successful reads of one kind
of statistics are a TTL apart, but for the first one after an invalidation.

* `StatsKind.mark` takes the log of the caches for one of hits and resets.
* `Paced` is the invariant, and `stats_read_rate` the bound on the reads of any run.
-/

namespace EponManager

open Lib

/-- A successful read of this kind. -/
def StatsEvent.isRead (k : StatsKind) : StatsEvent → Bool
  | .read l _ _  => l = k
  | .invalidated => false

def StatsEvent.isInvalidation : StatsEvent → Bool
  | .read _ _ _  => false
  | .invalidated => true

/-- A read of this kind is a hit, and an invalidation resets the cache. -/
def StatsKind.mark (k : StatsKind) : StatsEvent → Option Mark
  | .read l _ t  => if l = k then some (.hit t) else none
  | .invalidated => some .reset

namespace Observed

/-- What a log tells of one kind of statistics, the latest first. -/
def marks (o : Observed) (k : StatsKind) : List Mark := o.log.filterMap k.mark

/-- **The invariant**: the reads are spaced, and the entry still carries the time of the latest. -/
structure Paced (k : StatsKind) (env : Env) (ttlSeconds : UInt32) (t₀ : Int) (o : Observed) :
    Prop where
  spaced : Spaced ttlSeconds.toNat t₀ (o.marks k) (env.time o.world.tick)
  stored : ∀ s ∈ lastHit (o.marks k),
    k.Stored o.world.stats ∧ (k.entry o.world.stats).timestamp = s
  ttl : o.world.stats.ttlSeconds = ttlSeconds

variable {k : StatsKind} {env : Env} {ttlSeconds : UInt32} {t₀ : Int} {o : Observed}

/-! ### Getters are paced -/

theorem Paced.start (k : StatsKind) (env : Env) (w : World) :
    Paced k env w.stats.ttlSeconds (env.time w.tick) (start w) := by
  refine ⟨.nil, fun s hs => ?_, rfl⟩
  cases hs

/-- A getter asks the clock, it does not turn it back. -/
theorem tick_le_get (l : StatsKind) (env : Env) (w : World) : w.tick ≤ (l.get env w).2.tick := by
  have hlow : w.tick ≤ l.halTick w := by
    rw [StatsKind.halTick]
    split <;> omega
  by_cases hhit : l.Hit env w
  · rw [StatsKind.get_hit hhit]
    exact Nat.le_succ _
  · by_cases hok : (l.answer env w).1 = .success
    · rw [StatsKind.get_success hhit hok]
      exact Nat.le_succ_of_le (Nat.le_succ_of_le hlow)
    · rw [StatsKind.get_failure hhit hok]
      exact Nat.le_succ_of_le hlow

section Step

variable (hclock : ∀ i j, i ≤ j → env.time i ≤ env.time j)

include hclock

/-- What adds nothing to the marks and leaves the entry under its time. -/
theorem Paced.quiet (h : Paced k env ttlSeconds t₀ o) {o' : Observed}
    (hmarks : o'.marks k = o.marks k) (htick : o.world.tick ≤ o'.world.tick)
    (hvalid : (k.entry o'.world.stats).valid = (k.entry o.world.stats).valid)
    (htime : (k.entry o'.world.stats).timestamp = (k.entry o.world.stats).timestamp)
    (httl : o'.world.stats.ttlSeconds = o.world.stats.ttlSeconds) :
    Paced k env ttlSeconds t₀ o' := by
  refine ⟨?_, fun s hs => ?_, httl.trans h.ttl⟩
  · rw [hmarks]
    exact h.spaced.later (hclock _ _ htick)
  · rw [hmarks] at hs
    obtain ⟨⟨hv, hz⟩, ht⟩ := h.stored s hs
    exact ⟨⟨hvalid.trans hv, by rw [htime]; exact hz⟩, htime.trans ht⟩

/-- A getter that does not find a valid entry, and reads the HAL. -/
theorem Paced.read (h : Paced k env ttlSeconds t₀ o) (hpos : 0 < t₀)
    (hmiss : ¬ k.Hit env o.world) (hok : (k.answer env o.world).1 = .success) :
    Paced k env ttlSeconds t₀ (o.after (.get k) (k.get env o.world).2) := by
  have hlow : o.world.tick ≤ k.halTick o.world := by
    rw [StatsKind.halTick]
    split <;> omega
  have hread : env.time o.world.tick ≤ env.time (k.halTick o.world + 1) :=
    hclock _ _ (Nat.le_succ_of_le hlow)
  have hmarks : (o.after (.get k) (k.get env o.world).2).marks k =
      .hit (env.time (k.halTick o.world + 1)) :: o.marks k := by
    rw [after_success hmiss hok, marks, List.filterMap_cons, StatsKind.mark, if_pos rfl]
    rfl
  -- the entry has run out
  have hfar (s : Int) (hs : s ∈ lastHit (o.marks k)) :
      s + ttlSeconds.toNat ≤ env.time (k.halTick o.world + 1) := by
    obtain ⟨hstored, rfl⟩ := h.stored s hs
    have hout : ¬ WithinTtl o.world.stats.ttlSeconds (k.entry o.world.stats).timestamp
        (env.time o.world.tick) := fun hin => hmiss ⟨hstored, hin⟩
    rw [WithinTtl, h.ttl] at hout
    have hpast := (h.spaced.used (Int.natCast_nonneg _)).1 _ hs
    omega
  have hworld : (o.after (.get k) (k.get env o.world).2).world = k.stamped env o.world := by
    rw [StatsKind.get_success hmiss hok]
    rfl
  refine ⟨?_, fun s hs => ?_, ?_⟩
  · rw [hmarks, hworld]
    refine (h.spaced.hit hread hfar).later (hclock _ _ ?_)
    show k.halTick o.world + 1 ≤ k.halTick o.world + 1 + 1
    omega
  · rw [hmarks] at hs
    cases hs
    rw [hworld, StatsKind.Stored, StatsKind.entry_stamped]
    have := h.spaced.start_le
    exact ⟨⟨rfl, by show env.time _ ≠ 0; omega⟩, rfl⟩
  · show (k.get env o.world).2.stats.ttlSeconds = ttlSeconds
    rw [k.get_ttlSeconds, h.ttl]

/-- **A getter**, of this kind or the other. -/
theorem Paced.get (h : Paced k env ttlSeconds t₀ o) (hpos : 0 < t₀) (l : StatsKind) :
    Paced k env ttlSeconds t₀ (o.after (.get l) (l.get env o.world).2) := by
  have htick := tick_le_get l env o.world
  have httl := l.get_ttlSeconds env o.world
  by_cases hlk : k = l
  · subst hlk
    by_cases hhit : k.Hit env o.world
    · rw [after_hit hhit]
      refine h.quiet hclock rfl htick ?_ ?_ httl <;> rw [StatsKind.get_hit hhit] <;> rfl
    · by_cases hok : (k.answer env o.world).1 = .success
      · exact h.read hclock hpos hhit hok
      · -- the HAL has at most changed the record
        rw [after_failure hhit hok]
        refine h.quiet hclock rfl htick ?_ ?_ httl <;>
          rw [StatsKind.get_failure hhit hok] <;> rw [StatsKind.entry_fetched]
  · have hentry : k.entry (l.get env o.world).2.stats = k.entry o.world.stats :=
      StatsKind.entry_get_of_ne hlk env o.world
    refine h.quiet hclock ?_ htick (congrArg _ hentry) (congrArg _ hentry) httl
    by_cases hhit : l.Hit env o.world
    · rw [after_hit hhit]
      rfl
    · by_cases hok : (l.answer env o.world).1 = .success
      · rw [after_success hhit hok, marks, List.filterMap_cons, StatsKind.mark,
          if_neg (Ne.symm hlk)]
        rfl
      · rw [after_failure hhit hok]
        rfl

/-- **Step lemma.** -/
theorem Paced.step (h : Paced k env ttlSeconds t₀ o) (hpos : 0 < t₀) (c : StatsCall)
    {o' : Observed} (hstep : o.step ⟨env, c⟩ = some o') : Paced k env ttlSeconds t₀ o' := by
  cases c with
  | get l =>
      rw [step_get] at hstep
      cases hstep
      exact h.get hclock hpos l
  | invalidateAll =>
      rw [step_invalidateAll] at hstep
      cases hstep
      refine ⟨h.spaced.reset, fun s hs => ?_, h.ttl⟩
      cases hs

/-- **Run lemma.** -/
theorem Paced.run (h : Paced k env ttlSeconds t₀ o) (hpos : 0 < t₀) (calls : List StatsCall)
    {o' : Observed} (hrun : exec Observed.step o (calls.map (⟨env, ·⟩)) = some o') :
    Paced k env ttlSeconds t₀ o' := by
  induction calls generalizing o with
  | nil =>
      cases hrun
      exact h
  | cons c calls ih =>
      obtain ⟨o₁, h₁, hrest⟩ := exec_cons_eq_some.mp hrun
      exact ih (h.step hclock hpos c h₁) hrest

end Step

/-! ### The result -/

theorem hits_marks (k : StatsKind) (log : List StatsEvent) :
    hits (log.filterMap k.mark) = log.countP (StatsEvent.isRead k) := by
  induction log with
  | nil => rfl
  | cons e log ih =>
      cases e with
      | invalidated =>
          rw [List.countP_cons_of_neg Bool.false_ne_true, ← ih]
          rfl
      | read l record t =>
          by_cases hlk : l = k
          · have hyes : StatsEvent.isRead k (.read l record t) = true := decide_eq_true hlk
            rw [List.countP_cons_of_pos hyes, ← ih, List.filterMap_cons, StatsKind.mark,
              if_pos hlk]
            rfl
          · have hno : ¬ StatsEvent.isRead k (.read l record t) = true :=
              fun h => hlk (of_decide_eq_true h)
            rw [List.countP_cons_of_neg hno, ← ih, List.filterMap_cons, StatsKind.mark,
              if_neg hlk]

theorem resets_marks (k : StatsKind) (log : List StatsEvent) :
    resets (log.filterMap k.mark) = log.countP StatsEvent.isInvalidation := by
  induction log with
  | nil => rfl
  | cons e log ih =>
      cases e with
      | invalidated =>
          rw [List.countP_cons_of_pos rfl, ← ih]
          rfl
      | read l record t =>
          rw [List.countP_cons_of_neg Bool.false_ne_true, ← ih, List.filterMap_cons,
            StatsKind.mark]
          by_cases hlk : l = k
          · rw [if_pos hlk]
            rfl
          · rw [if_neg hlk]

/-- **What the TTL spares the HAL**: over any run of getters and invalidations, by a clock that is
not set back, a kind of statistics is read once for each TTL that has passed, once to begin with and
once for each invalidation, and not more often. -/
theorem stats_read_rate (k : StatsKind) {env : Env} {w : World}
    (hclock : ∀ i j, i ≤ j → env.time i ≤ env.time j) (hpos : 0 < env.time w.tick)
    (calls : List StatsCall) :
    ∃ o, exec step (start w) (calls.map (⟨env, ·⟩)) = some o ∧
      (o.log.countP (StatsEvent.isRead k) : Int) * w.stats.ttlSeconds.toNat ≤
        env.time o.world.tick - env.time w.tick +
          (1 + o.log.countP StatsEvent.isInvalidation) * w.stats.ttlSeconds.toNat := by
  obtain ⟨o, ho⟩ := exec_isSome (start w) (calls.map (⟨env, ·⟩))
  have hpaced := (Paced.start k env w).run hclock hpos calls ho
  have hle := hpaced.spaced.hits_le (Int.natCast_nonneg _)
  refine ⟨o, ho, ?_⟩
  rw [marks, hits_marks, resets_marks] at hle
  rw [Int.add_mul, Int.one_mul]
  omega

/-- After a start-up, by a clock that goes on by a second with every call. -/
theorem stats_read_rate_ticking :
    ∃ w₀, Prog.alone (Controller.init HalLimits.small) Env.quiet (World.boot fun _ => none) =
        some (true, w₀) ∧
      ∃ o, exec step (start w₀)
          ([.get .linkStats, .get .transceiverStats, .invalidateAll, .get .linkStats].map
            (⟨{ Env.quiet with time := fun n => n + 1 }, ·⟩)) = some o ∧
        (o.log.countP (StatsEvent.isRead .linkStats) : Int) * w₀.stats.ttlSeconds.toNat ≤
          (o.world.tick + 1 : Int) - (w₀.tick + 1) +
            (1 + o.log.countP StatsEvent.isInvalidation) * w₀.stats.ttlSeconds.toNat := by
  obtain ⟨t, ht⟩ := Controller.init_quiet
  refine ⟨t.mem, Prog.alone_eq_some.mpr ⟨t.held, ht⟩, ?_⟩
  refine @stats_read_rate .linkStats { Env.quiet with time := fun n => n + 1 } t.mem
    (fun i j hij => ?_) ?_ _
  · show (i : Int) + 1 ≤ j + 1
    omega
  · show (0 : Int) < t.mem.tick + 1
    omega

end Observed

end EponManager
