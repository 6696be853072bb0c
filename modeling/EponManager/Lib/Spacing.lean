import Mathlib.Data.Option.Defs

/-!
# Hits that are spaced in time

A log of hits and resets, the latest first. The hits keep a distance from one another, but for a hit
that comes after a reset, which may come at any time.

* `Spaced d t₀ log T` says so of a log that was kept from `t₀` to `T`.
* `Spaced.hits_le` bounds the hits by the time that has passed and by the resets.
-/

namespace EponManager.Lib

inductive Mark where
  | hit (t : Int)
  | reset
  deriving DecidableEq, Repr

/-- The time of the latest hit, if there was no reset since. -/
def lastHit : List Mark → Option Int
  | .hit t :: _ => some t
  | _           => none

def hits : List Mark → Nat
  | []           => 0
  | .hit _ :: ms => hits ms + 1
  | .reset :: ms => hits ms

def resets : List Mark → Nat
  | []           => 0
  | .hit _ :: ms => resets ms
  | .reset :: ms => resets ms + 1

/-- The hits of a log, which was kept from `t₀` to the given time, are at least `d` apart. -/
inductive Spaced (d t₀ : Int) : List Mark → Int → Prop where
  | nil : Spaced d t₀ [] t₀
  | hit {log : List Mark} {T t : Int} :
      Spaced d t₀ log T → T ≤ t → (∀ s ∈ lastHit log, s + d ≤ t) → Spaced d t₀ (.hit t :: log) t
  | reset {log : List Mark} {T : Int} : Spaced d t₀ log T → Spaced d t₀ (.reset :: log) T
  | later {log : List Mark} {T T' : Int} : Spaced d t₀ log T → T ≤ T' → Spaced d t₀ log T'

variable {d t₀ T : Int} {log : List Mark}

/-! ### Counting -/

theorem Spaced.start_le (h : Spaced d t₀ log T) : t₀ ≤ T := by
  induction h with
  | nil => exact Int.le_refl t₀
  | hit _ hT _ ih => exact Int.le_trans ih hT
  | reset _ ih => exact ih
  | later _ hT ih => exact Int.le_trans ih hT

theorem hits_hit (t d : Int) (log : List Mark) :
    (hits (.hit t :: log) : Int) * d = hits log * d + d := by
  rw [hits, Int.natCast_add, Int.add_mul, Int.natCast_one, Int.one_mul]

theorem resets_reset (d : Int) (log : List Mark) :
    (resets (.reset :: log) : Int) * d = resets log * d + d := by
  rw [resets, Int.natCast_add, Int.add_mul, Int.natCast_one, Int.one_mul]

/-- What has been used up: of the time until the latest hit, and of one distance for each reset. A
reset hands back a distance. -/
theorem Spaced.used (hd : 0 ≤ d) (h : Spaced d t₀ log T) :
    (∀ s ∈ lastHit log, s ≤ T ∧ hits log * d ≤ s - t₀ + d + resets log * d) ∧
      (lastHit log = none → hits log * d ≤ T - t₀ + resets log * d) := by
  -- each hit pays for the time since the hit before it, a reset lends one such span
  induction h with
  | nil =>
      refine ⟨fun s hs => ?_, fun _ => ?_⟩
      · cases hs
      · simp [hits, resets]
  | @hit log T t _ hT hfar ih =>
      refine ⟨fun s hs => ?_, fun hnone => ?_⟩
      · cases hs
        refine ⟨Int.le_refl t, ?_⟩
        rw [hits_hit, resets]
        cases hlast : lastHit log with
        | none =>
            have := ih.2 hlast
            omega
        | some s =>
            have := (ih.1 s hlast).2
            have := hfar s hlast
            omega
      · cases hnone
  | @reset log T _ ih =>
      refine ⟨fun s hs => ?_, fun _ => ?_⟩
      · cases hs
      · rw [resets_reset, hits]
        cases hlast : lastHit log with
        | none =>
            have := ih.2 hlast
            omega
        | some s =>
            obtain ⟨hs, hused⟩ := ih.1 s hlast
            omega
  | @later log T T' _ hT ih =>
      refine ⟨fun s hs => ?_, fun hnone => ?_⟩
      · obtain ⟨hs, hused⟩ := ih.1 s hs
        exact ⟨Int.le_trans hs hT, hused⟩
      · have := ih.2 hnone
        omega

/-- **How many hits fit in**: one for each distance of the time that has passed, one to begin with
and one for each reset. -/
theorem Spaced.hits_le (hd : 0 ≤ d) (h : Spaced d t₀ log T) :
    hits log * d ≤ T - t₀ + d + resets log * d := by
  obtain ⟨hsome, hnone⟩ := h.used hd
  cases hlast : lastHit log with
  | none =>
      have := hnone hlast
      omega
  | some s =>
      obtain ⟨hs, hused⟩ := hsome s hlast
      omega

end EponManager.Lib
