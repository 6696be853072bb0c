import EponManager.RejectedSetting

/-!
# Two settings at the same time

A setter changes the poller under the poller's mutex, and then the configuration and PSM under the
controller's. Each of the two sections is alone with its data, but nothing keeps the sections of two
calls in the same order. So the poller can end up with the value of one call and the configuration
with that of the other.

* `SetCall.run_eq_sections` cuts a call into its two sections.
* `SetRace.step` is the interleaving of any number of calls, section by section; it remembers which
  call was the last in each of the two places.
* `SetRace.Tracks` is the invariant: each place has the value of the call that was there last.
* `concurrent_settings_agree_iff`: exactly which orders leave the same value everywhere.
-/

namespace EponManager

open Lib
open Lib.Prog (Ensures)

/-! ### The sections of a call -/

/-- The settings of the poller that can be changed. -/
inductive Setting where
  | enabled
  | interval
  deriving DecidableEq, Repr

namespace Setting

def record : Setting → PsmRecord
  | .enabled  => .statsPollerEnabled
  | .interval => .statsPollerInterval

/-- The value in the poller. -/
def copy : Setting → StatsPoller → PsmValue
  | .enabled, poller  => .truth poller.enabled
  | .interval, poller => .number poller.intervalSeconds

/-- The poller, the configuration and PSM have the same value. -/
def Agree (k : Setting) (w : World) : Prop :=
  k.copy w.poller = k.record.field w.config ∧
    k.record.denotes w.psm = some (k.record.field w.config)

end Setting

namespace SetCall

def setting : SetCall → Setting
  | .enabled _  => .enabled
  | .interval _ => .interval

/-- The value that the call sets. -/
def value : SetCall → PsmValue
  | .enabled b  => .truth b
  | .interval v => .number v

/-- The call returns at once: an interval of zero. -/
def refused : SetCall → Bool
  | .enabled _  => false
  | .interval v => v = 0

def setField : SetCall → Persistence → Persistence
  | .enabled b, config  => { config with statsPollerEnabled := b }
  | .interval v, config => { config with statsPollerIntervalSeconds := v }

/-- The section under the poller's mutex. -/
def applySection (c : SetCall) : M Unit := do
  Prog.lock .poller
  modifyController (Controller.modifyPoller c.applyPoller)
  Prog.unlock .poller

/-- The section under the controller's mutex. -/
def persistSection (c : SetCall) : M Int := StatsPoller.persist c.setField

/-! ### A call is its two sections

The two mutexes are taken one after the other, so a call is atomic in each section and open between
them.
-/

/-- **A setter is its two sections, one after the other.** -/
theorem run_eq_sections (c : SetCall) :
    c.run = if c.refused then return -1 else c.applySection >>= fun _ => c.persistSection := by
  have hsections : c.applySection >>= (fun _ => c.persistSection) = (do
      Prog.lock .poller
      modifyController (Controller.modifyPoller c.applyPoller)
      Prog.unlock .poller
      c.persistSection) := by
    rw [applySection, Prog.bind_assoc]
    exact congrArg _ (funext fun _ => Prog.bind_assoc ..)
  rw [hsections]
  cases c with
  | enabled b => rfl
  | interval v => simp only [refused, decide_eq_true_eq]; rfl

variable {env : Env} {w w' : World}

/-- The first section writes the poller's copy. -/
theorem applySection_alone (c : SetCall) :
    Prog.alone c.applySection env w =
      some ((), w.withController (Controller.modifyPoller c.applyPoller)) := rfl

/-- The copy that was written is the value of the call. -/
theorem copy_applyPoller {k : Setting} {c : SetCall} (hk : c.setting = k) (poller : StatsPoller) :
    k.copy (c.applyPoller poller) = c.value := by
  subst hk
  cases c <;> rfl

theorem field_setField {k : Setting} {c : SetCall} (hk : c.setting = k) (config : Persistence) :
    k.record.field (c.setField config) = c.value := by
  subst hk
  cases c <;> rfl

/-- **The second section**, when PSM takes every write: configuration and PSM have the value. -/
theorem persistSection_alone {k : Setting} {c : SetCall} (hk : c.setting = k)
    (hpsm : ∀ n, env.psmSet n = true) (hw : Configured w) {rc : Int}
    (hrun : Prog.alone c.persistSection env w = some (rc, w')) :
    Configured w' ∧ w'.poller = w.poller ∧ k.record.field w'.config = c.value ∧
      k.record.denotes w'.psm = some c.value := by
  obtain ⟨rc', v, hrun', hready, -⟩ :=
    (StatsPoller.persist_moves rfl rfl c.setField).alone hw.toInitialised env
  obtain ⟨-, rfl⟩ := Prod.mk.inj (Option.some.inj (hrun'.symm.trans hrun))
  obtain ⟨-, h⟩ | ⟨-, r, h⟩ :=
    (persist_stops c.setField env hw.toInitialised).alone_within rfl hrun'
  · have hconfig : v.config = c.setField w.config := congrArg (·.obj.config.obj) h.controller
    refine ⟨⟨hready, h.rbusInitialized.trans hw.rbusInitialized⟩,
      congrArg (·.obj.statsPoller.obj) h.controller, ?_, ?_⟩
    · rw [hconfig, field_setField hk]
    · have hpos : k.record.position < 4 := by cases k <;> decide
      rw [PsmRecord.denotes, h.written.stored _ hpos, Option.map_some, PsmRecord.parse_text,
        field_setField hk]
  · -- no write fails
    have hopen : (w.withController (Controller.modifyConfig c.setField)).rbusInitialized = true :=
      hw.rbusInitialized
    have hfails := h.fails
    rw [FailsAt, if_pos hopen, hpsm] at hfails
    cases hfails

end SetCall

/-! ### The interleaving -/

/-- How far a call has come. -/
inductive SetPhase where
  | called
  | applied
  | returned (rc : Int)
  deriving DecidableEq, Repr

/-- Calls made at the same time, one for each index, and which of them were the last to change the
poller, and the configuration with PSM. -/
structure SetRace (ι : Type) where
  world : World
  phase : ι → SetPhase
  lastApplied : Option ι
  lastPersisted : Option ι

namespace SetRace

variable {ι : Type}

/-- All calls have been made. -/
def start (w : World) : SetRace ι := ⟨w, fun _ => .called, none, none⟩

/-- The next section of one of the calls. -/
def step [DecidableEq ι] (env : Env) (calls : ι → SetCall) (s : SetRace ι) (i : ι) :
    Option (SetRace ι) :=
  match s.phase i with
  | .called =>
      if (calls i).refused then
        some { s with phase := Function.update s.phase i (.returned (-1)) }
      else
        (Prog.alone (calls i).applySection env s.world).map fun p =>
          { s with
            world := p.2
            phase := Function.update s.phase i .applied
            lastApplied := some i }
  | .applied =>
      (Prog.alone (calls i).persistSection env s.world).map fun p =>
        { s with
          world := p.2
          phase := Function.update s.phase i (.returned p.1)
          lastPersisted := some i }
  | .returned _ => none

/-- The value of the call that was the last somewhere, or the one from before all calls. -/
def lastValue (calls : ι → SetCall) (before : PsmValue) : Option ι → PsmValue
  | none   => before
  | some i => (calls i).value

/-! ### The invariant -/

/-- **Each place has the value of the call that was there last.** -/
structure Tracks (k : Setting) (calls : ι → SetCall) (w₀ : World) (s : SetRace ι) : Prop where
  configured : Configured s.world
  poller : k.copy s.world.poller = lastValue calls (k.copy w₀.poller) s.lastApplied
  config : k.record.field s.world.config =
    lastValue calls (k.record.field w₀.config) s.lastPersisted
  psm : k.record.denotes s.world.psm = match s.lastPersisted with
    | none   => k.record.denotes w₀.psm
    | some i => some (calls i).value
  -- a call that changed the poller last changes the configuration later
  pending : ∀ i, s.lastApplied = some i → s.phase i = .applied ∨ s.lastPersisted.isSome
  ordered : (∃ i, s.phase i = .applied) ∨ s.lastPersisted.isSome → s.lastApplied.isSome

section Run

variable {env : Env} {calls : ι → SetCall} {k : Setting} {w₀ : World} {s t : SetRace ι} {i : ι}

/-- At the start no call has written, and the settings agree. -/
theorem tracks_start (hw : Configured w₀) : Tracks k calls w₀ (start w₀) where
  configured := hw
  poller := rfl
  config := rfl
  psm := rfl
  pending _ h := nomatch h
  ordered h := by
    rcases h with ⟨i, h⟩ | h <;> cases h

/-- A call whose argument is refused. -/
theorem Tracks.refuses [DecidableEq ι] (h : Tracks k calls w₀ s) (hphase : s.phase i = .called)
    {rc : Int} :
    Tracks k calls w₀ { s with phase := Function.update s.phase i (.returned rc) } := by
  -- a call that has changed the poller is another one
  have hne {j : ι} (hj : s.phase j = .applied) : j ≠ i := by
    rintro rfl
    cases hphase.symm.trans hj
  constructor
  · exact h.configured
  · exact h.poller
  · exact h.config
  · exact h.psm
  · intro j hj
    rcases h.pending j hj with hjp | hpersisted
    · exact .inl ((Function.update_of_ne (hne hjp) ..).trans hjp)
    · exact .inr hpersisted
  · intro hor
    apply h.ordered
    rcases hor with ⟨j, hj⟩ | hpersisted
    · by_cases hji : j = i
      · rw [hji] at hj
        cases (Function.update_self ..).symm.trans hj
      · exact .inl ⟨j, (Function.update_of_ne hji ..).symm.trans hj⟩
    · exact .inr hpersisted

/-- The section under the poller's mutex. -/
theorem Tracks.applies [DecidableEq ι] (hkind : (calls i).setting = k) (h : Tracks k calls w₀ s) :
    Tracks k calls w₀ { s with
      world := s.world.withController (Controller.modifyPoller (calls i).applyPoller)
      phase := Function.update s.phase i .applied
      lastApplied := some i } := by
  have hw := h.configured
  constructor
  · exact ⟨⟨hw.eponData, hw.controller, hw.config, hw.statsPoller⟩, hw.rbusInitialized⟩
  · exact SetCall.copy_applyPoller hkind _
  · exact h.config
  · exact h.psm
  · rintro j ⟨⟩
    exact .inl (Function.update_self ..)
  · intro _
    rfl

/-- The section under the controller's mutex. -/
theorem Tracks.persists [DecidableEq ι] (hkind : (calls i).setting = k)
    (hpsm : ∀ n, env.psmSet n = true) (h : Tracks k calls w₀ s) (hphase : s.phase i = .applied)
    {rc : Int} {w' : World}
    (hrun : Prog.alone (calls i).persistSection env s.world = some (rc, w')) :
    Tracks k calls w₀ { s with
      world := w'
      phase := Function.update s.phase i (.returned rc)
      lastPersisted := some i } := by
  obtain ⟨hconfigured, hpoller, hconfig, hdenotes⟩ :=
    SetCall.persistSection_alone hkind hpsm h.configured hrun
  constructor
  · exact hconfigured
  · show k.copy w'.poller = _
    rw [hpoller]
    exact h.poller
  · exact hconfig
  · exact hdenotes
  · intro _ _
    exact .inr rfl
  · intro _
    exact h.ordered (.inl ⟨i, hphase⟩)

/-- **Step lemma.** -/
theorem Tracks.step [DecidableEq ι] (hkind : ∀ i, (calls i).setting = k)
    (hpsm : ∀ n, env.psmSet n = true) (h : Tracks k calls w₀ s)
    (hstep : SetRace.step env calls s i = some t) : Tracks k calls w₀ t := by
  rw [SetRace.step] at hstep
  split at hstep
  · rename_i hphase
    split at hstep
    · cases hstep
      exact h.refuses hphase
    · rw [SetCall.applySection_alone] at hstep
      cases hstep
      exact h.applies (hkind i)
  · rename_i hphase
    obtain ⟨⟨rc, w'⟩, hrun, rfl⟩ := Option.map_eq_some_iff.mp hstep
    exact h.persists (hkind i) hpsm hphase hrun
  · cases hstep

/-- **Run lemma.** -/
theorem Tracks.exec [DecidableEq ι] (hkind : ∀ i, (calls i).setting = k)
    (hpsm : ∀ n, env.psmSet n = true) {sched : List ι} (h : Tracks k calls w₀ s)
    (hrun : exec (SetRace.step env calls) s sched = some t) :
    Tracks k calls w₀ t :=
  exec_invariant (fun _ _ _ hs => hs.step hkind hpsm) h hrun

end Run

end SetRace

/-- The call that changed the poller last and the one that changed the configuration last set the
same value; if every call was refused, there was the same value everywhere before. -/
def SetRace.SameLast {ι : Type} (calls : ι → SetCall) (k : Setting) (w₀ : World)
    (s : SetRace ι) : Prop :=
  match s.lastApplied, s.lastPersisted with
  | some i, some j => (calls i).value = (calls j).value
  | _, _           => k.Agree w₀

/-! ### The result -/

/-- **When concurrent settings agree in the end**: calls of the same setter are made by threads that
hold no mutex, PSM takes every write, and their sections come in any order. Once all have returned,
the poller, the configuration and PSM have the same value if and only if the call that changed the
poller last and the call that changed the configuration last set the same one. -/
theorem concurrent_settings_agree_iff {ι : Type} [DecidableEq ι] {k : Setting}
    {calls : ι → SetCall} (hkind : ∀ i, (calls i).setting = k) {env : Env}
    (hpsm : ∀ n, env.psmSet n = true) {w₀ : World} (hw : Configured w₀) {sched : List ι}
    {s : SetRace ι} (hrun : exec (SetRace.step env calls) (SetRace.start w₀) sched = some s)
    (hret : ∀ i, ∃ rc, s.phase i = .returned rc) :
    k.Agree s.world ↔ s.SameLast calls k w₀ := by
  have htracks := (SetRace.tracks_start hw).exec hkind hpsm hrun
  rw [Setting.Agree, SetRace.SameLast, htracks.poller, htracks.config, htracks.psm]
  cases happlied : s.lastApplied with
  | none =>
      cases hpersisted : s.lastPersisted with
      | none => exact Iff.rfl
      | some j =>
          have hsome := htracks.ordered (.inr (by rw [hpersisted]; rfl))
          rw [happlied] at hsome
          cases hsome
  | some i =>
      cases hpersisted : s.lastPersisted with
      | none =>
          rcases htracks.pending i happlied with hphase | hsome
          · obtain ⟨rc, hrc⟩ := hret i
            rw [hrc] at hphase
            cases hphase
          · rw [hpersisted] at hsome
            cases hsome
      | some j => exact and_iff_left rfl

/-- Two intervals. -/
def twoIntervals : Bool → SetCall
  | false => .interval 600
  | true  => .interval 700

/-- The second call is the last to change the poller and the last to change the configuration. -/
theorem concurrent_settings_agree_in_turn :
    ∃ s : SetRace Bool, exec (SetRace.step Env.quiet twoIntervals) (.start World.ready)
        [false, true, false, true] = some s ∧
      Setting.interval.Agree s.world ∧ s.world.poller.intervalSeconds = 700 := by
  have h : (exec (SetRace.step Env.quiet twoIntervals) (.start World.ready)
      [false, true, false, true]).map (fun s => (s.phase false, s.phase true, s.lastApplied,
        s.lastPersisted, s.world.poller.intervalSeconds)) =
      some (.returned 0, .returned 0, some true, some true, 700) := by decide +kernel
  simp only [Option.map_eq_some_iff, Prod.mk.injEq] at h
  obtain ⟨s, hrun, hfalse, htrue, happlied, hpersisted, hpoller⟩ := h
  have hkind (i : Bool) : (twoIntervals i).setting = .interval := by cases i <;> rfl
  have hready : Configured World.ready := ⟨World.ready_initialised, rfl⟩
  refine ⟨s, hrun, ?_, hpoller⟩
  refine (concurrent_settings_agree_iff hkind (fun _ => rfl) hready hrun fun i => ?_).mpr ?_
  · cases i with
    | false => exact ⟨0, hfalse⟩
    | true => exact ⟨0, htrue⟩
  · rw [SetRace.SameLast, happlied, hpersisted]

/-- The first call is the last to change the configuration, the second to change the poller. -/
theorem concurrent_settings_disagree :
    ∃ s : SetRace Bool, Configured World.ready ∧ (∀ n, Env.quiet.psmSet n = true) ∧
      exec (SetRace.step Env.quiet twoIntervals) (.start World.ready)
        [false, true, true, false] = some s ∧ (∀ i, s.phase i = .returned 0) ∧
      s.world.poller.intervalSeconds = 700 ∧
      s.world.config.statsPollerIntervalSeconds = 600 ∧
      s.world.psm Psm.statsPollerInterval = some "600" := by
  have h : (exec (SetRace.step Env.quiet twoIntervals) (.start World.ready)
      [false, true, true, false]).map (fun s => (s.phase false, s.phase true,
        s.world.poller.intervalSeconds, s.world.config.statsPollerIntervalSeconds,
        s.world.psm Psm.statsPollerInterval)) =
      some (.returned 0, .returned 0, 700, 600, some "600") := by decide +kernel
  obtain ⟨s, hrun, heq⟩ := Option.map_eq_some_iff.mp h
  simp only [Prod.mk.injEq] at heq
  obtain ⟨hfalse, htrue, hpoller, hconfig, hpsm⟩ := heq
  refine ⟨s, ⟨World.ready_initialised, rfl⟩, fun _ => rfl, hrun, fun i => ?_, hpoller, hconfig,
    hpsm⟩
  cases i with
  | false => exact hfalse
  | true => exact htrue

end EponManager
