import EponManager.StoredConfig

/-!
# A setting that PSM rejects

A setter of the poller changes the poller, then the configuration, and then writes the four records
one after another, up to the first write that fails. Nothing is taken back. So a call that returns
`-1` has changed the running process, and the records before the one that failed.

* `WrittenBefore` says which records have been written, `FailsAt` which write is the first to fail.
* `save_stops` is what a save leaves, `persist_stops` what the second half of a setter does.
* `failed_set_leaves` is what a call leaves that returned `-1`.
-/

namespace EponManager

open Lib
open Lib.Prog (Ensures Keeps Respects)

/-- The records before place `k` have been written, and nothing else in PSM has changed. -/
structure WrittenBefore (k : Nat) (config : Persistence) (psm psm' : String → Option String) :
    Prop where
  stored : ∀ r : PsmRecord, r.position < k → psm' r.key = some (r.text config)
  others : ∀ key, (∀ r : PsmRecord, r.position < k → key ≠ r.key) → psm' key = psm key

/-- The first write that fails is the one of this record; without rbus, it is the first of all. -/
def FailsAt (env : Env) (w : World) (r : PsmRecord) : Prop :=
  if w.rbusInitialized then env.psmSet (w.tick + r.position) = false else r = .cacheTtl

/-! ### Saving -/

/-- A save has come to place `k`; the next call of the environment is the next write. -/
structure SavedTo (k : Nat) (config : Persistence) (w₀ w : World) : Prop where
  controller : w.controller = w₀.controller
  written : WrittenBefore k config w₀.psm w.psm
  rbusInitialized : w.rbusInitialized = w₀.rbusInitialized
  opened : k ≠ 0 → w₀.rbusInitialized = true
  tick : w.tick = w₀.tick + k

/-- A save has stopped at a record whose write failed. -/
structure StoppedAt (r : PsmRecord) (config : Persistence) (env : Env) (w₀ w : World) : Prop where
  controller : w.controller = w₀.controller
  written : WrittenBefore r.position config w₀.psm w.psm
  fails : FailsAt env w₀ r

/-- What a save leaves. -/
def SaveOutcome (config : Persistence) (env : Env) (w₀ : World) (rc : Int) (w : World) : Prop :=
  (rc = 0 ∧ SavedTo 4 config w₀ w) ∨ (rc = -1 ∧ ∃ r, StoppedAt r config env w₀ w)

/-- The four records have four places. -/
theorem PsmRecord.position_inj {r q : PsmRecord} (h : r.position = q.position) : r = q := by
  cases r <;> cases q <;> first | rfl | exact absurd h (by decide)

section Save

variable {config : Persistence} {env : Env} {w₀ : World}

/-- The next record is written. -/
theorem SavedTo.put {r : PsmRecord} {w : World} (h : SavedTo r.position config w₀ w)
    (hrbus : w.rbusInitialized = true) :
    SavedTo (r.position + 1) config w₀ { w with
      tick := w.tick + 1
      psm := Function.update w.psm r.key (some (r.text config)) } := by
  refine ⟨h.controller, ⟨fun q hq => ?_, fun key hkey => ?_⟩, h.rbusInitialized,
    fun _ => h.rbusInitialized ▸ hrbus, ?_⟩
  · by_cases hqr : q = r
    · rw [hqr]
      exact Function.update_self ..
    · have hne : q.key ≠ r.key := fun hk => hqr (PsmRecord.key_inj hk)
      have hlt : q.position < r.position := by
        have hpos : q.position ≠ r.position := fun hp => hqr (PsmRecord.position_inj hp)
        omega
      exact (Function.update_of_ne hne ..).trans (h.written.stored q hlt)
  · refine (Function.update_of_ne (hkey r (Nat.lt_succ_self _)) ..).trans ?_
    exact h.written.others key fun q hq => hkey q (Nat.lt_succ_of_lt hq)
  · show w.tick + 1 = _
    rw [h.tick, Nat.add_assoc]

/-- A write that fails leaves PSM as it was. -/
theorem raise_stoppedAt {r : PsmRecord} (event : TelemetryEvent) :
    Ensures (StoppedAt r config env w₀) (Telemetry.raiseSimple event)
      (fun _ => StoppedAt r config env w₀) := by
  have hctrl : Respects (Outside fun _ => True) (Telemetry.raiseSimple event) :=
    Telemetry.dispatch_outside fun _ => trivial
  have hpsm : Keeps World.psm (Telemetry.raiseSimple event) :=
    Telemetry.dispatch_outside fun _ => trivial
  intro env' s a t hs hrun
  have ho := hctrl env' s a t hrun
  have hp : t.mem.psm = s.mem.psm := hpsm env' s a t hrun
  exact ⟨ho.controller.trans hs.controller, by rw [hp]; exact hs.written, hs.fails⟩

/-! ### One record, and all four -/

/-- **One write**: it succeeds, or the save stops there. -/
theorem setString_stops (r : PsmRecord) :
    Ensures (SavedTo r.position config w₀)
      (Prog.within env (Psm.setString r.key (r.text config)))
      (fun rc w => (rc = 0 ∧ SavedTo (r.position + 1) config w₀ w) ∨
        (rc = -1 ∧ StoppedAt r config env w₀ w)) := by
  refine Ensures.within_bind (Q := fun handle w => handle = w.rbusInitialized ∧
    SavedTo r.position config w₀ w) ((Ensures.read fun _ h => ⟨rfl, h⟩).within env) fun handle =>
    Ensures.within_ite (fun hopen => ?_) fun hclosed => (Ensures.pure fun w h => ?_).within env
  · refine Ensures.within_bind (Q := fun ok w => ok = env.psmSet (w₀.tick + r.position) ∧
      ∃ v, w = { v with tick := v.tick + 1 } ∧ v.rbusInitialized = true ∧
        SavedTo r.position config w₀ v) (Ensures.within_call fun w h => ?_) fun ok => ?_
    · exact ⟨congrArg env.psmSet h.2.tick, w, rfl, h.1.symm.trans hopen, h.2⟩
    · refine Ensures.within_bind (Q := fun _ w => ok = env.psmSet (w₀.tick + r.position) ∧
        ∃ v, (∃ l, w = { v with tick := v.tick + 1, trace := l }) ∧ v.rbusInitialized = true ∧
          SavedTo r.position config w₀ v) ((Ensures.write fun w h => ?_).within env) fun _ =>
        Ensures.within_ite (fun hok => ?_) fun hfail => ?_
      · obtain ⟨hok, v, rfl, hv⟩ := h
        exact ⟨hok, v, ⟨_, rfl⟩, hv⟩
      · refine Ensures.within_bind (Q := fun _ => SavedTo (r.position + 1) config w₀)
          ((Ensures.write fun w h => ?_).within env) fun _ =>
          (Ensures.pure fun _ h => .inl ⟨rfl, h⟩).within env
        obtain ⟨-, v, ⟨l, rfl⟩, hrbus, hv⟩ := h
        have hput := hv.put hrbus
        exact ⟨hput.controller, hput.written, hput.rbusInitialized, hput.opened, hput.tick⟩
      · have hstop (w : World) (h : ok = env.psmSet (w₀.tick + r.position) ∧
            ∃ v, (∃ l, w = { v with tick := v.tick + 1, trace := l }) ∧
              v.rbusInitialized = true ∧ SavedTo r.position config w₀ v) :
            StoppedAt r config env w₀ w := by
          obtain ⟨hok, v, ⟨l, rfl⟩, hrbus, hv⟩ := h
          refine ⟨hv.controller, hv.written, ?_⟩
          rw [FailsAt, if_pos (hv.rbusInitialized.symm.trans hrbus), ← hok]
          exact Bool.eq_false_iff.mpr hfail
        exact (((raise_stoppedAt _).conseq hstop fun _ _ h => h).bind fun _ =>
          Ensures.pure fun _ h => .inr ⟨rfl, h⟩).within env
  · -- rbus is closed: only the first record finds it so
    obtain ⟨hhandle, h⟩ := h
    have hrbus : w₀.rbusInitialized = false :=
      h.rbusInitialized.symm.trans (hhandle.symm.trans (Bool.eq_false_iff.mpr hclosed))
    refine .inr ⟨rfl, h.controller, h.written, ?_⟩
    rw [FailsAt, if_neg (by rw [hrbus]; decide)]
    by_contra hr
    have hpos : r.position ≠ 0 := fun hp => hr (PsmRecord.position_inj hp)
    rw [h.opened hpos] at hrbus
    cases hrbus

/-- One record after another. -/
theorem stops_step (r : PsmRecord) {rest : M Int}
    (hrest : Ensures (SavedTo (r.position + 1) config w₀) (Prog.within env rest)
      (SaveOutcome config env w₀)) :
    Ensures (SavedTo r.position config w₀) (Prog.within env (do
      let rc ← Psm.setString r.key (r.text config)
      if rc ≠ 0 then return -1 else rest)) (SaveOutcome config env w₀) := by
  refine (setString_stops r).within_bind fun rc => Ensures.within_ite (fun hrc => ?_) fun hrc => ?_
  · refine (Ensures.pure fun w h => ?_).within env
    obtain ⟨rfl, -⟩ | ⟨-, h⟩ := h
    · exact absurd rfl hrc
    · exact .inr ⟨rfl, r, h⟩
  · refine hrest.conseq (fun w h => ?_) fun _ _ h => h
    obtain ⟨-, h⟩ | ⟨rfl, -⟩ := h
    · exact h
    · exact absurd (by decide) hrc

/-- **A save writes all records, or those before the first whose write fails.** -/
theorem save_stops (config : Persistence) (env : Env) (w₀ : World) :
    Ensures (· = w₀) (Prog.within env config.save) (SaveOutcome config env w₀) := by
  refine Ensures.conseq (P := SavedTo 0 config w₀) ?_ ?_ fun _ _ h => h
  · exact stops_step .cacheTtl (stops_step .dpoeEnable (stops_step .statsPollerEnabled
      (stops_step .statsPollerInterval ((Ensures.pure fun _ h => .inl ⟨rfl, h⟩).within env))))
  · rintro w rfl
    exact ⟨rfl, ⟨fun _ h => absurd h (Nat.not_lt_zero _), fun _ _ => rfl⟩, rfl,
      fun h => absurd rfl h, rfl⟩

end Save

/-! ### The setters -/

/-- The second half of a setter: the configuration is changed, and then saved. -/
theorem persist_stops (setField : Persistence → Persistence) (env : Env) {w₁ : World}
    (hw : Initialised w₁) :
    Ensures (· = w₁) (Prog.within env (StatsPoller.persist setField))
      (SaveOutcome (setField w₁.config) env
        (w₁.withController (Controller.modifyConfig setField))) := by
  have hunlock {P : World → Prop} (rc : Int) :
      Ensures P (Prog.within env (do Controller.unlockPersistenceConfig; return rc : M Int))
        (fun rc' w => rc' = rc ∧ P w) :=
    (Controller.unlock_ensures.bind fun _ => Ensures.pure fun _ h => ⟨rfl, h⟩).within env
  -- once initialised the lock succeeds
  refine ((lockPersistenceConfig_ensures hw).within env).within_bind fun b =>
    Ensures.of_and fun hb => ?_
  rw [hb, if_pos rfl]
  refine ((modifyController_ensures _ w₁).within env).within_bind fun _ => Ensures.within_bind
    (Q := fun stored w => stored = setField w₁.config ∧
      w = w₁.withController (Controller.modifyConfig setField)) ((Ensures.read ?_).within env)
    fun stored => Ensures.of_and fun hstored => ?_
  · rintro w rfl
    exact ⟨rfl, rfl⟩
  · rw [hstored]
    refine (save_stops _ env _).within_bind fun rc => Ensures.within_ite (fun hrc => ?_) fun hrc =>
      ?_
    · refine (hunlock (-1)).conseq (fun _ h => h) fun rc' w h => ?_
      obtain ⟨rfl, ⟨rfl, -⟩ | ⟨-, hstop⟩⟩ := h
      · exact absurd rfl hrc
      · exact .inr ⟨rfl, hstop⟩
    · refine (hunlock 0).conseq (fun _ h => h) fun rc' w h => ?_
      obtain ⟨rfl, ⟨-, hsaved⟩ | ⟨rfl, -⟩⟩ := h
      · exact .inl ⟨rfl, hsaved⟩
      · exact absurd (by decide) hrc

namespace SetCall

/-- The poller after a call whose argument is not refused. -/
def applyPoller : SetCall → StatsPoller → StatsPoller
  | .enabled b, poller  => { poller with enabled := b }
  | .interval v, poller => { poller with intervalSeconds := v }

/-- A call has changed the process, and written to PSM as far as it could. -/
def Applied (c : SetCall) (env : Env) (w₀ : World) (rc : Int) (w : World) : Prop :=
  w.poller = c.applyPoller w₀.poller ∧ w.config = c.apply w₀.config ∧
    ((rc = 0 ∧ WrittenBefore 4 (c.apply w₀.config) w₀.psm w.psm) ∨
      (rc = -1 ∧ ∃ r, FailsAt env w₀ r ∧
        WrittenBefore r.position (c.apply w₀.config) w₀.psm w.psm))

/-- What a call does that does not refuse its argument. -/
theorem run_stops (c : SetCall) (hc : c ≠ .interval 0) (env : Env) {w₀ : World}
    (hw : Initialised w₀) :
    Ensures (· = w₀) (Prog.within env c.run) (Applied c env w₀) := by
  have hset (setField : Persistence → Persistence)
      (happly : c.apply w₀.config = setField w₀.config) :
      Ensures (· = w₀) (Prog.within env (do
        Prog.lock .poller
        modifyController (Controller.modifyPoller c.applyPoller)
        Prog.unlock .poller
        StatsPoller.persist setField)) (Applied c env w₀) := by
    have hw' : Initialised (w₀.withController (Controller.modifyPoller c.applyPoller)) :=
      ⟨hw.eponData, hw.controller, hw.config, hw.statsPoller⟩
    refine (Ensures.lock.within env).within_bind fun _ =>
      ((modifyController_ensures _ w₀).within env).within_bind fun _ =>
      (Ensures.unlock.within env).within_bind fun _ =>
      (persist_stops setField env hw').conseq (fun _ h => h) fun rc w h => ?_
    rw [Applied, happly]
    obtain ⟨hrc, h⟩ | ⟨hrc, r, h⟩ := h
    · exact ⟨congrArg (·.obj.statsPoller.obj) h.controller,
        congrArg (·.obj.config.obj) h.controller, .inl ⟨hrc, h.written⟩⟩
    · exact ⟨congrArg (·.obj.statsPoller.obj) h.controller,
        congrArg (·.obj.config.obj) h.controller, .inr ⟨hrc, r, h.fails, h.written⟩⟩
  cases c with
  | enabled b => exact hset _ rfl
  | interval v =>
      have hv : v ≠ 0 := fun h => hc (congrArg _ h)
      exact Ensures.within_ite (fun h => absurd h hv) fun _ => hset _ (if_neg hv)

end SetCall

/-! ### The result -/

/-- **What a call leaves that returned `-1`**: either an interval of zero was refused and nothing
has changed, or a write to PSM failed. Then the poller and the configuration have the new setting
and are otherwise as before, the records before the one that failed hold the configuration, and the
rest of PSM is as before. -/
theorem failed_set_leaves (c : SetCall) {env : Env} {w w' : World} (hw : Initialised w)
    (hrun : Prog.alone c.run env w = some (-1, w')) :
    (c = .interval 0 ∧ w' = w) ∨
      (w'.poller = c.applyPoller w.poller ∧ w'.config = c.apply w.config ∧
        ∃ r, FailsAt env w r ∧ WrittenBefore r.position (c.apply w.config) w.psm w'.psm) := by
  by_cases hc : c = .interval 0
  · subst hc
    cases hrun
    exact .inl ⟨rfl, rfl⟩
  · obtain ⟨hpoller, hconfig, ⟨hrc, -⟩ | ⟨-, hstop⟩⟩ :=
      (SetCall.run_stops c hc env hw).alone_within rfl hrun
    · exact absurd hrc (by decide)
    · exact .inr ⟨hpoller, hconfig, hstop⟩

/-- The fourth write to PSM fails. -/
def Env.fourthWriteFails : Env := { Env.quiet with psmSet := fun n => n ≠ 3 }

/-- The fourth write fails: the poller has the new interval, the call says no. -/
theorem failed_set_leaves_interval :
    ∃ w', Prog.alone (SetCall.interval 600).run Env.fourthWriteFails World.ready = some (-1, w') ∧
      w'.poller.intervalSeconds = 600 := by
  have h : (Prog.alone (SetCall.interval 600).run Env.fourthWriteFails World.ready).map Prod.fst =
      some (-1) := by decide +kernel
  obtain ⟨⟨rc, w'⟩, hrun, rfl⟩ := Option.map_eq_some_iff.mp h
  refine ⟨w', hrun, ?_⟩
  obtain ⟨hzero, -⟩ | ⟨hpoller, -⟩ := failed_set_leaves (.interval 600) World.ready_initialised hrun
  · cases hzero
  · rw [hpoller]
    rfl

/-- The call returned `-1`, but the poller, the configuration and PSM have changed. -/
theorem failed_set_changes_setting :
    ∃ w', Initialised World.ready ∧
      Prog.alone (SetCall.interval 600).run Env.fourthWriteFails World.ready = some (-1, w') ∧
      World.ready.poller.intervalSeconds = 900 ∧ w'.poller.intervalSeconds = 600 ∧
      World.ready.config.statsPollerIntervalSeconds = 900 ∧
      w'.config.statsPollerIntervalSeconds = 600 ∧
      World.ready.psm Psm.cacheTtl = none ∧ w'.psm Psm.cacheTtl = some "30" := by
  have h : (Prog.alone (SetCall.interval 600).run Env.fourthWriteFails World.ready).map
      (fun p => (p.1, p.2.poller.intervalSeconds, p.2.config.statsPollerIntervalSeconds,
        p.2.psm Psm.cacheTtl)) = some (-1, 600, 600, some "30") := by decide +kernel
  obtain ⟨⟨rc, w'⟩, hrun, heq⟩ := Option.map_eq_some_iff.mp h
  simp only [Prod.mk.injEq] at heq
  obtain ⟨rfl, hpoller, hconfig, hpsm⟩ := heq
  exact ⟨w', World.ready_initialised, hrun, rfl, hpoller, rfl, hconfig, rfl, hpsm⟩

end EponManager
