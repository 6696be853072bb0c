import EponManager.Controller.Init
import EponManager.Lib.Decimal
import EponManager.Lib.StepSystem

/-!
# The stored configuration

Four records of PSM hold what the process keeps in `eponMgr_persistence_t`. A start-up reads each
record and falls back to the default of its field where the read fails or the value is out of range;
a change of one setting writes all four.

* `PsmRecord.denotes` is the value that a working read finds in a record, and `PsmRecord.parse_text`
  the round trip: what `save` writes is read back as the field it was printed from.
* `Controller.init_configured` is what a start-up leaves, and `SetCall.run_ensures` what one call of
  a setter does.
* `successful_set_stores_running_configuration`: what a successful call does to the records that it
  was not asked to change.
* `acknowledged_configuration_survives`: what a call has acknowledged is what the next start-up
  loads.
-/

namespace EponManager

open Lib
open Lib.Prog (Ensures Keeps Respects Moves)

/-! ### Records and what they denote -/

namespace Psm

/-- What `eponMgr_psm_get_uint` makes of a text: its buffer has 32 characters. -/
def uintOf (text : String) : UInt32 := atoiU32 (String.ofList (text.toList.take 31))

/-- What `eponMgr_psm_get_bool` makes of a text: its buffer has 16 characters. -/
def boolOf (text : String) : Bool :=
  let value := String.ofList (text.toList.take 15)
  value = "TRUE" || value = "true" || value = "1"

/-- No numeral of a `uint32_t` is cut off. -/
theorem uintOf_numeral (n : UInt32) : uintOf (toString n.toNat) = n := by
  have hlen : (Nat.toDigits 10 n.toNat).length ≤ 31 := by
    rw [Nat.length_toDigits_le_iff (by decide) (by decide)]
    have hn := n.toNat_lt
    omega
  rw [uintOf, Nat.toString_eq_ofList_toDigits, String.toList_ofList, List.take_of_length_le hlen,
    ← Nat.toString_eq_ofList_toDigits, atoiU32_numeral]

theorem boolOf_text (b : Bool) : boolOf (if b then "TRUE" else "FALSE") = b := by
  cases b with
  | false => decide
  | true => decide

end Psm

/-! ### The four records -/

/-- The records that `eponMgr_persistence_load` reads, in that order. -/
inductive PsmRecord where
  | cacheTtl
  | dpoeEnable
  | statsPollerEnabled
  | statsPollerInterval
  deriving DecidableEq, Repr

/-- What a record can denote: a number or a truth value. -/
inductive PsmValue where
  | number (n : UInt32)
  | truth (b : Bool)
  deriving DecidableEq, Repr

namespace PsmRecord

def key : PsmRecord → String
  | .cacheTtl            => Psm.cacheTtl
  | .dpoeEnable          => Psm.dpoeEnable
  | .statsPollerEnabled  => Psm.statsPollerEnabled
  | .statsPollerInterval => Psm.statsPollerInterval

/-- The place of the record in the order in which they are read. -/
def position : PsmRecord → Nat
  | .cacheTtl            => 0
  | .dpoeEnable          => 1
  | .statsPollerEnabled  => 2
  | .statsPollerInterval => 3

/-- The value that the getter of the record makes of a text. -/
def parse : PsmRecord → String → PsmValue
  | .cacheTtl, text            => .number (Psm.uintOf text)
  | .dpoeEnable, text          => .truth (Psm.boolOf text)
  | .statsPollerEnabled, text  => .truth (Psm.boolOf text)
  | .statsPollerInterval, text => .number (Psm.uintOf text)

/-- **The value that the record denotes** in a content of PSM; `none` if it is absent. -/
def denotes (r : PsmRecord) (psm : String → Option String) : Option PsmValue :=
  (psm r.key).map r.parse

/-- The field of the configuration that the record is for. -/
def field : PsmRecord → Persistence → PsmValue
  | .cacheTtl, config            => .number config.cacheTtlSeconds
  | .dpoeEnable, config          => .truth config.dpoeEnabled
  | .statsPollerEnabled, config  => .truth config.statsPollerEnabled
  | .statsPollerInterval, config => .number config.statsPollerIntervalSeconds

/-- What `eponMgr_persistence_save` writes. -/
def text : PsmRecord → Persistence → String
  | .cacheTtl, config            => toString config.cacheTtlSeconds.toNat
  | .dpoeEnable, config          => if config.dpoeEnabled then "TRUE" else "FALSE"
  | .statsPollerEnabled, config  => if config.statsPollerEnabled then "TRUE" else "FALSE"
  | .statsPollerInterval, config => toString config.statsPollerIntervalSeconds.toNat

/-- The values that `eponMgr_persistence_load` accepts. -/
def Accepts : PsmRecord → PsmValue → Prop
  | .cacheTtl, .number n            => 1 ≤ n ∧ n ≤ 300
  | .statsPollerInterval, .number n => 60 ≤ n ∧ n ≤ 3600
  | _, _                            => True

instance : (r : PsmRecord) → (v : PsmValue) → Decidable (r.Accepts v)
  | .cacheTtl, .number _            => inferInstanceAs (Decidable (_ ∧ _))
  | .cacheTtl, .truth _             => isTrue trivial
  | .dpoeEnable, _                  => isTrue trivial
  | .statsPollerEnabled, _          => isTrue trivial
  | .statsPollerInterval, .number _ => inferInstanceAs (Decidable (_ ∧ _))
  | .statsPollerInterval, .truth _  => isTrue trivial

theorem key_inj {r q : PsmRecord} (h : r.key = q.key) : r = q := by
  cases r <;> cases q <;> first | rfl | exact absurd h (by decide)

/-- **Round trip**: the text written for a record is read back as the field. -/
theorem parse_text (r : PsmRecord) (config : Persistence) :
    r.parse (r.text config) = r.field config := by
  cases r with
  | cacheTtl => exact congrArg PsmValue.number (Psm.uintOf_numeral _)
  | dpoeEnable => exact congrArg PsmValue.truth (Psm.boolOf_text _)
  | statsPollerEnabled => exact congrArg PsmValue.truth (Psm.boolOf_text _)
  | statsPollerInterval => exact congrArg PsmValue.number (Psm.uintOf_numeral _)

end PsmRecord

/-- The four fields are the configuration. -/
theorem Persistence.ext_field {c d : Persistence} (h : ∀ r : PsmRecord, r.field c = r.field d) :
    c = d := by
  obtain ⟨ttl, dpoe, enabled, interval⟩ := c
  obtain ⟨ttl', dpoe', enabled', interval'⟩ := d
  have httl : PsmValue.number ttl = .number ttl' := h .cacheTtl
  have hdpoe : PsmValue.truth dpoe = .truth dpoe' := h .dpoeEnable
  have henabled : PsmValue.truth enabled = .truth enabled' := h .statsPollerEnabled
  have hinterval : PsmValue.number interval = .number interval' := h .statsPollerInterval
  cases httl
  cases hdpoe
  cases henabled
  cases hinterval
  rfl

/-! ### Loading -/

namespace Persistence

/-- The ranges that the configuration is kept in. -/
def InRange (config : Persistence) : Prop := ∀ r : PsmRecord, r.Accepts (r.field config)

/-- What `eponMgr_persistence_load` makes of a configuration, given which reads work. -/
def loaded (config : Persistence) (works : PsmRecord → Bool) (psm : String → Option String) :
    Persistence where
  cacheTtlSeconds := inRange 1 300 ((read .cacheTtl).map Psm.uintOf) config.cacheTtlSeconds
  dpoeEnabled := ((read .dpoeEnable).map Psm.boolOf).getD config.dpoeEnabled
  statsPollerEnabled := ((read .statsPollerEnabled).map Psm.boolOf).getD config.statsPollerEnabled
  statsPollerIntervalSeconds :=
    inRange 60 3600 ((read .statsPollerInterval).map Psm.uintOf) config.statsPollerIntervalSeconds
where
  read (r : PsmRecord) : Option String := if works r then psm r.key else none

/-- The value that a field has after loading: the one read, if it is accepted. -/
def loadedValue (config : Persistence) (works : PsmRecord → Bool) (psm : String → Option String)
    (r : PsmRecord) : PsmValue :=
  match (if works r then r.denotes psm else none) with
  | none   => r.field config
  | some v => if r.Accepts v then v else r.field config

/-- Testing that a number is out of range is testing that it is not accepted. -/
theorem inRange_eq {low high n default : UInt32} :
    inRange low high (some n) default = if low ≤ n ∧ n ≤ high then n else default := by
  have hiff : (n < low ∨ n > high) ↔ ¬ (low ≤ n ∧ n ≤ high) := by
    simp only [UInt32.lt_iff_toNat_lt, UInt32.le_iff_toNat_le, gt_iff_lt]
    omega
  rw [inRange]
  by_cases h : low ≤ n ∧ n ≤ high
  · rw [if_pos h, if_neg (fun hout => hiff.mp hout h)]
  · rw [if_neg h, if_pos (hiff.mpr h)]

theorem field_loaded (config : Persistence) (works : PsmRecord → Bool)
    (psm : String → Option String) (r : PsmRecord) :
    r.field (config.loaded works psm) = config.loadedValue works psm r := by
  have hnone (hread : loaded.read works psm r = none) :
      (if works r then r.denotes psm else none) = none := by
    simp only [loaded.read] at hread
    split <;> simp_all [PsmRecord.denotes]
  have hsome (text : String) (hread : loaded.read works psm r = some text) :
      (if works r then r.denotes psm else none) = some (r.parse text) := by
    simp only [loaded.read] at hread
    split <;> simp_all [PsmRecord.denotes]
  rw [loadedValue]
  cases hread : loaded.read works psm r with
  | none =>
      rw [hnone hread]
      cases r <;> simp [loaded, PsmRecord.field, hread, inRange]
  | some text =>
      rw [hsome text hread]
      cases r <;> simp [loaded, PsmRecord.field, PsmRecord.parse, PsmRecord.Accepts, hread,
        inRange_eq, apply_ite PsmValue.number]
      -- the two numbers: both sides make the same test
      · congr
      · congr

/-- Loading leaves every field in its range. -/
theorem loaded_inRange {config : Persistence} (h : config.InRange) (works : PsmRecord → Bool)
    (psm : String → Option String) : (config.loaded works psm).InRange := by
  intro r
  rw [field_loaded, loadedValue]
  split
  · exact h r
  · split
    · assumption
    · exact h r

theorem initDefaults_inRange : initDefaults.InRange := by
  intro r
  cases r <;> decide

end Persistence

/-- The memory after some calls of the environment that changed nothing else. -/
def ticked (s : LockState MutexId World) (n : Nat) : LockState MutexId World :=
  { s with mem := { s.mem with tick := s.mem.tick + n } }

section Reads

variable {s : LockState MutexId World} {env : Env}

/-- The text that a read of PSM finds, before it is copied to the buffer. -/
def psmText (env : Env) (w : World) (param : String) : Option String :=
  if env.psmGet w.tick then w.psm param else none

/-! ### Reading the records -/

theorem Psm.getString_run (hs : s.mem.rbusInitialized = true) (param : String) (size : Nat) :
    Psm.getString param size env s =
      .ok ((psmText env s.mem param).map fun text => String.ofList (text.toList.take (size - 1)),
        ticked s 1) := by
  show (if s.mem.rbusInitialized then _ else _ : M (Option String)) env s = _
  rw [if_pos hs]
  show (if env.psmGet s.mem.tick then _ else _ : M (Option String)) env (ticked s 1) = _
  by_cases hok : env.psmGet s.mem.tick = true
  · rw [if_pos hok, psmText, if_pos hok]
    rfl
  · rw [if_neg hok, psmText, if_neg hok]
    rfl

theorem Psm.getUint_run (hs : s.mem.rbusInitialized = true) (param : String) :
    Psm.getUint param env s = .ok ((psmText env s.mem param).map Psm.uintOf, ticked s 1) := by
  rw [Psm.getUint, Prog.bind_of_ok (Psm.getString_run hs param 32)]
  show Except.ok (_, _) = _
  rw [Option.map_map]
  rfl

theorem Psm.getBool_run (hs : s.mem.rbusInitialized = true) (param : String) :
    Psm.getBool param env s = .ok ((psmText env s.mem param).map Psm.boolOf, ticked s 1) := by
  rw [Psm.getBool, Prog.bind_of_ok (Psm.getString_run hs param 16)]
  show Except.ok (_, _) = _
  rw [Option.map_map]
  rfl

/-- **Loading reads the four records one after another**, each with the next call. -/
theorem Persistence.load_run (hs : s.mem.rbusInitialized = true) (config : Persistence) :
    config.load env s =
      .ok (config.loaded (fun r => env.psmGet (s.mem.tick + r.position)) s.mem.psm,
        ticked s 4) := by
  rw [Persistence.load, Prog.bind_of_ok (Psm.getUint_run hs _)]
  rw [Prog.bind_of_ok (Psm.getBool_run (s := ticked s 1) hs _)]
  rw [Prog.bind_of_ok (Psm.getBool_run (s := ticked (ticked s 1) 1) hs _)]
  rw [Prog.bind_of_ok (Psm.getUint_run (s := ticked (ticked (ticked s 1) 1) 1) hs _)]
  rfl

end Reads

/-! ### Saving -/

/-- How far `eponMgr_persistence_save` has come: the records of `written` hold their fields, and
the others are as before or hold theirs too. -/
structure Saving (config : Persistence) (written : PsmRecord → Prop) (w₀ w : World) : Prop where
  eponData : w.eponData = w₀.eponData
  controller : w.controller = w₀.controller
  rbusInitialized : w.rbusInitialized = w₀.rbusInitialized
  stored : ∀ r : PsmRecord, written r → w.psm r.key = some (r.text config)
  others : ∀ r : PsmRecord, w.psm r.key = w₀.psm r.key ∨ w.psm r.key = some (r.text config)

section Saving

variable {config : Persistence} {written : PsmRecord → Prop} {w₀ : World}

theorem Saving.of_outside {E : Effect → Prop} {α : Type} {f : M α}
    (hout : Respects (Outside E) f) (hpsm : Keeps World.psm f) :
    Ensures (Saving config written w₀) f (fun _ => Saving config written w₀) := by
  intro env s a t hs hrun
  have ho := hout env s a t hrun
  have hp : t.mem.psm = s.mem.psm := hpsm env s a t hrun
  exact ⟨ho.eponData.trans hs.eponData, ho.controller.trans hs.controller,
    ho.rbusInitialized.trans hs.rbusInitialized, by rw [hp]; exact hs.stored,
    by rw [hp]; exact hs.others⟩

instance : ReportsRows (fun w w' => World.psm w' = World.psm w) (fun _ => True) :=
  ReportsRows.of_view (fun _ => rfl) (fun _ _ => rfl) (fun _ _ => rfl) (fun _ _ => rfl)

/-- Storing the text of one record. -/
theorem Saving.put {r : PsmRecord} {w : World} (h : Saving config written w₀ w) :
    Saving config (fun q => written q ∨ q = r) w₀
      { w with psm := Function.update w.psm r.key (some (r.text config)) } := by
  have hkey (q : PsmRecord) (hne : q ≠ r) :
      Function.update w.psm r.key (some (r.text config)) q.key = w.psm q.key :=
    Function.update_of_ne (fun hk => hne (PsmRecord.key_inj hk)) _ _
  refine ⟨h.eponData, h.controller, h.rbusInitialized, fun q hq => ?_, fun q => ?_⟩
  · by_cases hqr : q = r
    · rw [hqr]
      exact Function.update_self _ _ _
    · exact (hkey q hqr).trans (h.stored q (hq.resolve_right hqr))
  · by_cases hqr : q = r
    · rw [hqr]
      exact .inr (Function.update_self _ _ _)
    · exact (h.others q).imp (hkey q hqr).trans (hkey q hqr).trans

theorem setString_ensures (r : PsmRecord) :
    Ensures (Saving config written w₀) (Psm.setString r.key (r.text config))
      (fun rc => Saving config (fun q => written q ∨ (q = r ∧ rc = 0)) w₀) := by
  have hfailed : ∀ w, Saving config written w₀ w →
      Saving config (fun q => written q ∨ (q = r ∧ (-1 : Int) = 0)) w₀ w := by
    rintro w ⟨hdata, hctrl, hrbus, hstored, hothers⟩
    refine ⟨hdata, hctrl, hrbus, fun q hq => hstored q (hq.resolve_right ?_), hothers⟩
    rintro ⟨-, h⟩
    cases h
  refine Ensures.bind (Q := fun _ => Saving config written w₀) (Ensures.read fun _ h => h)
    fun _ => Ensures.ite (fun _ => ?_) (fun _ => Ensures.pure hfailed)
  refine Ensures.bind (Q := fun _ => Saving config written w₀) (Ensures.call fun _ _ h => ?_)
    fun ok => Ensures.bind (Q := fun _ => Saving config written w₀)
      (Ensures.write fun _ h => ?_) fun _ => Ensures.ite (fun _ => ?_) (fun _ => ?_)
  · exact ⟨h.eponData, h.controller, h.rbusInitialized, h.stored, h.others⟩
  · exact ⟨h.eponData, h.controller, h.rbusInitialized, h.stored, h.others⟩
  · refine Ensures.bind (Q := fun _ => Saving config (fun q => written q ∨ q = r) w₀)
      (Ensures.write fun _ h => h.put) fun _ => Ensures.pure fun w h => ?_
    exact ⟨h.eponData, h.controller, h.rbusInitialized,
      fun q hq => h.stored q (hq.imp id And.left), h.others⟩
  · exact (Saving.of_outside (E := fun _ => True) (Telemetry.dispatch_outside fun _ => trivial)
      (Telemetry.dispatch_outside fun _ => trivial)).bind fun _ => Ensures.pure hfailed

/-- One record after another, up to the first that fails. -/
theorem save_step (r : PsmRecord) {rest : M Int}
    (hrest : Ensures (Saving config (fun q => written q ∨ q = r) w₀) rest
      (fun rc => Saving config (fun _ => rc = 0) w₀)) :
    Ensures (Saving config written w₀) (do
      let rc ← Psm.setString r.key (r.text config)
      if rc ≠ 0 then return -1 else rest) (fun rc => Saving config (fun _ => rc = 0) w₀) := by
  refine (setString_ensures r).bind fun rc => Ensures.ite (fun hrc => ?_) (fun hrc => ?_)
  · exact Ensures.pure fun w h => ⟨h.eponData, h.controller, h.rbusInitialized,
      fun _ h' => absurd h' (by decide), h.others⟩
  · have hzero : rc = 0 := not_not.mp hrc
    subst hzero
    exact hrest.conseq (fun w h => ⟨h.eponData, h.controller, h.rbusInitialized,
      fun q hq => h.stored q (hq.imp id fun hqr => ⟨hqr, rfl⟩), h.others⟩) fun _ _ h => h

/-- **`save` writes all four records or reports a failure.** -/
theorem save_ensures (config : Persistence) (w₀ : World) :
    Ensures (· = w₀) config.save (fun rc => Saving config (fun _ => rc = 0) w₀) := by
  refine Ensures.conseq (P := Saving config (fun _ => False) w₀) ?_ ?_ fun _ _ h => h
  · refine save_step .cacheTtl (save_step .dpoeEnable (save_step .statsPollerEnabled
      (save_step .statsPollerInterval (Ensures.pure fun w h => ?_))))
    refine ⟨h.eponData, h.controller, h.rbusInitialized, fun r _ => h.stored r ?_, h.others⟩
    cases r <;> simp
  · rintro w rfl
    exact ⟨rfl, rfl, rfl, fun _ h => h.elim, fun _ => .inl rfl⟩

end Saving

/-! ### The setters -/

/-- `ctrl->config` -/
def World.config (w : World) : Persistence := w.controller.obj.config.obj

/-- `ctrl->stats_poller` -/
def World.poller (w : World) : StatsPoller := w.controller.obj.statsPoller.obj

/-- The memory after a change of the controller. -/
def World.withController (w : World) (f : Controller → Controller) : World :=
  { w with controller := { w.controller with obj := f w.controller.obj } }

/-- A change of the controller and nothing else. -/
theorem modifyController_ensures (f : Controller → Controller) (w : World) :
    Ensures (· = w) (modifyController f) (fun _ w' => w' = w.withController f) := by
  apply Ensures.write
  rintro w rfl
  rfl

/-- A process that has started: its pointers and its rbus handle are set. -/
structure Configured (w : World) : Prop extends Initialised w where
  rbusInitialized : w.rbusInitialized = true

/-- The poller's copies of the two settings. -/
def Agrees (w : World) : Prop :=
  w.poller.enabled = w.config.statsPollerEnabled ∧
    w.poller.intervalSeconds = w.config.statsPollerIntervalSeconds

/-- A call of `eponMgr_stats_poller_set_enabled` or `eponMgr_stats_poller_set_interval`. -/
inductive SetCall where
  | enabled (b : Bool)
  | interval (v : UInt32)
  deriving DecidableEq, Repr

namespace SetCall

def run : SetCall → M Int
  | .enabled b  => StatsPoller.setEnabled b
  | .interval v => StatsPoller.setInterval v

/-- The record that the call is about. -/
def record : SetCall → PsmRecord
  | .enabled _  => .statsPollerEnabled
  | .interval _ => .statsPollerInterval

/-- The values that `stats_poller_set_handler` passes on. -/
def Allowed : SetCall → Prop
  | .enabled _  => True
  | .interval v => 60 ≤ v ∧ v ≤ 3600

/-- The configuration after the call; an interval of zero is refused. -/
def apply : SetCall → Persistence → Persistence
  | .enabled b, config  => { config with statsPollerEnabled := b }
  | .interval v, config =>
      if v = 0 then config else { config with statsPollerIntervalSeconds := v }

def step (env : Env) (w : World) (c : SetCall) : Option World :=
  (Prog.alone c.run env w).map Prod.snd

/-- Only the field of its own record is changed. -/
theorem field_apply (c : SetCall) {r : PsmRecord} (hr : r ≠ c.record) (config : Persistence) :
    r.field (c.apply config) = r.field config := by
  cases c with
  | enabled b => cases r <;> first | rfl | exact absurd rfl hr
  | interval v =>
      rw [apply]
      split
      · rfl
      · cases r <;> first | rfl | exact absurd rfl hr

/-- An allowed call keeps the configuration in its ranges. -/
theorem apply_inRange {c : SetCall} (hc : c.Allowed) {config : Persistence}
    (h : config.InRange) : (c.apply config).InRange := by
  intro r
  by_cases hr : r = c.record
  · subst hr
    cases c with
    | enabled b => trivial
    | interval v =>
        have hne : v ≠ 0 := by
          rintro rfl
          exact absurd hc.1 (by decide)
        rw [apply, if_neg hne]
        exact hc
  · rw [c.field_apply hr]
    exact h r

end SetCall

/-! ### What a setter does -/

/-- What a call of a setter does, whatever it returns. -/
structure SetOutcome (c : SetCall) (w₀ : World) (rc : Int) (w : World) : Prop where
  configured : Configured w
  config : w.config = c.apply w₀.config
  agrees : Agrees w₀ → Agrees w
  others : ∀ r : PsmRecord, w.psm r.key = w₀.psm r.key ∨ w.psm r.key = some (r.text w.config)
  stored : rc = 0 → ∀ r : PsmRecord, w.psm r.key = some (r.text w.config)

theorem Controller.unlock_ensures {P : World → Prop} :
    Ensures P Controller.unlock (fun _ => P) :=
  Ensures.bind (Q := fun _ => P) (Ensures.read fun _ h => h) fun _ =>
    Ensures.ite (fun _ => Ensures.unlock) (fun _ => Ensures.pure fun _ h => h)

/-- The configuration of a process that has started can be locked. -/
theorem lockPersistenceConfig_ensures {w₁ : World} (hw : Initialised w₁) :
    Ensures (· = w₁) Controller.lockPersistenceConfig (fun b w => b = true ∧ w = w₁) := by
  refine Ensures.bind (Q := fun b w => b = true ∧ w = w₁) (Ensures.read ?_) fun b =>
    Ensures.of_and fun hb => ?_
  · rintro w rfl
    exact ⟨hw.controller, rfl⟩
  · rw [hb, if_pos rfl]
    refine Ensures.lock.bind fun _ => Ensures.read ?_
    rintro w rfl
    exact ⟨hw.config, rfl⟩

/-- The configuration is changed first and saved then. -/
theorem persist_ensures (setField : Persistence → Persistence) {w₁ : World}
    (hw : Initialised w₁) :
    Ensures (· = w₁) (StatsPoller.persist setField) (fun rc =>
      Saving (setField w₁.config) (fun _ => rc = 0)
        (w₁.withController (Controller.modifyConfig setField))) := by
  refine (lockPersistenceConfig_ensures hw).bind fun b => Ensures.of_and fun hb => ?_
  rw [hb, if_pos rfl]
  refine (modifyController_ensures _ w₁).bind fun _ =>
    Ensures.bind (Q := fun stored w => stored = setField w₁.config ∧
      w = w₁.withController (Controller.modifyConfig setField)) (Ensures.read ?_) fun stored =>
      Ensures.of_and fun hstored => ?_
  · rintro w rfl
    exact ⟨rfl, rfl⟩
  · rw [hstored]
    refine (save_ensures _ _).bind fun rc => Ensures.ite (fun hrc => ?_) (fun hrc => ?_)
    · refine Controller.unlock_ensures.bind fun _ => Ensures.pure fun w h => ?_
      exact ⟨h.eponData, h.controller, h.rbusInitialized, fun _ h' => absurd h' (by decide),
        h.others⟩
    · refine Controller.unlock_ensures.bind fun _ => Ensures.pure fun w h => ?_
      exact ⟨h.eponData, h.controller, h.rbusInitialized,
        fun r _ => h.stored r (not_not.mp hrc), h.others⟩

/-- **One call of a setter.** -/
theorem SetCall.run_ensures (c : SetCall) {w₀ : World} (hw : Configured w₀) :
    Ensures (· = w₀) c.run (SetOutcome c w₀) := by
  have hset (setPoller : StatsPoller → StatsPoller) (setField : Persistence → Persistence)
      (happly : c.apply w₀.config = setField w₀.config)
      (hagrees : Agrees w₀ →
        (setPoller w₀.poller).enabled = (setField w₀.config).statsPollerEnabled ∧
          (setPoller w₀.poller).intervalSeconds =
            (setField w₀.config).statsPollerIntervalSeconds) :
      Ensures (· = w₀) (do
        Prog.lock .poller
        modifyController (Controller.modifyPoller setPoller)
        Prog.unlock .poller
        StatsPoller.persist setField) (SetOutcome c w₀) := by
    have hw' : Initialised (w₀.withController (Controller.modifyPoller setPoller)) :=
      ⟨hw.eponData, hw.controller, hw.config, hw.statsPoller⟩
    refine Ensures.lock.bind fun _ => (modifyController_ensures _ w₀).bind fun _ =>
      Ensures.unlock.bind fun _ => (persist_ensures setField hw').conseq (fun _ h => h)
        fun rc w h => ?_
    have hconfig : w.config = setField w₀.config := by
      rw [World.config, h.controller]
      rfl
    have hpoller : w.poller = setPoller w₀.poller := by
      rw [World.poller, h.controller]
      rfl
    refine ⟨⟨⟨?_, ?_, ?_, ?_⟩, ?_⟩, hconfig.trans happly.symm, fun ha => ?_, ?_, ?_⟩
    · rw [h.eponData]
      exact hw.eponData
    · rw [h.controller]
      exact hw.controller
    · rw [h.controller]
      exact hw.config
    · rw [h.controller]
      exact hw.statsPoller
    · rw [h.rbusInitialized]
      exact hw.rbusInitialized
    · rw [Agrees, hconfig, hpoller]
      exact hagrees ha
    · rw [hconfig]
      exact h.others
    · rw [hconfig]
      exact fun hrc r => h.stored r hrc
  cases c with
  | enabled b => exact hset _ _ rfl fun ha => ⟨rfl, ha.2⟩
  | interval v =>
      refine Ensures.ite (fun hzero => ?_) (fun hne => ?_)
      · -- the call is refused before it changes anything
        refine Ensures.pure ?_
        rintro w rfl
        refine ⟨hw, ?_, fun h => h, fun _ => .inl rfl, fun h => absurd h (by decide)⟩
        rw [apply, if_pos hzero]
      · exact hset _ _ (if_neg hne) fun ha => ⟨ha.1, rfl⟩

/-- A call made while no mutex is held returns. -/
theorem SetCall.run_returns (c : SetCall) {w : World} (hw : Initialised w) (env : Env) :
    ∃ rc w', Prog.alone c.run env w = some (rc, w') := by
  have hmoves : Moves Initialised c.run (fun _ => 0) (fun _ => 0) (fun _ => True) := by
    cases c with
    | enabled b => exact StatsPoller.setEnabled_moves rfl rfl rfl b
    | interval v => exact StatsPoller.setInterval_moves rfl rfl rfl v
  obtain ⟨rc, w', hrun, -⟩ := hmoves.alone hw env
  exact ⟨rc, w', hrun⟩

/-! ### Start-up -/

/-- The configuration that a start-up loads: `eponMgr_persistence_load` reads its records with the
calls after the first two, which open the logger and rbus. -/
def bootConfig (env : Env) (psm : String → Option String) : Persistence :=
  Persistence.initDefaults.loaded (fun r => env.psmGet (2 + r.position)) psm

/-- The start-up has loaded its configuration. -/
structure Loaded (env : Env) (boot : String → Option String) (w : World) : Prop where
  psm : w.psm = boot
  rbusInitialized : w.rbusInitialized = true
  config : w.config = bootConfig env boot

/-- What the settings are made of. -/
def World.settings (w : World) : (String → Option String) × Bool × Persistence × StatsPoller :=
  (w.psm, w.rbusInitialized, w.config, w.poller)

instance : ReportsRows (fun w w' => World.settings w' = World.settings w) (fun _ => True) :=
  ReportsRows.of_view (fun _ => rfl) (fun _ _ => rfl) (fun _ _ => rfl) (fun _ _ => rfl)

section Boot

variable {env : Env} {psm : String → Option String}

theorem Loaded.of_settings {w w' : World} (h : w'.settings = w.settings) (hw : Loaded env psm w) :
    Loaded env psm w' :=
  ⟨(congrArg (·.1) h).trans hw.psm, (congrArg (·.2.1) h).trans hw.rbusInitialized,
    (congrArg (·.2.2.1) h).trans hw.config⟩

theorem Agrees.of_settings {w w' : World} (h : w'.settings = w.settings) (hw : Agrees w) :
    Agrees w' := by
  have hconfig : w'.config = w.config := congrArg (·.2.2.1) h
  have hpoller : w'.poller = w.poller := congrArg (·.2.2.2) h
  rw [Agrees, hconfig, hpoller]
  exact hw

/-- The stages of the start-up that leave the settings alone. -/
theorem loaded_ensures {α : Type} {f : M α} (hf : Keeps World.settings f) :
    Ensures (Loaded env psm) (Prog.within env f) (fun _ => Loaded env psm) :=
  (hf.ensures fun _ _ h => Loaded.of_settings h).within env

/-- rbus is not initialised yet, so the start-up opens it. -/
theorem rbusInit_loaded :
    Ensures (· = { World.boot psm with tick := 1 }) (Prog.within env Rbus.init)
      (fun ok w => ok = true → w = { World.boot psm with tick := 2, rbusInitialized := true }) := by
  apply Ensures.within
  refine Ensures.bind (Q := fun b w => b = false ∧ w = { World.boot psm with tick := 1 })
    (Ensures.read ?_) fun b => Ensures.of_and fun hb => ?_
  · rintro w rfl
    exact ⟨rfl, rfl⟩
  rw [hb, if_neg Bool.false_ne_true]
  refine Ensures.bind (Q := fun _ w => w = { World.boot psm with tick := 2 })
    (startupCall_ensures ?_) fun ok => Ensures.ite (fun _ => ?_)
    (fun _ => Controller.ensures_abandon)
  · rintro w rfl
    rfl
  · refine Ensures.bind (Q := fun _ w => w =
      { World.boot psm with tick := 2, rbusInitialized := true }) (Ensures.write ?_) fun _ =>
      Ensures.pure fun _ h _ => h
    rintro w rfl
    rfl

/-- The fourth step of the start-up reads PSM with the calls from the third on. -/
theorem initData_loaded :
    Ensures (· = World.boot psm) (Prog.within env Controller.initData)
      (fun ok w => ok = true → Loaded env psm w) := by
  refine Controller.initData_rule (A := (· = { World.boot psm with tick := 1 }))
    (S := fun w => w.tick = 2 ∧ w.psm = psm ∧ w.rbusInitialized = true)
    (L := fun config w => config = bootConfig env psm ∧ w.psm = psm ∧ w.rbusInitialized = true)
    (C := fun _ => Loaded env psm) ?_ rbusInit_loaded ?_ ?_ ?_ ?_ ?_
  · rintro w rfl
    rfl
  · rintro w rfl
    exact ⟨rfl, rfl, rfl⟩
  · rintro _ s config t ⟨htick, hpsm, hrbus⟩ hrun
    have hload : Persistence.initDefaults.load env s = _ :=
      Persistence.load_run hrbus Persistence.initDefaults
    rw [Prog.within, hload] at hrun
    cases hrun
    refine ⟨?_, hpsm, hrbus⟩
    rw [htick, hpsm]
    rfl
  · rintro config w ⟨hconfig, hpsm, hrbus⟩
    exact ⟨hpsm, hrbus, hconfig⟩
  · exact fun _ _ hw => ⟨hw.psm, hw.rbusInitialized, hw.config⟩
  · exact fun _ _ hw => ⟨hw.psm, hw.rbusInitialized, hw.config⟩

/-- **What a successful start-up leaves**: the configuration that PSM held, the defaults where it
could not be read, and a poller with the same settings. -/
theorem init_configured (limits : HalLimits) :
    Ensures (· = World.boot psm) (Prog.within env (Controller.init limits))
      (fun ok w => ok = true → Configured w ∧ Loaded env psm w ∧ Agrees w) := by
  -- a start-up that fails promises nothing
  have habandon {P : World → Prop} {Q : World → Prop} :
      Ensures P (Prog.within env (return false : M Bool)) (fun ok w => ok = true → Q w) :=
    Controller.ensures_abandon.within env
  have hinit : Ensures (· = World.boot psm) (Prog.within env (Controller.init limits))
      (fun ok w => ok = true → Initialised w) :=
    ((Controller.init_initialised limits).conseq (fun _ _ => trivial) fun _ _ h => h).within env
  have hloaded : Ensures (· = World.boot psm) (Prog.within env (Controller.init limits))
      (fun ok w => ok = true → Loaded env psm w ∧ Agrees w) := by
    -- what was loaded is carried through the stages behind it
    refine Controller.init_rule (B := fun w => Loaded env psm w ∧ Agrees w)
      (C := fun w => Loaded env psm w ∧ Agrees w) initData_loaded
      (loaded_ensures (Controller.initHal_outside (fun _ _ => trivial) (fun _ _ _ => rfl) limits))
      (fun config => ?_) ?_
      (fun w h => ⟨⟨h.1.psm, h.1.rbusInitialized, h.1.config⟩, h.2⟩)
    · refine Ensures.within_bind (Q := fun _ w => config = w.config ∧ Loaded env psm w) ?_
        fun _ => Ensures.within_ite (fun _ => ?_) (fun _ => habandon)
      · exact (startupCall_ensures fun _ h =>
          ⟨h.1, h.2.psm, h.2.rbusInitialized, h.2.config⟩).within env
      refine Ensures.within_bind (Q := fun _ w => Loaded env psm w ∧ Agrees w) ?_ fun _ =>
        (Ensures.pure fun _ h _ => h).within env
      refine Ensures.within (Ensures.write ?_) env
      rintro w ⟨rfl, hw⟩
      exact ⟨⟨hw.psm, hw.rbusInitialized, hw.config⟩, rfl, rfl⟩
    · refine (Controller.ensures_regardless ?_).within env
      exact (Controller.registerTr181_outside fun _ _ _ => trivial).ensures fun _ _ h hw =>
        ⟨hw.1.of_settings h, hw.2.of_settings h⟩
  exact (hinit.and hloaded).conseq (fun _ h => h) fun _ _ h hok =>
    ⟨⟨h.1 hok, (h.2 hok).1.rbusInitialized⟩, h.2 hok⟩

end Boot

/-! ### Runs of calls -/

section Runs

variable {limits : HalLimits} {env : Env} {psm : String → Option String} {w₀ w : World}

theorem SetCall.step_outcome {c : SetCall} {w' : World} (hw : Configured w)
    (h : c.step env w = some w') : ∃ rc, SetOutcome c w rc w' := by
  obtain ⟨⟨rc, v⟩, hrun, rfl⟩ := Option.map_eq_some_iff.mp h
  exact ⟨rc, (c.run_ensures hw).alone rfl hrun⟩

/-- What a run of calls keeps: the poller agrees with the configuration, and the fields that no call
sets are as they were. -/
structure Running (w₀ : World) (calls : List SetCall) (w : World) : Prop where
  configured : Configured w
  agrees : Agrees w
  unset : ∀ r : PsmRecord, (∀ c ∈ calls, r ≠ c.record) → r.field w.config = r.field w₀.config

/-- **Run lemma.** -/
theorem Running.of_exec (hw : Configured w₀) (ha : Agrees w₀) {calls : List SetCall}
    (h : exec (SetCall.step env) w₀ calls = some w) : Running w₀ calls w := by
  induction calls generalizing w₀ with
  | nil =>
      cases h
      exact ⟨hw, ha, fun _ _ => rfl⟩
  | cons c calls ih =>
      obtain ⟨w₁, hstep, hrest⟩ := exec_cons_eq_some.mp h
      obtain ⟨rc, hout⟩ := SetCall.step_outcome hw hstep
      obtain ⟨hconf, hagr, hunset⟩ := ih hout.configured (hout.agrees ha) hrest
      refine ⟨hconf, hagr, fun r hr => ?_⟩
      rw [hunset r fun d hd => hr d (List.mem_cons_of_mem _ hd), hout.config,
        c.field_apply (hr c List.mem_cons_self)]

/-- **Calls keep the settings in range.** -/
theorem exec_inRange (hw : Configured w₀) (hr : w₀.config.InRange) {calls : List SetCall}
    (hallowed : ∀ c ∈ calls, c.Allowed) (h : exec (SetCall.step env) w₀ calls = some w) :
    w.config.InRange := by
  refine (exec_invariant_along (G := fun _ c => c.Allowed)
    (P := fun w => Configured w ∧ w.config.InRange) ?_ ⟨hw, hr⟩ (along_of_forall hallowed) h).2
  rintro w c w' ⟨hw, hr⟩ hc hstep
  obtain ⟨rc, hout⟩ := SetCall.step_outcome hw hstep
  refine ⟨hout.configured, ?_⟩
  rw [hout.config]
  exact SetCall.apply_inRange hc hr

/-- No call gets stuck. -/
theorem exec_isSome (hw : Configured w₀) (calls : List SetCall) :
    ∃ w, exec (SetCall.step env) w₀ calls = some w := by
  induction calls generalizing w₀ with
  | nil => exact ⟨w₀, rfl⟩
  | cons c calls ih =>
      obtain ⟨rc, w₁, hrun⟩ := c.run_returns hw.toInitialised env
      have hstep : c.step env w₀ = some w₁ := by rw [SetCall.step, hrun]; rfl
      obtain ⟨rc', hout⟩ := SetCall.step_outcome hw hstep
      obtain ⟨w, h⟩ := ih hout.configured
      exact ⟨w, exec_cons_eq_some.mpr ⟨w₁, hstep, h⟩⟩

/-! ### The results -/

/-- **What a successful call writes**: all four records then denote the running configuration, the
ones it was not asked to change as well. So one of those keeps its value exactly if it denoted the
running one, and a record that no call ever set denotes what the start-up made of it: the stored
value if it could be read and is accepted, and else the default. -/
theorem successful_set_stores_running_configuration
    (hinit : Prog.alone (Controller.init limits) env (World.boot psm) = some (true, w₀))
    (calls : List SetCall) (hrun : exec (SetCall.step env) w₀ calls = some w)
    (c : SetCall) (w' : World) (hset : Prog.alone c.run env w = some (0, w'))
    (r : PsmRecord) (hr : r ≠ c.record) :
    r.denotes w'.psm = some (r.field w.config) ∧
      (r.denotes w'.psm = r.denotes w.psm ↔ r.denotes w.psm = some (r.field w.config)) ∧
      ((∀ d ∈ calls, r ≠ d.record) → r.field w.config =
        Persistence.initDefaults.loadedValue (fun q => env.psmGet (2 + q.position)) psm r) := by
  obtain ⟨hconf, hloaded, hagrees⟩ :=
    (init_configured limits).alone_within rfl hinit rfl
  have hrunning := Running.of_exec hconf hagrees hrun
  have hout : SetOutcome c w 0 w' := (c.run_ensures hrunning.configured).alone rfl hset
  have hdenotes : r.denotes w'.psm = some (r.field w.config) := by
    rw [PsmRecord.denotes, hout.stored rfl r, Option.map_some, r.parse_text, hout.config,
      c.field_apply hr]
  refine ⟨hdenotes, ?_, fun hunset => ?_⟩
  · rw [hdenotes]
    exact eq_comm
  · rw [hrunning.unset r hunset, hloaded.config, bootConfig, Persistence.field_loaded]

/-- The first call after a start-up at which PSM was empty. -/
theorem successful_set_stores_running_configuration_first :
    ∃ w₀ w', Prog.alone (SetCall.enabled true).run Env.quiet w₀ = some (0, w') ∧
      PsmRecord.dpoeEnable.denotes w'.psm = some (PsmRecord.dpoeEnable.field w₀.config) := by
  have h : ((Prog.alone (Controller.init HalLimits.small) Env.quiet
        (World.boot fun _ => none)).bind fun a =>
      (Prog.alone (SetCall.enabled true).run Env.quiet a.2).map fun b => (a.1, b.1)) =
      some (true, 0) := by
    decide +kernel
  simp only [Option.bind_eq_some_iff, Option.map_eq_some_iff, Prod.mk.injEq] at h
  obtain ⟨⟨ok, w₀⟩, h₀, ⟨rc, w'⟩, h₁, rfl, rfl⟩ := h
  exact ⟨w₀, w', h₁, (successful_set_stores_running_configuration h₀ [] rfl (.enabled true) w' h₁
    .dpoeEnable (by decide)).1⟩

/-- `DpoeEnable` is stored as true but cannot be read at start-up. Then enabling the poller is
acknowledged, and `DpoeEnable` is stored as false. -/
theorem unread_dpoe_overwritten :
    ∃ w₀ w', Prog.alone (Controller.init HalLimits.small) { Env.quiet with psmGet := (· ≠ 3) }
        (World.boot fun key => if key = Psm.dpoeEnable then some "TRUE" else none) =
          some (true, w₀) ∧
      Prog.alone (StatsPoller.setEnabled true) { Env.quiet with psmGet := (· ≠ 3) } w₀ =
        some (0, w') ∧
      PsmRecord.dpoeEnable.denotes w₀.psm = some (.truth true) ∧
      PsmRecord.dpoeEnable.denotes w'.psm = some (.truth false) := by
  have h : ((Prog.alone (Controller.init HalLimits.small) { Env.quiet with psmGet := (· ≠ 3) }
        (World.boot fun key => if key = Psm.dpoeEnable then some "TRUE" else none)).bind fun a =>
      (Prog.alone (StatsPoller.setEnabled true) { Env.quiet with psmGet := (· ≠ 3) } a.2).map
        fun b => (a.1, b.1, PsmRecord.dpoeEnable.denotes a.2.psm,
          PsmRecord.dpoeEnable.denotes b.2.psm)) =
      some (true, 0, some (.truth true), some (.truth false)) := by
    decide +kernel
  simp only [Option.bind_eq_some_iff, Option.map_eq_some_iff, Prod.mk.injEq] at h
  obtain ⟨⟨ok, w₀⟩, h₀, ⟨rc, w'⟩, h₁, rfl, rfl, hbefore, hafter⟩ := h
  exact ⟨w₀, w', h₀, h₁, hbefore, hafter⟩

/-- **Acknowledged configuration survives a restart.** -/
theorem acknowledged_configuration_survives
    (hinit : Prog.alone (Controller.init limits) env (World.boot psm) = some (true, w₀))
    (calls : List SetCall) (hallowed : ∀ c ∈ calls, c.Allowed) :
    ∃ w, exec (SetCall.step env) w₀ calls = some w ∧ Agrees w ∧ w.config.InRange ∧
      ∀ c : SetCall, c.Allowed → ∃ rc w', Prog.alone c.run env w = some (rc, w') ∧
        Agrees w' ∧ w'.config.InRange ∧
        (rc = 0 → ∀ (env' : Env) (v : World), (∀ n, env'.psmGet n = true) →
          v.psm = w'.psm → v.rbusInitialized = true →
          ∃ v', Prog.alone Persistence.initDefaults.load env' v = some (w'.config, v')) := by
  obtain ⟨hconf, hloaded, hagrees⟩ :=
    (init_configured limits).alone_within rfl hinit rfl
  have hrange : w₀.config.InRange := by
    rw [hloaded.config]
    exact Persistence.loaded_inRange Persistence.initDefaults_inRange _ _
  obtain ⟨w, hrun⟩ : ∃ w, exec (SetCall.step env) w₀ calls = some w := exec_isSome hconf calls
  have hrunning := Running.of_exec hconf hagrees hrun
  refine ⟨w, hrun, hrunning.agrees, exec_inRange hconf hrange hallowed hrun, fun c hc => ?_⟩
  obtain ⟨rc, w', hset⟩ := c.run_returns hrunning.configured.toInitialised env
  have hout : SetOutcome c w rc w' := (c.run_ensures hrunning.configured).alone rfl hset
  have hrange' : w'.config.InRange := by
    rw [hout.config]
    exact SetCall.apply_inRange hc (exec_inRange hconf hrange hallowed hrun)
  refine ⟨rc, w', hset, hout.agrees hrunning.agrees, hrange',
    fun hrc env' v hreads hpsm hrbus => ?_⟩
  refine ⟨(ticked ⟨fun _ => 0, v⟩ 4).mem, ?_⟩
  rw [Prog.alone, Persistence.load_run hrbus]
  simp only [Option.some.injEq, Prod.mk.injEq, and_true]
  apply Persistence.ext_field
  intro r
  -- every record is there, readable and in its range
  rw [Persistence.field_loaded, Persistence.loadedValue, hreads, if_pos rfl, hpsm,
    PsmRecord.denotes, hout.stored hrc r, Option.map_some, r.parse_text]
  exact if_pos (hrange' r)

/-- After a start-up at which PSM was empty, and a call that has set the interval. -/
theorem acknowledged_configuration_survives_interval :
    ∃ w₀, Prog.alone (Controller.init HalLimits.small) Env.quiet (World.boot fun _ => none) =
        some (true, w₀) ∧
      ∃ w, exec (SetCall.step Env.quiet) w₀ [.interval 300] = some w ∧ Agrees w ∧
        w.config.InRange := by
  obtain ⟨t, ht⟩ := Controller.init_quiet
  have hinit := Prog.alone_eq_some.mpr ⟨t.held, ht⟩
  have hallowed : ∀ c ∈ [SetCall.interval 300], c.Allowed := by
    intro c hc
    rw [List.mem_singleton.mp hc]
    exact ⟨by decide, by decide⟩
  obtain ⟨w, hrun, hagrees, hrange, -⟩ := acknowledged_configuration_survives hinit _ hallowed
  exact ⟨t.mem, hinit, w, hrun, hagrees, hrange⟩

end Runs

end EponManager
