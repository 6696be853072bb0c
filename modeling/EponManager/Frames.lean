import EponManager.Controller.Events
import EponManager.Persistence

/-!
# What the calls to the outside leave alone

Raising telemetry, talking to WanManager and registering table rows change none of the objects the
process shares; they only add to the trace. `Outside E` says so, and that every effect they add is
in the class `E`. Each lemma names the effects of its function, and is used with whatever class is
convenient.

Other frames need the same facts about other parts of the memory. So the lemmas are about any
relation of the class `Reports` (or `ReportsRows`, for the functions that register rows), of which
`Outside E` is one.
-/

namespace EponManager

open Lib
open Lib.Prog (Respects)

/-- The shared objects are the same, and the trace has grown by effects in `E`. -/
structure Outside (E : Effect → Prop) (w w' : World) : Prop where
  eponData : w'.eponData = w.eponData
  controller : w'.controller = w.controller
  telemetryInitialized : w'.telemetryInitialized = w.telemetryInitialized
  rbusInitialized : w'.rbusInitialized = w.rbusInitialized
  trace : ∃ l, w'.trace = w.trace ++ l ∧ ∀ e ∈ l, E e

variable {E : Effect → Prop} {α : Type}

theorem Outside.of_trace_eq {w w' : World} (hdata : w'.eponData = w.eponData)
    (hctrl : w'.controller = w.controller)
    (htelem : w'.telemetryInitialized = w.telemetryInitialized)
    (hrbus : w'.rbusInitialized = w.rbusInitialized) (htrace : w'.trace = w.trace) :
    Outside E w w' :=
  ⟨hdata, hctrl, htelem, hrbus, [], by simp [htrace]⟩

instance : IsPreorder World (Outside E) where
  refl _ := Outside.of_trace_eq rfl rfl rfl rfl rfl
  trans w₁ w₂ w₃ h₁ h₂ := by
    obtain ⟨l₁, ht₁, hl₁⟩ := h₁.trace
    obtain ⟨l₂, ht₂, hl₂⟩ := h₂.trace
    refine ⟨h₂.eponData.trans h₁.eponData, h₂.controller.trans h₁.controller,
      h₂.telemetryInitialized.trans h₁.telemetryInitialized,
      h₂.rbusInitialized.trans h₁.rbusInitialized, l₁ ++ l₂, ?_, ?_⟩
    · rw [ht₂, ht₁, List.append_assoc]
    · intro e he
      rcases List.mem_append.mp he with he | he
      · exact hl₁ e he
      · exact hl₂ e he

/-- What a call to the outside does is in `R`: it is counted, it adds an effect in `E` to the trace,
and WanManager's index may be stored. -/
class Reports (R : World → World → Prop) (E : outParam (Effect → Prop)) : Prop
    extends IsPreorder World R where
  tick : ∀ w, R w { w with tick := w.tick + 1 }
  emit : ∀ w e, E e → R w { w with trace := w.trace ++ [e] }
  index : ∀ w i, R w { w with wanmanagerIfIndex := i }

/-- In `R` is also what registering a row does to the tables. -/
class ReportsRows (R : World → World → Prop) (E : outParam (Effect → Prop)) : Prop
    extends Reports R E where
  tr181 : ∀ w t, R w { w with tr181 := t }

instance : ReportsRows (Outside E) E where
  tick _ := Outside.of_trace_eq rfl rfl rfl rfl rfl
  emit _ e he := ⟨rfl, rfl, rfl, rfl, [e], rfl, by simpa using he⟩
  index _ _ := Outside.of_trace_eq rfl rfl rfl rfl rfl
  tr181 _ _ := Outside.of_trace_eq rfl rfl rfl rfl rfl

/-- A view of the memory that shows neither the number of calls nor the trace. -/
theorem ReportsRows.of_view {κ : Type} {π : World → κ}
    (htick : ∀ w, π { w with tick := w.tick + 1 } = π w)
    (htrace : ∀ w l, π { w with trace := l } = π w)
    (hindex : ∀ w i, π { w with wanmanagerIfIndex := i } = π w)
    (htr181 : ∀ w t, π { w with tr181 := t } = π w) :
    ReportsRows (fun w w' => π w' = π w) (fun _ => True) where
  tick := htick
  emit w _ _ := htrace w _
  index := hindex
  tr181 := htr181

section Reports

variable {R : World → World → Prop} [hR : Reports R E]
include hR

/-! ### Single calls -/

theorem ask_outside (q : Env → Nat → α) : Respects R (ask q) :=
  Respects.call (fun _ w => Reports.tick w)

theorem emit_outside {e : Effect} (he : E e) : Respects R (emit e) :=
  Respects.write (fun w => Reports.emit w e he)

/-- The event is added with the flag that says whether T2 was told. -/
theorem Telemetry.dispatch_outside {event : TelemetryEvent} {ifname : Option CharBuf}
    (hE : ∀ sent, E (.telemetry event ifname sent)) :
    Respects R (Telemetry.dispatch event ifname) :=
  Respects.lock.bind fun _ => Respects.read.bind fun sent => Respects.unlock.bind fun _ =>
    emit_outside (hE sent)

/-! ### WanManager -/

namespace WanManager

theorem discoverFrom_outside (is : List Int) : Respects R (discoverFrom is) := by
  -- every row that is no EPON interface is passed over
  induction is with
  | nil => exact Respects.pure
  | cons i is ih =>
      refine (ask_outside _).bind fun baseIf => ?_
      cases baseIf with
      | none => exact ih
      | some path =>
          cases path with
          | none => exact ih
          | some path =>
              refine Respects.ite (Respects.bind (Respects.write ?_) fun _ => Respects.pure) ih
              exact fun w => Reports.index w i

/-- Searching the interface has no effect that the outside can see. -/
theorem discoverInterfaceIndex_outside : Respects R discoverInterfaceIndex := by
  refine Respects.read.bind fun _ => Respects.ite Respects.pure (Respects.read.bind fun _ =>
    Respects.ite ((ask_outside _).bind fun count => ?_) Respects.pure)
  cases count with
  | none => exact Respects.pure
  | some count => exact discoverFrom_outside _

theorem rbusSet_outside {param : WanParam} {value : WanValue}
    (hE : ∀ ok, E (.rbusSet param value ok)) : Respects R (rbusSet param value) :=
  (ask_outside _).bind fun ok => (emit_outside (hE ok)).bind fun _ => Respects.pure

/-- The set of the first virtual interface of that name, at whatever row it stands. -/
theorem updateFrom_outside {index : Int} (interfaceName : CharBuf) {isUp : Bool}
    (hE : ∀ j ok, E (.rbusSet (.virtualInterfaceEnable index j) (.boolean isUp) ok))
    (js : List Int) : Respects R (updateFrom index interfaceName isUp js) := by
  induction js with
  | nil => exact Respects.pure
  | cons j js ih =>
      refine (ask_outside _).bind fun name => ?_
      cases name with
      | none => exact ih
      | some name =>
          cases name with
          | none => exact ih
          | some name =>
              exact Respects.ite ((rbusSet_outside (hE j)).bind fun _ => Respects.pure) ih

theorem updateVirtualInterface_outside (interfaceName : CharBuf) {isUp : Bool}
    (hE : ∀ i j ok, E (.rbusSet (.virtualInterfaceEnable i j) (.boolean isUp) ok)) :
    Respects R (updateVirtualInterface interfaceName isUp) := by
  refine discoverInterfaceIndex_outside.bind fun index => Respects.ite Respects.pure
    (Respects.read.bind fun _ => Respects.ite ((ask_outside _).bind fun count => ?_) Respects.pure)
  cases count with
  | none => exact Respects.pure
  | some count => exact updateFrom_outside _ (hE index) _

/-- The rbus event and then the set of the base interface. -/
theorem notifyPhyStatus_outside {phyUp : Bool} (hphy : E (.phyStatusChange phyUp))
    (hE : ∀ i ok, E (.rbusSet (.baseInterfaceStatus i) (.string (if phyUp then "Up" else "Down"))
      ok)) : Respects R (notifyPhyStatus phyUp) := by
  refine (emit_outside hphy).bind fun _ => discoverInterfaceIndex_outside.bind fun index => ?_
  refine Respects.ite Respects.pure (Respects.read.bind fun _ => Respects.ite ?_ Respects.pure)
  exact (rbusSet_outside (hE index)).bind fun _ => Respects.pure

end WanManager

/-! ### Reports -/

/-- A failure is reported as one telemetry event. -/
theorem Controller.reportFailure_outside
    (hE : ∀ sent, E (.telemetry .errorRbusPublishFailed none sent)) (rc : Int) :
    Respects R (reportFailure rc) :=
  Respects.ite (Telemetry.dispatch_outside hE) Respects.pure

/-- An alarm is raised as the event it is mapped to, or not at all. -/
theorem Telemetry.raiseAlarm_outside (hE : ∀ event sent, E (.telemetry event none sent))
    (info : AlarmInfo) : Respects R (Telemetry.raiseAlarm info) := by
  unfold Telemetry.raiseAlarm
  cases Telemetry.mapAlarm info with
  | none => exact Respects.pure
  | some event => exact Telemetry.dispatch_outside (hE event)

/-! ### PSM -/

/-- A record is read, and nothing is stored by it. -/
theorem Psm.getString_outside (param : String) (size : Nat) :
    Respects R (Psm.getString param size) :=
  Respects.read.bind fun _ => Respects.ite ((ask_outside _).bind fun _ =>
    Respects.read.bind fun _ => Respects.ite Respects.pure Respects.pure) Respects.pure

/-- The configuration is loaded with nothing changed but its own value. -/
theorem Persistence.load_outside (config : Persistence) : Respects R config.load :=
  ((Psm.getString_outside _ _).bind fun _ => Respects.pure).bind fun _ =>
    ((Psm.getString_outside _ _).bind fun _ => Respects.pure).bind fun _ =>
    ((Psm.getString_outside _ _).bind fun _ => Respects.pure).bind fun _ =>
    ((Psm.getString_outside _ _).bind fun _ => Respects.pure).bind fun _ => Respects.pure

end Reports

/-! ### Table rows -/

section ReportsRows

variable {R : World → World → Prop} [hR : ReportsRows R E]
include hR

theorem Data.lock_outside : Respects R Data.lock :=
  Respects.read.bind fun _ => Respects.ite (Respects.lock.bind fun _ => Respects.pure) Respects.pure

theorem Data.unlock_outside : Respects R Data.unlock :=
  Respects.read.bind fun _ => Respects.ite Respects.unlock Respects.pure

theorem Data.getAtIndex_outside (entry : Data → UInt32 → Option α) (index : UInt32) :
    Respects R (Data.getAtIndex entry index) :=
  Respects.lock.bind fun _ => Respects.read.bind fun _ => Respects.unlock.bind fun _ =>
    Respects.pure

namespace Tr181

/-- What a sync changes is the table of rows, and what it does is register rows. -/
theorem syncTable_outside {table : Table} (hE : ∀ i ok, E (.registerRow table i ok))
    (count : Data → UInt32) {atIndex : UInt32 → M (Option α)} (record : α → Nat → Tr181 → Tr181)
    (hat : ∀ i, Respects R (atIndex i)) :
    Respects R (syncTable table count atIndex record) := by
  refine Respects.read.bind fun _ => Respects.ite (Data.lock_outside.bind fun _ => ?_) Respects.pure
  refine Respects.ite (Respects.read.bind fun _ => Respects.bind (Respects.forEach fun i => ?_)
    fun _ => Data.unlock_outside.bind fun _ => Respects.pure) Respects.pure
  refine Respects.read.bind fun _ => Respects.ite Respects.pure ((hat _).bind fun info => ?_)
  cases info with
  | none => exact Respects.pure
  | some info =>
      refine (ask_outside _).bind fun ok => (emit_outside (hE _ ok)).bind fun _ =>
        Respects.ite (Respects.write ?_) Respects.pure
      exact fun w => ReportsRows.tr181 w _

theorem syncLlidTable_outside (hE : ∀ i ok, E (.registerRow .llid i ok)) :
    Respects R syncLlidTable :=
  syncTable_outside hE _ _ (fun _ => Data.getAtIndex_outside _ _)

theorem syncCpeTable_outside (hE : ∀ i ok, E (.registerRow .cpe i ok)) :
    Respects R syncCpeTable :=
  syncTable_outside hE _ _ (fun _ => Data.getAtIndex_outside _ _)

theorem syncVeipTable_outside (hE : ∀ i ok, E (.registerRow .veip i ok)) :
    Respects R syncVeipTable :=
  syncTable_outside hE _ _ (fun _ => Data.getAtIndex_outside _ _)

end Tr181

end ReportsRows

end EponManager
