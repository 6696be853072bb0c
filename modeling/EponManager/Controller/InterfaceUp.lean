import EponManager.Controller.PhyStatus
import EponManager.VirtualInterface

/-!
# An interface that comes up and the PHY status

For one interface event, `process_interface_status_event` tells WanManager two things: whether that
interface is enabled, by the event itself, and whether the PHY is up, by the list after the event
has been stored. The two disagree when the list had no place for the event.

* `ReadyIfSet` is what the first step leaves for the second: if the interface was enabled, the
  WanManager index is known, so the PHY status is sent.
* `hasAnyInterfaceUp_update` says what the list makes of an event that an interface is up.
* `interface_up_reports_phy_up_iff` puts the two together.
-/

namespace EponManager

open Lib
open Lib.Prog (Ensures Respects)

/-- WanManager is told that an interface is enabled. -/
def Effect.enables : Effect → Bool
  | .rbusSet (.virtualInterfaceEnable _ _) (.boolean true) _ => true
  | _                                                        => false

/-- WanManager is told this PHY status. -/
def Effect.sendsPhy (up : Bool) (e : Effect) : Prop :=
  ∃ ok, e.phyReport = some (.sent (phyValue up) ok)

/-- WanManager's interface index is known, and rbus is open. -/
structure WanReady (w : World) : Prop where
  index : 0 < w.wanmanagerIfIndex
  rbus : w.rbusInitialized = true

/-- The trace has been extended since it was `before`, and the extension is in `S`. -/
def Since (before : List Effect) (S : List Effect → World → Prop) (w : World) : Prop :=
  ∃ new, w.trace = before ++ new ∧ S new w

/-- If an interface was enabled, the PHY status can be sent. -/
def ReadyIfSet (new : List Effect) (w : World) : Prop := (∃ e ∈ new, e.enables) → WanReady w

/-- If an interface was enabled, this PHY status was sent. -/
def PhyIfSet (up : Bool) (new : List Effect) (_ : World) : Prop :=
  (∃ e ∈ new, e.enables) → ∃ e ∈ new, e.sendsPhy up

/-! ### The list -/

namespace InterfaceList

variable {limits : HalLimits} {l : InterfaceList} {info : InterfaceInfo}

/-- An event that an interface is up makes the list say so, unless it finds no place there. -/
theorem hasAnyInterfaceUp_update (hup : info.status = .linkUp) :
    (l.update limits info).hasAnyInterfaceUp = true ↔
      (l.find limits info.name).isSome ∨ l.interfaceCount < limits.maxInterfaces ∨
        l.hasAnyInterfaceUp = true := by
  rw [update]
  cases hfind : l.find limits info.name with
  | some i =>
      refine iff_of_true (hasAnyInterfaceUp_iff.mpr ⟨info, ?_, hup⟩) (.inl rfl)
      exact mem_entries.mpr ⟨i, (find_eq_some hfind).1, Function.update_self ..⟩
  | none =>
      show (if l.interfaceCount < limits.maxInterfaces then _ else l).hasAnyInterfaceUp = true ↔ _
      by_cases hspace : l.interfaceCount < limits.maxInterfaces
      · rw [if_pos hspace]
        refine iff_of_true (hasAnyInterfaceUp_iff.mpr ⟨info, ?_, hup⟩) (.inr (.inl hspace))
        rw [append_entries l info (count_succ hspace)]
        simp
      · rw [if_neg hspace]
        simp [hspace]

end InterfaceList

/-! ### Enabling the interface

The trace is compared with the one before the event. Only a set that enables a virtual interface
matters; every other effect is passed over.
-/

section Enable

variable {before : List Effect}

/-- A property of the new effects and of the memory, carried over one more effect. -/
theorem Since.emit {S : List Effect → World → Prop} {e : Effect}
    (h : ∀ new w, S new w → S (new ++ [e]) { w with trace := w.trace ++ [e] }) :
    Ensures (Since before S) (emit e) (fun _ => Since before S) := by
  refine Ensures.write fun w ⟨new, htrace, hS⟩ => ⟨new ++ [e], ?_, h new w hS⟩
  show w.trace ++ [e] = _
  rw [htrace, List.append_assoc]

/-- Effects that enable nothing can be left out. -/
theorem exists_enables_append {new l : List Effect} (hl : ∀ e ∈ l, e.enables = false) :
    (∃ e ∈ new ++ l, e.enables) ↔ ∃ e ∈ new, e.enables := by
  constructor
  · rintro ⟨e, he, hen⟩
    rcases List.mem_append.mp he with he | he
    · exact ⟨e, he, hen⟩
    · rw [hl e he] at hen
      cases hen
  · rintro ⟨e, he, hen⟩
    exact ⟨e, List.mem_append_left _ he, hen⟩

theorem emit_readyIfSet {e : Effect} (he : e.enables = false) :
    Ensures (Since before ReadyIfSet) (emit e) (fun _ => Since before ReadyIfSet) := by
  refine Since.emit fun new w hw hset => ?_
  have hready := hw ((exists_enables_append (by simpa using he)).mp hset)
  exact ⟨hready.index, hready.rbus⟩

theorem ask_readyIfSet {α : Type} (q : Env → Nat → α) :
    Ensures (Since before ReadyIfSet) (ask q) (fun _ => Since before ReadyIfSet) := by
  refine Ensures.call fun env w ⟨new, htrace, hw⟩ => ⟨new, htrace, fun hset => ?_⟩
  exact ⟨(hw hset).index, (hw hset).rbus⟩

theorem dispatch_readyIfSet (event : TelemetryEvent) (ifname : Option CharBuf) :
    Ensures (Since before ReadyIfSet) (Telemetry.dispatch event ifname)
      (fun _ => Since before ReadyIfSet) :=
  Ensures.lock.bind fun _ => Ensures.bind (Q := fun _ => Since before ReadyIfSet)
    (Ensures.read fun _ hw => hw) fun _ => Ensures.unlock.bind fun _ => emit_readyIfSet rfl

namespace WanManager

/-- An index that is found is stored. -/
theorem discoverFrom_readyIfSet {is : List Int} (hpos : ∀ i ∈ is, 0 < i) :
    Ensures (Since before ReadyIfSet) (discoverFrom is)
      (fun index w => (0 ≤ index → 0 < w.wanmanagerIfIndex) ∧ Since before ReadyIfSet w) := by
  induction is with
  | nil => exact Ensures.pure fun _ hw => ⟨fun h => absurd h (by decide), hw⟩
  | cons i is ih =>
      have hrest := ih fun j hj => hpos j (List.mem_cons_of_mem _ hj)
      have hi := hpos i List.mem_cons_self
      refine (ask_readyIfSet _).bind fun baseIf => ?_
      rcases baseIf with _ | _ | path
      · exact hrest
      · exact hrest
      · refine Ensures.ite (fun _ => ?_) fun _ => hrest
        refine Ensures.bind (Q := fun _ w => 0 < w.wanmanagerIfIndex ∧ Since before ReadyIfSet w)
          (Ensures.write fun w hw => ⟨hi, ?_⟩) fun _ =>
            Ensures.pure fun _ hw => ⟨fun _ => hw.1, hw.2⟩
        obtain ⟨new, htrace, hw⟩ := hw
        exact ⟨new, htrace, fun hset => ⟨hi, (hw hset).rbus⟩⟩

/-! ### The index of the WAN interface

The set needs the index, and the index stays once it is found. So the PHY status, which comes later,
finds it too.
-/

/-- An index that is returned is stored. -/
theorem discoverInterfaceIndex_readyIfSet :
    Ensures (Since before ReadyIfSet) discoverInterfaceIndex
      (fun index w => (0 ≤ index → 0 < w.wanmanagerIfIndex) ∧ Since before ReadyIfSet w) := by
  have hfail : Ensures (Since before ReadyIfSet) (pure (-1) : M Int)
      (fun index w => (0 ≤ index → 0 < w.wanmanagerIfIndex) ∧ Since before ReadyIfSet w) :=
    Ensures.pure fun _ hw => ⟨fun h => absurd h (by decide), hw⟩
  refine Ensures.bind (Q := fun index w => index = w.wanmanagerIfIndex ∧ Since before ReadyIfSet w)
    (Ensures.read fun _ hw => ⟨rfl, hw⟩) fun index => Ensures.ite (fun hpos => ?_) fun _ => ?_
  · exact Ensures.pure fun _ hw => ⟨fun _ => hw.1 ▸ hpos, hw.2⟩
  · refine Ensures.bind (Q := fun _ => Since before ReadyIfSet)
      (Ensures.read fun _ hw => hw.2) fun handle => Ensures.ite (fun _ => ?_) fun _ => hfail
    refine (ask_readyIfSet _).bind fun count => ?_
    cases count with
    | none => exact hfail
    | some count => exact discoverFrom_readyIfSet fun i hi => oneTo_pos hi

/-- When a row is set, everything that the PHY status needs is there. -/
theorem updateFrom_readyIfSet (index : Int) (name : CharBuf) (isUp : Bool) (js : List Int) :
    Ensures (fun w => WanReady w ∧ Since before (fun _ _ => True) w)
      (updateFrom index name isUp js) (fun _ => Since before ReadyIfSet) := by
  have hdone (ret : Int) : Ensures (fun w => WanReady w ∧ Since before (fun _ _ => True) w)
      (pure ret : M Int) (fun _ => Since before ReadyIfSet) :=
    Ensures.pure fun w ⟨hw, new, htrace, _⟩ => ⟨new, htrace, fun _ => hw⟩
  have hask {α : Type} (q : Env → Nat → α) :
      Ensures (fun w => WanReady w ∧ Since before (fun _ _ => True) w) (ask q)
        (fun _ w => WanReady w ∧ Since before (fun _ _ => True) w) :=
    Ensures.call fun _ _ hw => ⟨⟨hw.1.index, hw.1.rbus⟩, hw.2⟩
  induction js with
  | nil => exact hdone (-1)
  | cons j js ih =>
      refine (hask _).bind fun answer => ?_
      rcases answer with _ | _ | buf
      · exact ih
      · exact ih
      · refine Ensures.ite (fun _ => Ensures.bind ?_ fun ok => hdone _) fun _ => ih
        refine (hask _).bind fun ok => Ensures.bind
          (Q := fun _ w => WanReady w ∧ Since before (fun _ _ => True) w) ?_ fun _ =>
          Ensures.pure fun _ hw => hw
        refine Ensures.write fun w ⟨hw, new, htrace, _⟩ => ⟨⟨hw.index, hw.rbus⟩,
          new ++ [.rbusSet (.virtualInterfaceEnable index j) (.boolean isUp) ok], ?_, trivial⟩
        rw [← List.append_assoc, ← htrace]

/-- The interface is enabled only behind an index that was found. -/
theorem updateVirtualInterface_readyIfSet (name : CharBuf) (isUp : Bool) :
    Ensures (Since before ReadyIfSet) (updateVirtualInterface name isUp)
      (fun _ => Since before ReadyIfSet) := by
  refine discoverInterfaceIndex_readyIfSet.bind fun index => Ensures.ite
    (fun _ => Ensures.pure fun _ hw => hw.2) fun hindex => ?_
  refine Ensures.bind (Q := fun handle w => (handle = true → WanReady w) ∧
    Since before ReadyIfSet w) (Ensures.read fun w hw => ⟨fun h => ⟨hw.1 (by omega), h⟩, hw.2⟩)
    fun handle => Ensures.ite (fun hset => ?_) fun _ => Ensures.pure fun _ hw => hw.2
  refine Ensures.bind (Q := fun _ w => WanReady w ∧ Since before (fun _ _ => True) w)
    (Ensures.call fun _ w hw => ?_) fun count => ?_
  · obtain ⟨new, htrace, -⟩ := hw.2
    exact ⟨⟨(hw.1 hset).index, (hw.1 hset).rbus⟩, new, htrace, trivial⟩
  · cases count with
    | none => exact Ensures.pure fun w ⟨hw, new, htrace, _⟩ => ⟨new, htrace, fun _ => hw⟩
    | some count => exact updateFrom_readyIfSet _ _ _ _

end WanManager

/-- The reports that follow the set change nothing of it. -/
theorem announceInterface_readyIfSet (info : InterfaceInfo) :
    Ensures (Since before ReadyIfSet) (Controller.announceInterface info)
      (fun _ => Since before ReadyIfSet) :=
  (WanManager.updateVirtualInterface_readyIfSet _ _).bind fun _ =>
    (Ensures.ite (fun _ => dispatch_readyIfSet _ _) (fun _ => Ensures.pure fun _ hw => hw)).bind
      fun _ => dispatch_readyIfSet _ _

/-! ### Sending the PHY status -/

/-- Everything that follows the PHY status. -/
theorem phyIfSet_frame {α : Type} {f : M α} {up : Bool}
    (hf : Respects (Outside (fun e => e.enables = false)) f) :
    Ensures (Since before (PhyIfSet up)) f (fun _ => Since before (PhyIfSet up)) := by
  refine hf.ensures fun w w' hout ⟨new, htrace, hw⟩ => ?_
  obtain ⟨l, hl, hno⟩ := hout.trace
  refine ⟨new ++ l, by rw [hl, htrace, List.append_assoc], fun hset => ?_⟩
  obtain ⟨e, he, hsends⟩ := hw ((exists_enables_append hno).mp hset)
  exact ⟨e, List.mem_append_left _ he, hsends⟩

/-- With the index known and rbus open, nothing keeps the status from being sent. -/
theorem WanManager.notifyPhyStatus_run {env : Env} {s : LockState MutexId World}
    (hready : WanReady s.mem) (up : Bool) :
    WanManager.notifyPhyStatus up env s = .ok (if env.rbusSet s.mem.tick then 0 else -1,
      { s with mem := { s.mem with
          tick := s.mem.tick + 1
          trace := s.mem.trace ++ [.phyStatusChange up] ++ [.rbusSet
            (.baseInterfaceStatus s.mem.wanmanagerIfIndex) (phyValue up)
            (env.rbusSet s.mem.tick)] } }) := by
  obtain ⟨v, hv⟩ : ∃ v : LockState MutexId World, v = { s with mem := { s.mem with
      trace := s.mem.trace ++ [.phyStatusChange up] } } := ⟨_, rfl⟩
  have hindex : v.mem.wanmanagerIfIndex = s.mem.wanmanagerIfIndex := by rw [hv]
  have hrbus : v.mem.rbusInitialized = true := by rw [hv]; exact hready.rbus
  have hpos := hready.index
  have hemit : emit (.phyStatusChange up) env s = .ok ((), v) := by rw [hv]; rfl
  have hread : Prog.read World.wanmanagerIfIndex env v = .ok (v.mem.wanmanagerIfIndex, v) := rfl
  have hdiscover : discoverInterfaceIndex env v = .ok (v.mem.wanmanagerIfIndex, v) := by
    rw [discoverInterfaceIndex, Prog.bind_of_ok hread, if_pos (hindex ▸ hpos)]
    rfl
  have hhandle : Prog.read World.rbusInitialized env v = .ok (v.mem.rbusInitialized, v) := rfl
  rw [notifyPhyStatus, Prog.bind_of_ok hemit, Prog.bind_of_ok hdiscover, if_neg (by omega),
    Prog.bind_of_ok hhandle, if_pos hrbus, hv]
  rfl

/-- **The PHY status is sent wherever an interface was enabled before.** -/
theorem notifyPhyStatus_phyIfSet (up : Bool) :
    Ensures (Since before ReadyIfSet) (WanManager.notifyPhyStatus up)
      (fun _ => Since before (PhyIfSet up)) := by
  rintro env s ret t ⟨new, htrace, hready⟩ hrun
  by_cases hset : ∃ e ∈ new, e.enables
  · rw [WanManager.notifyPhyStatus_run (hready hset)] at hrun
    cases hrun
    refine ⟨new ++ [.phyStatusChange up] ++ [.rbusSet (.baseInterfaceStatus
      s.mem.wanmanagerIfIndex) (phyValue up) (env.rbusSet s.mem.tick)], ?_, fun _ => ⟨_,
      List.mem_append_right _ List.mem_cons_self, env.rbusSet s.mem.tick, rfl⟩⟩
    simp only [htrace, List.append_assoc]
  · -- nothing was enabled, and nothing is now
    have hframe : Respects (Outside (fun e => e.enables = false)) (WanManager.notifyPhyStatus up) :=
      WanManager.notifyPhyStatus_outside (E := fun e => e.enables = false) rfl fun _ _ => rfl
    obtain ⟨l, hl, hno⟩ := (hframe env s ret t hrun).trace
    refine ⟨new ++ l, by rw [hl, htrace, List.append_assoc], fun hset' => ?_⟩
    exact absurd ((exists_enables_append hno).mp hset') hset

theorem reportFailure_phyIfSet {up : Bool} (rc : Int) :
    Ensures (Since before (PhyIfSet up)) (Controller.reportFailure rc)
      (fun _ => Since before (PhyIfSet up)) :=
  phyIfSet_frame (Controller.reportFailure_outside (fun _ => rfl) rc)

theorem announcePhy_phyIfSet (up : Bool) :
    Ensures (Since before ReadyIfSet) (Controller.announcePhy up)
      (fun _ => Since before (PhyIfSet up)) :=
  (notifyPhyStatus_phyIfSet up).bind fun rc => (reportFailure_phyIfSet rc).bind fun _ =>
    phyIfSet_frame (Telemetry.dispatch_outside fun _ => rfl)

/-- The rows that a longer list brings come after all of it. -/
theorem syncIfCountChanged_phyIfSet {up : Bool} :
    Ensures (Since before (PhyIfSet up)) Controller.syncIfCountChanged
      (fun _ => Since before (PhyIfSet up)) := by
  refine Ensures.bind (Ensures.read fun _ hw => hw) fun _ => Ensures.ite (fun _ => ?_)
    (fun _ => Ensures.pure fun _ hw => hw)
  exact (phyIfSet_frame (Tr181.syncVeipTable_outside fun _ _ => rfl)).bind fun rc =>
    (reportFailure_phyIfSet rc).bind fun _ => Ensures.write fun _ hw => hw

end Enable

/-! ### The event -/

/-- One event: if the interface was enabled, some PHY status was sent. -/
theorem processInterfaceStatusEvent_phyIfSet (limits : HalLimits) (info : InterfaceInfo)
    (before : List Effect) :
    Ensures (fun w => w.trace = before) (Controller.processInterfaceStatusEvent limits info)
      (fun _ w => ∃ up, Since before (PhyIfSet up) w) := by
  have hstore : Ensures (fun w => w.trace = before) (Controller.storeInterface limits info)
      (fun _ => Since before ReadyIfSet) := by
    unfold Controller.storeInterface modifyData
    exact Ensures.write fun w hw => ⟨[], by simpa using hw, by simp [ReadyIfSet]⟩
  refine hstore.bind fun _ => (announceInterface_readyIfSet info).bind fun _ => ?_
  refine Ensures.bind (Q := fun _ => Since before ReadyIfSet) (Ensures.read fun _ hw => hw)
    fun up => (announcePhy_phyIfSet up).bind fun _ => ?_
  exact syncIfCountChanged_phyIfSet.conseq (fun _ hw => hw) fun _ _ hw => ⟨up, hw⟩

/-- **When an interface that is up comes with the PHY up**: whatever rbus answers, if the processing
of an event that an interface is up enables that interface at WanManager, then it sends the PHY
status `Up` if and only if the interface is in the list already, or the list has space for it, or
another interface of the list is up. -/
theorem interface_up_reports_phy_up_iff {w : World} (hw : Initialised w) (limits : HalLimits)
    (env : Env) {info : InterfaceInfo} (hup : info.status = .linkUp) :
    ∃ w' new, Prog.alone (Controller.processInterfaceStatusEvent limits info) env w =
        some ((), w') ∧ w'.trace = w.trace ++ new ∧
      ((∃ e ∈ new, e.enables) → ((∃ e ∈ new, e.sendsPhy true) ↔
        (w.interfaceList.find limits info.name).isSome ∨
          w.interfaceList.interfaceCount < limits.maxInterfaces ∨
          w.interfaceList.hasAnyInterfaceUp = true)) := by
  obtain ⟨⟨⟩, w', hrun, -, -⟩ := (Controller.processInterfaceStatusEvent_moves
    (h := fun _ => 0) (fun _ _ => rfl) limits info).alone hw env
  obtain ⟨reports, ⟨sent, hsent, rfl⟩, hw'⟩ := (processInterfaceStatusEvent_ensures
    (notifyPhyStatus_sendsOnly env w.rbusInitialized) limits info w.interfaceList
    w.phyReports).alone_within ⟨rfl, rfl, rfl⟩ hrun
  obtain ⟨up, new, htrace, hset⟩ :=
    (processInterfaceStatusEvent_phyIfSet limits info w.trace).alone rfl hrun
  refine ⟨w', new, hrun, htrace, fun henabled => ?_⟩
  -- all that is sent is what the list says
  have honly {e : Effect} (he : e ∈ new) {up : Bool} (hsends : e.sendsPhy up) :
      up = (w.interfaceList.update limits info).hasAnyInterfaceUp := by
    obtain ⟨ok, hreport⟩ := hsends
    have hreports := hw'.reports
    rw [World.phyReports, htrace, List.filterMap_append] at hreports
    have hmem := List.mem_filterMap.mpr ⟨e, he, hreport⟩
    rw [List.append_cancel_left hreports] at hmem
    rcases List.mem_append.mp hmem with hmem | hmem
    · rcases List.mem_cons.mp hmem with heq | hmem
      · cases heq
      · obtain ⟨ok', heq⟩ := hsent _ hmem
        exact phyValue_injective (PhyReport.sent.inj heq).1
    · cases List.mem_singleton.mp hmem
  rw [← InterfaceList.hasAnyInterfaceUp_update hup]
  constructor
  · rintro ⟨e, he, hsends⟩
    exact (honly he hsends).symm
  · intro hany
    obtain ⟨e, he, hsends⟩ := hset henabled
    rw [honly he hsends, hany] at hsends
    exact ⟨e, he, hsends⟩

/-- Everything is in place, and the list holds these interfaces. -/
def World.holding (l : InterfaceList) : World :=
  { World.ready with eponData := ⟨true, { Data.zero with interfaceList := l }⟩ }

theorem World.holding_initialised (l : InterfaceList) : Initialised (.holding l) :=
  ⟨rfl, rfl, rfl, rfl⟩

/-- The first interface of an empty list: it is enabled, and the PHY is up. -/
theorem interface_up_reports_phy_up_first :
    ∃ w' new, Prog.alone (Controller.processInterfaceStatusEvent .small
        ⟨"veip0\x00".toList, .linkUp⟩) (WanManager.oneInterface fun _ => true)
        (.holding ⟨0, fun _ => default⟩) = some ((), w') ∧ w'.trace = new ∧
      (∃ e ∈ new, e.enables) ∧ ∃ e ∈ new, e.sendsPhy true := by
  have hup : (⟨"veip0\x00".toList, .linkUp⟩ : InterfaceInfo).status = .linkUp := rfl
  obtain ⟨w', new, hrun, htrace, h⟩ := interface_up_reports_phy_up_iff
    (World.holding_initialised ⟨0, fun _ => default⟩) .small (WanManager.oneInterface fun _ => true)
    hup
  have hany : (Prog.alone (Controller.processInterfaceStatusEvent .small
      ⟨"veip0\x00".toList, .linkUp⟩) (WanManager.oneInterface fun _ => true)
      (.holding ⟨0, fun _ => default⟩)).map (fun a => a.2.trace.any (·.enables)) = some true := by
    decide +kernel
  rw [hrun, Option.map_some, Option.some_inj, List.any_eq_true] at hany
  have henabled : ∃ e ∈ new, e.enables := by rwa [htrace] at hany
  exact ⟨w', new, hrun, htrace, henabled, (h henabled).mpr (.inr (.inl (by decide)))⟩

/-- As many other interfaces as the list has places, all of them down. -/
def InterfaceList.fullOfDown : InterfaceList :=
  ⟨4, fun i => ⟨[i.digitChar, '\x00'], .linkDown⟩⟩

/-- The list has no place for the interface that comes up: it is enabled, and the PHY is down. -/
theorem full_list_reports_phy_down :
    ∃ w' new, Initialised (.holding .fullOfDown) ∧
      Prog.alone (Controller.processInterfaceStatusEvent .small ⟨"veip0\x00".toList, .linkUp⟩)
        (WanManager.oneInterface fun _ => true) (.holding .fullOfDown) = some ((), w') ∧
      w'.trace = (World.holding .fullOfDown).trace ++ new ∧
      (∃ e ∈ new, e.enables) ∧ (∃ e ∈ new, e.sendsPhy false) ∧ ¬ ∃ e ∈ new, e.sendsPhy true := by
  have h : (Prog.alone (Controller.processInterfaceStatusEvent .small
      ⟨"veip0\x00".toList, .linkUp⟩) (WanManager.oneInterface fun _ => true)
      (.holding .fullOfDown)).map (fun a => (a.2.trace.any (·.enables), a.2.phyReports)) =
      some (true, [.notified false, .sent (phyValue false) true, .marker false]) := by
    decide +kernel
  simp only [Option.map_eq_some_iff] at h
  obtain ⟨⟨⟨⟩, w'⟩, hrun, heq⟩ := h
  simp only [Prod.mk.injEq, List.any_eq_true] at heq
  obtain ⟨henabled, hreports⟩ := heq
  refine ⟨w', w'.trace, World.holding_initialised _, hrun, rfl, henabled, ?_, ?_⟩
  · have hmem : PhyReport.sent (phyValue false) true ∈ w'.phyReports := by rw [hreports]; simp
    obtain ⟨e, he, hsent⟩ := List.mem_filterMap.mp hmem
    exact ⟨e, he, true, hsent⟩
  · rintro ⟨e, he, ok, hsent⟩
    have hmem : PhyReport.sent (phyValue true) ok ∈ w'.phyReports :=
      List.mem_filterMap.mpr ⟨e, he, hsent⟩
    rw [hreports] at hmem
    simp [phyValue] at hmem

end EponManager
