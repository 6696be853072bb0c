import EponManager.Controller.InterfaceStatus

/-!
# The PHY status that WanManager was sent last

The interface list has two writers: interface events and the refresh from the HAL. Only the events
notify WanManager. So the status sent last is that of the list right after the last event, and it
agrees with the list as long as the refreshes since then have not changed whether some interface is
up.

* `WanManagerAnswers env`: rbus and WanManager work in `env`.
* `phyRun_sent` is the invariant of all runs, `phy_status_agrees_iff` what follows for the
  agreement.
-/

namespace EponManager

open Lib
open Lib.Prog (Ensures Respects Moves)

/-- Every call to set a parameter succeeds, and WanManager has an interface for this device. -/
structure WanManagerAnswers (env : Env) : Prop where
  set : ∀ n, env.rbusSet n = true
  interface : ∃ count i, i ∈ WanManager.oneTo (WanManager.toInt count) ∧
    (∀ n, env.rbusGetUInt32 n .interfaceNumberOfEntries = some count) ∧
    ∀ n, ∃ path, env.rbusGetString n (.baseInterface i) = some (some path) ∧
      cstr path = WanManager.baseInterfacePath

/-! ### Notifying -/

namespace WanManager

variable {env : Env} {rbus : Bool} {l : InterfaceList} {rs : List PhyReport}

theorem oneTo_pos {n i : Int} (h : i ∈ oneTo n) : 0 < i := by
  obtain ⟨k, -, rfl⟩ := List.mem_map.mp h
  show (0 : Int) < (k : Int) + 1
  omega

/-- The search loop finds an interface if one of those it has left is the right one. -/
theorem discoverFrom_pos {i : Int} (hi : ∀ n, ∃ path,
    env.rbusGetString n (.baseInterface i) = some (some path) ∧ cstr path = baseInterfacePath)
    {is : List Int} (hmem : i ∈ is) (hpos : ∀ j ∈ is, 0 < j) (P : World → Prop) :
    Ensures P (Prog.within env (discoverFrom is)) (fun index _ => 0 < index) := by
  induction is generalizing P with
  | nil => cases hmem
  | cons j js ih =>
      have hrest (hne : i ∈ js) (P' : World → Prop) :
          Ensures P' (Prog.within env (discoverFrom js)) (fun index _ => 0 < index) :=
        ih hne (fun k hk => hpos k (List.mem_cons_of_mem _ hk)) P'
      have hanswer : Ensures P (Prog.within env (ask fun env n => env.rbusGetString n
          (.baseInterface j))) (fun answer _ => ∃ n, answer = env.rbusGetString n
            (.baseInterface j)) :=
        Ensures.within_call fun w _ => ⟨w.tick, rfl⟩
      refine Ensures.within_bind hanswer fun answer => Ensures.conseq
        (P := fun _ => (∃ n, answer = env.rbusGetString n (.baseInterface j)) ∧ True)
        (Ensures.of_and fun hn => ?_) (fun _ hw => ⟨hw, trivial⟩) (fun _ _ h => h)
      obtain ⟨n, rfl⟩ := hn
      by_cases hij : i = j
      · -- this is the one
        subst hij
        obtain ⟨path, hpath, heq⟩ := hi n
        rw [hpath]
        refine Ensures.within_ite (fun _ => ?_) (fun hne => absurd heq hne)
        exact Ensures.within ((Ensures.write (Q := fun _ _ => True) fun _ _ => trivial).bind
          fun _ => Ensures.pure fun _ _ => hpos i List.mem_cons_self) env
      · have hmem' : i ∈ js := (List.mem_cons.mp hmem).resolve_left hij
        cases env.rbusGetString n (.baseInterface j) with
        | none => exact hrest hmem' _
        | some path =>
            cases path with
            | none => exact hrest hmem' _
            | some path =>
                refine Ensures.within_ite (fun _ => ?_) (fun _ => hrest hmem' _)
                exact Ensures.within ((Ensures.write (Q := fun _ _ => True) fun _ _ =>
                  trivial).bind fun _ => Ensures.pure fun _ _ => hpos j List.mem_cons_self) env

/-- When WanManager answers, the interface is found. -/
theorem discoverInterfaceIndex_pos (henv : WanManagerAnswers env) :
    Ensures (fun w => w.rbusInitialized = true) (Prog.within env discoverInterfaceIndex)
      (fun index _ => 0 < index) := by
  obtain ⟨count, i, hmem, hcount, hi⟩ := henv.interface
  refine Ensures.within_bind (Q := fun _ w => w.rbusInitialized = true)
    (Ensures.within (Ensures.read ?_) env) fun index => ?_
  · exact fun _ hw => hw
  refine Ensures.within_ite (fun hpos => (Ensures.pure fun _ _ => hpos).within env) fun _ => ?_
  refine Ensures.within_bind (Q := fun handle _ => handle = true ∧ True)
    ((Ensures.read fun _ hw => ⟨hw, trivial⟩).within env) fun handle =>
      Ensures.of_and fun hset => ?_
  refine Ensures.within_ite (fun _ => ?_) (fun hno => absurd hset hno)
  refine Ensures.within_bind (Q := fun answer _ => answer = some count ∧ True)
    (Ensures.within_call fun w _ => ⟨hcount w.tick, trivial⟩) fun answer =>
    Ensures.of_and fun hanswer => ?_
  rw [hanswer]
  exact discoverFrom_pos hi hmem (fun j hj => oneTo_pos hj) _

end WanManager

/-- If rbus works, WanManager is sent every status it is notified of. -/
theorem notifyPhyStatus_sends {env : Env} (henv : WanManagerAnswers env) :
    NotifySends env true (fun up sent => sent = [.sent (phyValue up) true]) := by
  intro up l rs
  have hdiscover : Ensures (Reported true l (rs ++ [.notified up]))
      (Prog.within env WanManager.discoverInterfaceIndex)
      (fun index w => 0 < index ∧ Reported true l (rs ++ [.notified up]) w) :=
    ((WanManager.discoverInterfaceIndex_pos henv).conseq (fun _ hw => hw.rbus)
      (fun _ _ h => h)).and ((reported_frame WanManager.discoverInterfaceIndex_outside).within env)
  refine ((reported_emit rfl).within env).within_bind fun _ => hdiscover.within_bind fun index =>
    Ensures.of_and fun hpos => Ensures.within_ite (fun hneg => absurd hneg (by omega)) fun _ => ?_
  refine Ensures.within_bind (Q := fun handle w => handle = true ∧
    Reported true l (rs ++ [.notified up]) w)
    ((Ensures.read fun _ hw => ⟨hw.rbus, hw⟩).within env) fun handle =>
    Ensures.of_and fun hset => Ensures.within_ite (fun _ => ?_) (fun hno => absurd hset hno)
  refine Ensures.within_bind (Q := fun _ =>
    Reported true l (rs ++ [.notified up] ++ [.sent (phyValue up) true])) ?_ fun _ =>
    (Ensures.pure fun _ hw => ?_).within env
  · refine Ensures.within_bind (Q := fun ok w => ok = true ∧
      Reported true l (rs ++ [.notified up]) w) ?_ fun ok => Ensures.of_and fun hok => ?_
    · exact Ensures.within_call fun w hw => ⟨henv.set w.tick, hw.rbus, hw.list, hw.reports⟩
    · subst hok
      refine Ensures.within (Ensures.bind (reported_emit (r := .sent (phyValue up) true) ?_)
        fun _ => Ensures.pure ?_) env
      · rfl
      · exact fun _ hw => hw
  · refine ⟨[.sent (phyValue up) true], rfl, ?_⟩
    rw [List.append_assoc] at hw
    exact hw

/-! ### Refreshing -/

/-- A refresh may replace the list, and says nothing about the PHY. -/
theorem getInterfaceList_reported {rbus : Bool} {l : InterfaceList} {rs : List PhyReport} :
    Ensures (Reported rbus l rs) Data.getInterfaceList
      (fun _ w => ∃ l', Reported rbus l' rs w) := by
  refine Ensures.lock.bind fun _ => Ensures.bind (Ensures.read fun _ hw => hw) fun before =>
    (reported_frame (ask_outside _)).bind fun answer => ?_
  refine Ensures.bind (Q := fun _ => Reported rbus answer.2 rs)
    (Ensures.write fun w hw => ⟨hw.rbus, rfl, hw.reports⟩) fun _ =>
    (reported_frame (emit_outside (E := fun e => e.phyReport = none) rfl)).bind fun _ => ?_
  have hdone {found : Bool} : Ensures (Reported rbus answer.2 rs) (do
      Prog.unlock .data
      return found : M Bool) (fun _ w => ∃ l', Reported rbus l' rs w) :=
    Ensures.unlock.bind fun _ => Ensures.pure fun _ hw => ⟨_, hw⟩
  refine Ensures.ite (fun _ => ?_) (fun _ => hdone)
  refine Ensures.bind (Ensures.read fun _ hw => hw) fun _ => Ensures.ite (fun _ => ?_)
    (fun _ => hdone)
  refine Ensures.bind (reported_modify fun _ => rfl) fun _ => Ensures.unlock.bind fun _ => ?_
  exact (reported_frame (Tr181.syncVeipTable_outside fun _ _ => rfl)).bind fun _ =>
    Ensures.pure fun _ hw => ⟨_, hw⟩

/-! ### Runs -/

/-- The last PHY status that WanManager was sent. -/
def World.lastPhySent (w : World) : Option WanValue :=
  (w.phyReports.filterMap fun
    | .sent value true => some value
    | _                => none).getLast?

/-- WanManager's PHY status agrees with the interface list. -/
def PhyAgrees (w : World) : Prop :=
  if w.interfaceList.hasAnyInterfaceUp then w.lastPhySent = some (phyValue true)
  else w.lastPhySent = none ∨ w.lastPhySent = some (phyValue false)

/-- Where the controller's thread is in `process_interface_status_event`. -/
inductive EventPhase where
  | idle
  /-- the list is updated, and so is WanManager's virtual interface -/
  | stored
  /-- the list has been scanned -/
  | scanned (up : Bool)
  /-- the PHY status has been announced -/
  | announced
  deriving DecidableEq

/-- The world, what the controller's thread is doing, and the PHY status that it announced last. -/
structure PhyRun where
  world : World
  phase : EventPhase
  announced : Option Bool

/-- The steps of the controller's thread, and a refresh by another one. -/
inductive PhyStep where
  | store (info : InterfaceInfo)
  | scan
  | announce
  | sync
  | refresh

def PhyRun.step (limits : HalLimits) (env : Env) (r : PhyRun) : PhyStep → Option PhyRun
  | .store info =>
      match r.phase with
      | .idle => do
          let (_, w) ← Prog.alone (do
            Controller.storeInterface limits info
            Controller.announceInterface info) env r.world
          return { r with world := w, phase := .stored }
      | _ => none
  | .scan =>
      match r.phase with
      | .stored => some { r with phase := .scanned r.world.interfaceList.hasAnyInterfaceUp }
      | _       => none
  | .announce =>
      match r.phase with
      | .scanned up => do
          let (_, w) ← Prog.alone (Controller.announcePhy up) env r.world
          return ⟨w, .announced, some up⟩
      | _ => none
  | .sync =>
      match r.phase with
      | .announced => do
          let (_, w) ← Prog.alone Controller.syncIfCountChanged env r.world
          return { r with world := w, phase := .idle }
      | _ => none
  | .refresh => do
      let (_, w) ← Prog.alone Data.getInterfaceList env r.world
      return { r with world := w }

/-- **Refinement**: without a refresh in between, the four steps of an event are
`process_interface_status_event`. -/
theorem PhyRun.steps_eq (limits : HalLimits) (env : Env) {w : World} (hw : Initialised w)
    (announced : Option Bool) (info : InterfaceInfo) :
    ∃ w' up, Prog.alone (Controller.processInterfaceStatusEvent limits info) env w =
        some ((), w') ∧
      exec (PhyRun.step limits env) ⟨w, .idle, announced⟩
        [.store info, .scan, .announce, .sync] = some ⟨w', .idle, some up⟩ := by
  have hstore : Moves Initialised (Controller.storeInterface limits info) (fun _ => 0)
      (fun _ => 0) (fun _ => True) := modifyData_moves _
  obtain ⟨⟨⟩, w₁, hrun₁, hw₁, -⟩ := hstore.alone hw env
  obtain ⟨⟨⟩, w₂, hrun₂, hw₂, -⟩ :=
    (Controller.announceInterface_moves (h := fun _ => 0) rfl info).alone hw₁ env
  obtain ⟨⟨⟩, w₃, hrun₃, hw₃, -⟩ := (Controller.announcePhy_moves (h := fun _ => 0) rfl
    w₂.interfaceList.hasAnyInterfaceUp).alone hw₂ env
  obtain ⟨⟨⟩, w₄, hrun₄, -, -⟩ :=
    (Controller.syncIfCountChanged_moves (h := fun _ => 0) rfl).alone hw₃ env
  -- both sides make the same four calls, and each call comes back
  refine ⟨w₄, w₂.interfaceList.hasAnyInterfaceUp, ?_, ?_⟩
  · unfold Controller.processInterfaceStatusEvent
    rw [hstore.alone_bind hw env, hrun₁, Option.bind_some,
      (Controller.announceInterface_moves rfl info).alone_bind hw₁ env, hrun₂, Option.bind_some,
      (readData_moves _).alone_bind hw₂ env]
    show Prog.alone (Controller.announcePhy w₂.interfaceList.hasAnyInterfaceUp >>= _) env w₂ = _
    rw [(Controller.announcePhy_moves rfl _).alone_bind hw₂ env, hrun₃, Option.bind_some, hrun₄]
  · have hboth : Prog.alone (do
        Controller.storeInterface limits info
        Controller.announceInterface info) env w = some ((), w₂) := by
      rw [hstore.alone_bind hw env, hrun₁, Option.bind_some, hrun₂]
    refine exec_cons_eq_some.mpr ⟨⟨w₂, .stored, announced⟩, ?_, exec_cons_eq_some.mpr
      ⟨⟨w₂, .scanned w₂.interfaceList.hasAnyInterfaceUp, announced⟩, rfl, exec_cons_eq_some.mpr
      ⟨⟨w₃, .announced, some w₂.interfaceList.hasAnyInterfaceUp⟩, ?_, exec_cons_eq_some.mpr
      ⟨⟨w₄, .idle, some w₂.interfaceList.hasAnyInterfaceUp⟩, ?_, rfl⟩⟩⟩⟩
    · exact Option.bind_eq_some_iff.mpr ⟨_, hboth, rfl⟩
    · exact Option.bind_eq_some_iff.mpr ⟨_, hrun₃, rfl⟩
    · exact Option.bind_eq_some_iff.mpr ⟨_, hrun₄, rfl⟩

/-! ### The invariant -/

/-- What was sent last is what was announced last. -/
structure PhyRun.Sent (r : PhyRun) : Prop where
  rbus : r.world.rbusInitialized = true
  sent : r.world.lastPhySent = r.announced.map phyValue

/-- What reports nothing about the PHY keeps the status sent last. -/
theorem PhyRun.Sent.of_reported {r r' : PhyRun} (hr : r.Sent) {l : InterfaceList}
    (hannounced : r'.announced = r.announced)
    (hw : Reported true l r.world.phyReports r'.world) : r'.Sent := by
  refine ⟨hw.rbus, ?_⟩
  rw [hannounced, ← hr.sent, World.lastPhySent, World.lastPhySent, hw.reports]

/-- The last status sent is the one of the last event. -/
theorem lastPhySent_of_eventReports {up : Bool} {new : List PhyReport} {w w' : World}
    (hnew : EventReports (fun up sent => sent = [.sent (phyValue up) true]) up new)
    (hw' : w'.phyReports = w.phyReports ++ new) : w'.lastPhySent = some (phyValue up) := by
  obtain ⟨_, rfl, rfl⟩ := hnew
  rw [World.lastPhySent, hw', List.filterMap_append]
  exact List.getLast?_concat

/-- **Step lemma.** -/
theorem PhyRun.Sent.step {limits : HalLimits} {env : Env} (henv : WanManagerAnswers env)
    {r r' : PhyRun} (hr : r.Sent) {a : PhyStep} (h : r.step limits env a = some r') : r'.Sent := by
  obtain ⟨w₀, phase, announced⟩ := r
  have hstart : Reported true w₀.interfaceList w₀.phyReports w₀ := ⟨hr.rbus, rfl, rfl⟩
  cases a with
  | store info =>
      cases phase with
      | idle =>
          obtain ⟨⟨_, w⟩, hrun, heq⟩ := Option.bind_eq_some_iff.mp h
          cases heq
          exact hr.of_reported rfl ((Ensures.bind (storeInterface_reported limits info _ _) fun _ =>
            announceInterface_reported info _ _).alone hstart hrun)
      | stored => cases h
      | scanned up => cases h
      | announced => cases h
  | scan =>
      cases phase with
      | stored =>
          cases h
          exact ⟨hr.rbus, hr.sent⟩
      | idle => cases h
      | scanned up => cases h
      | announced => cases h
  | announce =>
      cases phase with
      | scanned up =>
          -- the only step that sends
          obtain ⟨⟨_, w⟩, hrun, heq⟩ := Option.bind_eq_some_iff.mp h
          cases heq
          obtain ⟨new, hnew, hw⟩ := (announcePhy_ensures (notifyPhyStatus_sends henv) up _
            _).alone_within hstart hrun
          exact ⟨hw.rbus, lastPhySent_of_eventReports hnew hw.reports⟩
      | idle => cases h
      | stored => cases h
      | announced => cases h
  | sync =>
      cases phase with
      | announced =>
          obtain ⟨⟨_, w⟩, hrun, heq⟩ := Option.bind_eq_some_iff.mp h
          cases heq
          exact hr.of_reported rfl ((syncIfCountChanged_reported _ _).alone hstart hrun)
      | idle => cases h
      | stored => cases h
      | scanned up => cases h
  | refresh =>
      obtain ⟨⟨_, w⟩, hrun, heq⟩ := Option.bind_eq_some_iff.mp h
      cases heq
      obtain ⟨l', hw⟩ := getInterfaceList_reported.alone hstart hrun
      exact hr.of_reported rfl hw

/-- **Run lemma**: whatever the HAL reports and whenever, the status sent last is the one announced
last. -/
theorem phyRun_sent {limits : HalLimits} {env : Env} (henv : WanManagerAnswers env)
    {r r' : PhyRun} {as : List PhyStep} (hr : r.Sent)
    (h : exec (PhyRun.step limits env) r as = some r') : r'.Sent :=
  exec_invariant (P := PhyRun.Sent) (fun _ _ _ hr hstep => hr.step henv hstep) hr h

theorem phyValue_injective {a b : Bool} (h : phyValue a = phyValue b) : a = b := by
  revert h
  cases a <;> cases b <;> decide

/-! ### When WanManager and the list agree -/

/-- Agreement is about the aggregate alone. -/
theorem PhyRun.Sent.agrees_iff {r : PhyRun} (hr : r.Sent) :
    PhyAgrees r.world ↔ r.world.interfaceList.hasAnyInterfaceUp = r.announced.getD false := by
  rw [PhyAgrees, hr.sent]
  cases hannounced : r.announced with
  | none =>
      cases r.world.interfaceList.hasAnyInterfaceUp with
      | false => simp
      | true => simp
  | some up =>
      have hvalue (b : Bool) : some (phyValue up) = some (phyValue b) ↔ up = b :=
        ⟨fun h => phyValue_injective (Option.some.inj h), fun h => by rw [h]⟩
      cases r.world.interfaceList.hasAnyInterfaceUp with
      | false =>
          show (some (phyValue up) = none ∨ some (phyValue up) = some (phyValue false)) ↔ false = up
          rw [hvalue]
          simp [eq_comm]
      | true =>
          show some (phyValue up) = some (phyValue true) ↔ true = up
          rw [hvalue]
          exact eq_comm

/-- **When WanManager's PHY status agrees with the interface list**: in every run of events and
refreshes in which rbus works, and between events as well as in the middle of one, exactly as long
as some interface is up if and only if the scan of the event announced last found one (and none is,
if no event has been announced). -/
theorem phy_status_agrees_iff (limits : HalLimits) {env : Env} (henv : WanManagerAnswers env)
    {w₀ : World} (hrbus : w₀.rbusInitialized = true) (hnone : w₀.lastPhySent = none)
    {as : List PhyStep} {r : PhyRun}
    (h : exec (PhyRun.step limits env) ⟨w₀, .idle, none⟩ as = some r) :
    r.world.lastPhySent = r.announced.map phyValue ∧
      (PhyAgrees r.world ↔
        r.world.interfaceList.hasAnyInterfaceUp = r.announced.getD false) := by
  have hsent : r.Sent := phyRun_sent henv ⟨hrbus, hnone⟩ h
  exact ⟨hsent.sent, hsent.agrees_iff⟩

/-! ### Start-up -/

/-- The HAL reports an interface that is up, and WanManager has one interface, for this device. -/
def Env.interfaceUp : Env :=
  { Env.quiet with
    halGetInterfaceList := fun _ _ => (.success, ⟨1, fun _ => ⟨"veip0\x00".toList, .linkUp⟩⟩)
    rbusGetUInt32 := fun _ _ => some 1
    rbusGetString := fun _ _ => some (some WanManager.baseInterfacePath) }

theorem Env.interfaceUp_answers : WanManagerAnswers Env.interfaceUp :=
  ⟨fun _ => rfl, 1, 1, by decide, fun _ => rfl, fun _ =>
    ⟨WanManager.baseInterfacePath, rfl, by decide⟩⟩

/-- The interface comes up, and WanManager agrees. -/
theorem phy_status_agrees_after_event :
    ∃ w₀ r, exec (PhyRun.step HalLimits.small Env.interfaceUp) ⟨w₀, .idle, none⟩
        [.store ⟨"veip0\x00".toList, .linkUp⟩, .scan, .announce, .refresh, .sync] = some r ∧
      r.world.lastPhySent = r.announced.map phyValue ∧
      (PhyAgrees r.world ↔
        r.world.interfaceList.hasAnyInterfaceUp = r.announced.getD false) := by
  have h : ((Prog.alone (Controller.init HalLimits.small) Env.interfaceUp
      (World.boot fun _ => none)).bind fun a =>
      (exec (PhyRun.step HalLimits.small Env.interfaceUp) ⟨a.2, .idle, none⟩
        [.store ⟨"veip0\x00".toList, .linkUp⟩, .scan, .announce, .refresh, .sync]).map fun _ =>
      (a.1, a.2.rbusInitialized, a.2.lastPhySent)) = some (true, true, none) := by
    decide +kernel
  simp only [Option.bind_eq_some_iff, Option.map_eq_some_iff] at h
  obtain ⟨⟨ok, w₀⟩, -, r, hrun, heq⟩ := h
  simp only [Prod.mk.injEq] at heq
  obtain ⟨-, hrbus, hnone⟩ := heq
  exact ⟨w₀, r, hrun, phy_status_agrees_iff HalLimits.small Env.interfaceUp_answers hrbus hnone
    hrun⟩

/-- The poller's first refresh after start-up finds the interface up, and WanManager is not told. -/
theorem refresh_not_announced :
    ∃ w₀ r, Prog.alone (Controller.init HalLimits.small) Env.interfaceUp
        (World.boot fun _ => none) = some (true, w₀) ∧
      WanManagerAnswers Env.interfaceUp ∧
      exec (PhyRun.step HalLimits.small Env.interfaceUp) ⟨w₀, .idle, none⟩ [.refresh] = some r ∧
      r.phase = .idle ∧
      ¬ PhyAgrees r.world := by
  have h : ((Prog.alone (Controller.init HalLimits.small) Env.interfaceUp
      (World.boot fun _ => none)).bind fun a =>
      (exec (PhyRun.step HalLimits.small Env.interfaceUp) ⟨a.2, .idle, none⟩
        [.refresh]).map fun r =>
      (a.1, decide (r.phase = .idle), r.world.interfaceList.hasAnyInterfaceUp,
        r.world.lastPhySent)) = some (true, true, true, none) := by
    decide +kernel
  simp only [Option.bind_eq_some_iff, Option.map_eq_some_iff] at h
  obtain ⟨⟨ok, w₀⟩, hinit, r, hrun, heq⟩ := h
  simp only [Prod.mk.injEq] at heq
  obtain ⟨rfl, hidle, hup, hsent⟩ := heq
  refine ⟨w₀, r, hinit, Env.interfaceUp_answers, hrun, of_decide_eq_true hidle, ?_⟩
  rw [PhyAgrees, hup, hsent]
  simp

end EponManager
