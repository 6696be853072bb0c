import EponManager.HalMock.Replication
import EponManager.StatsCache
import EponManager.StatusChange

/-!
# What a change of the mock's statistics does

The trigger changes the mock's data with commands, repeats them, and asks at last for the caches to
be invalidated. The mock does so by reporting that the ONU deregisters and registers again.

* `Options.dataAfter` is what the options make of the mock's data: `trigger_updates`.
* `trigger_seen`: the status events do not invalidate the caches, so the manager serves what it
  cached before, for as long as it would have without the trigger.
-/

namespace EponManager.HalMock

open Lib

/-! ### Setting and adding to a counter -/

/-- A property of every branch of an update. -/
theorem of_branches {β γ : Type} {P : (β → γ → γ) → Prop} {c : Prop} [Decidable c]
    {f g : β → γ → γ} (hf : P f) (hg : P g) : P fun x s => if c then f x s else g x s := by
  by_cases hc : c
  · simpa only [if_pos hc] using hf
  · simpa only [if_neg hc] using hg

section Fields

variable (field : CharBuf)

/-- To set twice is to set once. -/
def SetsOnce {β γ : Type} (f : β → γ → γ) : Prop := ∀ x s, f x (f x s) = f x s

theorem setLinkStat_setsOnce : SetsOnce (setLinkStat field) :=
  of_branches (fun _ _ => rfl) <| of_branches (fun _ _ => rfl) <| of_branches (fun _ _ => rfl) <|
  of_branches (fun _ _ => rfl) <| of_branches (fun _ _ => rfl) <| of_branches (fun _ _ => rfl) <|
  of_branches (fun _ _ => rfl) <| of_branches (fun _ _ => rfl) (fun _ _ => rfl)

theorem setTransceiverStat_setsOnce : SetsOnce (setTransceiverStat field) :=
  of_branches (fun _ _ => rfl) <| of_branches (fun _ _ => rfl) <| of_branches (fun _ _ => rfl) <|
  of_branches (fun _ _ => rfl) <| of_branches (fun _ _ => rfl) (fun _ _ => rfl)

/-- What is added adds up, modulo 2^64. -/
structure AddsUp (f : UInt64 → LinkStats → LinkStats) : Prop where
  zero : ∀ l, f 0 l = l
  add : ∀ a b l, f b (f a l) = f (a + b) l

/-- A counter that is incremented twice is incremented by the sum. -/
theorem incrementLinkStat_addsUp : AddsUp (incrementLinkStat field) := by
  have hkeep : AddsUp fun _ l => l := ⟨fun _ => rfl, fun _ _ _ => rfl⟩
  refine of_branches ?_ <| of_branches ?_ <| of_branches ?_ <| of_branches ?_ <| of_branches ?_ <|
    of_branches ?_ hkeep
  all_goals
    refine ⟨fun l => ?_, fun a b l => ?_⟩
    · rw [UInt64.add_zero]
    · rw [UInt64.add_assoc]

variable {f : UInt64 → LinkStats → LinkStats}

/-- **An increment that is repeated** adds a multiple. -/
theorem AddsUp.iterate (hf : AddsUp f) (inc : UInt64) (n : Nat) (l : LinkStats) :
    (f inc)^[n] l = f (.ofNat n * inc) l := by
  induction n generalizing l with
  | zero => exact (hf.zero l).symm.trans (by simp)
  | succ n ih =>
      have hmul : UInt64.ofNat (n + 1) * inc = inc + .ofNat n * inc := by
        rw [UInt64.ofNat_add, UInt64.add_mul, UInt64.add_comm]
        simp
      rw [Function.iterate_succ_apply, ih, hf.add, hmul]

end Fields

/-! ### What the trigger makes of the mock's data -/

namespace Options

variable (o : Options)

/-- The field and the value of an option. -/
def fieldValue (option : Option CharBuf) : Option (CharBuf × CharBuf) :=
  option.bind (splitAtChar '=')

/-- What the options make of the interface list. -/
def interfacesAfter (limits : HalLimits) (l : InterfaceList) : InterfaceList :=
  o.interfaceChoice.elim l fun choice => (updateInterface limits choice.1 choice.2 l).getD l

/-- What the options make of the link statistics: a counter is set once, and added to as often as
the command is repeated. -/
def linkStatsAfter (l : LinkStats) : LinkStats :=
  let l := (fieldValue o.linkstats).elim l fun choice => setLinkStat choice.1 (strtoull choice.2) l
  (fieldValue o.increment).elim l fun choice =>
    incrementLinkStat choice.1 (.ofNat o.repeatCount * strtoull choice.2) l

/-- What the options make of the transceiver statistics. -/
def transceiverStatsAfter (atof : CharBuf → Float32) (t : TransceiverStats) : TransceiverStats :=
  (fieldValue o.transcvrstats).elim t fun choice => setTransceiverStat choice.1 (atof choice.2) t

/-- The mock after the trigger. -/
def stateAfter (setting : Setting) (s : State) : State :=
  { s with
    interfaceList := o.interfacesAfter setting.limits s.interfaceList
    linkStats := o.linkStatsAfter s.linkStats
    transceiverStats := o.transceiverStatsAfter setting.atof s.transceiverStats }

/-- The field and the value, if they are given, arrive. -/
def Arrives (type : String) (option : Option CharBuf) : Prop :=
  ∀ field value, fieldValue option = some (field, value) → IsField field ∧ IsField value ∧
    (command [type.toList, field, value]).length ≤ 255

/-- So do all that are given. -/
structure StatsArrive : Prop where
  linkstats : Arrives "LINKSTATS" o.linkstats
  transcvrstats : Arrives "TRANSCVRSTATS" o.transcvrstats
  increment : Arrives "INCREMENT" o.increment

/-- The utility sends at least once. -/
theorem repeatCount_pos : 0 < o.repeatCount := by
  unfold repeatCount
  split
  · exact Nat.one_pos
  · split
    · exact Nat.one_pos
    · next arg _ hlow =>
      rw [Int32.lt_iff_toInt_lt] at hlow
      have hone : (1 : Int32).toInt = 1 := by decide
      omega

end Options

section Serve

variable (setting : Setting)

/-- A command that is repeated changes the state again and again. -/
theorem serve_iterate {cmd : CharBuf} {g : State → State}
    (h : ∀ s, (receive setting cmd s).1 = g s) (n : Nat) (s : State) :
    (serve setting (List.replicate n cmd) s).1 = g^[n] s := by
  induction n generalizing s with
  | zero => rfl
  | succ n ih =>
      rw [List.replicate_succ, Function.iterate_succ_apply, ← ih (g s), ← h s]
      rfl

/-- What changes nothing when it is done again. -/
theorem iterate_of_again {α : Type} {g : α → α} (h : ∀ a, g (g a) = g a) {n : Nat} (hn : 0 < n)
    (a : α) : g^[n] a = g a := by
  induction n with
  | zero => omega
  | succ n ih =>
      rcases Nat.eq_zero_or_pos n with rfl | hpos
      · rfl
      · rw [Function.iterate_succ_apply', ih hpos, h]

variable {o : Options}

/-- The command arrives with its field and its value. -/
theorem receive_stats {type : String} {option : Option CharBuf} {field value : CharBuf}
    (htype : IsField type.toList) (harrives : Options.Arrives type option)
    (hchoice : Options.fieldValue option = some (field, value)) (s : State) :
    receive setting (statsText type field value) s =
      dispatch setting [field, value] s type.toList := by
  obtain ⟨hfield, hvalue, hlen⟩ := harrives field value hchoice
  have htext : statsText type field value =
      snprintf 256 (command [type.toList, field, value]) := by
    simp [statsText, command]
  have hfields : ∀ t ∈ [type.toList, field, value], IsField t := by
    simp only [List.mem_cons, List.not_mem_nil, or_false, forall_eq_or_imp, forall_eq]
    exact ⟨htype, hfield, hvalue⟩
  rw [htext, receive_command setting s hfields hlen]

/-! ### Each option in the mock's data -/

theorem serve_linkstats (ho : Options.Arrives "LINKSTATS" o.linkstats) (s : State) :
    (serve setting (o.statsCommands "LINKSTATS" o.linkstats) s).1 =
      { s with linkStats := (Options.fieldValue o.linkstats).elim s.linkStats fun choice =>
        setLinkStat choice.1 (strtoull choice.2) s.linkStats } := by
  unfold Options.statsCommands
  show (serve setting ((Options.fieldValue o.linkstats).elim [] _) s).1 = _
  cases hchoice : Options.fieldValue o.linkstats with
  | none => rfl
  | some choice =>
      obtain ⟨field, value⟩ := choice
      have hreceive (s : State) : (receive setting (statsText "LINKSTATS" field value) s).1 =
          { s with linkStats := setLinkStat field (strtoull value) s.linkStats } := by
        rw [receive_stats setting ⟨by decide, by decide, by decide⟩ ho hchoice,
          dispatch_linkStats]
        rfl
      refine (serve_iterate setting hreceive _ s).trans ?_
      refine iterate_of_again (fun s => ?_) o.repeatCount_pos s
      rw [setLinkStat_setsOnce]

theorem serve_transcvrstats (ho : Options.Arrives "TRANSCVRSTATS" o.transcvrstats) (s : State) :
    (serve setting (o.statsCommands "TRANSCVRSTATS" o.transcvrstats) s).1 =
      { s with
        transceiverStats := o.transceiverStatsAfter setting.atof s.transceiverStats } := by
  unfold Options.statsCommands Options.transceiverStatsAfter
  show (serve setting ((Options.fieldValue o.transcvrstats).elim [] _) s).1 = _
  cases hchoice : Options.fieldValue o.transcvrstats with
  | none => rfl
  | some choice =>
      obtain ⟨field, value⟩ := choice
      have hreceive (s : State) : (receive setting (statsText "TRANSCVRSTATS" field value) s).1 =
          { s with transceiverStats :=
            setTransceiverStat field (setting.atof value) s.transceiverStats } := by
        rw [receive_stats setting ⟨by decide, by decide, by decide⟩ ho hchoice,
          dispatch_transceiverStats]
        rfl
      refine (serve_iterate setting hreceive _ s).trans ?_
      refine iterate_of_again (fun s => ?_) o.repeatCount_pos s
      rw [setTransceiverStat_setsOnce]

/-- The counters grow, once per repetition. -/
theorem serve_increment (ho : Options.Arrives "INCREMENT" o.increment) (s : State) :
    (serve setting (o.statsCommands "INCREMENT" o.increment) s).1 =
      { s with linkStats := (Options.fieldValue o.increment).elim s.linkStats fun choice =>
        incrementLinkStat choice.1 (.ofNat o.repeatCount * strtoull choice.2) s.linkStats } := by
  unfold Options.statsCommands
  show (serve setting ((Options.fieldValue o.increment).elim [] _) s).1 = _
  cases hchoice : Options.fieldValue o.increment with
  | none => rfl
  | some choice =>
      obtain ⟨field, value⟩ := choice
      have hreceive (s : State) : (receive setting (statsText "INCREMENT" field value) s).1 =
          { s with linkStats := incrementLinkStat field (strtoull value) s.linkStats } := by
        rw [receive_stats setting ⟨by decide, by decide, by decide⟩ ho hchoice,
          dispatch_increment]
        rfl
      refine (serve_iterate setting hreceive _ s).trans ?_
      show _ = { s with linkStats := incrementLinkStat field _ s.linkStats }
      rw [← (incrementLinkStat_addsUp field).iterate]
      generalize o.repeatCount = n
      induction n generalizing s with
      | zero => rfl
      | succ n ih => rw [Function.iterate_succ_apply, ih, Function.iterate_succ_apply]

/-- A command that is repeated leaves what it leaves the first time. -/
theorem serve_replicate_state {cmd : CharBuf} {s t : State} (hfirst : (receive setting cmd s).1 = t)
    (hnext : (receive setting cmd t).1 = t) {n : Nat} (hn : 0 < n) :
    (serve setting (List.replicate n cmd) s).1 = t := by
  have hrest (n : Nat) : (serve setting (List.replicate n cmd) t).1 = t := by
    induction n with
    | zero => rfl
    | succ n ih =>
        show (serve setting (List.replicate n cmd) (receive setting cmd t).1).1 = t
        rw [hnext, ih]
  cases n with
  | zero => omega
  | succ n =>
      show (serve setting (List.replicate n cmd) (receive setting cmd s).1).1 = t
      rw [hfirst, hrest]

theorem serve_interface {s : State} (hs : Ready s) (hlen : 0 < setting.limits.interfaceNameLen)
    (hcanonical : Canonical setting.limits s.interfaceList) (ho : o.Deliverable setting s) :
    (serve setting (o.interfaceChoice.elim [] (fun choice => List.replicate o.repeatCount
      (interfaceText setting.codes choice.1 choice.2))) s).1 =
      { s with interfaceList := o.interfacesAfter setting.limits s.interfaceList } := by
  unfold Options.interfacesAfter
  cases hchoice : o.interfaceChoice with
  | none => rfl
  | some choice =>
      obtain ⟨name, status⟩ := choice
      obtain ⟨hname, hshort, hfits, haccepted⟩ := ho name status hchoice
      obtain ⟨text, -, hparse⟩ := Option.bind_eq_some_iff.mp hchoice
      have hstatus := parseInterface_isNamed hparse
      obtain ⟨l, hl⟩ := Option.isSome_iff_exists.mp haccepted
      have hl' : updateInterface setting.limits name status l = some l :=
        updateInterface_again hlen hcanonical hl (by rw [cstr_of_notMem hname.nul]; exact hshort)
      have hready : Ready { s with interfaceList := l } := ⟨hs.initialized, hs.config⟩
      have hfirst := receive_interfaceText setting hs hname hstatus hfits hl
      have hnext := receive_interfaceText setting hready hname hstatus hfits hl'
      show (serve setting (List.replicate o.repeatCount _) s).1 = { s with
        interfaceList := (updateInterface setting.limits name status s.interfaceList).getD _ }
      rw [hl]
      exact serve_replicate_state setting (congrArg Prod.fst hfirst) (congrArg Prod.fst hnext)
        o.repeatCount_pos

/-! ### All options -/

/-- The mock's data after all the commands that the options stand for. -/
theorem serve_commands (hlen : 0 < setting.limits.interfaceNameLen) {s : State} (hs : Ready s)
    (hcanonical : Canonical setting.limits s.interfaceList) (ho : o.Deliverable setting s)
    (hstats : o.StatsArrive) :
    (serve setting (o.commands setting.codes) s).1 = o.stateAfter setting s := by
  rw [Options.commands]
  simp only [serve_append, serve_statusChoice setting hs, serve_alarmChoice setting hs,
    serve_interface setting hs hlen hcanonical ho, serve_linkstats setting hstats.linkstats,
    serve_transcvrstats setting hstats.transcvrstats, serve_increment setting hstats.increment]
  split
  · -- the answer to `INVALIDATE` is two callbacks
    have hready : Ready { s with
        interfaceList := o.interfacesAfter setting.limits s.interfaceList
        linkStats := o.linkStatsAfter s.linkStats
        transceiverStats := o.transceiverStatsAfter setting.atof s.transceiverStats } :=
      ⟨hs.initialized, hs.config⟩
    exact congrArg Prod.fst (receive_invalidate setting hready)
  · rfl

/-- **What the trigger asks for is what becomes of the mock's data.** Whatever the options are, if
the utility sends its commands without an error and its fields arrive, the interface is updated, the
counters are set once and added to as often as the commands are repeated, and nothing else
changes. -/
theorem trigger_updates (hlen : 0 < setting.limits.interfaceNameLen) {answers : Nat → Bool}
    (hanswers : ∀ n, answers n = true) {sent : List CharBuf}
    (hsent : main setting.codes answers o = .ok sent) {s : State} (hs : Ready s)
    (hcanonical : Canonical setting.limits s.interfaceList) (ho : o.Deliverable setting s)
    (hstats : o.StatsArrive) : (serve setting sent s).1 = o.stateAfter setting s := by
  rw [main_eq hanswers hsent]
  exact serve_commands setting hlen hs hcanonical ho hstats

end Serve

/-- `-i veip1:down -L bytes_sent=18446744073709551615 -I bytes_sent=5 -r 3` -/
def statsOptions : Options :=
  { Options.none with
    interface := some "veip1:down".toList
    linkstats := some "bytes_sent=18446744073709551615".toList
    increment := some "bytes_sent=5".toList
    repeatArg := some "3".toList }

/-- The counter goes round. -/
theorem trigger_updates_round :
    ∃ sent, main HalCodes.small (fun _ => true) statsOptions = .ok sent ∧
      (serve Setting.small sent (init HalLimits.small ⟨true, true, true⟩ State.zero)).1 =
        statsOptions.stateAfter Setting.small (init HalLimits.small ⟨true, true, true⟩ State.zero) ∧
      (statsOptions.linkStatsAfter defaultLinkStats).bytesSent = 14 := by
  obtain ⟨sent, hsent⟩ : ∃ sent, main HalCodes.small (fun _ => true) statsOptions = .ok sent :=
    ⟨_, rfl⟩
  have hbytes : Options.fieldValue statsOptions.linkstats =
      some ("bytes_sent".toList, "18446744073709551615".toList) := by decide
  have hadded : Options.fieldValue statsOptions.increment =
      some ("bytes_sent".toList, "5".toList) := by decide
  refine ⟨sent, hsent, trigger_updates Setting.small (by decide) (fun _ => rfl) hsent ⟨rfl, rfl⟩
    ?_ (fun name status h => ?_) ⟨fun field value h => ?_, fun field value h => ?_,
      fun field value h => ?_⟩, ?_⟩
  · exact Joint.canonical_default HalLimits.small
  · have hchoice : statsOptions.interfaceChoice = some ("veip1".toList, .linkDown) := by decide
    rw [hchoice] at h
    cases h
    exact ⟨⟨by decide, by decide, by decide⟩, by decide, by decide, rfl⟩
  · rw [hbytes] at h
    cases h
    exact ⟨⟨by decide, by decide, by decide⟩, ⟨by decide, by decide, by decide⟩, by decide⟩
  · cases h
  · rw [hadded] at h
    cases h
    exact ⟨⟨by decide, by decide, by decide⟩, ⟨by decide, by decide, by decide⟩, by decide⟩
  · rw [Options.linkStatsAfter, hbytes, hadded]
    decide +kernel

/-! ### What the manager serves afterwards -/

/-- What a client sends. -/
def JointAction.sent : JointAction → Option CharBuf
  | .client sent => some sent
  | _            => none

namespace Joint

variable {cap : Nat} {setting : Setting} {s t : Joint cap}

/-- A getter of the manager, which may ask the mock for its link statistics; `rand` are the answers
of `rand()`. -/
def getLinkStats (env : Env) (rand : Nat → UInt64) (s : Joint cap) : Option (Option LinkStats) :=
  (HalMock.getLinkStats rand s.mock).bind fun (_, l) =>
    (Prog.alone Data.getLinkStats { env with halReadLinkStats := fun _ _ => (.success, l) }
      s.manager).map Prod.fst

/-- The mock changes by what its clients send, and by a factory reset. -/
theorem step_mock {a : JointAction} (hreset : a ≠ .factoryReset)
    (h : s.step setting a = some t) : t.mock = (serve setting a.sent.toList s.mock).1 := by
  cases a with
  | client sent =>
      cases h
      rfl
  | process env =>
      rw [step] at h
      split at h
      · obtain ⟨p, -, rfl⟩ := Option.map_eq_some_iff.mp h
        rfl
      · cases h
  | refresh env =>
      obtain ⟨l, -, h⟩ := Option.bind_eq_some_iff.mp h
      obtain ⟨p, -, rfl⟩ := Option.map_eq_some_iff.mp h
      rfl
  | factoryReset => exact absurd rfl hreset

/-- No step touches the cached statistics. -/
theorem step_stats {a : JointAction} (h : s.step setting a = some t) :
    t.manager.stats = s.manager.stats := by
  cases a with
  | client sent =>
      cases h
      rfl
  | process env =>
      rw [step] at h
      split at h
      · next event queue hpop =>
        obtain ⟨⟨u, manager⟩, hrun, rfl⟩ := Option.map_eq_some_iff.mp h
        exact congrArg Prod.fst
          ((Controller.processEvent_kept setting.limits event).alone hrun).caches
      · cases h
  | refresh env =>
      obtain ⟨l, -, h⟩ := Option.bind_eq_some_iff.mp h
      obtain ⟨⟨found, manager⟩, hrun, rfl⟩ := Option.map_eq_some_iff.mp h
      exact congrArg Prod.fst (Data.getInterfaceList_kept.alone hrun).caches
  | factoryReset =>
      obtain ⟨mock, -, rfl⟩ := Option.map_eq_some_iff.mp h
      rfl

/-- **Run lemma.** -/
theorem exec_mock {as : List JointAction} (hreset : ∀ a ∈ as, a ≠ .factoryReset)
    (h : exec (Joint.step setting) s as = some t) :
    t.mock = (serve setting (as.filterMap JointAction.sent) s.mock).1 ∧
      t.manager.stats = s.manager.stats := by
  induction as generalizing s with
  | nil =>
      cases h
      exact ⟨rfl, rfl⟩
  | cons a as ih =>
      obtain ⟨s₁, h₁, hrest⟩ := exec_cons_eq_some.mp h
      obtain ⟨hhead, htail⟩ := List.forall_mem_cons.mp hreset
      obtain ⟨hmock, hstats⟩ := ih htail hrest
      refine ⟨?_, hstats.trans (step_stats h₁)⟩
      have hsent : (a :: as).filterMap JointAction.sent =
          a.sent.toList ++ as.filterMap JointAction.sent := by
        rw [List.filterMap_cons]
        cases a.sent <;> rfl
      rw [hmock, step_mock hhead h₁, hsent, serve_append]

/-- The record that the mock would answer with. -/
def statsRead (rand : Nat → UInt64) (mock : State) : LinkStats :=
  if mock.linkStatsTriggered then mock.linkStats else randomLinkStats rand mock.linkStats

/-- The record in the manager's cache is still served. -/
def ServesCached (env : Env) (w : World) (tick : Nat) : Prop :=
  StatsKind.linkStats.Stored w.stats ∧
    WithinTtl w.stats.ttlSeconds w.stats.linkStats.timestamp (env.time tick)

instance (env : Env) (w : World) (tick : Nat) : Decidable (ServesCached env w tick) :=
  inferInstanceAs (Decidable (_ ∧ _))

/-- What a getter of the manager serves. -/
theorem getLinkStats_eq (hmock : t.mock.initialized = true)
    (hstats : t.manager.stats = s.manager.stats) (env : Env) (rand : Nat → UInt64) :
    t.getLinkStats env rand = some (some (
      if ServesCached env s.manager t.manager.tick then s.manager.stats.linkStats.data
      else statsRead rand t.mock)) := by
  have hread : ∃ mock, HalMock.getLinkStats rand t.mock = some (mock, statsRead rand t.mock) := by
    rw [HalMock.getLinkStats, if_pos hmock, statsRead]
    split
    · exact ⟨_, rfl⟩
    · exact ⟨_, rfl⟩
  obtain ⟨mock, hread⟩ := hread
  let asked : Env := { env with halReadLinkStats := fun _ _ => (.success, statsRead rand t.mock) }
  have hget : Prog.alone Data.getLinkStats asked t.manager =
      some (StatsKind.linkStats.get asked t.manager) :=
    StatsKind.linkStats.alone_getter asked t.manager
  rw [getLinkStats, hread, Option.bind_some]
  show (Prog.alone Data.getLinkStats asked t.manager).map Prod.fst = _
  have hiff : StatsKind.linkStats.Hit asked t.manager ↔
      ServesCached env s.manager t.manager.tick := by
    rw [StatsKind.Hit, hstats]
    rfl
  rw [hget]
  show some (StatsKind.linkStats.get asked t.manager).1 = _
  by_cases hhit : ServesCached env s.manager t.manager.tick
  · rw [if_pos hhit, StatsKind.get_hit (hiff.mpr hhit), hstats]
    rfl
  · have hmiss : ¬ StatsKind.linkStats.Hit asked t.manager := fun h => hhit (hiff.mp h)
    rw [if_neg hhit, StatsKind.get_success hmiss rfl]
    rfl

end Joint

/-! ### What is seen -/

/-- **What a client of the manager sees of the trigger's change.** However the commands of the
trigger, the processing of the events and the refreshes of the interface list follow one another, a
getter afterwards serves the record that was cached before, if its TTL has not run out, and only
otherwise the changed counters, with what the mock adds to them. The events by which the mock
invalidates the caches play no part. -/
theorem trigger_seen {setting : Setting} (hlen : 0 < setting.limits.interfaceNameLen)
    {answers : Nat → Bool} (hanswers : ∀ n, answers n = true) {o : Options} {cap : Nat}
    {s t : Joint cap} {as : List JointAction} (hreset : ∀ a ∈ as, a ≠ .factoryReset)
    (hsent : main setting.codes answers o = .ok (as.filterMap JointAction.sent))
    (hs : Ready s.mock) (hcanonical : Canonical setting.limits s.mock.interfaceList)
    (ho : o.Deliverable setting s.mock) (hstats : o.StatsArrive)
    (hrun : exec (Joint.step setting) s as = some t) (env : Env) (rand : Nat → UInt64) :
    t.getLinkStats env rand = some (some (
      if Joint.ServesCached env s.manager t.manager.tick then s.manager.stats.linkStats.data
      else Joint.statsRead rand (o.stateAfter setting s.mock))) := by
  obtain ⟨hmock, hcached⟩ := Joint.exec_mock hreset hrun
  rw [main_eq hanswers hsent, serve_commands setting hlen hs hcanonical ho hstats] at hmock
  have hinit : t.mock.initialized = true := by
    rw [hmock]
    exact hs.initialized
  rw [Joint.getLinkStats_eq hinit hcached, hmock]

/-- The trigger adds to a counter while the manager's record is ten seconds old, and the manager
processes both events. -/
def addedWhileCached : List JointAction :=
  [.client (statsText "INCREMENT" "bytes_sent".toList "5".toList),
    .client (snprintf 256 "INVALIDATE".toList), .process Env.quiet, .process Env.quiet]

/-- The manager has read 64000 bytes at 100, with a TTL of 30 seconds. -/
def cachedJoint : Joint 8 :=
  ⟨init HalLimits.small ⟨true, true, true⟩ State.zero, BoundedFifo.empty Event 8,
    World.ready.withStats { World.ready.stats with
      ttlSeconds := 30, linkStats := ⟨defaultLinkStats, 100, true⟩ }⟩

/-- The getter serves the record from before. -/
theorem trigger_seen_cached :
    ∃ t, exec (Joint.step Setting.small) cachedJoint addedWhileCached = some t ∧
      t.queue.contents.length = 0 ∧ t.mock.linkStats.bytesSent = 64005 ∧
      t.getLinkStats { Env.quiet with time := fun _ => 110 } (fun _ => 0) =
        some (some defaultLinkStats) := by
  have hrun : (exec (Joint.step Setting.small) cachedJoint addedWhileCached).map
      (fun t => (t.queue.contents.length, t.mock.linkStats.bytesSent)) = some (0, 64005) := by
    decide +kernel
  obtain ⟨t, hrun, hend⟩ := Option.map_eq_some_iff.mp hrun
  obtain ⟨hqueue, hbytes⟩ := Prod.mk.inj hend
  let options : Options := { Options.none with increment := some "bytes_sent=5".toList }
  have hadded : Options.fieldValue options.increment =
      some ("bytes_sent".toList, "5".toList) := by decide
  have hreset : ∀ a ∈ addedWhileCached, a ≠ .factoryReset := by
    simp [addedWhileCached]
  have hdeliverable : options.Deliverable Setting.small
      (init HalLimits.small ⟨true, true, true⟩ State.zero) := by
    intro name status h
    cases h
  have harrive : options.StatsArrive := by
    refine ⟨fun field value h => ?_, fun field value h => ?_, fun field value h => ?_⟩
    · cases h
    · cases h
    · rw [hadded] at h
      cases h
      exact ⟨⟨by decide, by decide, by decide⟩, ⟨by decide, by decide, by decide⟩, by decide⟩
  have hseen := @trigger_seen Setting.small (by decide) (fun _ => true) (fun _ => rfl) options 8
    cachedJoint t addedWhileCached hreset rfl ⟨rfl, rfl⟩ (Joint.canonical_default HalLimits.small)
    hdeliverable harrive hrun { Env.quiet with time := fun _ => 110 } (fun _ => 0)
  refine ⟨t, hrun, hqueue, hbytes, hseen.trans ?_⟩
  -- the record is ten seconds old, and valid for thirty
  have hcached : WithinTtl 30 100 110 := by decide
  have hserves : Joint.ServesCached { Env.quiet with time := fun _ => 110 } cachedJoint.manager
      t.manager.tick := ⟨⟨rfl, by decide⟩, hcached⟩
  rw [if_pos hserves]
  rfl

end EponManager.HalMock
