import EponManager.Controller.Init
import EponManager.Lib.Memo
import EponManager.StatusChange

/-!
# The records that are kept until they are invalidated

The OLT's, the manufacturer's and the link's data are read from the HAL once and served until
somebody calls `eponMgr_data_invalidate_cache`; neither an event nor a HAL command drops them.

* `InfoKind.get` is what the getter of such a record does (`getCached_run`).
* `InfoKind.Logged` is the process with the log of one record: each HAL call for it, and each
  invalidation. `Logged.exec_memo` says that the entry is a memo of that log, over every run of
  events, getters and commands.
* `info_getter_returns` is what a getter returns after a run, `info_asked_once` how often the HAL
  was asked in it.
-/

namespace EponManager

open Lib
open Lib.Prog (Ensures Keeps Respects)

/-! ### The three kinds of records -/

/-- The records that are served until they are invalidated. -/
inductive InfoKind where
  | oltInfo
  | manufacturerInfo
  | linkInfo
  deriving DecidableEq, Repr

/-- The call of `eponMgr_data_invalidate_cache`. -/
def CacheOp.invalidates : CacheOp → Bool
  | .invalidateCache => true
  | _                => false

namespace InfoKind

@[reducible] def kind : InfoKind → CacheKind
  | .oltInfo          => .oltInfo
  | .manufacturerInfo => .manufacturerInfo
  | .linkInfo         => .linkInfo

abbrev Record (k : InfoKind) : Type := k.kind.Record

def entry : (k : InfoKind) → OnuState → FlaggedEntry k.Record
  | .oltInfo          => OnuState.oltInfo
  | .manufacturerInfo => OnuState.manufacturerInfo
  | .linkInfo         => OnuState.linkInfo

def setEntry : (k : InfoKind) → FlaggedEntry k.Record → OnuState → OnuState
  | .oltInfo          => fun e s => { s with oltInfo := e }
  | .manufacturerInfo => fun e s => { s with manufacturerInfo := e }
  | .linkInfo         => fun e s => { s with linkInfo := e }

/-! ### The fields of the three entries -/

@[simp] theorem entry_setEntry (k : InfoKind) (e : FlaggedEntry k.Record) (s : OnuState) :
    k.entry (k.setEntry e s) = e := by
  cases k <;> rfl

theorem entry_setEntry_of_ne {k l : InfoKind} (h : l ≠ k) (e : FlaggedEntry k.Record)
    (s : OnuState) : l.entry (k.setEntry e s) = l.entry s := by
  cases k <;> cases l <;> first | rfl | exact absurd rfl h

/-- The slot of a kind of record. -/
abbrev slot (k : InfoKind) : Data.Slot k.kind := Data.flaggedSlot k.kind k.entry k.setEntry

/-- The three getters are one program, with different slots. -/
theorem get_eq (k : InfoKind) : Data.get k.kind = Data.getCached k.slot := by
  cases k <;> rfl

/-! ### What a getter does -/

/-- The entry in the process's memory. -/
def cached (k : InfoKind) (w : World) : FlaggedEntry k.Record := k.entry w.eponData.obj.onuState

/-- The memory with another entry. -/
def withEntry (k : InfoKind) (e : FlaggedEntry k.Record) (w : World) : World :=
  { w with eponData := { w.eponData with obj := { w.eponData.obj with
      onuState := k.setEntry e w.eponData.obj.onuState } } }

/-- What the HAL answers to the getter. -/
def answer (k : InfoKind) (env : Env) (w : World) : HalReturn × k.Record :=
  env.halRead k.kind w.tick (k.cached w).data

/-- After the HAL call. -/
def fetched (k : InfoKind) (env : Env) (w : World) : World :=
  { k.withEntry { k.cached w with data := (k.answer env w).2 } w with
    tick := w.tick + 1
    trace := w.trace ++ [.halRead k.kind (k.answer env w).1 (k.answer env w).2] }

/-- After a HAL call that succeeded: the entry is marked valid. -/
def marked (k : InfoKind) (env : Env) (w : World) : World :=
  k.withEntry { k.cached (k.fetched env w) with valid := true } (k.fetched env w)

/-- What a getter returns and leaves. -/
def get (k : InfoKind) (env : Env) (w : World) : Option k.Record × World :=
  if (k.cached w).valid then (some (k.cached w).data, w)
  else if (k.answer env w).1 = .success then (some (k.answer env w).2, k.marked env w)
  else (none, k.fetched env w)

section Get

variable {k : InfoKind} {env : Env} {w : World}

/-- A fetch writes the record and leaves the flag as it was. -/
theorem cached_fetched (env : Env) (w : World) :
    k.cached (k.fetched env w) = { k.cached w with data := (k.answer env w).2 } :=
  k.entry_setEntry _ _

theorem cached_marked (env : Env) (w : World) :
    k.cached (k.marked env w) = ⟨(k.answer env w).2, true⟩ := by
  show k.entry (k.setEntry { k.cached (k.fetched env w) with valid := true } _) = _
  rw [entry_setEntry, cached_fetched]

/-- The end of a getter that returns a record. -/
theorem serve_run (held : Held MutexId) (w : World) :
    (do
      let record ← readData k.slot.record
      Prog.unlock .data
      return some record : M (Option k.Record)) env ⟨held.acquire .data, w⟩ =
      .ok (some (k.cached w).data, ⟨held, w⟩) := by
  have hread : readData k.slot.record env ⟨held.acquire .data, w⟩ =
      .ok ((k.cached w).data, ⟨held.acquire .data, w⟩) := rfl
  rw [Prog.bind_of_ok hread, Prog.bind_of_ok (Prog.unlock_acquired .data env ⟨held, w⟩)]
  rfl

/-- **What a getter does.** -/
theorem getCached_run (s : LockState MutexId World) :
    Data.get k.kind env s =
      .ok ((k.get env s.mem).1, { s with mem := (k.get env s.mem).2 }) := by
  have hvalid : k.slot.isValid env { s with held := s.held.acquire .data } =
      .ok ((k.cached s.mem).valid, { s with held := s.held.acquire .data }) := rfl
  rw [get_eq, Data.getCached, Prog.bind_of_ok (Prog.lock_of_recursive rfl env s),
    Prog.bind_of_ok hvalid, get]
  by_cases hcached : (k.cached s.mem).valid = true
  · rw [if_pos hcached, if_pos hcached]
    exact serve_run s.held s.mem
  · rw [if_neg hcached, if_neg hcached]
    -- the HAL has been called
    show (if (k.answer env s.mem).1 = .success then _ else _ : M (Option k.Record)) env
      ⟨s.held.acquire .data, k.fetched env s.mem⟩ = _
    by_cases hok : (k.answer env s.mem).1 = .success
    · rw [if_pos hok, if_pos hok]
      refine (serve_run s.held (k.marked env s.mem)).trans ?_
      rw [cached_marked]
    · rw [if_neg hok, if_neg hok]
      exact Prog.bind_of_ok (Prog.unlock_acquired .data env ⟨s.held, k.fetched env s.mem⟩)

/-- A call of a getter by a thread that holds no mutex. -/
theorem alone_get (k : InfoKind) (env : Env) (w : World) :
    Prog.alone (Data.get k.kind) env w = some (k.get env w) :=
  Prog.alone_eq_some.mpr ⟨_, getCached_run ⟨fun _ => 0, w⟩⟩

end Get

/-! ### The log of a record -/

/-- The entry, as a memo. -/
def memo (k : InfoKind) (w : World) : Memo k.Record := ⟨(k.cached w).data, (k.cached w).valid⟩

/-- What an effect is for the record. -/
def asked (k : InfoKind) : Effect → Option (MemoEvent k.Record)
  | .halRead kind ret record =>
      if h : kind = k.kind then
        some (.asked (ret = .success) (cast (congrArg CacheKind.Record h) record))
      else none
  | _ => none

/-- The HAL was asked for the record, and the call succeeded. -/
def isRead (k : InfoKind) (e : Effect) : Bool := (k.asked e).any MemoEvent.isAnswer

/-- What a call of `op` that led from `w` to `w'` did to the record. -/
def events (k : InfoKind) (w w' : World) : CacheOp → List (MemoEvent k.Record)
  | .invalidateCache => [.invalidated]
  | _                => (w'.trace.drop w.trace.length).filterMap k.asked

variable {k : InfoKind} {w w' : World}

/-- A read of this kind is logged with its outcome. -/
theorem asked_halRead (ret : HalReturn) (record : k.Record) :
    k.asked (.halRead k.kind ret record) = some (.asked (ret = .success) record) := dif_pos rfl

theorem asked_of_ne {kind : CacheKind} (h : kind ≠ k.kind) (ret : HalReturn)
    (record : kind.Record) : k.asked (.halRead kind ret record) = none := dif_neg h

/-- A getter that asks the HAL adds the call to the trace. -/
theorem asked_fetched (env : Env) (w : World) :
    ((k.fetched env w).trace.drop w.trace.length).filterMap k.asked =
      [.asked ((k.answer env w).1 = .success) (k.answer env w).2] := by
  show (List.drop _ (w.trace ++ [Effect.halRead k.kind _ _])).filterMap _ = _
  rw [List.drop_left, List.filterMap_cons, asked_halRead]
  rfl

/-- **A getter is a step of the memo**, or none, and returns what the memo offers afterwards. -/
theorem get_memo (k : InfoKind) (env : Env) (w : World) :
    exec Memo.step (k.memo w)
        (((k.get env w).2.trace.drop w.trace.length).filterMap k.asked) =
      some (k.memo (k.get env w).2) ∧
    (k.get env w).1 = (k.memo (k.get env w).2).value := by
  cases hvalid : (k.cached w).valid with
  | true =>
      rw [get, if_pos hvalid, List.drop_length]
      exact ⟨rfl, (if_pos hvalid).symm⟩
  | false =>
      -- with the flag clear the memo accepts any answer
      have hstep (ok : Bool) (data : k.Record) :
          Memo.step (k.memo w) (.asked ok data) = some ⟨data, ok⟩ :=
        if_neg (by rw [memo, hvalid]; exact Bool.false_ne_true)
      rw [get, if_neg (by rw [hvalid]; exact Bool.false_ne_true)]
      by_cases hok : (k.answer env w).1 = .success
      · rw [if_pos hok]
        have hmemo : k.memo (k.marked env w) = ⟨(k.answer env w).2, true⟩ := by
          rw [memo, cached_marked]
        have hlog : ((k.marked env w).trace.drop w.trace.length).filterMap k.asked =
            [.asked true (k.answer env w).2] := by
          rw [← decide_eq_true hok]
          exact asked_fetched env w
        rw [hlog, hmemo]
        refine ⟨?_, rfl⟩
        rw [exec, hstep]
        rfl
      · rw [if_neg hok]
        have hmemo : k.memo (k.fetched env w) = ⟨(k.answer env w).2, false⟩ := by
          rw [memo, cached_fetched, ← hvalid]
        rw [asked_fetched, hmemo, decide_eq_false hok]
        refine ⟨?_, rfl⟩
        rw [exec, hstep]
        rfl

/-! ### What leaves a record alone

The flags and the record stay, and the HAL is not asked.
-/

/-- The entry is the same, and the HAL was not asked for it. -/
structure Unasked (k : InfoKind) (w w' : World) : Prop where
  cached : k.cached w' = k.cached w
  trace : ∃ l, w'.trace = w.trace ++ l ∧ ∀ e ∈ l, k.asked e = none

/-- An operation that adds nothing to the trace. -/
theorem Unasked.of_trace_eq (hcached : k.cached w' = k.cached w) (htrace : w'.trace = w.trace) :
    k.Unasked w w' :=
  ⟨hcached, [], by rw [htrace, List.append_nil], fun _ he => absurd he List.not_mem_nil⟩

instance : IsPreorder World k.Unasked where
  refl _ := Unasked.of_trace_eq rfl rfl
  trans w₁ w₂ w₃ h₁ h₂ := by
    obtain ⟨l₁, ht₁, hl₁⟩ := h₁.trace
    obtain ⟨l₂, ht₂, hl₂⟩ := h₂.trace
    refine ⟨h₂.cached.trans h₁.cached, l₁ ++ l₂, ?_, fun e he => ?_⟩
    · rw [ht₂, ht₁, List.append_assoc]
    · exact (List.mem_append.mp he).elim (hl₁ e) (hl₂ e)

instance : ReportsRows k.Unasked (fun e => k.asked e = none) where
  tick _ := Unasked.of_trace_eq rfl rfl
  emit _ e he := ⟨rfl, [e], rfl, fun e' he' => by rw [List.mem_singleton.mp he']; exact he⟩
  index _ _ := Unasked.of_trace_eq rfl rfl
  tr181 _ _ := Unasked.of_trace_eq rfl rfl

theorem modifyData_unasked {f : Data → Data}
    (h : ∀ d, k.entry (f d).onuState = k.entry d.onuState) : Respects k.Unasked (modifyData f) :=
  Respects.write fun _ => Unasked.of_trace_eq (h _) rfl

/-- Whoever leaves the record alone does nothing to the memo. -/
theorem Unasked.memo_log (h : k.Unasked w w') :
    exec Memo.step (k.memo w) ((w'.trace.drop w.trace.length).filterMap k.asked) =
      some (k.memo w') := by
  obtain ⟨l, htrace, hl⟩ := h.trace
  rw [htrace, List.drop_left, List.filterMap_eq_nil_iff.mpr hl, memo, memo, h.cached]
  rfl

section Unasked

/-! ### The events -/

open Controller in
/-- A status event does not read the information again. -/
theorem processOnuStatusEvent_unasked (status : OnuStatus) :
    Respects k.Unasked (processOnuStatusEvent status) := by
  refine Respects.bind ?_ fun _ => ?_
  · refine Respects.lock.bind fun _ => (ask_outside _).bind fun _ =>
      Respects.bind (modifyData_unasked fun d => ?_) fun _ => Respects.unlock
    cases k <;> rfl
  · cases statusEvent status with
    | none => exact Respects.pure
    | some event => exact Telemetry.dispatch_outside fun _ => rfl

open Controller in
theorem processInterfaceStatusEvent_unasked (limits : HalLimits) (info : InterfaceInfo) :
    Respects k.Unasked (processInterfaceStatusEvent limits info) := by
  have hreport (rc : Int) : Respects k.Unasked (reportFailure rc) :=
    reportFailure_outside (fun _ => rfl) rc
  have hraise (event : TelemetryEvent) (ifname : Option CharBuf) :
      Respects k.Unasked (Telemetry.dispatch event ifname) :=
    Telemetry.dispatch_outside fun _ => rfl
  refine Respects.bind (modifyData_unasked ?_) fun _ => Respects.bind ?_ fun _ =>
    Respects.read.bind fun phyIsUp => Respects.bind ?_ fun _ => ?_
  · exact fun _ => rfl
  · exact (WanManager.updateVirtualInterface_outside _ fun _ _ _ => rfl).bind fun _ =>
      (hreport _).bind fun _ => hraise _ _
  · have hphy : k.asked (.phyStatusChange phyIsUp) = none := rfl
    exact (WanManager.notifyPhyStatus_outside hphy fun _ _ => rfl).bind fun _ =>
      (hreport _).bind fun _ => hraise _ _
  · refine Respects.read.bind fun _ => Respects.ite ?_ Respects.pure
    refine (Tr181.syncVeipTable_outside fun _ _ => rfl).bind fun _ =>
      (hreport _).bind fun _ => modifyData_unasked ?_
    exact fun _ => rfl

/-- No event reads the information again. -/
theorem processEvent_unasked (limits : HalLimits) (event : Event) :
    Respects k.Unasked (Controller.processEvent limits event) := by
  cases event with
  | onuStatus status => exact processOnuStatusEvent_unasked status
  | interfaceStatus info => exact processInterfaceStatusEvent_unasked limits info
  | alarm info => exact Telemetry.raiseAlarm_outside (fun _ _ => rfl) info

theorem getInterfaceList_unasked : Respects k.Unasked Data.getInterfaceList := by
  have hemit (ret : HalReturn) : k.asked (.halGetInterfaceList ret) = none := rfl
  refine Respects.lock.bind fun _ => Respects.read.bind fun before =>
    (ask_outside _).bind fun answer => Respects.bind (modifyData_unasked ?_) fun _ =>
    (emit_outside (hemit _)).bind fun _ => Respects.ite ?_ ?_
  · exact fun _ => rfl
  · refine Respects.read.bind fun _ => Respects.ite ?_ ?_
    · refine Respects.bind (modifyData_unasked ?_) fun _ => Respects.unlock.bind fun _ =>
        (Tr181.syncVeipTable_outside fun _ _ => rfl).bind fun _ => Respects.pure
      exact fun _ => rfl
    · exact Respects.unlock.bind fun _ => Respects.pure
  · exact Respects.unlock.bind fun _ => Respects.pure

/-! ### The calls -/

theorem statsInvalidateAll_unasked : Respects k.Unasked StatsData.invalidateAll := by
  refine Respects.lock.bind fun _ => Respects.bind (modifyData_unasked ?_) fun _ =>
    Respects.unlock
  exact fun _ => rfl

/-- The three commands ask the HAL, report what it answered and go on if it succeeded. -/
theorem command_unasked {q : Env → Nat → HalReturn} {effect : HalReturn → Effect}
    (heffect : ∀ ret, k.asked (effect ret) = none) {rest : HalReturn → M HalReturn}
    (hrest : ∀ ret, Respects k.Unasked (rest ret)) :
    Respects k.Unasked (do
      let global ← Prog.read (fun w => w.eponData.isSet)
      if global then
        let ret ← ask q
        emit (effect ret)
        if ret = .success then rest ret else return ret
      else
        return .errorInvalidParam : M HalReturn) := by
  refine Respects.read.bind fun _ => Respects.ite ?_ Respects.pure
  exact (ask_outside _).bind fun ret => (emit_outside (heffect ret)).bind fun _ =>
    Respects.ite (hrest ret) Respects.pure

theorem clearStats_unasked : Respects k.Unasked Data.clearStats :=
  command_unasked (fun _ => rfl) fun _ => Respects.lock.bind fun _ =>
    statsInvalidateAll_unasked.bind fun _ => Respects.unlock.bind fun _ => Respects.pure

theorem resetOnu_unasked : Respects k.Unasked Data.resetOnu :=
  command_unasked (fun _ => rfl) fun _ =>
    (Telemetry.dispatch_outside fun _ => rfl).bind fun _ => Respects.pure

theorem factoryReset_unasked : Respects k.Unasked Data.factoryReset :=
  command_unasked (fun _ => rfl) fun _ => Respects.lock.bind fun _ =>
    statsInvalidateAll_unasked.bind fun _ => Respects.unlock.bind fun _ =>
    (Telemetry.dispatch_outside fun _ => rfl).bind fun _ => Respects.pure

/-! ### The getters of the other records -/

/-- The getter of another record. -/
theorem getCached_unasked {kind : CacheKind} {slot : Data.Slot kind} (hkind : kind ≠ k.kind)
    (hvalid : Respects k.Unasked slot.isValid)
    (hset : ∀ r d, k.entry (slot.setRecord r d).onuState = k.entry d.onuState)
    (hmark : Respects k.Unasked slot.markValid) : Respects k.Unasked (Data.getCached slot) := by
  refine Respects.lock.bind fun _ => hvalid.bind fun _ => Respects.ite ?_ ?_
  · exact Respects.read.bind fun _ => Respects.unlock.bind fun _ => Respects.pure
  · refine Respects.read.bind fun _ => (ask_outside _).bind fun answer =>
      (modifyData_unasked (hset _)).bind fun _ => (emit_outside (asked_of_ne hkind _ _)).bind
        fun _ => Respects.ite ?_ ?_
    · exact hmark.bind fun _ => Respects.read.bind fun _ => Respects.unlock.bind fun _ =>
        Respects.pure
    · exact Respects.unlock.bind fun _ => Respects.pure

theorem timedSlot_unasked {kind : CacheKind} (hkind : kind ≠ k.kind)
    (entry : StatsData → TimedEntry kind.Record)
    (setEntry : TimedEntry kind.Record → StatsData → StatsData) :
    Respects k.Unasked (Data.getCached (Data.timedSlot kind entry setEntry)) := by
  refine getCached_unasked hkind ?_ (fun _ _ => rfl) ?_
  · refine Respects.read.bind fun _ => Respects.read.bind fun _ =>
      Respects.ite (Respects.ite Respects.pure ?_) Respects.pure
    exact (ask_outside _).bind fun _ => Respects.pure
  · exact (ask_outside _).bind fun _ => modifyData_unasked fun _ => rfl

/-- A getter of other information writes another entry. -/
theorem infoSlot_unasked {l : InfoKind} (hne : l ≠ k) (hkind : l.kind ≠ k.kind) :
    Respects k.Unasked (Data.getCached l.slot) := by
  refine getCached_unasked hkind ?_ (fun _ _ => entry_setEntry_of_ne hne.symm _ _)
    (modifyData_unasked fun _ => entry_setEntry_of_ne hne.symm _ _)
  show Respects k.Unasked (readData fun d => (l.entry d.onuState).valid)
  exact Respects.read

/-- **The getters of the other kinds leave this one alone.** -/
theorem get_unasked {kind : CacheKind} (hkind : kind ≠ k.kind) :
    Respects k.Unasked (Data.get kind) := by
  have hinfo (l : InfoKind) (hl : l.kind ≠ k.kind) : Respects k.Unasked (Data.get l.kind) := by
    rw [get_eq]
    exact infoSlot_unasked (fun h => hl (congrArg InfoKind.kind h)) hl
  cases kind with
  | linkStats => exact timedSlot_unasked hkind _ _
  | transceiverStats => exact timedSlot_unasked hkind _ _
  | oltInfo => exact hinfo .oltInfo hkind
  | manufacturerInfo => exact hinfo .manufacturerInfo hkind
  | linkInfo => exact hinfo .linkInfo hkind

end Unasked

/-! ### What an operation does -/

/-- An invalidation clears the flag. -/
theorem invalidateCache_memo {env : Env}
    (h : Prog.alone Data.invalidateCache env w = some ((), w')) :
    k.memo w' = { k.memo w with valid := false } := by
  cases h
  cases k with
  | oltInfo => rfl
  | manufacturerInfo => rfl
  | linkInfo => rfl

/-- The getter runs alone, so its result is a function of the world. -/
theorem alone_run_get (k : InfoKind) (limits : HalLimits) (env : Env) (w : World) :
    Prog.alone ((CacheOp.get k.kind).run limits) env w = some ((), (k.get env w).2) := by
  apply Prog.alone_eq_some.mpr
  refine ⟨fun _ => 0, ?_⟩
  show (Data.get k.kind >>= fun _ => pure ()) env _ = _
  rw [Prog.bind_of_ok (getCached_run _)]
  rfl

/-- **Step lemma**: what an operation does to the record is a run of the memo. -/
theorem step_memo {limits : HalLimits} {env : Env} {op : CacheOp}
    (h : op.step limits env w = some w') :
    exec Memo.step (k.memo w) (k.events w w' op) = some (k.memo w') := by
  obtain ⟨⟨_, v⟩, hrun, rfl⟩ := Option.map_eq_some_iff.mp h
  have hother {f : M Unit} (hf : Respects k.Unasked f) (hrun : Prog.alone f env w = some ((), v)) :
      exec Memo.step (k.memo w) ((v.trace.drop w.trace.length).filterMap k.asked) =
        some (k.memo v) :=
    (hf.alone hrun).memo_log
  cases op with
  | event e => exact hother (processEvent_unasked limits e) hrun
  | get kind =>
      by_cases hkind : kind = k.kind
      · subst hkind
        have hget := (k.alone_run_get limits env w).symm.trans hrun
        cases hget
        exact (k.get_memo env w).1
      · exact hother ((get_unasked hkind).bind fun _ => Respects.pure) hrun
  | getInterfaceList => exact hother (getInterfaceList_unasked.bind fun _ => Respects.pure) hrun
  | clearStats => exact hother (clearStats_unasked.bind fun _ => Respects.pure) hrun
  | resetOnu => exact hother (resetOnu_unasked.bind fun _ => Respects.pure) hrun
  | factoryReset => exact hother (factoryReset_unasked.bind fun _ => Respects.pure) hrun
  | invalidateCache =>
      show exec Memo.step _ [.invalidated] = _
      rw [invalidateCache_memo hrun]
      rfl

theorem countP_drop (p : Effect → Bool) {l l' l'' : List Effect} (h : l <+: l') (h' : l' <+: l'') :
    (l''.drop l.length).countP p =
      (l'.drop l.length).countP p + (l''.drop l'.length).countP p := by
  obtain ⟨m, rfl⟩ := h
  obtain ⟨n, rfl⟩ := h'
  rw [List.drop_left, List.drop_left, List.append_assoc, List.drop_left, List.countP_append]

/-- The events of an operation are its HAL calls and, if it is one, an invalidation. -/
theorem events_counts {limits : HalLimits} {env : Env} {op : CacheOp}
    (h : op.step limits env w = some w') :
    (k.events w w' op).countP MemoEvent.isAnswer =
        (w'.trace.drop w.trace.length).countP k.isRead ∧
      (k.events w w' op).countP MemoEvent.isInvalidation = op.invalidates.toNat := by
  have hasked (l : List Effect) : (l.filterMap k.asked).countP MemoEvent.isAnswer =
      l.countP k.isRead ∧ (l.filterMap k.asked).countP MemoEvent.isInvalidation = 0 := by
    have hread (e : Effect) : ((k.asked e).map MemoEvent.isAnswer).getD false = k.isRead e := by
      rw [isRead]
      cases k.asked e <;> rfl
    refine ⟨?_, List.countP_eq_zero.mpr fun e he => ?_⟩
    · rw [List.countP_filterMap, funext hread]
    · obtain ⟨effect, -, heffect⟩ := List.mem_filterMap.mp he
      cases effect with
      | halRead kind ret record =>
          obtain ⟨_, heq⟩ := Option.dite_none_right_eq_some.mp heffect
          cases heq
          exact Bool.false_ne_true
      | _ => cases heffect
  cases op with
  | invalidateCache =>
      have htrace : w'.trace = w.trace := by
        obtain ⟨⟨_, v⟩, hrun, rfl⟩ := Option.map_eq_some_iff.mp h
        cases hrun
        rfl
      rw [htrace, List.drop_length]
      exact ⟨rfl, rfl⟩
  | _ => exact hasked _

/-! ### Runs -/

/-- The process with the log of one record, the oldest event first. -/
structure Logged (k : InfoKind) where
  world : World
  log : List (MemoEvent k.Record)

namespace Logged

variable {limits : HalLimits} {env : Env} {ops : List CacheOp}

/-- After `op` led to `w`. -/
def after (o : Logged k) (op : CacheOp) (w : World) : Logged k :=
  ⟨w, o.log ++ k.events o.world w op⟩

def step (limits : HalLimits) (env : Env) (o : Logged k) (op : CacheOp) : Option (Logged k) :=
  (op.step limits env o.world).map (o.after op)

/-- Before the first operation. -/
def start (w : World) : Logged k := ⟨w, []⟩

/-- **Run lemma**: the entry is a memo of its log. -/
theorem exec_memo {o : Logged k} (h : exec (step limits env) (start w) ops = some o) :
    exec Memo.step (k.memo w) o.log = some (k.memo o.world) := by
  refine exec_invariant (P := fun o : Logged k =>
    exec Memo.step (k.memo w) o.log = some (k.memo o.world)) (fun o op o' ho hstep => ?_) rfl h
  obtain ⟨w', hop, rfl⟩ := Option.map_eq_some_iff.mp hstep
  exact (exec_append_of_eq_some ho).trans (step_memo hop)

/-- The HAL calls in the log are those of the trace, the invalidations those of the run. -/
theorem exec_counts {o o' : Logged k} (h : exec (step limits env) o ops = some o') :
    exec (CacheOp.step limits env) o.world ops = some o'.world ∧
      o'.log.countP MemoEvent.isAnswer = o.log.countP MemoEvent.isAnswer +
        (o'.world.trace.drop o.world.trace.length).countP k.isRead ∧
      o'.log.countP MemoEvent.isInvalidation = o.log.countP MemoEvent.isInvalidation +
        ops.countP CacheOp.invalidates := by
  induction ops generalizing o with
  | nil =>
      cases h
      rw [List.drop_length]
      exact ⟨rfl, rfl, rfl⟩
  | cons op ops ih =>
      obtain ⟨o₁, hstep, hrest⟩ := exec_cons_eq_some.mp h
      obtain ⟨w₁, hop, rfl⟩ := Option.map_eq_some_iff.mp hstep
      obtain ⟨hworld, hanswers, hinvalidations⟩ := ih hrest
      have hhead := events_counts (k := k) hop
      have hread := countP_drop k.isRead (CacheOp.step_follow hop).trace
        (CacheOp.exec_follow hworld).trace
      refine ⟨exec_cons_eq_some.mpr ⟨w₁, hop, hworld⟩, ?_, ?_⟩
      · rw [hanswers, hread]
        show (o.log ++ k.events o.world w₁ op).countP _ + _ = _
        rw [List.countP_append, hhead.1, Nat.add_assoc]
        rfl
      · rw [hinvalidations, List.countP_cons]
        show (o.log ++ k.events o.world w₁ op).countP _ + _ = _
        rw [List.countP_append, hhead.2]
        cases op.invalidates with
        | true => simp [Nat.add_assoc, Nat.add_comm]
        | false => rfl

/-- Every run gets to its end. -/
theorem exec_isSome (limits : HalLimits) (env : Env) (ops : List CacheOp) {o : Logged k}
    (ho : Initialised o.world) : ∃ o', exec (step limits env) o ops = some o' := by
  induction ops generalizing o with
  | nil => exact ⟨o, rfl⟩
  | cons op ops ih =>
      obtain ⟨w', hstep, hw'⟩ := CacheOp.step_isSome limits env ho op
      obtain ⟨o', ho'⟩ := ih (o := o.after op w') hw'
      have hop : step limits env o op = some (o.after op w') := by
        rw [step, hstep]
        rfl
      exact ⟨o', exec_cons_eq_some.mpr ⟨_, hop, ho'⟩⟩

end Logged

/-! ### After the start-up -/

/-- The flags of the three records. -/
def flags (w : World) (k : InfoKind) : Bool := (k.cached w).valid

section Boot

open Controller (ensures_trivial ensures_regardless)

instance : ReportsRows (fun w w' => flags w' = flags w) (fun _ => True) :=
  ReportsRows.of_view (fun _ => rfl) (fun _ _ => rfl) (fun _ _ => rfl) (fun _ _ => rfl)

/-- **A successful start-up leaves the three records unread.** -/
theorem init_flags (limits : HalLimits) :
    Ensures (fun _ => True) (Controller.init limits) (fun ok w => ok = true →
      flags w = fun _ => false) := by
  -- the later stages do not touch the flags, which the allocation has cleared
  have hkeep {α : Type} {f : M α} (hf : Keeps flags f) :
      Ensures (fun w => flags w = fun _ => false) f (fun _ w => flags w = fun _ => false) :=
    hf.ensures fun _ _ hsame hw => hsame.trans hw
  have hinit : Keeps flags Data.halInit := by
    refine Controller.halInit_respects ?_ ?_
    · exact fun _ => rfl
    · intro w
      funext k
      cases k <;> rfl
  have hhal : Keeps flags (Controller.initHal limits) :=
    Controller.initHal_respects (fun _ _ => trivial) hinit limits
  have htr181 : Keeps flags Rbus.registerTr181 :=
    Controller.registerTr181_outside fun _ _ _ => trivial
  have hdata : Ensures (fun _ => True) Controller.initData
      (fun ok w => ok = true → flags w = fun _ => false) := by
    refine Ensures.of_within fun env => Controller.initData_rule (A := fun _ => True)
      (R := fun _ => True) (S := fun _ => True) (L := fun _ _ => True) (C := fun _ _ => True)
      (fun _ _ => trivial) (ensures_regardless ensures_trivial) (fun _ _ => trivial)
      ensures_trivial (fun _ _ _ => trivial) (fun _ _ _ => trivial) fun config w _ => ?_
    funext k
    cases k <;> rfl
  refine Ensures.of_within fun env => Controller.init_rule
    (B := fun w => flags w = fun _ => false) (C := fun w => flags w = fun _ => false)
    (hdata.within env) ((hkeep hhal).within env) (fun config => ?_)
    ((ensures_regardless (hkeep htr181)).within env) (fun _ h => h)
  have hpoller := hkeep (Controller.pollerInit_respects (fun _ _ => rfl)
    config.statsPollerEnabled config.statsPollerIntervalSeconds)
  exact (ensures_regardless (hpoller.conseq (fun _ h => h.2) fun _ _ h => h)).within env

end Boot

/-! ### What is served, and how often the HAL is asked -/

/-- With its flag clear, a record is not offered. -/
theorem memo_of_flags (h : flags w = fun _ => false) : (k.memo w).valid = false := congrFun h k

section Runs

variable {limits : HalLimits} {boot : Env} {psm : String → Option String} {w₀ : World}
  (hinit : Prog.alone (Controller.init limits) boot (World.boot psm) = some (true, w₀))
include hinit

/-- **What a getter returns**: after any run of events, getters and commands, it is the record of
the latest HAL call that succeeded, unless there was none since the latest invalidation; then it is
`NULL`. The getter's own HAL call counts. -/
theorem info_getter_returns (k : InfoKind) (env : Env) (ops : List CacheOp) :
    ∃ o : Logged k, exec (Logged.step limits env) (Logged.start w₀) ops = some o ∧
      ∃ result w, Prog.alone (Data.get k.kind) env o.world = some (result, w) ∧
        result = (o.after (.get k.kind) w).log.foldl MemoEvent.note none := by
  have hready : Initialised w₀ := (Controller.init_initialised limits).alone trivial hinit rfl
  have hflags : flags w₀ = fun _ => false := (init_flags limits).alone trivial hinit rfl
  obtain ⟨o, hrun⟩ := Logged.exec_isSome (k := k) limits env ops (o := Logged.start w₀) hready
  obtain ⟨hmemo, hresult⟩ := k.get_memo env o.world
  refine ⟨o, hrun, (k.get env o.world).1, (k.get env o.world).2, k.alone_get env o.world, ?_⟩
  have hall := (exec_append_of_eq_some (Logged.exec_memo hrun)).trans hmemo
  rw [hresult, Memo.exec_value hall, Memo.value_of_invalid (memo_of_flags hflags)]
  rfl

/-- **How often the HAL is asked**: in any run, the HAL calls for a record that succeed are at most
one more than the invalidations. -/
theorem info_asked_once (k : InfoKind) (env : Env) (ops : List CacheOp) :
    ∃ w, exec (CacheOp.step limits env) w₀ ops = some w ∧
      (w.trace.drop w₀.trace.length).countP k.isRead ≤ 1 + ops.countP CacheOp.invalidates := by
  have hready : Initialised w₀ := (Controller.init_initialised limits).alone trivial hinit rfl
  have hflags : flags w₀ = fun _ => false := (init_flags limits).alone trivial hinit rfl
  obtain ⟨o, hrun⟩ := Logged.exec_isSome (k := k) limits env ops (o := Logged.start w₀) hready
  obtain ⟨hworld, hanswers, hinvalidations⟩ := Logged.exec_counts hrun
  refine ⟨o.world, hworld, ?_⟩
  have hle := Memo.exec_answers_le (Logged.exec_memo hrun)
  have hcredit : (k.memo w₀).credit = 1 := by
    rw [Memo.credit, memo_of_flags hflags]
    rfl
  rw [hcredit, hanswers, hinvalidations] at hle
  simp only [Logged.start, List.countP_nil, Nat.zero_add] at hle
  exact Nat.le_of_add_right_le hle

end Runs

/-- The record that the HAL gives for the link tells the number of the call. -/
def countingReads : Env :=
  { Env.quiet with
    halReadLinkInfo := fun n record => (.success, { record with encryption := .other n }) }

/-- The data of the link is read, the ONU registers and is reset, and the getter is called again: it
returns the record of the first call, which is the twelfth of the process. -/
theorem info_getter_returns_quiet :
    ∃ w₀, Prog.alone (Controller.init HalLimits.small) Env.quiet (World.boot fun _ => none) =
        some (true, w₀) ∧
      ∃ o : Logged .linkInfo,
        exec (Logged.step HalLimits.small countingReads) (Logged.start w₀)
          [.get .linkInfo, .event (.onuStatus .registration), .resetOnu] = some o ∧
        ∃ w, Prog.alone (Data.get .linkInfo) countingReads o.world =
          some (some (⟨[], .other 12⟩ : LinkInfo), w) := by
  have h : (Prog.alone (Controller.init HalLimits.small) Env.quiet (World.boot fun _ => none)).bind
      (fun a => (exec (Logged.step HalLimits.small countingReads)
        (Logged.start a.2 : Logged .linkInfo)
        [.get .linkInfo, .event (.onuStatus .registration), .resetOnu]).bind fun o =>
          (Prog.alone (Data.get .linkInfo) countingReads o.world).map fun p =>
            (a.1, ((o.after (.get .linkInfo) p.2).log.foldl MemoEvent.note none :
              Option LinkInfo))) =
      some (true, some ⟨[], .other 12⟩) := by
    decide +kernel
  simp only [Option.bind_eq_some_iff, Option.map_eq_some_iff, Prod.mk.injEq] at h
  obtain ⟨⟨ok, w₀⟩, hinit, o, hrun, ⟨result, w⟩, hget, rfl, hlog⟩ := h
  obtain ⟨o', hrun', result', w', hget', hreturns⟩ :=
    info_getter_returns hinit .linkInfo countingReads
      [.get .linkInfo, .event (.onuStatus .registration), .resetOnu]
  obtain rfl := Option.some.inj (hrun.symm.trans hrun')
  obtain ⟨rfl, rfl⟩ := Prod.mk.inj (Option.some.inj (hget.symm.trans hget'))
  have hrecord : result = some (⟨[], .other 12⟩ : LinkInfo) := hreturns.trans hlog
  exact ⟨w₀, hinit, o, hrun, w, hrecord ▸ hget⟩

/-- The data of the link is read, asked for again after a reset, and once more after an
invalidation: two calls of the HAL, which is the bound. -/
theorem info_asked_once_quiet :
    ∃ w₀, Prog.alone (Controller.init HalLimits.small) Env.quiet (World.boot fun _ => none) =
        some (true, w₀) ∧
      ∃ w, exec (CacheOp.step HalLimits.small Env.quiet) w₀
          [.get .linkInfo, .resetOnu, .get .linkInfo, .invalidateCache, .get .linkInfo] = some w ∧
        (w.trace.drop w₀.trace.length).countP (isRead .linkInfo) = 2 := by
  have h : (Prog.alone (Controller.init HalLimits.small) Env.quiet (World.boot fun _ => none)).bind
      (fun a => (exec (CacheOp.step HalLimits.small Env.quiet) a.2
        [.get .linkInfo, .resetOnu, .get .linkInfo, .invalidateCache, .get .linkInfo]).map fun w =>
          (a.1, decide (2 ≤ (w.trace.drop a.2.trace.length).countP (isRead .linkInfo)))) =
      some (true, true) := by
    decide +kernel
  simp only [Option.bind_eq_some_iff, Option.map_eq_some_iff, Prod.mk.injEq,
    decide_eq_true_eq] at h
  obtain ⟨⟨ok, w₀⟩, hinit, w, hrun, rfl, hreads⟩ := h
  obtain ⟨w', hrun', hbound⟩ := info_asked_once hinit .linkInfo Env.quiet
    [.get .linkInfo, .resetOnu, .get .linkInfo, .invalidateCache, .get .linkInfo]
  obtain rfl := Option.some.inj (hrun.symm.trans hrun')
  exact ⟨w₀, hinit, w, hrun, Nat.le_antisymm hbound hreads⟩

end InfoKind

end EponManager
