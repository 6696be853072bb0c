import EponManager.Controller.Init
import EponManager.Frames
import EponManager.Locks
import EponManager.Lib.StepSystem

/-!
# Cached data and ONU status changes

The headers promise that the cached records are invalidated when the ONU status changes. Processing
a status event does not do it: a record that a getter may still serve at that moment is served
afterwards, although it was read before the change.

* `Servable kind d`: at some reading of the clock, the getter of `kind` returns the record in `d`
  without asking the HAL.
* `CachesFollow` is what every operation keeps: a record that may be served was there before, or a
  HAL call made in the meantime left it there.
* `status_change_refreshes_iff`: the exact condition under which every result after a status change
  comes from a HAL call after it.
-/

namespace EponManager

open Lib
open Lib.Prog (Ensures Respects Moves)

/-! ### Records that may be served -/

/-- Some reading of the clock makes `eponMgr_statsData_is_stats_valid` accept the entry. -/
def TimedEntry.Servable {α : Type} (ttlSeconds : UInt32) (e : TimedEntry α) : Prop :=
  e.valid ∧ e.timestamp ≠ 0 ∧ ttlSeconds ≠ 0

namespace Data

/-- The getter may return the record without a HAL call. -/
def Servable : CacheKind → Data → Prop
  | .linkStats, d        => d.statsData.linkStats.Servable d.statsData.ttlSeconds
  | .transceiverStats, d => d.statsData.transceiverStats.Servable d.statsData.ttlSeconds
  | .oltInfo, d          => d.onuState.oltInfo.valid
  | .manufacturerInfo, d => d.onuState.manufacturerInfo.valid
  | .linkInfo, d         => d.onuState.linkInfo.valid

/-- When the record was stamped; `0` where the stamp plays no part. -/
def stamp : CacheKind → Data → Int
  | .linkStats, d        => d.statsData.linkStats.timestamp
  | .transceiverStats, d => d.statsData.transceiverStats.timestamp
  | _, _                 => 0

/-- The record that the getter of `kind` returns. -/
def record (kind : CacheKind) (d : Data) : kind.Record := (slot kind).record d

/-- The getter of `kind`: `eponMgr_data_get_link_stats` and so on. -/
def get (kind : CacheKind) : M (Option kind.Record) := getCached (slot kind)

/-- What may be served in `d'` could be served in `d`, and is the same record. -/
def Older (kind : CacheKind) (d d' : Data) : Prop :=
  Servable kind d' → Servable kind d ∧ record kind d' = record kind d

/-- What the five getters read. -/
def caches (d : Data) :
    StatsData × FlaggedEntry OltInfo × FlaggedEntry ManufacturerInfo × FlaggedEntry LinkInfo :=
  (d.statsData, d.onuState.oltInfo, d.onuState.manufacturerInfo, d.onuState.linkInfo)

/-- Whether a record is served is seen in the caches alone. -/
theorem servable_of_caches {d d' : Data} (h : d'.caches = d.caches) (kind : CacheKind) :
    Servable kind d' = Servable kind d ∧ stamp kind d' = stamp kind d ∧
      record kind d' = record kind d := by
  have hstats : d'.statsData = d.statsData := congrArg (·.1) h
  have holt : d'.onuState.oltInfo = d.onuState.oltInfo := congrArg (·.2.1) h
  have hmfr : d'.onuState.manufacturerInfo = d.onuState.manufacturerInfo := congrArg (·.2.2.1) h
  have hlink : d'.onuState.linkInfo = d.onuState.linkInfo := congrArg (·.2.2.2) h
  cases kind with
  | linkStats =>
      exact ⟨congrArg (fun s : StatsData => s.linkStats.Servable s.ttlSeconds) hstats,
        congrArg (fun s => s.linkStats.timestamp) hstats,
        congrArg (fun s => s.linkStats.data) hstats⟩
  | transceiverStats =>
      exact ⟨congrArg (fun s : StatsData => s.transceiverStats.Servable s.ttlSeconds) hstats,
        congrArg (fun s => s.transceiverStats.timestamp) hstats,
        congrArg (fun s => s.transceiverStats.data) hstats⟩
  | oltInfo =>
      exact ⟨congrArg (fun e : FlaggedEntry OltInfo => e.valid = true) holt, rfl,
        congrArg FlaggedEntry.data holt⟩
  | manufacturerInfo =>
      exact ⟨congrArg (fun e : FlaggedEntry ManufacturerInfo => e.valid = true) hmfr, rfl,
        congrArg FlaggedEntry.data hmfr⟩
  | linkInfo =>
      exact ⟨congrArg (fun e : FlaggedEntry LinkInfo => e.valid = true) hlink, rfl,
        congrArg FlaggedEntry.data hlink⟩

/-! ### What a slot does

The getter of a record is the same program for every kind; what differs is its slot. The two slots
are shown to keep one set of laws.
-/

/-- The parts of a slot touch nothing but its own record. -/
structure SlotLaws (kind : CacheKind) : Prop where
  isValid : ∀ w₀, Ensures (· = w₀) (slot kind).isValid (fun served w =>
    (w.eponData = w₀.eponData ∧ w.trace = w₀.trace) ∧
      (served = true → Servable kind w₀.eponData.obj))
  setRecord : ∀ r d, record kind ((slot kind).setRecord r d) = r ∧
    ∀ k ≠ kind, Older k d ((slot kind).setRecord r d)
  markValid : ∀ w₀, Ensures (· = w₀) (slot kind).markValid (fun _ w =>
    w.trace = w₀.trace ∧ record kind w.eponData.obj = record kind w₀.eponData.obj ∧
      ∀ k ≠ kind, Older k w₀.eponData.obj w.eponData.obj)
  serves : ∀ (env : Env) (s : LockState MutexId World), Servable kind s.mem.eponData.obj →
    (∀ n, env.time n = stamp kind s.mem.eponData.obj) →
    ∃ t, (slot kind).isValid env s = .ok (true, t) ∧ t.held = s.held ∧
      t.mem.eponData = s.mem.eponData ∧ t.mem.trace = s.mem.trace

/-- A question leaves the data and the trace alone. -/
theorem ask_ensures {α : Type} (q : Env → Nat → α) (w₀ : World) :
    Ensures (· = w₀) (ask q) (fun _ w => w.eponData = w₀.eponData ∧ w.trace = w₀.trace) := by
  apply Ensures.call
  rintro env w rfl
  exact ⟨rfl, rfl⟩

/-- The clock can only be read as fresh if the entry was ever stamped and the TTL is not zero. -/
theorem isStatsValid_ensures (timestamp : Int) (ttlSeconds : UInt32) (w₀ : World) :
    Ensures (· = w₀) (StatsData.isStatsValid timestamp ttlSeconds) (fun served w =>
      (w.eponData = w₀.eponData ∧ w.trace = w₀.trace) ∧
        (served = true → timestamp ≠ 0 ∧ ttlSeconds ≠ 0)) := by
  refine Ensures.ite (fun _ => ?_) (fun hstamp => ?_)
  · refine Ensures.pure ?_
    rintro w rfl
    exact ⟨⟨rfl, rfl⟩, fun h => absurd h (by simp)⟩
  · refine Ensures.bind (ask_ensures _ w₀) (fun now => Ensures.pure ?_)
    rintro w hw
    refine ⟨hw, fun hserved => ⟨hstamp, ?_⟩⟩
    rintro rfl
    simp only [Bool.and_eq_true, decide_eq_true_eq] at hserved
    have hage := hserved.1
    have hlt := hserved.2
    rw [UInt32.toNat_zero] at hlt
    omega

/-- The moment at which a record was stamped is a reading that serves it. -/
theorem isStatsValid_serves {timestamp : Int} {ttlSeconds : UInt32} (hstamp : timestamp ≠ 0)
    (httl : ttlSeconds ≠ 0) {env : Env} (s : LockState MutexId World)
    (hnow : ∀ n, env.time n = timestamp) :
    ∃ t, StatsData.isStatsValid timestamp ttlSeconds env s = .ok (true, t) ∧
      t.held = s.held ∧ t.mem.eponData = s.mem.eponData ∧ t.mem.trace = s.mem.trace := by
  have hpos : 0 < ttlSeconds.toNat := by
    rcases Nat.eq_zero_or_pos ttlSeconds.toNat with h | h
    · exact absurd (UInt32.toNat_inj.mp h) httl
    · exact h
  refine ⟨{ s with mem := { s.mem with tick := s.mem.tick + 1 } }, ?_, rfl, rfl, rfl⟩
  rw [StatsData.isStatsValid, if_neg hstamp]
  show Except.ok (_, _) = _
  congr 2
  simp only [hnow, Int.sub_self, Bool.and_eq_true, decide_eq_true_eq]
  constructor
  · omega
  · omega

section Slots

variable {kind : CacheKind}

/-! ### The two slots -/

theorem timedSlot_laws {entry : StatsData → TimedEntry kind.Record}
    {setEntry : TimedEntry kind.Record → StatsData → StatsData}
    (hslot : slot kind = timedSlot kind entry setEntry)
    (hserv : ∀ d, Servable kind d ↔ (entry d.statsData).Servable d.statsData.ttlSeconds)
    (hstamp : ∀ d, stamp kind d = (entry d.statsData).timestamp)
    (hentry : ∀ e s, entry (setEntry e s) = e)
    (hother : ∀ f d, ∀ k ≠ kind, Older k d (timedSlot.update kind entry setEntry f d)) :
    SlotLaws kind where
  isValid w₀ := by
    rw [hslot]
    intro env s served t hs hrun
    obtain ⟨stored, s₁, hread, hrun⟩ := Prog.bind_eq_ok.mp hrun
    obtain ⟨ttl, s₂, hread', hrun⟩ := Prog.bind_eq_ok.mp hrun
    cases hread
    cases hread'
    by_cases hvalid : (entry s.mem.eponData.obj.statsData).valid = true
    · rw [if_pos hvalid] at hrun
      obtain ⟨hsame, himp⟩ := isStatsValid_ensures _ _ w₀ env s served t hs hrun
      refine ⟨hsame, fun h => (hserv _).mpr ?_⟩
      rw [← hs]
      rw [hs] at hvalid himp ⊢
      exact ⟨hvalid, himp h⟩
    · -- an entry that is not valid is not served, whatever its age
      rw [if_neg hvalid] at hrun
      cases hrun
      rw [hs]
      exact ⟨⟨rfl, rfl⟩, fun h => absurd h (by simp)⟩
  setRecord r d := by
    rw [record, hslot]
    refine ⟨?_, hother (fun e => { e with data := r }) d⟩
    show (entry (setEntry _ d.statsData)).data = r
    rw [hentry]
  markValid w₀ := by
    rw [hslot]
    refine Ensures.bind (ask_ensures _ w₀) fun now => Ensures.write ?_
    rintro w ⟨hdata, htrace⟩
    refine ⟨htrace, ?_, ?_⟩
    · rw [record, record, hslot]
      show (entry (setEntry _ w.eponData.obj.statsData)).data = _
      rw [hentry, hdata]
      rfl
    · rw [← hdata]
      exact hother (fun e => { e with timestamp := now, valid := true }) w.eponData.obj
  serves env s hs hnow := by
    obtain ⟨hvalid, hne, httl⟩ := (hserv _).mp hs
    obtain ⟨t, hrun, hrest⟩ := isStatsValid_serves hne httl s fun n => (hnow n).trans (hstamp _)
    refine ⟨t, ?_, hrest⟩
    rw [hslot]
    show (if (entry s.mem.eponData.obj.statsData).valid then _ else _ : M Bool) _ s = _
    rw [if_pos hvalid]
    exact hrun

/-- Information is valid until its flag is cleared. -/
theorem flaggedSlot_laws {entry : OnuState → FlaggedEntry kind.Record}
    {setEntry : FlaggedEntry kind.Record → OnuState → OnuState}
    (hslot : slot kind = flaggedSlot kind entry setEntry)
    (hserv : ∀ d, Servable kind d ↔ (entry d.onuState).valid)
    (hentry : ∀ e s, entry (setEntry e s) = e)
    (hother : ∀ f d, ∀ k ≠ kind, Older k d (flaggedSlot.update kind entry setEntry f d)) :
    SlotLaws kind where
  isValid w₀ := by
    rw [hslot]
    refine Ensures.read (q := fun w : World => (entry w.eponData.obj.onuState).valid) ?_
    rintro w rfl
    exact ⟨⟨rfl, rfl⟩, fun h => (hserv _).mpr h⟩
  setRecord r d := by
    rw [record, hslot]
    refine ⟨?_, hother (fun e => { e with data := r }) d⟩
    show (entry (setEntry _ d.onuState)).data = r
    rw [hentry]
  markValid w₀ := by
    rw [hslot]
    show Ensures _ (modifyData (flaggedSlot.update kind entry setEntry
      (fun e => { e with valid := true }))) _
    refine Ensures.write ?_
    rintro w rfl
    refine ⟨rfl, ?_, hother (fun e => { e with valid := true }) w.eponData.obj⟩
    rw [record, record, hslot]
    show (entry (setEntry _ w.eponData.obj.onuState)).data = _
    rw [hentry]
    rfl
  -- a slot with a flag is served without a look at the clock
  serves env s hs _ := by
    refine ⟨s, ?_, rfl, rfl, rfl⟩
    rw [hslot]
    show Except.ok ((entry s.mem.eponData.obj.onuState).valid, s) = _
    rw [(hserv _).mp hs]

end Slots

/-- Each record is kept apart from the other four. -/
theorem slotLaws (kind : CacheKind) : SlotLaws kind := by
  cases kind with
  | linkStats =>
      refine timedSlot_laws rfl (fun _ => Iff.rfl) (fun _ => rfl) (fun _ _ => rfl)
        fun f d k hk => ?_
      cases k <;> first | exact absurd rfl hk | exact fun h => ⟨h, rfl⟩
  | transceiverStats =>
      refine timedSlot_laws rfl (fun _ => Iff.rfl) (fun _ => rfl) (fun _ _ => rfl)
        fun f d k hk => ?_
      cases k <;> first | exact absurd rfl hk | exact fun h => ⟨h, rfl⟩
  | oltInfo =>
      refine flaggedSlot_laws rfl (fun _ => Iff.rfl) (fun _ _ => rfl) fun f d k hk => ?_
      cases k <;> first | exact absurd rfl hk | exact fun h => ⟨h, rfl⟩
  | manufacturerInfo =>
      refine flaggedSlot_laws rfl (fun _ => Iff.rfl) (fun _ _ => rfl) fun f d k hk => ?_
      cases k <;> first | exact absurd rfl hk | exact fun h => ⟨h, rfl⟩
  | linkInfo =>
      refine flaggedSlot_laws rfl (fun _ => Iff.rfl) (fun _ _ => rfl) fun f d k hk => ?_
      cases k <;> first | exact absurd rfl hk | exact fun h => ⟨h, rfl⟩

/-! ### What a getter does -/

/-- The HAL has left its answer in the record of `kind`. -/
structure Answered (kind : CacheKind) (answer : HalReturn × kind.Record) (w₀ w : World) : Prop where
  trace : w.trace = w₀.trace ++ [.halRead kind answer.1 answer.2]
  record : record kind w.eponData.obj = answer.2
  others : ∀ k ≠ kind, Older k w₀.eponData.obj w.eponData.obj

/-- The outcomes of a getter: it serves the record, or asks the HAL, which writes the record whether
the call succeeds or not. -/
inductive GetOutcome (kind : CacheKind) (w₀ : World) : Option kind.Record → World → Prop where
  | served (w : World) (hserv : Servable kind w₀.eponData.obj)
      (hdata : w.eponData = w₀.eponData) (htrace : w.trace = w₀.trace) :
      GetOutcome kind w₀ (some (Data.record kind w₀.eponData.obj)) w
  | asked (w : World) (answer : HalReturn × kind.Record) (hanswer : Answered kind answer w₀ w)
      (result : Option kind.Record) (hresult : result = none ∨ result = some answer.2) :
      GetOutcome kind w₀ result w

theorem unlock_return_ensures {α : Type} {m : MutexId} {a : α} {P : World → Prop}
    {Q : α → World → Prop} (h : ∀ w, P w → Q a w) :
    Ensures P (do
      Prog.unlock m
      return a : M α) Q :=
  Ensures.unlock.bind fun _ => Ensures.pure h

/-- Storing the HAL's answer and recording the call. -/
theorem store_ensures (kind : CacheKind) (answer : HalReturn × kind.Record) (w₀ : World)
    {rest : M (Option kind.Record)}
    (hrest : Ensures (Answered kind answer w₀) rest (GetOutcome kind w₀)) :
    Ensures (fun w => w.eponData = w₀.eponData ∧ w.trace = w₀.trace) (do
      modifyData ((slot kind).setRecord answer.2)
      emit (.halRead kind answer.1 answer.2)
      rest) (GetOutcome kind w₀) := by
  refine Ensures.bind (Q := fun _ w => Answered kind answer w₀
    { w with trace := w.trace ++ [.halRead kind answer.1 answer.2] }) (Ensures.write ?_) fun _ => ?_
  · rintro w ⟨hdata, htrace⟩
    obtain ⟨hrecord, hothers⟩ := (slotLaws kind).setRecord answer.2 w.eponData.obj
    refine ⟨?_, hrecord, ?_⟩
    · show w.trace ++ _ = _
      rw [htrace]
    · rw [← hdata]
      exact hothers
  · exact Ensures.bind (Ensures.write fun w hw => hw) fun _ => hrest

/-- Marking a record valid keeps the answer that was stored. -/
theorem markValid_ensures (kind : CacheKind) (answer : HalReturn × kind.Record) (w₀ : World) :
    Ensures (Answered kind answer w₀) (slot kind).markValid
      (fun _ => Answered kind answer w₀) := by
  intro env s _ t hs hrun
  obtain ⟨htrace, hrecord, hothers⟩ := (slotLaws kind).markValid s.mem env s () t rfl hrun
  refine ⟨htrace.trans hs.trace, hrecord.trans hs.record, fun k hk hserv => ?_⟩
  obtain ⟨hserv', hsame'⟩ := hothers k hk hserv
  obtain ⟨hserv'', hsame''⟩ := hs.others k hk hserv'
  exact ⟨hserv'', hsame'.trans hsame''⟩

/-- **Every getter serves or asks.** -/
theorem get_ensures (kind : CacheKind) (w₀ : World) :
    Ensures (· = w₀) (get kind) (GetOutcome kind w₀) := by
  refine Ensures.lock.bind fun _ => ((slotLaws kind).isValid w₀).bind fun served => ?_
  refine Ensures.ite (fun hserved => ?_) (fun _ => ?_)
  · refine Ensures.bind (Q := fun r w => r = record kind w₀.eponData.obj ∧
      Servable kind w₀.eponData.obj ∧ w.eponData = w₀.eponData ∧ w.trace = w₀.trace)
      (Ensures.read ?_) fun r => unlock_return_ensures ?_
    · rintro w ⟨⟨hdata, htrace⟩, hserv⟩
      exact ⟨by rw [hdata]; rfl, hserv hserved, hdata, htrace⟩
    · rintro w ⟨rfl, hserv, hdata, htrace⟩
      exact .served w hserv hdata htrace
  · -- the answer is in the record and in the trace before its return code is looked at
    refine Ensures.bind (Q := fun _ w => w.eponData = w₀.eponData ∧ w.trace = w₀.trace)
      (Ensures.read fun w hw => hw.1) fun _ => ?_
    refine Ensures.bind (Q := fun _ w => w.eponData = w₀.eponData ∧ w.trace = w₀.trace)
      (Ensures.call fun _ _ hw => hw) fun answer => store_ensures kind answer w₀ ?_
    refine Ensures.ite (fun _ => ?_) (fun _ => unlock_return_ensures fun w hw => ?_)
    · refine (markValid_ensures kind answer w₀).bind fun _ => ?_
      refine Ensures.bind (Q := fun r w => r = answer.2 ∧ Answered kind answer w₀ w)
        (Ensures.read fun w hw => ⟨hw.record, hw⟩) fun r => unlock_return_ensures ?_
      rintro w ⟨rfl, hw⟩
      exact .asked w answer hw _ (.inr rfl)
    · exact .asked w answer hw _ (.inl rfl)

/-! ### A getter that serves -/

theorem get_moves {h : Held MutexId} (kind : CacheKind) :
    Moves Initialised (get kind) h h (fun _ => True) := by
  cases kind with
  | linkStats => exact getLinkStats_moves
  | transceiverStats => exact getTransceiverStats_moves
  | oltInfo => exact getOltInfo_moves
  | manufacturerInfo => exact getOnuManufacturerInfo_moves
  | linkInfo => exact getLinkInfo_moves

/-- A record that may be served is served at some reading of the clock, without a HAL call. -/
theorem get_serves {kind : CacheKind} {w : World} (hserv : Servable kind w.eponData.obj) {env : Env}
    (hnow : ∀ n, env.time n = stamp kind w.eponData.obj) :
    ∃ w', Prog.alone (get kind) env w = some (some (record kind w.eponData.obj), w') ∧
      w'.trace = w.trace := by
  obtain ⟨t, hvalid, hheld, hdata, htrace⟩ :=
    (slotLaws kind).serves env ⟨Held.acquire (fun _ => 0) .data, w⟩ hserv hnow
  have hunlock : (Prog.unlock .data : M Unit) env t =
      .ok ((), { t with held := t.held.release .data }) := by
    rw [Prog.unlock, if_neg]
    rw [hheld]
    show ¬ Held.acquire (fun _ => 0) MutexId.data MutexId.data = 0
    rw [Held.acquire_self]
    omega
  refine ⟨t.mem, Prog.alone_eq_some.mpr ⟨t.held.release .data, ?_⟩, htrace⟩
  show (Prog.lock .data >>= _ : M _) env ⟨fun _ => 0, w⟩ = _
  rw [Prog.bind_of_ok (t := ⟨Held.acquire (fun _ => 0) .data, w⟩) rfl, Prog.bind_of_ok hvalid,
    if_pos rfl, Prog.bind_of_ok (t := t) rfl, Prog.bind_of_ok hunlock]
  show Except.ok (some ((slot kind).record t.mem.eponData.obj), _) = _
  rw [hdata]
  rfl

end Data

/-! ### What every operation keeps -/

/-- The five records are the same. -/
structure CachesKept (w w' : World) : Prop where
  trace : w.trace <+: w'.trace
  caches : w'.eponData.obj.caches = w.eponData.obj.caches

/-- A record that may be served afterwards was there before, or a HAL call in between left it
there. -/
structure CachesFollow (w w' : World) : Prop where
  trace : w.trace <+: w'.trace
  servable : ∀ kind, Data.Servable kind w'.eponData.obj →
    (Data.Servable kind w.eponData.obj ∧
      Data.record kind w'.eponData.obj = Data.record kind w.eponData.obj) ∨
    ∃ ret, Effect.halRead kind ret (Data.record kind w'.eponData.obj) ∈
      w'.trace.drop w.trace.length

/-! ### What is new in a longer trace -/

/-- New in the shorter trace is new in the longer. -/
theorem mem_drop_of_prefix {l l' : List Effect} (h : l <+: l') {n : Nat} {e : Effect}
    (he : e ∈ l.drop n) : e ∈ l'.drop n := by
  obtain ⟨m, rfl⟩ := h
  rw [List.drop_append]
  exact List.mem_append_left _ he

theorem mem_drop_of_le {l : List Effect} {m n : Nat} (h : m ≤ n) {e : Effect}
    (he : e ∈ l.drop n) : e ∈ l.drop m := by
  obtain ⟨k, rfl⟩ := Nat.exists_eq_add_of_le h
  rw [← List.drop_drop] at he
  exact List.mem_of_mem_drop he

instance : IsPreorder World CachesKept where
  refl _ := ⟨List.prefix_refl _, rfl⟩
  trans _ _ _ h₁ h₂ := ⟨h₁.trace.trans h₂.trace, h₂.caches.trans h₁.caches⟩

instance : IsPreorder World CachesFollow where
  refl _ := ⟨List.prefix_refl _, fun _ hserv => .inl ⟨hserv, rfl⟩⟩
  trans w₁ w₂ w₃ h₁ h₂ := by
    refine ⟨h₁.trace.trans h₂.trace, fun kind hserv => ?_⟩
    rcases h₂.servable kind hserv with ⟨hserv₂, hsame⟩ | ⟨ret, hmem⟩
    · rw [hsame]
      rcases h₁.servable kind hserv₂ with hold | ⟨ret, hmem⟩
      · exact .inl hold
      · exact .inr ⟨ret, mem_drop_of_prefix h₂.trace hmem⟩
    · exact .inr ⟨ret, mem_drop_of_le h₁.trace.length_le hmem⟩

/-- A change that leaves the caches alone is one that caches follow. -/
theorem CachesKept.follow {w w' : World} (h : CachesKept w w') : CachesFollow w w' := by
  refine ⟨h.trace, fun kind hserv => .inl ?_⟩
  obtain ⟨hiff, -, hrecord⟩ := Data.servable_of_caches h.caches kind
  rw [hiff] at hserv
  exact ⟨hserv, hrecord⟩

section Respects

variable {α : Type} {f : M α}

/-- Reports to the outside leave the caches alone. -/
theorem respects_kept (hf : Respects (Outside fun _ => True) f) : Respects CachesKept f := by
  refine hf.mono fun w w' h => ?_
  obtain ⟨l, htrace, -⟩ := h.trace
  exact ⟨⟨l, htrace.symm⟩, by rw [h.eponData]⟩

theorem respects_follow (hf : Respects CachesKept f) : Respects CachesFollow f :=
  hf.mono fun _ _ h => h.follow

end Respects

/-- A change elsewhere in the data context. -/
theorem modifyData_kept {f : Data → Data} (h : ∀ d, (f d).caches = d.caches) :
    Respects CachesKept (modifyData f) :=
  Respects.write fun _ => ⟨List.prefix_refl _, h _⟩

/-- Dropping records. -/
theorem modifyData_follow {f : Data → Data} (h : ∀ kind d, Data.Older kind d (f d)) :
    Respects CachesFollow (modifyData f) :=
  Respects.write fun _ => ⟨List.prefix_refl _, fun kind hserv => .inl (h kind _ hserv)⟩

/-! ### Queued events

This is where the code falls short of what its header says: no event of the queue invalidates
anything.
-/

namespace Controller

/-- **A status event touches none of the cached records.** -/
theorem processOnuStatusEvent_kept (status : OnuStatus) :
    Respects CachesKept (processOnuStatusEvent status) := by
  refine Respects.bind ?_ fun _ => ?_
  · refine Respects.lock.bind fun _ => (respects_kept (ask_outside _)).bind fun _ =>
      Respects.bind (modifyData_kept ?_) fun _ => Respects.unlock
    exact fun _ => rfl
  · cases statusEvent status with
    | none => exact Respects.pure
    | some event => exact respects_kept (Telemetry.dispatch_outside fun _ => trivial)

/-- An interface's event changes the list and the rows. -/
theorem processInterfaceStatusEvent_kept (limits : HalLimits) (info : InterfaceInfo) :
    Respects CachesKept (processInterfaceStatusEvent limits info) := by
  have hreport (rc : Int) : Respects CachesKept (reportFailure rc) :=
    respects_kept (reportFailure_outside (fun _ => trivial) rc)
  have hraise (event : TelemetryEvent) (ifname : Option CharBuf) :
      Respects CachesKept (Telemetry.dispatch event ifname) :=
    respects_kept (Telemetry.dispatch_outside fun _ => trivial)
  have hupdate : Respects CachesKept
      (WanManager.updateVirtualInterface info.name (info.status = .linkUp)) :=
    respects_kept (WanManager.updateVirtualInterface_outside _ fun _ _ _ => trivial)
  have hnotify (phyIsUp : Bool) : Respects CachesKept (WanManager.notifyPhyStatus phyIsUp) :=
    respects_kept (WanManager.notifyPhyStatus_outside trivial fun _ _ => trivial)
  refine Respects.bind (modifyData_kept ?_) fun _ => Respects.bind ?_ fun _ =>
    Respects.read.bind fun phyIsUp => Respects.bind ?_ fun _ => ?_
  · exact fun _ => rfl
  · exact hupdate.bind fun _ => (hreport _).bind fun _ => hraise _ _
  · exact (hnotify phyIsUp).bind fun _ => (hreport _).bind fun _ => hraise _ _
  · refine Respects.read.bind fun _ => Respects.ite ?_ Respects.pure
    refine (respects_kept (Tr181.syncVeipTable_outside fun _ _ => trivial)).bind fun _ =>
      (hreport _).bind fun _ => modifyData_kept ?_
    exact fun _ => rfl

/-- **No event touches a cache**, a change of the ONU's status included. -/
theorem processEvent_kept (limits : HalLimits) (event : Event) :
    Respects CachesKept (processEvent limits event) := by
  cases event with
  | onuStatus status => exact processOnuStatusEvent_kept status
  | interfaceStatus info => exact processInterfaceStatusEvent_kept limits info
  | alarm info => exact respects_kept (Telemetry.raiseAlarm_outside (fun _ _ => trivial) info)

end Controller

/-! ### Calls of the data API

The calls that change the caches do so by invalidating, which is what the relation allows.
-/

theorem OnuState.invalidateAll_follow : Respects CachesFollow OnuState.invalidateAll := by
  refine Respects.lock.bind fun _ => (modifyData_follow ?_).bind fun _ => Respects.unlock
  rintro (_ | _ | _ | _ | _) d hserv
  · exact ⟨hserv, rfl⟩
  · exact ⟨hserv, rfl⟩
  · cases hserv
  · cases hserv
  · cases hserv

theorem StatsData.invalidateAll_follow : Respects CachesFollow StatsData.invalidateAll := by
  refine Respects.lock.bind fun _ => (modifyData_follow ?_).bind fun _ => Respects.unlock
  rintro (_ | _ | _ | _ | _) d hserv
  · cases hserv.1
  · cases hserv.1
  · exact ⟨hserv, rfl⟩
  · exact ⟨hserv, rfl⟩
  · exact ⟨hserv, rfl⟩

namespace Data

theorem getInterfaceList_kept : Respects CachesKept getInterfaceList := by
  refine Respects.lock.bind fun _ => Respects.read.bind fun before =>
    (respects_kept (ask_outside _)).bind fun answer => ?_
  refine Respects.bind (modifyData_kept ?_) fun _ =>
    (respects_kept (emit_outside trivial)).bind fun _ => Respects.ite ?_ ?_
  · exact fun _ => rfl
  · refine Respects.bind Respects.read fun _ => Respects.ite ?_ ?_
    · refine Respects.bind (modifyData_kept ?_) fun _ => Respects.unlock.bind fun _ => ?_
      · exact fun _ => rfl
      exact (respects_kept (Tr181.syncVeipTable_outside fun _ _ => trivial)).bind fun _ =>
        Respects.pure
    · exact Respects.unlock.bind fun _ => Respects.pure
  · exact Respects.unlock.bind fun _ => Respects.pure

/-- The three commands ask the HAL, report what it answered and go on if it succeeded. -/
theorem command_follow {q : Env → Nat → HalReturn} {effect : HalReturn → Effect}
    {rest : HalReturn → M HalReturn} (hrest : ∀ ret, Respects CachesFollow (rest ret)) :
    Respects CachesFollow (do
      let global ← Prog.read (fun w => w.eponData.isSet)
      if global then
        let ret ← ask q
        emit (effect ret)
        if ret = .success then rest ret else return ret
      else
        return .errorInvalidParam : M HalReturn) := by
  refine Respects.read.bind fun _ => Respects.ite ?_ Respects.pure
  exact (respects_follow (respects_kept (ask_outside _))).bind fun ret =>
    (respects_follow (respects_kept (emit_outside trivial))).bind fun _ =>
    Respects.ite (hrest ret) Respects.pure

theorem raise_return_follow (event : TelemetryEvent) (ret : HalReturn) :
    Respects CachesFollow (do
      Telemetry.raiseSimple event
      return ret : M HalReturn) :=
  (respects_follow (respects_kept (Telemetry.dispatch_outside fun _ => trivial))).bind fun _ =>
    Respects.pure

theorem clearStats_follow : Respects CachesFollow clearStats :=
  command_follow fun _ => Respects.lock.bind fun _ => StatsData.invalidateAll_follow.bind fun _ =>
    Respects.unlock.bind fun _ => Respects.pure

/-- A reset of the ONU invalidates nothing by itself. -/
theorem resetOnu_follow : Respects CachesFollow resetOnu :=
  command_follow fun ret => raise_return_follow _ ret

/-- A factory reset invalidates the statistics. -/
theorem factoryReset_follow : Respects CachesFollow factoryReset :=
  command_follow fun ret => Respects.lock.bind fun _ => StatsData.invalidateAll_follow.bind fun _ =>
    Respects.unlock.bind fun _ => raise_return_follow _ ret

theorem invalidateCache_follow : Respects CachesFollow invalidateCache := by
  refine Respects.lock.bind fun _ => StatsData.invalidateAll_follow.bind fun _ =>
    OnuState.invalidateAll_follow.bind fun _ =>
    Respects.bind (respects_follow (modifyData_kept ?_)) fun _ => Respects.unlock
  exact fun _ => rfl

/-- A getter serves what was there, or what its HAL call left there. -/
theorem get_follow (kind : CacheKind) : Respects CachesFollow (get kind) := by
  intro env s result t hrun
  cases get_ensures kind s.mem env s result t rfl hrun with
  | served w hserv hdata htrace =>
      exact CachesKept.follow ⟨⟨[], by rw [List.append_nil, htrace]⟩, by rw [hdata]⟩
  | asked w answer hanswer result hresult =>
      refine ⟨⟨_, hanswer.trace.symm⟩, fun k hserv => ?_⟩
      by_cases hk : k = kind
      · subst hk
        refine .inr ⟨answer.1, ?_⟩
        rw [hanswer.trace, hanswer.record, List.drop_left]
        exact List.mem_singleton_self _
      · exact .inl (hanswer.others k hk hserv)

end Data

/-! ### Runs -/

/-- What the controller's loop, the stats poller and the clients of the data API do. Getters hold
the data mutex throughout and events are processed one at a time, so a run is a list of these. -/
inductive CacheOp where
  | event (e : Event)
  | get (kind : CacheKind)
  | getInterfaceList
  | clearStats
  | resetOnu
  | factoryReset
  | invalidateCache

def CacheOp.run (limits : HalLimits) : CacheOp → M Unit
  | .event e          => Controller.processEvent limits e
  | .get kind         => do let _ ← Data.get kind
  | .getInterfaceList => do let _ ← Data.getInterfaceList
  | .clearStats       => do let _ ← Data.clearStats
  | .resetOnu         => do let _ ← Data.resetOnu
  | .factoryReset     => do let _ ← Data.factoryReset
  | .invalidateCache  => Data.invalidateCache

def CacheOp.step (limits : HalLimits) (env : Env) (w : World) (op : CacheOp) : Option World :=
  (Prog.alone (op.run limits) env w).map Prod.snd

/-- **Every operation of the manager is one that the caches follow.** -/
theorem CacheOp.run_follow (limits : HalLimits) (op : CacheOp) :
    Respects CachesFollow (op.run limits) := by
  cases op with
  | event e => exact respects_follow (Controller.processEvent_kept limits e)
  | get kind => exact (Data.get_follow kind).bind fun _ => Respects.pure
  | getInterfaceList =>
      exact (respects_follow Data.getInterfaceList_kept).bind fun _ => Respects.pure
  | clearStats => exact Data.clearStats_follow.bind fun _ => Respects.pure
  | resetOnu => exact Data.resetOnu_follow.bind fun _ => Respects.pure
  | factoryReset => exact Data.factoryReset_follow.bind fun _ => Respects.pure
  | invalidateCache => exact Data.invalidateCache_follow

theorem CacheOp.step_follow {limits : HalLimits} {env : Env} {w w' : World} {op : CacheOp}
    (h : op.step limits env w = some w') : CachesFollow w w' := by
  obtain ⟨⟨_, v⟩, hrun, rfl⟩ := Option.map_eq_some_iff.mp h
  exact (op.run_follow limits).alone hrun

/-- **Run lemma.** -/
theorem CacheOp.exec_follow {limits : HalLimits} {env : Env} {w w' : World} {ops : List CacheOp}
    (h : exec (CacheOp.step limits env) w ops = some w') : CachesFollow w w' :=
  exec_invariant (P := CachesFollow w)
    (fun _ _ _ hw hstep => trans_of CachesFollow hw (CacheOp.step_follow hstep))
    (refl_of CachesFollow w) h

/-- No run gets stuck: every operation returns. -/
theorem CacheOp.step_isSome (limits : HalLimits) (env : Env) {w : World} (hw : Initialised w)
    (op : CacheOp) : ∃ w', op.step limits env w = some w' ∧ Initialised w' := by
  have hfree : Free (fun _ => 0) := fun _ _ => rfl
  have hmoves : Moves Initialised (op.run limits) (fun _ => 0) (fun _ => 0) (fun _ => True) := by
    cases op with
    | event e => exact Controller.processEvent_moves hfree limits e
    | get kind => exact (Data.get_moves kind).bind fun _ _ => Moves.pure trivial
    | getInterfaceList => exact Data.getInterfaceList_moves.bind fun _ _ => Moves.pure trivial
    | clearStats => exact (Data.clearStats_moves rfl).bind fun _ _ => Moves.pure trivial
    | resetOnu => exact (Data.resetOnu_moves rfl).bind fun _ _ => Moves.pure trivial
    | factoryReset => exact (Data.factoryReset_moves hfree).bind fun _ _ => Moves.pure trivial
    | invalidateCache => exact Data.invalidateCache_moves hfree
  obtain ⟨_, w', hrun, hw', -⟩ := hmoves.alone hw env
  exact ⟨w', by rw [CacheOp.step, hrun]; rfl, hw'⟩

/-! ### Served after the change -/

/-- Every non-`NULL` result of a getter in `w` and afterwards comes from a HAL call made after the
first `mark` effects. -/
def ServedAfter (limits : HalLimits) (env : Env) (mark : Nat) (w : World) : Prop :=
  ∀ ops w', exec (CacheOp.step limits env) w ops = some w' →
    ∀ kind r w'', Prog.alone (Data.get kind) env w' = some (some r, w'') →
      ∃ ret, Effect.halRead kind ret r ∈ w''.trace.drop mark

/-- If nothing may be served, everything that is served later comes from a later HAL call. -/
theorem servedAfter_of_none {w : World} (h : ∀ kind, ¬ Data.Servable kind w.eponData.obj)
    (limits : HalLimits) (env : Env) : ServedAfter limits env w.trace.length w := by
  intro ops w' hrun kind r w'' hget
  have hfollow : CachesFollow w w' := CacheOp.exec_follow hrun
  have hout := (Data.get_ensures kind w').alone rfl hget
  cases hout with
  | served w'' hserv hdata htrace =>
      rcases hfollow.servable kind hserv with ⟨hold, -⟩ | ⟨ret, hmem⟩
      · exact absurd hold (h kind)
      · exact ⟨ret, by rw [htrace]; exact hmem⟩
  | asked w'' answer hanswer result hresult =>
      rcases hresult with hnone | hsome
      · cases hnone
      · cases hsome
        refine ⟨answer.1, ?_⟩
        rw [hanswer.trace]
        rw [List.drop_append_of_le_length hfollow.trace.length_le]
        exact List.mem_append_right _ (List.mem_singleton_self _)

/-- If something may be served, the getter can return it at once. -/
theorem not_servedAfter {w : World} {kind : CacheKind}
    (hserv : Data.Servable kind w.eponData.obj) {env : Env}
    (hnow : ∀ n, env.time n = Data.stamp kind w.eponData.obj) (limits : HalLimits) :
    ¬ ServedAfter limits env w.trace.length w := by
  intro h
  obtain ⟨w', hget, htrace⟩ := Data.get_serves hserv hnow
  obtain ⟨ret, hmem⟩ := h [] w rfl kind _ w' hget
  rw [htrace, List.drop_length] at hmem
  cases hmem

/-! ### The result -/

/-- **When a status change is safe for the caches**: whatever happens afterwards, every result comes
from a HAL call made after the event was processed, exactly if no record may be served when the
event is processed. -/
theorem status_change_refreshes_iff (limits : HalLimits) {w : World} (hw : Initialised w)
    (status : OnuStatus) :
    (∀ env w₁, Prog.alone (Controller.processOnuStatusEvent status) env w = some ((), w₁) →
      ServedAfter limits env w₁.trace.length w₁) ↔
    ∀ kind, ¬ Data.Servable kind w.eponData.obj := by
  constructor
  · intro h kind hserv
    let env : Env := { Env.quiet with time := fun _ => Data.stamp kind w.eponData.obj }
    obtain ⟨_, w₁, hrun, -⟩ := (Controller.processOnuStatusEvent_moves
      (h := fun _ => 0) (fun _ _ => rfl) status).alone hw env
    have hkept : CachesKept w w₁ := (Controller.processOnuStatusEvent_kept status).alone hrun
    obtain ⟨hiff, hstamp, -⟩ := Data.servable_of_caches hkept.caches kind
    have hnow : ∀ n, env.time n = Data.stamp kind w₁.eponData.obj := fun _ => hstamp.symm
    exact not_servedAfter (by rw [hiff]; exact hserv) hnow limits (h env w₁ hrun)
  · intro h env w₁ hrun
    have hkept : CachesKept w w₁ := (Controller.processOnuStatusEvent_kept status).alone hrun
    refine servedAfter_of_none (fun kind hserv => h kind ?_) limits env
    obtain ⟨hiff, -⟩ := Data.servable_of_caches hkept.caches kind
    rw [← hiff]
    exact hserv

/-- Right after start-up. -/
theorem status_change_refreshes_registration :
    ∃ w, Initialised w ∧
      ((∀ env w₁, Prog.alone (Controller.processOnuStatusEvent .registration) env w =
          some ((), w₁) → ServedAfter HalLimits.small env w₁.trace.length w₁) ↔
        ∀ kind, ¬ Data.Servable kind w.eponData.obj) := by
  obtain ⟨t, ht⟩ := Controller.init_quiet
  have hw : Initialised t.mem := Controller.init_initialised _ _ _ true t trivial ht rfl
  exact ⟨t.mem, hw, status_change_refreshes_iff HalLimits.small hw .registration⟩

/-- The link's data is read after start-up, and then the ONU registers: the next reader gets the
data from before, and the HAL is not asked. -/
theorem link_info_survives_registration :
    ∃ w₀ w w₁ w₂ r₀ r,
      Prog.alone (Controller.init HalLimits.small) Env.quiet (World.boot fun _ => none) =
        some (true, w₀) ∧
      Prog.alone (Data.get .linkInfo) Env.quiet w₀ = some (some r₀, w) ∧
      w.eponData.obj.onuState.currentStatus ≠ .registration ∧
      Prog.alone (Controller.processOnuStatusEvent .registration) Env.quiet w = some ((), w₁) ∧
      Prog.alone (Data.get .linkInfo) Env.quiet w₁ = some (some r, w₂) ∧
      ¬ ∃ ret, Effect.halRead .linkInfo ret r ∈ w₂.trace.drop w₁.trace.length := by
  have h : ((Prog.alone (Controller.init HalLimits.small) Env.quiet
        (World.boot fun _ => none)).bind fun a =>
      (Prog.alone (Data.get .linkInfo) Env.quiet a.2).bind fun b =>
      (Prog.alone (Controller.processOnuStatusEvent .registration) Env.quiet b.2).bind fun c =>
      (Prog.alone (Data.get .linkInfo) Env.quiet c.2).map fun d =>
        (a.1, b.1.isSome, decide (b.2.eponData.obj.onuState.currentStatus ≠ .registration),
          d.1.isSome, (d.2.trace.drop c.2.trace.length).length)) =
      some (true, true, true, true, 0) := by
    decide +kernel
  simp only [Option.bind_eq_some_iff, Option.map_eq_some_iff] at h
  obtain ⟨⟨ok, w₀⟩, h₀, ⟨r₀, w⟩, h₁, ⟨_, w₁⟩, h₂, ⟨r, w₂⟩, h₃, heq⟩ := h
  simp only [Prod.mk.injEq, decide_eq_true_eq] at heq
  obtain ⟨rfl, hr₀, hstatus, hr, hnone⟩ := heq
  obtain ⟨r₀, rfl⟩ := Option.isSome_iff_exists.mp hr₀
  obtain ⟨r, rfl⟩ := Option.isSome_iff_exists.mp hr
  refine ⟨w₀, w, w₁, w₂, r₀, r, h₀, h₁, hstatus, h₂, h₃, ?_⟩
  rintro ⟨ret, hmem⟩
  rw [List.eq_nil_of_length_eq_zero hnone] at hmem
  cases hmem

end EponManager
