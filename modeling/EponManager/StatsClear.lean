import EponManager.Lib.RecursiveMutex
import EponManager.StatsCache

/-!
# Clearing the statistics while they are read

`eponMgr_data_clear_stats` and `eponMgr_data_factory_reset` call the HAL without the data mutex and
invalidate the caches under it afterwards. A getter that has the mutex between the two stores what
it read before the HAL was called. The entry is invalidated all the same, so that once the call has
returned a valid entry was read after it.

* `StatsRace.step` is the interleaving of any number of threads. A call made without interruption is
  a run of it (`getter_steps`, `clear_steps`).
* `history` is what happened, the latest event first. `ReadSince` says of a call to the HAL that
  the statistics were read successfully after it.
* `StatsRace.Inv` is the invariant, `stats_clear_linearised` its consequence for the getters.
-/

namespace EponManager

open Lib

/-! ### The threads -/

/-- The calls that clear the HAL's counters. -/
inductive ClearOp where
  | clearStats
  | factoryReset
  deriving DecidableEq, Repr

inductive RaceCall where
  | get (k : StatsKind)
  | clear (op : ClearOp)
  deriving DecidableEq, Repr

/-- What a thread does next, and in which call: the calls are numbered in the order in which they
start. -/
inductive StatsPc where
  | idle
  | getLock (id : Nat) (k : StatsKind)
  /-- the test of `valid` and of the TTL -/
  | getCheck (id : Nat) (k : StatsKind)
  /-- the HAL call -/
  | getRead (id : Nat) (k : StatsKind)
  /-- `timestamp = time(NULL)` -/
  | getStamp (id : Nat) (k : StatsKind)
  /-- `valid = true` -/
  | getMark (id : Nat) (k : StatsKind)
  | getUnlock (id : Nat) (k : StatsKind) (found : Bool)
  | getReturn (id : Nat) (k : StatsKind) (found : Bool)
  /-- the HAL call -/
  | clearHal (id : Nat) (op : ClearOp)
  | clearLock (id : Nat) (op : ClearOp)
  /-- `eponMgr_statsData_invalidate_all`, before it resets this entry -/
  | clearEntry (id : Nat) (op : ClearOp) (k : StatsKind)
  /-- before it resets the other two flags -/
  | clearInfo (id : Nat) (op : ClearOp)
  | clearUnlock (id : Nat) (op : ClearOp)
  /-- `eponMgr_telemetry_raise_simple(EPON_TELEM_SYSTEM_FACTORY_RESET)` -/
  | clearRaise (id : Nat)
  | clearReturn (id : Nat) (ret : HalReturn)
  deriving DecidableEq, Repr

namespace StatsPc

/-- The call that is being made. -/
@[simp] def call? : StatsPc → Option Nat
  | .idle => none
  | .getLock id _ | .getCheck id _ | .getRead id _ | .getStamp id _ | .getMark id _
  | .getUnlock id _ _ | .getReturn id _ _ | .clearHal id _ | .clearLock id _ | .clearEntry id _ _
  | .clearInfo id _ | .clearUnlock id _ | .clearRaise id | .clearReturn id _ => some id

/-- Between a lock of the data mutex and the unlock. -/
@[simp] def holds : StatsPc → Bool
  | .getCheck .. | .getRead .. | .getStamp .. | .getMark .. | .getUnlock .. | .clearEntry ..
  | .clearInfo .. | .clearUnlock .. => true
  | _ => false

/-- In a getter. -/
@[simp] def gets : StatsPc → Bool
  | .getLock .. | .getCheck .. | .getRead .. | .getStamp .. | .getMark .. | .getUnlock ..
  | .getReturn .. => true
  | _ => false

/-- A getter that has read the statistics and not marked them valid yet. -/
@[simp] def storing : StatsPc → Option StatsKind
  | .getStamp _ k | .getMark _ k => some k
  | _ => none

end StatsPc

/-! ### The state -/

/-- What happened, and in which call. -/
inductive RaceEvent where
  | started (id : Nat)
  /-- the HAL call of a getter: its return code and what the record holds afterwards -/
  | read (id : Nat) (k : StatsKind) (ret : HalReturn) (record : k.Record)
  /-- the call of a getter returned: the record its pointer shows, `none` for `NULL` -/
  | got (id : Nat) (k : StatsKind) (record : Option k.Record)
  /-- the HAL call of a clear or a factory reset took effect -/
  | cleared (id : Nat) (op : ClearOp) (ret : HalReturn)
  | invalidated (id : Nat) (k : StatsKind)
  /-- a clear or a factory reset returned -/
  | returned (id : Nat) (ret : HalReturn)

/-- A HAL call that filled the record of this kind. -/
def RaceEvent.reads (k : StatsKind) : RaceEvent → Bool
  | .read _ l _ _ => l = k
  | _             => false

/-- What the calls of a step answer. -/
structure RaceAnswers where
  /-- `time(NULL)` -/
  now : Int
  read : (k : StatsKind) → HalReturn × k.Record
  clear : ClearOp → HalReturn

structure StatsRace where
  stats : StatsData
  /-- `eponData->mutex` -/
  mutex : RecursiveMutex Nat
  pc : Nat → StatsPc
  /-- how many calls have started -/
  calls : Nat
  history : List RaceEvent

inductive RaceAction where
  /-- `eponMgr_data_lock` by a thread that is in none of these calls -/
  | lockData (t : Nat)
  | unlockData (t : Nat)
  | start (t : Nat) (call : RaceCall)
  /-- the next step of the call that the thread makes -/
  | run (t : Nat) (answers : RaceAnswers)

namespace StatsRace

/-- No thread is in a call. -/
def init (stats : StatsData) : StatsRace where
  stats
  mutex := none
  pc _ := .idle
  calls := 0
  history := []

/-! ### The steps -/

def setPc (s : StatsRace) (t : Nat) (pc : StatsPc) : StatsRace :=
  { s with pc := Function.update s.pc t pc }

def emit (s : StatsRace) (e : RaceEvent) : StatsRace := { s with history := e :: s.history }

def setEntry (s : StatsRace) (k : StatsKind) (e : TimedEntry k.Record) : StatsRace :=
  { s with stats := k.setEntry e s.stats }

def resetInfo (s : StatsRace) : StatsRace :=
  { s with stats := { s.stats with manufacturerInfoValid := false, linkInfoValid := false } }

/-- Lock the data mutex, once it is free or the thread's own. -/
def lock (s : StatsRace) (t : Nat) (next : StatsPc) : Option StatsRace :=
  (s.mutex.lock t).map fun m => { s.setPc t next with mutex := m }

def unlock (s : StatsRace) (t : Nat) (next : StatsPc) : Option StatsRace :=
  (s.mutex.unlock t).map fun m => { s.setPc t next with mutex := m }

/-- The first step of a call. -/
def begin (id : Nat) : RaceCall → StatsPc
  | .get k    => .getLock id k
  | .clear op => .clearHal id op

/-- The next step of a thread that is at `pc`. The mutex of the statistics is not shown: who takes
it holds the data mutex. -/
def runAt (s : StatsRace) (t : Nat) (a : RaceAnswers) : StatsPc → Option StatsRace
  | .idle => none
  | .getLock id k => s.lock t (.getCheck id k)
  | .getCheck id k =>
      if k.Stored s.stats ∧
          WithinTtl s.stats.ttlSeconds (k.entry s.stats).timestamp a.now then
        some (s.setPc t (.getUnlock id k true))
      else
        some (s.setPc t (.getRead id k))
  | .getRead id k =>
      -- the HAL fills the entry itself, also when it fails
      let filled := (s.setEntry k { k.entry s.stats with data := (a.read k).2 }).emit
        (.read id k (a.read k).1 (a.read k).2)
      if (a.read k).1 = .success then some (filled.setPc t (.getStamp id k))
      else some (filled.setPc t (.getUnlock id k false))
  | .getStamp id k =>
      some ((s.setEntry k { k.entry s.stats with timestamp := a.now }).setPc t (.getMark id k))
  | .getMark id k =>
      some ((s.setEntry k { k.entry s.stats with valid := true }).setPc t (.getUnlock id k true))
  | .getUnlock id k found => s.unlock t (.getReturn id k found)
  | .getReturn id k found =>
      -- the getter returns a pointer to the entry
      let record := if found then some (k.entry s.stats).data else none
      some ((s.emit (.got id k record)).setPc t .idle)
  | .clearHal id op =>
      let cleared := s.emit (.cleared id op (a.clear op))
      if a.clear op = .success then some (cleared.setPc t (.clearLock id op))
      else some (cleared.setPc t (.clearReturn id (a.clear op)))
  | .clearLock id op => s.lock t (.clearEntry id op .linkStats)
  | .clearEntry id op k =>
      some (((s.setEntry k { k.entry s.stats with valid := false, timestamp := 0 }).emit
        (.invalidated id k)).setPc t
        (match k with
          | .linkStats        => .clearEntry id op .transceiverStats
          | .transceiverStats => .clearInfo id op))
  | .clearInfo id op => some (s.resetInfo.setPc t (.clearUnlock id op))
  | .clearUnlock id op =>
      s.unlock t (match op with
        | .clearStats   => .clearReturn id .success
        | .factoryReset => .clearRaise id)
  | .clearRaise id => some (s.setPc t (.clearReturn id .success))
  | .clearReturn id ret => some ((s.emit (.returned id ret)).setPc t .idle)

def run (s : StatsRace) (t : Nat) (a : RaceAnswers) : Option StatsRace := s.runAt t a (s.pc t)

def step (s : StatsRace) : RaceAction → Option StatsRace
  | .lockData t => if s.pc t = .idle then s.lock t .idle else none
  | .unlockData t => if s.pc t = .idle then s.unlock t .idle else none
  | .start t call =>
      if s.pc t = .idle then
        some { (s.emit (.started s.calls)).setPc t (begin s.calls call) with calls := s.calls + 1 }
      else none
  | .run t a => s.run t a

end StatsRace

/-! ### A call without interruption -/

namespace ClearOp

def run : ClearOp → M HalReturn
  | .clearStats   => Data.clearStats
  | .factoryReset => Data.factoryReset

def answer (env : Env) : ClearOp → Nat → HalReturn
  | .clearStats   => env.halClearStats
  | .factoryReset => env.halFactoryReset

/-- What a clear or a factory reset returns, and what it leaves of the caches. -/
theorem alone_run (op : ClearOp) {env : Env} {w w' : World} {ret : HalReturn}
    (hset : w.eponData.isSet = true) (hrun : Prog.alone op.run env w = some (ret, w')) :
    ret = op.answer env w.tick ∧
      w'.stats = if op.answer env w.tick = .success then w.stats.invalidated else w.stats := by
  obtain ⟨held, hrun⟩ := Prog.alone_eq_some.mp hrun
  cases op with
  | clearStats =>
      change (if w.eponData.isSet = true then _ else _ : M HalReturn) env _ = _ at hrun
      rw [if_pos hset] at hrun
      change (if env.halClearStats w.tick = .success then _ else _ : M HalReturn) env _ = _ at hrun
      rw [answer]
      -- the cache is invalidated only after the HAL has agreed
      by_cases hok : env.halClearStats w.tick = .success
      · rw [if_pos hok] at hrun ⊢
        cases hrun
        exact ⟨rfl, rfl⟩
      · rw [if_neg hok] at hrun ⊢
        cases hrun
        exact ⟨rfl, rfl⟩
  | factoryReset =>
      change (if w.eponData.isSet = true then _ else _ : M HalReturn) env _ = _ at hrun
      rw [if_pos hset] at hrun
      change (if env.halFactoryReset w.tick = .success then _ else _ : M HalReturn) env _ = _
        at hrun
      rw [answer]
      by_cases hok : env.halFactoryReset w.tick = .success
      · rw [if_pos hok] at hrun ⊢
        cases hrun
        exact ⟨rfl, rfl⟩
      · rw [if_neg hok] at hrun ⊢
        cases hrun
        exact ⟨rfl, rfl⟩

end ClearOp

namespace StatsRace

/-! ### Runs of one thread -/

/-- The thread `t`, if it is not interrupted, comes to a state that meets `Q`. -/
def Completes (t : Nat) (Q : StatsRace → Prop) (s : StatsRace) : Prop :=
  ∃ (l : List RaceAnswers) (s' : StatsRace), exec step s (l.map (.run t)) = some s' ∧ Q s'

variable {s s₁ : StatsRace} {t : Nat} {m : RecursiveMutex Nat} {Q : StatsRace → Prop}

theorem Completes.done (h : Q s) : Completes t Q s := ⟨[], s, rfl, h⟩

theorem Completes.cons (pc : StatsPc) (hpc : s.pc t = pc) (a : RaceAnswers)
    (hrun : s.runAt t a pc = some s₁) (h : Completes t Q s₁) : Completes t Q s := by
  obtain ⟨l, s', hl, hQ⟩ := h
  refine ⟨a :: l, s', exec_cons_eq_some.mpr ⟨s₁, ?_, hl⟩, hQ⟩
  show s.runAt t a (s.pc t) = some s₁
  rw [hpc, hrun]

/-- Locking the data mutex, when it can be locked. -/
theorem lock_of_eq_some (h : s.mutex.lock t = some m) (next : StatsPc) :
    s.lock t next = some { s.setPc t next with mutex := m } := by
  rw [lock, h]
  rfl

theorem unlock_of_eq_some (h : s.mutex.unlock t = some m) (next : StatsPc) :
    s.unlock t next = some { s.setPc t next with mutex := m } := by
  rw [unlock, h]
  rfl

/-- A call that the thread `t` made from `s` has returned: `e` was the last that happened, and the
mutex is as it was. -/
structure Returned (s : StatsRace) (t : Nat) (stats : StatsData) (e : RaceEvent)
    (s' : StatsRace) : Prop where
  stats : s'.stats = stats
  mutex : s'.mutex = s.mutex
  pc : s'.pc t = .idle
  last : s'.history.head? = some e

/-- **A getter** that is not interrupted does in the interleaving what it does alone. -/
theorem getter_steps {k : StatsKind} {env : Env} {w w' : World} {r : Option k.Record}
    (hrun : Prog.alone k.getter env w = some (r, w')) (hidle : s.pc t = .idle)
    (hstats : s.stats = w.stats) (hm : s.mutex.lock t = some m) :
    ∃ s₁, s.step (.start t (.get k)) = some s₁ ∧
      Completes t (s.Returned t w'.stats (.got s.calls k r)) s₁ := by
  rw [StatsKind.alone_getter, Option.some.injEq] at hrun
  obtain ⟨stats, mutex, pcs, calls, history⟩ := s
  subst hstats
  -- the call alone makes the same steps; the clock is read a second time after the HAL
  let asked : RaceAnswers :=
    { now := env.time w.tick, read := fun l => l.answer env w, clear := fun _ => .success }
  let stored : RaceAnswers := { asked with now := env.time (k.halTick w + 1) }
  have hback := RecursiveMutex.unlock_lock hm
  refine ⟨_, if_pos hidle, Completes.cons (.getLock calls k) (Function.update_self ..) asked
    (lock_of_eq_some (by exact hm) _) ?_⟩
  -- the three ways a getter goes
  by_cases hhit : k.Hit env w
  · rw [StatsKind.get_hit hhit] at hrun
    cases hrun
    refine Completes.cons _ (Function.update_self ..) asked (if_pos hhit) ?_
    refine Completes.cons (.getUnlock calls k true) (Function.update_self ..) asked
      (unlock_of_eq_some (by exact hback) _) ?_
    refine Completes.cons _ (Function.update_self ..) asked rfl (Completes.done ?_)
    exact ⟨rfl, rfl, Function.update_self .., rfl⟩
  · refine Completes.cons _ (Function.update_self ..) asked (if_neg hhit) ?_
    by_cases hok : (k.answer env w).1 = .success
    · rw [StatsKind.get_success hhit hok] at hrun
      cases hrun
      refine Completes.cons _ (Function.update_self ..) asked (if_pos hok) ?_
      refine Completes.cons _ (Function.update_self ..) stored rfl ?_
      refine Completes.cons _ (Function.update_self ..) stored rfl ?_
      refine Completes.cons (.getUnlock calls k true) (Function.update_self ..) stored
        (unlock_of_eq_some (by exact hback) _) ?_
      refine Completes.cons _ (Function.update_self ..) stored rfl (Completes.done ?_)
      refine ⟨?_, rfl, Function.update_self .., ?_⟩
      · cases k <;> rfl
      · cases k <;> rfl
    · rw [StatsKind.get_failure hhit hok] at hrun
      cases hrun
      refine Completes.cons _ (Function.update_self ..) asked (if_neg hok) ?_
      refine Completes.cons (.getUnlock calls k false) (Function.update_self ..) asked
        (unlock_of_eq_some (by exact hback) _) ?_
      refine Completes.cons _ (Function.update_self ..) asked rfl (Completes.done ?_)
      exact ⟨rfl, rfl, Function.update_self .., rfl⟩

/-- **A clear or a factory reset** that is not interrupted does in the interleaving what it does
alone. -/
theorem clear_steps {op : ClearOp} {env : Env} {w w' : World} {ret : HalReturn}
    (hset : w.eponData.isSet = true) (hrun : Prog.alone op.run env w = some (ret, w'))
    (hidle : s.pc t = .idle) (hstats : s.stats = w.stats) (hm : s.mutex.lock t = some m) :
    ∃ s₁, s.step (.start t (.clear op)) = some s₁ ∧
      Completes t (s.Returned t w'.stats (.returned s.calls ret)) s₁ := by
  obtain ⟨rfl, hleft⟩ := op.alone_run hset hrun
  obtain ⟨stats, mutex, pcs, calls, history⟩ := s
  subst hstats
  let a : RaceAnswers :=
    { now := 0, read := fun l => l.answer env w, clear := fun op => op.answer env w.tick }
  -- after its own lock and unlock the mutex is as before
  have hback := RecursiveMutex.unlock_lock hm
  refine ⟨_, if_pos hidle, ?_⟩
  by_cases hok : op.answer env w.tick = .success
  · rw [if_pos hok] at hleft
    refine Completes.cons (.clearHal calls op) (Function.update_self ..) a (if_pos hok) ?_
    refine Completes.cons (.clearLock calls op) (Function.update_self ..) a
      (lock_of_eq_some (by exact hm) _) ?_
    refine Completes.cons _ (Function.update_self ..) a rfl ?_
    refine Completes.cons (.clearEntry calls op .transceiverStats) (Function.update_self ..) a rfl
      ?_
    refine Completes.cons (.clearInfo calls op) (Function.update_self ..) a rfl ?_
    refine Completes.cons (.clearUnlock calls op) (Function.update_self ..) a
      (unlock_of_eq_some (by exact hback) _) ?_
    cases op with
    | clearStats =>
        refine Completes.cons (.clearReturn calls .success) (Function.update_self ..) a rfl
          (Completes.done ?_)
        rw [hok, hleft]
        exact ⟨rfl, rfl, Function.update_self .., rfl⟩
    | factoryReset =>
        refine Completes.cons (.clearRaise calls) (Function.update_self ..) a rfl ?_
        refine Completes.cons (.clearReturn calls .success) (Function.update_self ..) a rfl
          (Completes.done ?_)
        rw [hok, hleft]
        exact ⟨rfl, rfl, Function.update_self .., rfl⟩
  · rw [if_neg hok] at hleft
    refine Completes.cons (.clearHal calls op) (Function.update_self ..) a (if_neg hok) ?_
    refine Completes.cons _ (Function.update_self ..) a rfl (Completes.done ?_)
    rw [hleft]
    exact ⟨rfl, rfl, Function.update_self .., rfl⟩

end StatsRace

/-! ### What the history says -/

/-- After the HAL call of the clear `c`, the statistics were read successfully. -/
def ReadSince (c : Nat) (k : StatsKind) (history : List RaceEvent) : Prop :=
  ∃ fresh op old, history = fresh ++ .cleared c op .success :: old ∧
    ∃ id record, .read id k .success record ∈ fresh

/-- The clear `c` returned success before the call `id` started. -/
def ReturnedBefore (c id : Nat) (history : List RaceEvent) : Prop :=
  ∃ later earlier, history = later ++ .started id :: earlier ∧ .returned c .success ∈ earlier

/-- The record is what the latest HAL call of its kind left, and that call, like a successful one
before it, was made after the HAL call of the clear `c`. -/
def ServedSince (c : Nat) (k : StatsKind) (record : k.Record) (history : List RaceEvent) : Prop :=
  ∃ fresh op old, history = fresh ++ .cleared c op .success :: old ∧
    (∃ id r, .read id k .success r ∈ fresh) ∧
    ∃ id ret, fresh.find? (RaceEvent.reads k) = some (.read id k ret record)

/-- **Clears are linearised against reads**: a getter that starts after a clear has returned success
serves a record that was read after the HAL call of that clear. -/
def Linearised (history : List RaceEvent) : Prop :=
  ∀ id k record past, .got id k (some record) :: past <:+ history →
    ∀ c, ReturnedBefore c id past → ServedSince c k record past

section History

variable {h : List RaceEvent} {e : RaceEvent} {c id : Nat} {k : StatsKind}

/-! ### What stays true as the history grows -/

/-- A read stays a read. -/
theorem ReadSince.cons (hs : ReadSince c k h) : ReadSince c k (e :: h) := by
  obtain ⟨fresh, op, old, rfl, i, r, hr⟩ := hs
  exact ⟨e :: fresh, op, old, rfl, i, r, List.mem_cons_of_mem _ hr⟩

/-- A read that succeeds comes after every clear so far. -/
theorem readSince_of_cleared {op : ClearOp} (hc : .cleared c op .success ∈ h) (id : Nat)
    (record : k.Record) : ReadSince c k (.read id k .success record :: h) := by
  obtain ⟨later, old, rfl⟩ := List.append_of_mem hc
  exact ⟨_ :: later, op, old, rfl, id, record, List.mem_cons_self⟩

/-- A clear that returned before the call is in the history. -/
theorem ReturnedBefore.mem (hb : ReturnedBefore c id h) : .returned c .success ∈ h := by
  obtain ⟨later, earlier, rfl, hmem⟩ := hb
  exact List.mem_append_right _ (List.mem_cons_of_mem _ hmem)

/-- It had returned before the last event, unless that is the beginning of the call. -/
theorem ReturnedBefore.of_cons (hb : ReturnedBefore c id (e :: h)) (hne : e ≠ .started id) :
    ReturnedBefore c id h := by
  obtain ⟨later, earlier, heq, hmem⟩ := hb
  cases later with
  | nil => exact absurd (List.cons.inj heq).1 hne
  | cons e' later => exact ⟨later, earlier, (List.cons.inj heq).2, hmem⟩

/-- If the statistics were read since, what the latest read left was read since. -/
theorem ReadSince.served (hs : ReadSince c k h) {record : k.Record}
    (hlatest : ∀ id ret r, h.find? (RaceEvent.reads k) = some (.read id k ret r) → r = record) :
    ServedSince c k record h := by
  obtain ⟨fresh, op, old, rfl, id, r, hr⟩ := hs
  refine ⟨fresh, op, old, rfl, ⟨id, r, hr⟩, ?_⟩
  have hsome : (fresh.find? (RaceEvent.reads k)).isSome = true :=
    List.find?_isSome.mpr ⟨_, hr, decide_eq_true rfl⟩
  obtain ⟨e, he⟩ := Option.isSome_iff_exists.mp hsome
  have hkind : RaceEvent.reads k e = true := List.find?_some he
  cases e with
  | read i l ret r' =>
      cases of_decide_eq_true hkind
      have hfind : (fresh ++ .cleared c op .success :: old).find? (RaceEvent.reads k) =
          some (.read i k ret r') := by
        rw [List.find?_append, he]
        rfl
      cases hlatest i ret r' hfind
      exact ⟨i, ret, he⟩
  | _ => cases hkind

/-- One more event, if the record it delivers is recent enough. -/
theorem Linearised.cons (hl : Linearised h)
    (hgot : ∀ id k record, e = .got id k (some record) → ∀ c, ReturnedBefore c id h →
      ServedSince c k record h) : Linearised (e :: h) := by
  intro id k record past hsuffix
  rcases List.suffix_cons_iff.mp hsuffix with heq | hsuffix
  · obtain ⟨rfl, rfl⟩ := List.cons.inj heq
    exact hgot id k record rfl
  · exact hl id k record past hsuffix

end History

/-! ### The invariant -/

/-- What a thread has found out or done when it has come to `pc`. -/
def StatsPc.Knows (pc : StatsPc) (h : List RaceEvent) : Prop :=
  match pc with
  | .getStamp _ k | .getMark _ k => ∀ c, .invalidated c k ∈ h → ReadSince c k h
  | .getUnlock id k true | .getReturn id k true => ∀ c, ReturnedBefore c id h → ReadSince c k h
  | .clearLock id op | .clearEntry id op .linkStats => .cleared id op .success ∈ h
  | .clearEntry id op .transceiverStats =>
      .cleared id op .success ∈ h ∧ .invalidated id .linkStats ∈ h
  | .clearInfo id _ | .clearUnlock id _ | .clearRaise id | .clearReturn id .success =>
      ∀ k, .invalidated id k ∈ h
  | _ => True

/-- Nothing that happens makes a thread wrong, but the invalidation of an entry while the thread
stores a record in it, and a second call with the number of the thread's own. -/
theorem StatsPc.Knows.cons {pc : StatsPc} {h : List RaceEvent} {e : RaceEvent} (hk : pc.Knows h)
    (hstart : ∀ id, pc.call? = some id → e ≠ .started id)
    (hinv : ∀ c k, pc.storing = some k → e ≠ .invalidated c k) : pc.Knows (e :: h) := by
  -- a getter that is storing holds the mutex, so no invalidation comes between
  have hstoring {k : StatsKind} (hpc : pc.storing = some k)
      (hold : ∀ c, RaceEvent.invalidated c k ∈ h → ReadSince c k h) (c : Nat)
      (hc : RaceEvent.invalidated c k ∈ e :: h) : ReadSince c k (e :: h) := by
    rcases List.mem_cons.mp hc with heq | hc
    · exact absurd heq.symm (hinv c k hpc)
    · exact (hold c hc).cons
  have hfound {id : Nat} {k : StatsKind} (hpc : pc.call? = some id)
      (hold : ∀ c, ReturnedBefore c id h → ReadSince c k h) (c : Nat)
      (hc : ReturnedBefore c id (e :: h)) : ReadSince c k (e :: h) :=
    (hold c (hc.of_cons (hstart id hpc))).cons
  cases pc with
  | getStamp id k => exact hstoring rfl hk
  | getMark id k => exact hstoring rfl hk
  | getUnlock id k found =>
      cases found with
      | true => exact hfound rfl hk
      | false => trivial
  | getReturn id k found =>
      cases found with
      | true => exact hfound rfl hk
      | false => trivial
  | clearLock id op => exact List.mem_cons_of_mem _ hk
  | clearEntry id op k =>
      cases k with
      | linkStats => exact List.mem_cons_of_mem _ hk
      | transceiverStats =>
          exact ⟨List.mem_cons_of_mem _ hk.1, List.mem_cons_of_mem _ hk.2⟩
  | clearInfo id op => exact fun k => List.mem_cons_of_mem _ (hk k)
  | clearUnlock id op => exact fun k => List.mem_cons_of_mem _ (hk k)
  | clearRaise id => exact fun k => List.mem_cons_of_mem _ (hk k)
  | clearReturn id ret =>
      cases ret with
      | success => exact fun k => List.mem_cons_of_mem _ (hk k)
      | _ => trivial
  | _ => trivial

namespace StatsRace

/-- **The invariant.** -/
structure Inv (s : StatsRace) : Prop where
  holds : ∀ t, (s.pc t).holds = true → s.mutex.HeldBy t
  knows : ∀ t, (s.pc t).Knows s.history
  numbered : ∀ t id, (s.pc t).call? = some id → id < s.calls
  /-- an entry holds what the latest HAL call left in it -/
  latest : ∀ k id ret record, s.history.find? (RaceEvent.reads k) = some (.read id k ret record) →
    record = (k.entry s.stats).data
  /-- a valid entry was read after every clear that has invalidated it -/
  valid : ∀ c k, .invalidated c k ∈ s.history → (k.entry s.stats).valid = true →
    ReadSince c k s.history
  cleared : ∀ c k, .invalidated c k ∈ s.history → ∃ op, .cleared c op .success ∈ s.history
  returned : ∀ c, .returned c .success ∈ s.history → ∀ k, .invalidated c k ∈ s.history
  linearised : Linearised s.history

variable {s s' : StatsRace} {t : Nat} {pc : StatsPc}

/-- At the start nobody holds the mutex and nothing has happened. -/
theorem inv_init (stats : StatsData) : (init stats).Inv where
  holds _ h := absurd h Bool.false_ne_true
  knows _ := trivial
  numbered _ _ h := by cases h
  latest _ _ _ _ h := by cases h
  valid _ _ h := absurd h List.not_mem_nil
  cleared _ _ h := absurd h List.not_mem_nil
  returned _ h := absurd h List.not_mem_nil
  linearised _ _ _ _ h := by
    have hnil := List.suffix_nil.mp h
    cases hnil

/-! ### What one step keeps

Four kinds of steps: a step inside the section, a lock, an unlock, and an invalidation.
-/

/-- A thread goes on, and the mutex may change hands. -/
theorem Inv.move {m : RecursiveMutex Nat} (h : s.Inv)
    (hholds : pc.holds = true → m.HeldBy t)
    (hothers : ∀ u ≠ t, (s.pc u).holds = true → m.HeldBy u) (hknows : pc.Knows s.history)
    (hnumbered : ∀ id, pc.call? = some id → id < s.calls) :
    Inv { s.setPc t pc with mutex := m } := by
  refine ⟨fun u hu => ?_, fun u => ?_, fun u id hu => ?_, h.latest, h.valid, h.cleared,
    h.returned, h.linearised⟩
  · by_cases hut : u = t
    · subst hut
      have hpc : Function.update s.pc u pc u = pc := Function.update_self ..
      exact hholds (hpc ▸ hu)
    · have hpc : Function.update s.pc t pc u = s.pc u := Function.update_of_ne hut ..
      exact hothers u hut (hpc ▸ hu)
  · show (Function.update s.pc t pc u).Knows s.history
    by_cases hut : u = t
    · rw [hut, Function.update_self]
      exact hknows
    · rw [Function.update_of_ne hut]
      exact h.knows u
  · by_cases hut : u = t
    · subst hut
      have hpc : Function.update s.pc u pc u = pc := Function.update_self ..
      exact hnumbered id (hpc ▸ hu)
    · have hpc : Function.update s.pc t pc u = s.pc u := Function.update_of_ne hut ..
      exact h.numbered u id (hpc ▸ hu)

/-- A step inside the section, or outside of it. -/
theorem Inv.setPc (h : s.Inv) (hholds : pc.holds = true → s.mutex.HeldBy t)
    (hknows : pc.Knows s.history) (hnumbered : ∀ id, pc.call? = some id → id < s.calls) :
    (s.setPc t pc).Inv :=
  h.move hholds (fun u _ hu => h.holds u hu) hknows hnumbered

/-- A thread goes on in its call, with the mutex as before. -/
theorem Inv.goOn {p : StatsPc} (h : s.Inv) (hp : s.pc t = p) (hcall : pc.call? = p.call?)
    (hholds : pc.holds = p.holds) (hknows : pc.Knows s.history) : (s.setPc t pc).Inv := by
  subst hp
  refine h.setPc (fun hpc => ?_) hknows (fun id hid => ?_)
  · rw [hholds] at hpc
    exact h.holds t hpc
  · rw [hcall] at hid
    exact h.numbered t id hid

theorem Inv.lock (h : s.Inv) (hlock : s.lock t pc = some s') (hknows : pc.Knows s.history)
    (hnumbered : ∀ id, pc.call? = some id → id < s.calls) : s'.Inv := by
  obtain ⟨m, hm, rfl⟩ := Option.map_eq_some_iff.mp hlock
  exact h.move (fun _ => RecursiveMutex.heldBy_lock hm) (fun u _ hu => (h.holds u hu).lock hm)
    hknows hnumbered

/-- A step out of the section; what the thread knew of the cache it now forgets. -/
theorem Inv.unlock (h : s.Inv) (hunlock : s.unlock t pc = some s') (hpc : pc.holds = false)
    (hknows : pc.Knows s.history) (hnumbered : ∀ id, pc.call? = some id → id < s.calls) :
    s'.Inv := by
  obtain ⟨m, hm, rfl⟩ := Option.map_eq_some_iff.mp hunlock
  refine h.move (fun hp => absurd (hpc.symm.trans hp) Bool.false_ne_true) (fun u hut hu => ?_)
    hknows hnumbered
  exact absurd ((h.holds u hu).unique (RecursiveMutex.heldBy_of_unlock hm)) hut

/-! ### The events of the history -/

/-- An entry is changed, but neither what it holds nor, unless it was read since, its flag. -/
theorem Inv.setEntry {k : StatsKind} {e : TimedEntry k.Record} (h : s.Inv)
    (hdata : e.data = (k.entry s.stats).data)
    (hvalid : e.valid = true → ∀ c, .invalidated c k ∈ s.history → ReadSince c k s.history) :
    (s.setEntry k e).Inv := by
  refine ⟨h.holds, h.knows, h.numbered, fun l id ret record hl => ?_, fun c l hc hl => ?_,
    h.cleared, h.returned, h.linearised⟩
  · show record = (l.entry (k.setEntry e s.stats)).data
    by_cases hlk : l = k
    · subst hlk
      rw [StatsKind.entry_setEntry, hdata]
      exact h.latest l id ret record hl
    · rw [StatsKind.entry_setEntry_of_ne hlk]
      exact h.latest l id ret record hl
  · have hl : (l.entry (k.setEntry e s.stats)).valid = true := hl
    by_cases hlk : l = k
    · subst hlk
      rw [StatsKind.entry_setEntry] at hl
      exact hvalid hl c hc
    · rw [StatsKind.entry_setEntry_of_ne hlk] at hl
      exact h.valid c l hc hl

/-- Invalidating the information is not seen by the statistics. -/
theorem Inv.resetInfo (h : s.Inv) : s.resetInfo.Inv := by
  have hentry (k : StatsKind) : k.entry s.resetInfo.stats = k.entry s.stats := by
    cases k <;> rfl
  refine ⟨h.holds, h.knows, h.numbered, fun k id ret record hk => ?_, fun c k hc hk => ?_,
    h.cleared, h.returned, h.linearised⟩
  · rw [hentry]
    exact h.latest k id ret record hk
  · rw [hentry] at hk
    exact h.valid c k hc hk

/-- Everything but a read and an invalidation. -/
theorem Inv.emit {e : RaceEvent} (h : s.Inv) (hstart : ∀ id, e = .started id → s.calls ≤ id)
    (hread : ∀ k, e.reads k = false) (hinv : ∀ c k, e ≠ .invalidated c k)
    (hreturned : ∀ c, e = .returned c .success → ∀ k, .invalidated c k ∈ s.history)
    (hgot : ∀ id k record, e = .got id k (some record) → ∀ c, ReturnedBefore c id s.history →
      ServedSince c k record s.history) : (s.emit e).Inv := by
  have hmem {c : Nat} {k : StatsKind} (hc : .invalidated c k ∈ e :: s.history) :
      .invalidated c k ∈ s.history :=
    (List.mem_cons.mp hc).resolve_left fun heq => hinv c k heq.symm
  refine ⟨h.holds, fun t => ?_, h.numbered, fun k id ret record hk => ?_, fun c k hc hk => ?_,
    fun c k hc => ?_, fun c hc k => ?_, h.linearised.cons hgot⟩
  · refine (h.knows t).cons (fun id hid heq => ?_) fun c k _ => hinv c k
    exact absurd (h.numbered t id hid) (Nat.not_lt.mpr (hstart id heq))
  · refine h.latest k id ret record ?_
    have hno : ¬ e.reads k = true := by
      rw [hread k]
      exact Bool.false_ne_true
    exact (List.find?_cons_of_neg hno).symm.trans hk
  · exact (h.valid c k (hmem hc) hk).cons
  · obtain ⟨op, hop⟩ := h.cleared c k (hmem hc)
    exact ⟨op, List.mem_cons_of_mem _ hop⟩
  · rcases List.mem_cons.mp hc with heq | hc
    · exact List.mem_cons_of_mem _ (hreturned c heq.symm k)
    · exact List.mem_cons_of_mem _ (h.returned c hc k)

/-- The HAL fills an entry. -/
theorem Inv.filled (h : s.Inv) (id : Nat) (k : StatsKind) (ret : HalReturn) (record : k.Record) :
    ((s.setEntry k { k.entry s.stats with data := record }).emit (.read id k ret record)).Inv := by
  have hmem {c : Nat} {l : StatsKind}
      (hc : RaceEvent.invalidated c l ∈ RaceEvent.read id k ret record :: s.history) :
      RaceEvent.invalidated c l ∈ s.history := by
    cases hc with
    | tail _ hc => exact hc
  refine ⟨h.holds, fun t => (h.knows t).cons (fun _ _ => nofun) fun _ _ _ => nofun, h.numbered,
    fun l i ret' record' hl => ?_, fun c l hc hl => ?_, fun c l hc => ?_, fun c hc l => ?_,
    h.linearised.cons fun _ _ _ => nofun⟩
  · -- the latest read of this kind is the new one, of the other kind the one before
    show record' = (l.entry (k.setEntry { k.entry s.stats with data := record } s.stats)).data
    have hl : (RaceEvent.read id k ret record :: s.history).find? (RaceEvent.reads l) =
      some (.read i l ret' record') := hl
    by_cases hlk : l = k
    · subst hlk
      have hself : RaceEvent.reads l (.read id l ret record) = true := decide_eq_true rfl
      rw [List.find?_cons_of_pos hself] at hl
      cases hl
      rw [StatsKind.entry_setEntry]
    · have hno : ¬ RaceEvent.reads l (.read id k ret record) = true := fun heq =>
        hlk (of_decide_eq_true heq).symm
      rw [List.find?_cons_of_neg hno] at hl
      rw [StatsKind.entry_setEntry_of_ne hlk]
      exact h.latest l i ret' record' hl
  · refine (h.valid c l (hmem hc) ?_).cons
    have hl : (l.entry (k.setEntry { k.entry s.stats with data := record } s.stats)).valid = true :=
      hl
    by_cases hlk : l = k
    · subst hlk
      rw [StatsKind.entry_setEntry] at hl
      exact hl
    · rw [StatsKind.entry_setEntry_of_ne hlk] at hl
      exact hl
  · obtain ⟨op, hop⟩ := h.cleared c l (hmem hc)
    exact ⟨op, List.mem_cons_of_mem _ hop⟩
  · cases hc with
    | tail _ hc => exact List.mem_cons_of_mem _ (h.returned c hc l)

/-- A clear resets an entry: no getter is about to mark it valid, because the mutex is taken. -/
theorem Inv.invalidated {id : Nat} {op : ClearOp} {k : StatsKind} (h : s.Inv)
    (hpc : s.pc t = .clearEntry id op k) (hcleared : .cleared id op .success ∈ s.history) :
    ((s.setEntry k { k.entry s.stats with valid := false, timestamp := 0 }).emit
      (.invalidated id k)).Inv := by
  have hheld : s.mutex.HeldBy t := h.holds t (by rw [hpc]; rfl)
  have hset := h.setEntry (e := { k.entry s.stats with valid := false, timestamp := 0 }) rfl
    (fun hv => absurd hv Bool.false_ne_true)
  refine ⟨h.holds, fun u => ?_, h.numbered, fun l i ret record hl => ?_, fun c l hc hl => ?_,
    fun c l hc => ?_, fun c hc l => ?_, h.linearised.cons fun _ _ _ => nofun⟩
  · -- nobody else is storing, because the caller holds the mutex
    refine (h.knows u).cons (fun _ _ => nofun) fun c l hstoring => ?_
    have hu : (s.pc u).holds = true := by
      cases hp : s.pc u <;> rw [hp] at hstoring <;> first | rfl | cases hstoring
    have hut := (h.holds u hu).unique hheld
    rw [hut, hpc] at hstoring
    cases hstoring
  · exact hset.latest l i ret record hl
  · rcases List.mem_cons.mp hc with heq | hc
    · cases heq
      have hl : (k.entry (k.setEntry _ s.stats)).valid = true := hl
      rw [StatsKind.entry_setEntry] at hl
      cases hl
    · exact (hset.valid c l hc hl).cons
  · rcases List.mem_cons.mp hc with heq | hc
    · cases heq
      exact ⟨op, List.mem_cons_of_mem _ hcleared⟩
    · obtain ⟨op', hop⟩ := h.cleared c l hc
      exact ⟨op', List.mem_cons_of_mem _ hop⟩
  · cases hc with
    | tail _ hc => exact List.mem_cons_of_mem _ (h.returned c hc l)

/-- A successful read comes after every clear that has invalidated the entry. -/
theorem Inv.readSince (h : s.Inv) {c id : Nat} {k : StatsKind} {record : k.Record}
    (hc : RaceEvent.invalidated c k ∈ RaceEvent.read id k .success record :: s.history) :
    ReadSince c k (.read id k .success record :: s.history) := by
  cases hc with
  | tail _ hc =>
      obtain ⟨op, hop⟩ := h.cleared c k hc
      exact readSince_of_cleared hop id record

/-- A getter returns what it has found. -/
theorem Inv.got {id : Nat} {k : StatsKind} {found : Bool} (h : s.Inv)
    (hpc : s.pc t = .getReturn id k found) :
    (s.emit (.got id k (if found then some (k.entry s.stats).data else none))).Inv := by
  have hknows := h.knows t
  rw [hpc] at hknows
  refine h.emit nofun (fun _ => rfl) nofun nofun fun i l record heq c hc => ?_
  cases found with
  | false => cases heq
  | true =>
      cases heq
      exact (hknows c hc).served fun i ret r hr => h.latest k i ret r hr

/-! ### Every step keeps it -/

/-- A thread that is in a call has a number that was given out. -/
theorem Inv.call_lt {p : StatsPc} {id : Nat} (h : s.Inv) (hpc : s.pc t = p)
    (hid : p.call? = some id) (i : Nat) (hi : some id = some i) : i < s.calls := by
  cases hi
  exact h.numbered t id (hpc ▸ hid)

/-- **A step of a getter.** -/
theorem Inv.runAt_getter {a : RaceAnswers} {p : StatsPc} (h : s.Inv) (hpc : s.pc t = p)
    (hget : p.gets = true) (hrun : s.runAt t a p = some s') : s'.Inv := by
  have hknows : p.Knows s.history := hpc ▸ h.knows t
  cases p with
  | getLock id k =>
      have hlock : s.lock t (.getCheck id k) = some s' := hrun
      exact h.lock hlock trivial (h.call_lt hpc rfl)
  | getCheck id k =>
      rw [runAt] at hrun
      split at hrun
      · next hhit =>
        -- a valid entry was read after every clear that has returned
        cases hrun
        refine h.goOn hpc rfl rfl fun c hc => ?_
        exact h.valid c k (h.returned c hc.mem k) hhit.1.1
      · cases hrun
        exact h.goOn hpc rfl rfl trivial
  | getRead id k =>
      have hfilled := h.filled id k (a.read k).1 (a.read k).2
      rw [runAt] at hrun
      split at hrun
      · next hok =>
        cases hrun
        refine hfilled.goOn hpc rfl rfl ?_
        rw [hok]
        exact fun c hc => h.readSince hc
      · cases hrun
        exact hfilled.goOn hpc rfl rfl trivial
  | getStamp id k =>
      cases hrun
      refine (h.setEntry ?_ ?_).goOn hpc rfl rfl hknows
      · rfl
      · exact fun hvalid c hc => h.valid c k hc hvalid
  | getMark id k =>
      -- no clear has come between the read and this step, because the mutex is taken
      cases hrun
      refine (h.setEntry ?_ ?_).goOn hpc rfl rfl (fun c hc => ?_)
      · rfl
      · exact fun _ => hknows
      · exact hknows c (h.returned c hc.mem k)
  | getUnlock id k found =>
      have hunlock : s.unlock t (.getReturn id k found) = some s' := hrun
      refine h.unlock hunlock rfl ?_ (h.call_lt hpc rfl)
      cases found with
      | true => exact hknows
      | false => trivial
  | getReturn id k found =>
      cases hrun
      exact (h.got hpc).setPc nofun trivial nofun
  | _ => cases hget

/-- The HAL call of a clear. -/
theorem Inv.runAt_clearHal {a : RaceAnswers} {id : Nat} {op : ClearOp} (h : s.Inv)
    (hpc : s.pc t = .clearHal id op) (hrun : s.runAt t a (.clearHal id op) = some s') : s'.Inv := by
  have hemit : (s.emit (.cleared id op (a.clear op))).Inv :=
    h.emit nofun (fun _ => rfl) nofun nofun nofun
  rw [runAt] at hrun
  split at hrun
  · next hok =>
    cases hrun
    refine hemit.goOn hpc rfl rfl ?_
    show RaceEvent.cleared id op .success ∈ _
    rw [hok]
    exact List.mem_cons_self
  · next hfail =>
    cases hrun
    refine hemit.goOn hpc rfl rfl ?_
    cases hret : a.clear op with
    | success => exact absurd hret hfail
    | _ => trivial

/-- **A step of a clear or a factory reset.** -/
theorem Inv.runAt_clear {a : RaceAnswers} {p : StatsPc} (h : s.Inv) (hpc : s.pc t = p)
    (hclear : p.gets = false) (hrun : s.runAt t a p = some s') : s'.Inv := by
  have hknows : p.Knows s.history := hpc ▸ h.knows t
  cases p with
  | clearHal id op => exact h.runAt_clearHal hpc hrun
  | clearLock id op =>
      have hlock : s.lock t (.clearEntry id op .linkStats) = some s' := hrun
      exact h.lock hlock hknows (h.call_lt hpc rfl)
  | clearEntry id op k =>
      cases hrun
      cases k with
      | linkStats =>
          refine (h.invalidated hpc hknows).goOn hpc rfl rfl ?_
          exact ⟨List.mem_cons_of_mem _ hknows, List.mem_cons_self⟩
      | transceiverStats =>
          refine (h.invalidated hpc hknows.1).goOn hpc rfl rfl fun k => ?_
          cases k with
          | linkStats => exact List.mem_cons_of_mem _ hknows.2
          | transceiverStats => exact List.mem_cons_self
  | clearInfo id op =>
      cases hrun
      exact h.resetInfo.goOn hpc rfl rfl hknows
  | clearUnlock id op =>
      cases op with
      | clearStats =>
          have hunlock : s.unlock t (.clearReturn id .success) = some s' := hrun
          exact h.unlock hunlock rfl hknows (h.call_lt hpc rfl)
      | factoryReset =>
          have hunlock : s.unlock t (.clearRaise id) = some s' := hrun
          exact h.unlock hunlock rfl hknows (h.call_lt hpc rfl)
  | clearRaise id =>
      cases hrun
      exact h.goOn hpc rfl rfl hknows
  -- the return is what later calls rely on, so it is logged last
  | clearReturn id ret =>
      cases hrun
      have hemit : (s.emit (.returned id ret)).Inv := by
        refine h.emit nofun (fun _ => rfl) nofun (fun c heq => ?_) nofun
        cases heq
        exact hknows
      exact hemit.setPc nofun trivial nofun
  | idle => cases hrun
  | _ => cases hclear

/-- **Step lemma**, for the calls. -/
theorem Inv.run {a : RaceAnswers} (h : s.Inv) (hrun : s.run t a = some s') : s'.Inv := by
  cases hget : (s.pc t).gets with
  | true => exact h.runAt_getter rfl hget hrun
  | false => exact h.runAt_clear rfl hget hrun

/-- **Step lemma.** -/
theorem Inv.step {a : RaceAction} (h : s.Inv) (hstep : s.step a = some s') : s'.Inv := by
  cases a with
  | lockData t =>
      obtain ⟨-, hlock⟩ := Option.ite_none_right_eq_some.mp hstep
      exact h.lock hlock trivial nofun
  | unlockData t =>
      obtain ⟨-, hunlock⟩ := Option.ite_none_right_eq_some.mp hstep
      exact h.unlock hunlock rfl trivial nofun
  | start t call =>
      obtain ⟨-, hstart⟩ := Option.ite_none_right_eq_some.mp hstep
      cases hstart
      have hemit : (s.emit (.started s.calls)).Inv := by
        refine h.emit (fun id heq => ?_) (fun _ => rfl) nofun nofun nofun
        cases heq
        exact Nat.le_refl _
      have hmore : Inv { s.emit (.started s.calls) with calls := s.calls + 1 } :=
        ⟨hemit.holds, hemit.knows, fun u id hu => Nat.lt_succ_of_lt (hemit.numbered u id hu),
          hemit.latest, hemit.valid, hemit.cleared, hemit.returned, hemit.linearised⟩
      have hlast (id : Nat) (hid : some s.calls = some id) : id < s.calls + 1 := by
        cases hid
        exact Nat.lt_succ_self _
      cases call with
      | get k => exact hmore.setPc nofun trivial hlast
      | clear op => exact hmore.setPc nofun trivial hlast
  | run t a => exact h.run hstep

/-! ### The result -/

/-- **Clearing the statistics is linearised against reading them**: in every interleaving of threads
that read the link's and the transceiver's statistics with threads that clear them or reset the
device, a getter that starts after such a call has returned success returns the record that the
latest read left, and this read, like the successful one before it, was made after the HAL call that
cleared. -/
theorem stats_clear_linearised (stats : StatsData) {as : List RaceAction}
    (h : exec step (init stats) as = some s) : Linearised s.history :=
  (exec_invariant (fun _ _ _ => Inv.step) (inv_init stats) h).linearised

end StatsRace

/-- Answers by a clock that shows `now` and a HAL that has sent so many bytes. -/
def RaceAnswers.bytes (now : Int) (bytesSent : UInt64) : RaceAnswers where
  now
  read
    | .linkStats        => (.success, { (default : LinkStats) with bytesSent })
    | .transceiverStats => (.success, (default : TransceiverStats))
  clear _ := .success

namespace StatsRace

/-- The thread 0 reads 5 bytes, the thread 1 clears the counters, and only then is the record of the
thread 0 marked valid. The next getter reads again. -/
theorem stats_clear_linearised_stale :
    ∃ s past, exec step (init Data.zero.statsData) ([.start 0 (.get .linkStats)] ++
        List.replicate 3 (.run 0 (.bytes 10 5)) ++ [.start 1 (.clear .clearStats),
        .run 1 (.bytes 10 0)] ++ List.replicate 4 (.run 0 (.bytes 10 0)) ++
        List.replicate 6 (.run 1 (.bytes 10 0)) ++ [.start 0 (.get .linkStats)] ++
        List.replicate 7 (.run 0 (.bytes 11 7))) = some s ∧
      s.history = .got 2 .linkStats (some { (default : LinkStats) with bytesSent := 7 }) :: past ∧
      ServedSince 1 .linkStats { (default : LinkStats) with bytesSent := 7 } past := by
  let bytes (n : UInt64) : LinkStats := { (default : LinkStats) with bytesSent := n }
  have hrun : (exec step (init Data.zero.statsData) ([.start 0 (.get .linkStats)] ++
        List.replicate 3 (.run 0 (.bytes 10 5)) ++ [.start 1 (.clear .clearStats),
        .run 1 (.bytes 10 0)] ++ List.replicate 4 (.run 0 (.bytes 10 0)) ++
        List.replicate 6 (.run 1 (.bytes 10 0)) ++ [.start 0 (.get .linkStats)] ++
        List.replicate 7 (.run 0 (.bytes 11 7)))).map StatsRace.history =
      some [.got 2 .linkStats (some (bytes 7)), .read 2 .linkStats .success (bytes 7), .started 2,
        .returned 1 .success, .invalidated 1 .transceiverStats, .invalidated 1 .linkStats,
        .got 0 .linkStats (some (bytes 5)), .cleared 1 .clearStats .success, .started 1,
        .read 0 .linkStats .success (bytes 5), .started 0] := rfl
  obtain ⟨s, hs, hhistory⟩ := Option.map_eq_some_iff.mp hrun
  refine ⟨s, _, hs, hhistory, stats_clear_linearised _ hs 2 .linkStats _ _ ?_ 1 ?_⟩
  · rw [hhistory]
  · exact ⟨[_], _, rfl, List.mem_cons_self⟩

end StatsRace

end EponManager
