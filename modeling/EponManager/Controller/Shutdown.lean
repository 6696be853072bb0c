import EponManager.Controller.MainThread

/-!
# Requests to shut down

`eponMgr_controller_shutdown` runs in a signal handler, on the main thread's own stack. Before
`g_controller` is set it does nothing; `eponMgr_controller_init` and `eponMgr_controller_run` clear
the flag that it sets; in a mutex section of the main thread it waits for the main thread; and it
waits for a thread that has locked the mutex twice.

* `Accepts` is the condition on a delivery: no write of `shutdown_requested = false` is ahead of the
  main thread, and the mutex is neither the main thread's nor that of a thread that waits for
  itself. `Accepting` also has the condition on such a second lock: every handler that runs is past
  its own.
* `ShutdownInvariant` is what holds in every state of a run whose steps all meet it.
* `shutdown_request_kept` is the result: in such a run every handler returns and no iteration of the
  loop is started after one has; any other delivery is lost or never returns, and after any other
  second lock a handler never returns.
-/

namespace EponManager

open Lib

/-- The main thread has yet to clear `shutdown_requested`, on its way to the loop. -/
@[simp] def MainPc.clearsAhead : MainPc → Bool
  | .initConfig | .initQueue | .initData | .initHal | .checkVersion | .initPoller | .registerTr181
  | .publish | .initRunning | .initRequested | .raiseInitSuccess
  | .runLock | .runTest | .runRunning | .runRequested => true
  | _ => false

/-- `g_controller` is not set yet, or will never be. -/
@[simp] def MainPc.unpublished : MainPc → Bool
  | .initConfig | .initQueue | .initData | .initHal | .checkVersion | .initPoller | .registerTr181
  | .publish | .initFailed => true
  | _ => false

/-- On the way to the loop, after the flag was cleared for the last time. -/
@[simp] def MainPc.beforeLoop : MainPc → Bool
  | .runUnlock | .startPoller | .loopTest => true
  | _ => false

/-- How many steps of a start-up that succeeds are left until the loop. -/
@[simp] def MainPc.distance : MainPc → Nat
  | .initConfig       => 17
  | .initQueue        => 16
  | .initData         => 15
  | .initHal          => 14
  | .checkVersion     => 13
  | .initPoller       => 12
  | .registerTr181    => 11
  | .publish          => 10
  | .initRunning      => 9
  | .initRequested    => 8
  | .raiseInitSuccess => 7
  | .runLock          => 6
  | .runTest          => 5
  | .runRunning       => 4
  | .runRequested     => 3
  | .runUnlock        => 2
  | .startPoller      => 1
  | _                 => 0

/-- Where the main thread does not clear the request, the controller is published. -/
theorem MainPc.unpublished_of_kept {pc : MainPc} (h : pc.clearsAhead = false)
    (hpc : pc ≠ .initFailed) : pc.unpublished = false := by
  cases pc <;> first | rfl | exact absurd rfl hpc | cases h

/-- `running` is clear: `eponMgr_controller_init` has just cleared it. -/
@[simp] def MainPc.beforeRunning : MainPc → Bool
  | .initRequested | .raiseInitSuccess | .runLock | .runTest => true
  | _ => false

namespace Process

/-- The delivery of a signal is accepted. -/
structure Accepts (s : Process) : Prop where
  kept : s.pc.clearsAhead = false
  /-- the handler would wait for the thread that it interrupts -/
  free : s.owner ≠ some .main
  /-- the handler would wait for a thread that waits for itself -/
  unblocked : s.owner ≠ some .blocked

/-- The condition on a step: no signal is delivered where it is not accepted, and no thread locks
the mutex a second time while a handler has yet to lock it. -/
def Accepting (s : Process) : ProcessAction → Prop
  | .deliver _   => s.Accepts
  | .otherRelock => ∀ h ∈ s.handlers, h.pc = .notify
  | _            => True

/-- Whether the innermost handler is in its mutex section. -/
def handlerHolds : List Handler → Bool
  | []     => false
  | h :: _ => h.pc.holds

/-! ### The mutex -/

/-- Who holds the mutex, as far as the main thread and its handlers go. -/
structure MutexHeld (s : Process) : Prop where
  owner : s.owner = some .main ↔ s.pc.holds = true ∨ handlerHolds s.handlers = true
  /-- no handler has interrupted a section of the main thread -/
  main : s.pc.holds = true → s.handlers = []
  /-- no handler has interrupted the section of another -/
  outer : ∀ h ∈ s.handlers.tail, h.pc.holds = false

/-- What another thread that holds the mutex is to the handlers. -/
structure HeldByOthers (s : Process) : Prop where
  /-- the other threads come to the mutex through `g_controller` -/
  published : heldElsewhere s.owner = true → s.gController = true
  /-- while a thread waits for itself, no handler has its lock ahead -/
  past : s.owner = some .blocked → ∀ h ∈ s.handlers, h.pc = .notify

/-! ### The request -/

/-- A request that a handler has made is not lost. -/
structure RequestKept (s : Process) : Prop where
  /-- a handler runs, or has returned, only when the flag is not cleared any more -/
  kept : s.handlers ≠ [] ∨ s.handled = true → s.pc.clearsAhead = false
  published : s.pc.unpublished = false → s.gController = true
  /-- a handler that has set the flag -/
  set : ∀ h ∈ s.handlers, h.pc = .unlock ∨ h.pc = .notify → s.shutdownRequested = true
  /-- a handler that has found `g_controller` -/
  found : ∀ h ∈ s.handlers, h.pc ≠ .guard → s.gController = true
  requested : s.handled = true → s.pc ≠ .initFailed → s.shutdownRequested = true
  late : s.lateIterations = 0
  running : s.pc.beforeRunning = true → s.running = false

/-! ### The steps of the main thread -/

/-- What a step of the main thread does to what the handlers see. -/
structure MainMove (s t : Process) : Prop where
  handlers : t.handlers = s.handlers
  handled : t.handled = s.handled
  moved : s.pc ≠ .initFailed
  clears : t.pc.clearsAhead = true → s.pc.clearsAhead = true
  published : t.pc.unpublished = false → s.pc.unpublished = false ∨ t.gController = true
  gController : s.gController = true → t.gController = true
  flag : s.pc.clearsAhead = false → t.shutdownRequested = s.shutdownRequested
  late : t.lateIterations = s.lateIterations ∨ (s.pc = .loopTest ∧ s.shutdownRequested = false ∧
    t.lateIterations = s.lateIterations + if s.handled then 1 else 0)
  running : t.pc.beforeRunning = true →
    t.running = false ∨ (s.pc.beforeRunning = true ∧ t.running = s.running)
  owner : (t.owner = s.owner ∧ t.pc.holds = s.pc.holds) ∨
    (s.owner = none ∧ t.owner = some .main ∧ t.pc.holds = true) ∨
    (s.pc.holds = true ∧ t.owner = none ∧ t.pc.holds = false)

/-- Taking an event from the queue, or going to wait. -/
theorem mainMove_popEvent {s t : Process} {processed : Nat} (hpc : s.pc = .pop processed)
    (h : s.popEvent processed = some t) : MainMove s t := by
  unfold popEvent at h
  split at h
  · cases h
    constructor <;> simp [hpc]
  · split at h
    · split at h
      · cases h
        constructor <;> simp [hpc]
      · obtain ⟨event, -, rfl⟩ := Option.map_eq_some_iff.mp h
        constructor <;> simp [hpc]
    · cases h

theorem mainMove_of_step {s t : Process} {ok : Bool} (h : s.mainStep ok = some t) :
    MainMove s t := by
  unfold mainStep at h
  cases hpc : s.pc with
  | pop processed =>
      simp only [hpc] at h
      exact mainMove_popEvent hpc h
  | runLock =>
      simp only [hpc] at h
      obtain ⟨hfree, h⟩ := Option.ite_none_right_eq_some.mp h
      cases h
      constructor <;> simp [hpc, hfree]
  | exitLock =>
      simp only [hpc] at h
      obtain ⟨hfree, h⟩ := Option.ite_none_right_eq_some.mp h
      cases h
      constructor <;> simp [hpc, hfree]
  | loopTest =>
      simp only [hpc] at h
      split at h
      · cases h
        constructor <;> simp [hpc]
      · next hflag =>
        cases h
        constructor <;> simp [hpc, hflag]
  | runTest =>
      simp only [hpc] at h
      split at h
      · cases h
        constructor <;> simp [hpc]
      · cases h
        constructor <;> simp [hpc]
  | process processed event =>
      simp only [hpc] at h
      cases h
      by_cases hlimit : processed + 1 ≥ 50
      · constructor <;> simp [hpc, hlimit]
      · constructor <;> simp [hpc, hlimit]
  | initQueue =>
      simp only [hpc] at h
      cases h
  | runReturned =>
      simp only [hpc] at h
      cases h
  | initFailed =>
      simp only [hpc] at h
      cases h
  | _ =>
      -- the calls of the start-up, and the steps without a test
      simp only [hpc, attempt] at h
      cases h
      constructor <;> (try cases ok) <;> simp [hpc]

/-! ### The mutex, step by step -/

theorem handlerHolds_of_forall {handlers : List Handler}
    (h : ∀ handler ∈ handlers, handler.pc.holds = false) : handlerHolds handlers = false := by
  cases handlers with
  | nil => rfl
  | cons handler outer => exact h handler List.mem_cons_self

/-- The handlers that are interrupted, and the main thread, are in no section while one runs. -/
theorem MutexHeld.interrupted {s : Process} (hs : s.MutexHeld) {h : Handler} {outer : List Handler}
    (hhandlers : s.handlers = h :: outer) :
    s.pc.holds = false ∧ (∀ h ∈ outer, h.pc.holds = false) ∧
      (s.owner = some .main ↔ h.pc.holds = true) := by
  have hpc : s.pc.holds = false := by
    by_contra hholds
    rw [hs.main (Bool.not_eq_false _ ▸ hholds)] at hhandlers
    cases hhandlers
  have houter := hs.outer
  have howner := hs.owner
  rw [hhandlers] at houter howner
  rw [hpc] at howner
  exact ⟨hpc, houter, howner.trans ⟨fun h => h.resolve_left nofun, .inr⟩⟩

/-- The innermost handler moves on, in or out of its section. -/
theorem MutexHeld.moved {s t : Process} (hs : s.MutexHeld) {h h' : Handler} {outer : List Handler}
    (hhandlers : s.handlers = h :: outer) (ht : t.handlers = h' :: outer) (hpc : t.pc = s.pc)
    (howner : t.owner = some .main ↔ h'.pc.holds = true) : t.MutexHeld := by
  obtain ⟨hmain, houter, -⟩ := hs.interrupted hhandlers
  refine ⟨?_, ?_, ?_⟩
  · rw [ht, hpc, hmain, howner]
    exact ⟨.inr, fun h => h.resolve_left nofun⟩
  · rw [hpc, hmain]
    exact nofun
  · rw [ht]
    exact houter

/-- The innermost handler returns, and the mutex is not the main thread's. -/
theorem MutexHeld.returned {s t : Process} (hs : s.MutexHeld) {h : Handler} {outer : List Handler}
    (hhandlers : s.handlers = h :: outer) (ht : t.handlers = outer) (hpc : t.pc = s.pc)
    (howner : t.owner ≠ some .main) : t.MutexHeld := by
  obtain ⟨hmain, houter, -⟩ := hs.interrupted hhandlers
  refine ⟨?_, ?_, ?_⟩
  · rw [ht, hpc, hmain, handlerHolds_of_forall houter]
    exact ⟨fun h => absurd h howner, fun h => by rcases h with h | h <;> cases h⟩
  · rw [hpc, hmain]
    exact nofun
  · rw [ht]
    exact fun h hh => houter h (List.mem_of_mem_tail hh)

/-- A handler locks, unlocks, and does neither in between. -/
theorem MutexHeld.handlerStep {s t : Process} (hs : s.MutexHeld) (h : s.handlerStep = some t) :
    t.MutexHeld := by
  obtain ⟨signal, outer, houtcome⟩ := handlerOutcome_of_step h
  cases houtcome with
  | ignores hhandlers hset =>
      refine hs.returned hhandlers rfl rfl fun howner => ?_
      cases (hs.interrupted hhandlers).2.2.mp howner
  | finds hhandlers hset =>
      exact hs.moved hhandlers rfl rfl ((hs.interrupted hhandlers).2.2.trans ⟨nofun, nofun⟩)
  | locks hhandlers hfree => exact hs.moved hhandlers rfl rfl ⟨fun _ => rfl, fun _ => rfl⟩
  | again hhandlers hflag => exact hs.returned hhandlers rfl rfl nofun
  | tests hhandlers hflag =>
      exact hs.moved hhandlers rfl rfl
        ((hs.interrupted hhandlers).2.2.trans ⟨fun _ => rfl, fun _ => rfl⟩)
  | sets hhandlers =>
      exact hs.moved hhandlers rfl rfl
        ((hs.interrupted hhandlers).2.2.trans ⟨fun _ => rfl, fun _ => rfl⟩)
  | unlocks hhandlers => exact hs.moved hhandlers rfl rfl ⟨nofun, nofun⟩
  | returns hhandlers =>
      refine hs.returned hhandlers rfl rfl fun howner => ?_
      cases (hs.interrupted hhandlers).2.2.mp howner

theorem MutexHeld.mainStep {s t : Process} (hs : s.MutexHeld) (hnone : s.handlers = [])
    (h : MainMove s t) : t.MutexHeld := by
  have ht : t.handlers = [] := h.handlers.trans hnone
  have hbefore := hs.owner
  rw [hnone] at hbefore
  refine ⟨?_, fun _ => ht, ?_⟩
  · rw [ht]
    rcases h.owner with ⟨howner, hholds⟩ | ⟨-, howner, hholds⟩ | ⟨-, howner, hholds⟩
    · rw [howner, hholds]
      exact hbefore
    · exact ⟨fun _ => .inl hholds, fun _ => howner⟩
    · rw [howner, hholds]
      exact ⟨nofun, fun h => by rcases h with h | h <;> cases h⟩
  · rw [ht]
    exact nofun

/-- While the mutex is not the main thread's, no handler is in its section. -/
theorem MutexHeld.none_holds {s : Process} (hs : s.MutexHeld) (hfree : s.owner ≠ some .main) :
    ∀ h ∈ s.handlers, h.pc.holds = false := by
  cases hhandlers : s.handlers with
  | nil => exact nofun
  | cons first outer =>
      obtain ⟨-, houter, howner⟩ := hs.interrupted hhandlers
      intro h hh
      rcases List.mem_cons.mp hh with rfl | hh
      · exact Bool.not_eq_true _ ▸ fun hholds => hfree (howner.mpr hholds)
      · exact houter h hh

/-- A handler that interrupts the main thread where it is accepted interrupts no section. -/
theorem MutexHeld.deliver {s : Process} (hs : s.MutexHeld) (hfree : s.owner ≠ some .main)
    (signal : Signal) : MutexHeld { s with handlers := ⟨signal, .guard⟩ :: s.handlers } := by
  have hmain : ¬ s.pc.holds = true := fun h => hfree (hs.owner.mpr (.inl h))
  refine ⟨⟨fun h => absurd h hfree, ?_⟩, fun h => absurd h hmain, hs.none_holds hfree⟩
  rintro (h | h)
  · exact absurd h hmain
  · cases h

/-! ### What the steps are to the main thread

A step is the main thread's, a handler's or a delivery; all others leave the main thread, its
handlers and the request alone.
-/

/-- The other agents leave the main thread and its handlers alone. -/
structure SameMain (s t : Process) : Prop where
  pc : t.pc = s.pc
  handlers : t.handlers = s.handlers
  gController : t.gController = s.gController
  running : t.running = s.running
  shutdownRequested : t.shutdownRequested = s.shutdownRequested
  owner : t.owner = some .main ↔ s.owner = some .main
  /-- only through `g_controller` does a thread come to hold the mutex -/
  elsewhere : heldElsewhere t.owner = true → heldElsewhere s.owner = true ∨ t.gController = true
  handled : t.handled = s.handled
  lateIterations : t.lateIterations = s.lateIterations

theorem sameMain_callbackStep {s t : Process} {k : Nat} (h : s.callbackStep k = some t) :
    SameMain s t := by
  cases callbackOutcome_of_step h <;> exact ⟨rfl, rfl, rfl, rfl, rfl, .rfl, .inl, rfl, rfl⟩

theorem owner_of_callbackStep {s t : Process} {k : Nat} (h : s.callbackStep k = some t) :
    t.owner = s.owner := by
  cases callbackOutcome_of_step h <;> rfl

theorem MutexHeld.of_same {s t : Process} (hs : s.MutexHeld) (h : SameMain s t) :
    t.MutexHeld := by
  refine ⟨?_, ?_, ?_⟩
  · rw [h.owner, h.pc, h.handlers]
    exact hs.owner
  · rw [h.pc, h.handlers]
    exact hs.main
  · rw [h.handlers]
    exact hs.outer

/-- A step is one of the main thread, a delivery, one of a handler, the second lock of a thread
that holds the mutex, or one of somebody else. -/
inductive ProcessMove (s t : Process) : ProcessAction → Prop where
  | main {a : ProcessAction} (hnone : s.handlers = []) (hmove : MainMove s t) : ProcessMove s t a
  | deliver (signal : Signal)
      (ht : t = { s with handlers := ⟨signal, .guard⟩ :: s.handlers }) :
      ProcessMove s t (.deliver signal)
  | handler (hstep : s.handlerStep = some t) : ProcessMove s t .handler
  | relock (howner : s.owner = some .other) (hblocked : t.owner = some .blocked)
      (hsame : SameMain s t) : ProcessMove s t .otherRelock
  | other {a : ProcessAction} (hsame : SameMain s t)
      (hblocked : t.owner = some .blocked ↔ s.owner = some .blocked) : ProcessMove s t a

theorem processMove_of_step {s t : Process} {a : ProcessAction} (h : s.step a = some t) :
    ProcessMove s t a := by
  cases a with
  | main ok =>
      obtain ⟨hnone, hmain⟩ := Option.ite_none_right_eq_some.mp h
      exact .main hnone (mainMove_of_step hmain)
  | initQueue malloc mutexInit =>
      obtain ⟨⟨hnone, hpc⟩, hinit⟩ := Option.ite_none_right_eq_some.mp h
      -- the allocation of the queue is the main thread's, whichever way it ends
      refine .main hnone ?_
      split at hinit <;> cases hinit <;> constructor <;> simp [hpc]
  | deliver signal =>
      obtain ⟨-, hdeliver⟩ := Option.ite_none_right_eq_some.mp h
      exact .deliver signal (Option.some.inj hdeliver).symm
  | handler => exact .handler h
  | invoke callback =>
      obtain ⟨-, hnew⟩ := Option.ite_none_right_eq_some.mp h
      cases hnew
      exact .other ⟨rfl, rfl, rfl, rfl, rfl, .rfl, .inl, rfl, rfl⟩ .rfl
  | callback k =>
      obtain ⟨-, hcallback⟩ := Option.ite_none_right_eq_some.mp h
      exact .other (sameMain_callbackStep hcallback) (owner_of_callbackStep hcallback ▸ .rfl)
  | otherLock =>
      obtain ⟨⟨hset, hfree⟩, hlock⟩ := Option.ite_none_right_eq_some.mp h
      cases hlock
      exact .other ⟨rfl, rfl, rfl, rfl, rfl, by simp [hfree], fun _ => .inr hset, rfl, rfl⟩
        (by simp [hfree])
  | otherUnlock =>
      obtain ⟨howner, hunlock⟩ := Option.ite_none_right_eq_some.mp h
      cases hunlock
      exact .other ⟨rfl, rfl, rfl, rfl, rfl, by simp [howner], nofun, rfl, rfl⟩ (by simp [howner])
  | otherRelock =>
      obtain ⟨howner, hrelock⟩ := Option.ite_none_right_eq_some.mp h
      cases hrelock
      exact .relock howner rfl
        ⟨rfl, rfl, rfl, rfl, rfl, by simp [howner], fun _ => .inl (by simp [howner]), rfl, rfl⟩

/-- **One accepted step keeps track of who holds the mutex.** -/
theorem MutexHeld.step {s t : Process} {a : ProcessAction} (hs : s.MutexHeld)
    (ha : s.Accepting a) (h : s.step a = some t) : t.MutexHeld := by
  cases processMove_of_step h with
  | main hnone hmove => exact hs.mainStep hnone hmove
  | deliver signal ht =>
      rw [ht]
      exact hs.deliver ha.free signal
  | handler hstep => exact hs.handlerStep hstep
  | relock howner hblocked hsame => exact hs.of_same hsame
  | other hsame hblocked => exact hs.of_same hsame

/-! ### Another thread that holds the mutex -/

/-- A step of the innermost handler: while a thread waits for itself, it returns. -/
theorem HeldByOthers.handlerStep {s t : Process} (hs : s.HeldByOthers)
    (h : s.handlerStep = some t) : t.HeldByOthers := by
  obtain ⟨signal, outer, houtcome⟩ := handlerOutcome_of_step h
  have hpast (pc : ShutdownPc) (hhandlers : s.handlers = ⟨signal, pc⟩ :: outer)
      (hblocked : s.owner = some .blocked) : pc = .notify :=
    hs.past hblocked ⟨signal, pc⟩ (by rw [hhandlers]; exact List.mem_cons_self)
  cases houtcome with
  | ignores hhandlers hset =>
      exact ⟨hs.published, fun hblocked => by cases hpast _ hhandlers hblocked⟩
  | finds hhandlers hset =>
      exact ⟨hs.published, fun hblocked => by cases hpast _ hhandlers hblocked⟩
  | locks hhandlers hfree => exact ⟨nofun, nofun⟩
  | again hhandlers hflag => exact ⟨nofun, nofun⟩
  | tests hhandlers hflag =>
      exact ⟨hs.published, fun hblocked => by cases hpast _ hhandlers hblocked⟩
  | sets hhandlers =>
      exact ⟨hs.published, fun hblocked => by cases hpast _ hhandlers hblocked⟩
  | unlocks hhandlers => exact ⟨nofun, nofun⟩
  | returns hhandlers =>
      refine ⟨hs.published, fun hblocked h hh => hs.past hblocked h ?_⟩
      rw [hhandlers]
      exact List.mem_cons_of_mem _ hh

/-- The main thread publishes the controller before anybody else can lock its mutex. -/
theorem HeldByOthers.mainStep {s t : Process} (hs : s.HeldByOthers) (hnone : s.handlers = [])
    (h : MainMove s t) : t.HeldByOthers where
  published := by
    intro helsewhere
    rcases h.owner with ⟨howner, -⟩ | ⟨-, howner, -⟩ | ⟨-, howner, -⟩
    · rw [howner] at helsewhere
      exact h.gController (hs.published helsewhere)
    · rw [howner] at helsewhere
      cases helsewhere
    · rw [howner] at helsewhere
      cases helsewhere
  past := by
    rw [h.handlers, hnone]
    exact fun _ => nofun

theorem HeldByOthers.published_of_same {s t : Process} (hs : s.HeldByOthers) (h : SameMain s t)
    (helsewhere : heldElsewhere t.owner = true) : t.gController = true :=
  (h.elsewhere helsewhere).elim (fun hbefore => h.gController.trans (hs.published hbefore)) id

/-- Another thread that holds the mutex has found the controller published. -/
theorem HeldByOthers.step {s t : Process} {a : ProcessAction} (hs : s.HeldByOthers)
    (ha : s.Accepting a) (h : s.step a = some t) : t.HeldByOthers := by
  cases processMove_of_step h with
  | main hnone hmove => exact hs.mainStep hnone hmove
  | deliver signal ht =>
      rw [ht]
      exact ⟨hs.published, fun hblocked => absurd hblocked ha.unblocked⟩
  | handler hstep => exact hs.handlerStep hstep
  | relock howner hblocked hsame =>
      refine ⟨hs.published_of_same hsame, fun _ => ?_⟩
      rw [hsame.handlers]
      exact ha
  | other hsame hblocked =>
      refine ⟨hs.published_of_same hsame, fun h => ?_⟩
      rw [hsame.handlers]
      exact hs.past (hblocked.mp h)

/-! ### The request is kept -/

/-- The main thread clears the request in two places only, and there none was accepted. -/
theorem RequestKept.mainStep {s t : Process} (hs : s.RequestKept) (hnone : s.handlers = [])
    (h : MainMove s t) : t.RequestKept where
  kept := by
    rw [h.handlers, h.handled]
    intro hrequest
    have hkept := hs.kept hrequest
    by_contra hahead
    have hbefore := h.clears (Bool.not_eq_false _ ▸ hahead)
    rw [hkept] at hbefore
    cases hbefore
  published := by
    intro hpc
    rcases h.published hpc with hbefore | hset
    · exact h.gController (hs.published hbefore)
    · exact hset
  set := by
    rw [h.handlers, hnone]
    exact nofun
  found := by
    rw [h.handlers, hnone]
    exact nofun
  requested := by
    rw [h.handled]
    intro hhandled _
    rw [h.flag (hs.kept (.inr hhandled))]
    exact hs.requested hhandled h.moved
  late := by
    rcases h.late with hsame | ⟨hpc, hflag, hmore⟩
    · exact hsame.trans hs.late
    · -- the loop goes on only if no handler has returned
      cases hhandled : s.handled with
      | false =>
          rw [hmore, hhandled, hs.late]
          rfl
      | true =>
          have hset := hs.requested hhandled h.moved
          rw [hflag] at hset
          cases hset
  running := by
    intro hpc
    rcases h.running hpc with hclear | ⟨hbefore, hsame⟩
    · exact hclear
    · exact hsame.trans (hs.running hbefore)

theorem RequestKept.of_same {s t : Process} (hs : s.RequestKept) (h : SameMain s t) :
    t.RequestKept := by
  obtain ⟨hkept, hpublished, hset, hfound, hrequested, hlate, hrunning⟩ := hs
  constructor
  · rwa [h.handlers, h.handled, h.pc]
  · rwa [h.pc, h.gController]
  · rwa [h.handlers, h.shutdownRequested]
  · rwa [h.handlers, h.gController]
  · rwa [h.handled, h.pc, h.shutdownRequested]
  · rwa [h.lateIterations]
  · rwa [h.pc, h.running]

/-- A signal that is delivered where its handler's write will not be cleared. -/
theorem RequestKept.deliver {s : Process} (hs : s.RequestKept) (hkept : s.pc.clearsAhead = false)
    (signal : Signal) : RequestKept { s with handlers := ⟨signal, .guard⟩ :: s.handlers } where
  kept := fun _ => hkept
  published := hs.published
  set := by
    intro h hh
    rcases List.mem_cons.mp hh with rfl | hh
    · exact nofun
    · exact hs.set h hh
  found := by
    intro h hh
    rcases List.mem_cons.mp hh with rfl | hh
    · exact fun hguard => absurd rfl hguard
    · exact hs.found h hh
  requested := hs.requested
  late := hs.late
  running := hs.running

/-- The innermost handler moves on. -/
theorem RequestKept.moved {s t : Process} (hs : s.RequestKept) {h h' : Handler}
    {outer : List Handler} (hhandlers : s.handlers = h :: outer) (ht : t.handlers = h' :: outer)
    (hpc : t.pc = s.pc) (hg : t.gController = s.gController) (hhandled : t.handled = s.handled)
    (hlate : t.lateIterations = s.lateIterations) (hrunning : t.running = s.running)
    (hflag : s.shutdownRequested = true → t.shutdownRequested = true)
    (hset : h'.pc = .unlock ∨ h'.pc = .notify → t.shutdownRequested = true)
    (hfound : h'.pc ≠ .guard → s.gController = true) : t.RequestKept where
  kept := fun _ => hpc ▸ hs.kept (.inl (by rw [hhandlers]; nofun))
  published := by
    rw [hpc, hg]
    exact hs.published
  set := by
    intro k hk
    rw [ht] at hk
    rcases List.mem_cons.mp hk with rfl | hk
    · exact hset
    · exact fun h => hflag (hs.set k (by rw [hhandlers]; exact List.mem_cons_of_mem _ hk) h)
  found := by
    intro k hk
    rw [ht] at hk
    rw [hg]
    rcases List.mem_cons.mp hk with rfl | hk
    · exact hfound
    · exact hs.found k (by rw [hhandlers]; exact List.mem_cons_of_mem _ hk)
  requested := by
    rw [hhandled, hpc]
    exact fun h hne => hflag (hs.requested h hne)
  late := hlate.trans hs.late
  running := by
    rw [hpc, hrunning]
    exact hs.running

/-- The innermost handler returns: the flag is set, unless the start-up has failed. -/
theorem RequestKept.returned {s : Process} (hs : s.RequestKept) {h : Handler}
    {outer : List Handler} (hhandlers : s.handlers = h :: outer)
    (hflag : s.pc ≠ .initFailed → s.shutdownRequested = true) (owner : Option Holder) :
    RequestKept { s.handlerReturn outer with owner } where
  kept := fun _ => hs.kept (.inl (by rw [hhandlers]; nofun))
  published := hs.published
  set := fun k hk => hs.set k (by rw [hhandlers]; exact List.mem_cons_of_mem _ hk)
  found := fun k hk => hs.found k (by rw [hhandlers]; exact List.mem_cons_of_mem _ hk)
  requested := fun _ => hflag
  late := hs.late
  running := hs.running

/-- The handler sets the request. -/
theorem RequestKept.handlerStep {s t : Process} (hs : s.RequestKept)
    (h : s.handlerStep = some t) : t.RequestKept := by
  obtain ⟨signal, outer, houtcome⟩ := handlerOutcome_of_step h
  have hkept (pc : ShutdownPc) (hhandlers : s.handlers = ⟨signal, pc⟩ :: outer) :
      s.pc.clearsAhead = false := hs.kept (.inl (by rw [hhandlers]; nofun))
  have hfound (pc : ShutdownPc) (hhandlers : s.handlers = ⟨signal, pc⟩ :: outer)
      (hpc : pc ≠ .guard) : s.gController = true :=
    hs.found ⟨signal, pc⟩ (by rw [hhandlers]; exact List.mem_cons_self) hpc
  cases houtcome with
  | ignores hhandlers hset =>
      refine hs.returned hhandlers (fun hpc => ?_) s.owner
      -- with the flag past being cleared, only a failed start-up has no controller
      have hunpublished := MainPc.unpublished_of_kept (hkept _ hhandlers) hpc
      rw [hs.published hunpublished] at hset
      cases hset
  | finds hhandlers hset =>
      exact hs.moved hhandlers rfl rfl rfl rfl rfl rfl id (by simp) fun _ => hset
  | locks hhandlers hfree =>
      exact hs.moved hhandlers rfl rfl rfl rfl rfl rfl id (by simp) fun _ =>
        hfound _ hhandlers nofun
  | again hhandlers hflag => exact hs.returned hhandlers (fun _ => hflag) none
  | tests hhandlers hflag =>
      exact hs.moved hhandlers rfl rfl rfl rfl rfl rfl id (by simp) fun _ =>
        hfound _ hhandlers nofun
  | sets hhandlers =>
      exact hs.moved hhandlers rfl rfl rfl rfl rfl rfl (fun _ => rfl) (fun _ => rfl) fun _ =>
        hfound _ hhandlers nofun
  | unlocks hhandlers =>
      refine hs.moved hhandlers rfl rfl rfl rfl rfl rfl id (fun _ => ?_) fun _ =>
        hfound _ hhandlers nofun
      exact hs.set ⟨signal, .unlock⟩ (by rw [hhandlers]; exact List.mem_cons_self) (.inl rfl)
  | returns hhandlers =>
      refine hs.returned hhandlers (fun _ => ?_) s.owner
      exact hs.set ⟨signal, .notify⟩ (by rw [hhandlers]; exact List.mem_cons_self) (.inr rfl)

/-- **One accepted step keeps every request.** -/
theorem RequestKept.step {s t : Process} {a : ProcessAction} (hs : s.RequestKept)
    (ha : s.Accepting a) (h : s.step a = some t) : t.RequestKept := by
  cases processMove_of_step h with
  | main hnone hmove => exact hs.mainStep hnone hmove
  | deliver signal ht =>
      rw [ht]
      exact hs.deliver ha.kept signal
  | handler hstep => exact hs.handlerStep hstep
  | relock howner hblocked hsame => exact hs.of_same hsame
  | other hsame hblocked => exact hs.of_same hsame

/-! ### The invariant -/

/-- What holds in every state of a run in which every step is accepted. -/
structure ShutdownInvariant (s : Process) : Prop where
  mutex : s.MutexHeld
  others : s.HeldByOthers
  request : s.RequestKept

/-- **Run lemma.** -/
theorem ShutdownInvariant.exec {s t : Process} {as : List ProcessAction} (hs : s.ShutdownInvariant)
    (has : Along Process.step Accepting s as) (h : exec Process.step s as = some t) :
    t.ShutdownInvariant :=
  exec_invariant_along (P := ShutdownInvariant)
    (fun _ _ _ hs ha hstep =>
      ⟨hs.mutex.step ha hstep, hs.others.step ha hstep, hs.request.step ha hstep⟩) hs has h

/-! ### The handler returns -/

/-- The innermost handler of `s` has returned in `t`; the main thread has not moved. -/
structure Returned (s : Process) (outer : List Handler) (t : Process) : Prop where
  handlers : t.handlers = outer
  handled : t.handled = true
  pc : t.pc = s.pc
  running : t.running = s.running
  owner : t.owner ≠ some .main
  blocked : t.owner = some .blocked → s.owner = some .blocked

/-- Steps of the innermost handler, and the unlock of another thread that is in a section of its
own, take the process to a state where that handler has returned. A thread that waits for itself
has no such step. -/
def HandlerReturns (s : Process) (outer : List Handler) : Prop :=
  ∃ as t, (∀ a ∈ as, a = .handler ∨ a = .otherUnlock) ∧ exec Process.step s as = some t ∧
    Returned s outer t

/-- One step of the handler, or of the thread that it waits for. -/
theorem HandlerReturns.of_step {s t : Process} {a : ProcessAction} {outer : List Handler}
    (ha : a = .handler ∨ a = .otherUnlock) (h : s.step a = some t) (hpc : t.pc = s.pc)
    (hrunning : t.running = s.running)
    (hblocked : t.owner = some .blocked → s.owner = some .blocked) (ht : t.HandlerReturns outer) :
    s.HandlerReturns outer := by
  obtain ⟨as, u, has, hrun, hu⟩ := ht
  refine ⟨a :: as, u, ?_, exec_cons_eq_some.mpr ⟨t, h, hrun⟩, hu.handlers, hu.handled,
    hu.pc.trans hpc, hu.running.trans hrunning, hu.owner, fun h => hblocked (hu.blocked h)⟩
  intro b hb
  rcases List.mem_cons.mp hb with rfl | hb
  · exact ha
  · exact has b hb

section Handler

variable {s : Process} {signal : Signal} {outer : List Handler}

/-- Every outcome is a step. -/
theorem step_of_handlerOutcome {t : Process} (h : HandlerOutcome s signal outer t) :
    s.step .handler = some t := by
  show s.handlerStep = some t
  unfold handlerStep
  cases h with
  | ignores hhandlers hset => simp [hhandlers, hset]
  | finds hhandlers hset => simp [hhandlers, hset]
  | locks hhandlers hfree => simp [hhandlers, hfree]
  | again hhandlers hflag => simp [hhandlers, hflag]
  | tests hhandlers hflag => simp [hhandlers, hflag]
  | sets hhandlers => simp [hhandlers]
  | unlocks hhandlers => simp [hhandlers]
  | returns hhandlers => simp [hhandlers]

/-- The last step of the handler. -/
theorem returns_at_once {t : Process} (h : HandlerOutcome s signal outer t)
    (ht : Returned s outer t) : s.HandlerReturns outer :=
  ⟨[.handler], t, fun _ ha => .inl (List.mem_singleton.mp ha),
    exec_cons_eq_some.mpr ⟨t, step_of_handlerOutcome h, rfl⟩, ht⟩

/-! ### From each place of the handler to its end

From the last place back to the first; each lemma takes one step and uses the one before it.
-/

theorem returns_from_notify (hhandlers : s.handlers = ⟨signal, .notify⟩ :: outer)
    (howner : s.owner ≠ some .main) : s.HandlerReturns outer :=
  returns_at_once (.returns hhandlers) ⟨rfl, rfl, rfl, rfl, howner, id⟩

theorem returns_from_unlock (hhandlers : s.handlers = ⟨signal, .unlock⟩ :: outer) :
    s.HandlerReturns outer :=
  (returns_from_notify rfl (fun h => by cases h)).of_step (.inl rfl)
    (step_of_handlerOutcome (.unlocks hhandlers)) rfl rfl nofun

theorem returns_from_set (hhandlers : s.handlers = ⟨signal, .set⟩ :: outer) :
    s.HandlerReturns outer :=
  (returns_from_unlock rfl).of_step (.inl rfl) (step_of_handlerOutcome (.sets hhandlers)) rfl rfl
    id

theorem returns_from_test (hhandlers : s.handlers = ⟨signal, .test⟩ :: outer) :
    s.HandlerReturns outer := by
  cases hflag : s.shutdownRequested with
  | true => exact returns_at_once (.again hhandlers hflag) ⟨rfl, rfl, rfl, rfl, nofun, nofun⟩
  | false =>
      exact (returns_from_set rfl).of_step (.inl rfl)
        (step_of_handlerOutcome (.tests hhandlers hflag)) rfl rfl id

/-- From the lock, when nobody holds the mutex. -/
theorem returns_from_free_lock (hhandlers : s.handlers = ⟨signal, .lock⟩ :: outer)
    (hfree : s.owner = none) : s.HandlerReturns outer :=
  (returns_from_test rfl).of_step (.inl rfl) (step_of_handlerOutcome (.locks hhandlers hfree)) rfl
    rfl nofun

/-- The handler waits for another thread that leaves its section. -/
theorem returns_from_lock (hhandlers : s.handlers = ⟨signal, .lock⟩ :: outer)
    (howner : s.owner ≠ some .main) (hblocked : s.owner ≠ some .blocked) :
    s.HandlerReturns outer := by
  cases hheld : s.owner with
  | none => exact returns_from_free_lock hhandlers hheld
  | some holder =>
      cases holder with
      | main => exact absurd hheld howner
      | blocked => exact absurd hheld hblocked
      | other =>
          have hstep : s.step .otherUnlock = some { s with owner := none } := if_pos hheld
          refine HandlerReturns.of_step (.inr rfl) hstep rfl rfl nofun ?_
          exact returns_from_free_lock (s := { s with owner := none }) hhandlers rfl

theorem returns_from_guard (hhandlers : s.handlers = ⟨signal, .guard⟩ :: outer)
    (howner : s.owner ≠ some .main) (hblocked : s.owner ≠ some .blocked) :
    s.HandlerReturns outer := by
  cases hset : s.gController with
  | false =>
      exact returns_at_once (.ignores hhandlers hset) ⟨rfl, rfl, rfl, rfl, howner, id⟩
  | true =>
      refine HandlerReturns.of_step (.inl rfl) (step_of_handlerOutcome (.finds hhandlers hset))
        rfl rfl id ?_
      exact returns_from_lock (s := { s with handlers := ⟨signal, .lock⟩ :: outer }) rfl howner
        hblocked

/-- **No handler waits for the thread that it interrupts, or for one that waits for itself.** -/
theorem ShutdownInvariant.returns (hs : s.ShutdownInvariant) {h : Handler}
    (hhandlers : s.handlers = h :: outer) : s.HandlerReturns outer := by
  obtain ⟨signal, pc⟩ := h
  obtain ⟨-, -, howner⟩ := hs.mutex.interrupted hhandlers
  have hpast (hblocked : s.owner = some .blocked) : pc = .notify :=
    hs.others.past hblocked ⟨signal, pc⟩ (by rw [hhandlers]; exact List.mem_cons_self)
  cases pc with
  | guard =>
      exact returns_from_guard hhandlers (fun h => by cases howner.mp h) fun h => by cases hpast h
  | lock =>
      exact returns_from_lock hhandlers (fun h => by cases howner.mp h) fun h => by cases hpast h
  | test => exact returns_from_test hhandlers
  | set => exact returns_from_set hhandlers
  | unlock => exact returns_from_unlock hhandlers
  | notify => exact returns_from_notify hhandlers fun h => by cases howner.mp h

end Handler

/-! ### A step that is not accepted: a handler waits forever

The handler that waits need not be the innermost: one above it may still come to its end, or a new
signal may interrupt it. What keeps it waiting is that none of them holds the mutex.
-/

/-- Whoever holds the mutex does not unlock it while a handler above `outer` waits for it: the main
thread, which is interrupted, or a thread that waits for itself. -/
@[simp] def neverUnlocks : Option Holder → Bool
  | some .main | some .blocked => true
  | some .other | none         => false

/-- A handler right above `outer` waits for the mutex, or is about to. -/
structure Stuck (s : Process) (outer : List Handler) : Prop where
  owner : neverUnlocks s.owner = true
  found : s.gController = true
  handlers : ∃ above h, s.handlers = above ++ h :: outer ∧ (h.pc = .guard ∨ h.pc = .lock) ∧
    ∀ k ∈ above, k.pc.holds = false

/-- The innermost handler is in no section. -/
theorem Stuck.innermost {s : Process} {outer : List Handler} (hs : s.Stuck outer)
    {first : Handler} {rest : List Handler} (hhead : s.handlers = first :: rest) :
    first.pc.holds = false := by
  obtain ⟨above, h, hhandlers, hwait, habove⟩ := hs.handlers
  rw [hhead] at hhandlers
  cases above with
  | nil =>
      obtain ⟨rfl, -⟩ := List.cons.inj hhandlers
      rcases hwait with hpc | hpc
      · rw [hpc]; rfl
      · rw [hpc]; rfl
  | cons k above =>
      obtain ⟨rfl, -⟩ := List.cons.inj hhandlers
      exact habove _ List.mem_cons_self

/-- The innermost handler moves on, out of no section, and is not about to unlock. -/
theorem Stuck.moved {s t : Process} {outer : List Handler} (hs : s.Stuck outer)
    (howner : t.owner = s.owner) (hfound : t.gController = s.gController) {signal : Signal}
    {rest : List Handler} (hhead : s.handlers = ⟨signal, .guard⟩ :: rest)
    (ht : t.handlers = ⟨signal, .lock⟩ :: rest) : t.Stuck outer := by
  obtain ⟨above, h, hhandlers, hwait, habove⟩ := hs.handlers
  refine ⟨howner ▸ hs.owner, hfound.trans hs.found, ?_⟩
  rw [hhead] at hhandlers
  cases above with
  | nil =>
      obtain ⟨rfl, rfl⟩ := List.cons.inj hhandlers
      exact ⟨[], ⟨signal, .lock⟩, ht, .inr rfl, nofun⟩
  | cons k above =>
      obtain ⟨rfl, rfl⟩ := List.cons.inj hhandlers
      refine ⟨⟨signal, .lock⟩ :: above, h, ht, hwait, fun k hk => ?_⟩
      rcases List.mem_cons.mp hk with rfl | hk
      · rfl
      · exact habove k (List.mem_cons_of_mem _ hk)

/-- The innermost handler returns, so it is not the one that waits. -/
theorem Stuck.returned {s t : Process} {outer : List Handler} (hs : s.Stuck outer)
    (howner : t.owner = s.owner) (hfound : t.gController = s.gController) {signal : Signal}
    {rest : List Handler} (hhead : s.handlers = ⟨signal, .notify⟩ :: rest)
    (ht : t.handlers = rest) : t.Stuck outer := by
  obtain ⟨above, h, hhandlers, hwait, habove⟩ := hs.handlers
  refine ⟨howner ▸ hs.owner, hfound.trans hs.found, ?_⟩
  rw [hhead] at hhandlers
  cases above with
  | nil =>
      obtain ⟨rfl, -⟩ := List.cons.inj hhandlers
      rcases hwait with hpc | hpc <;> cases hpc
  | cons k above =>
      obtain ⟨-, rfl⟩ := List.cons.inj hhandlers
      exact ⟨above, h, ht, hwait, fun k hk => habove k (List.mem_cons_of_mem _ hk)⟩

theorem Stuck.handlerStep {s t : Process} {outer : List Handler} (hs : s.Stuck outer)
    (h : s.handlerStep = some t) : t.Stuck outer := by
  obtain ⟨signal, rest, houtcome⟩ := handlerOutcome_of_step h
  cases houtcome with
  | finds hhead hset => exact hs.moved rfl rfl hhead rfl
  | returns hhead => exact hs.returned rfl rfl hhead rfl
  | ignores hhead hset =>
      rw [hs.found] at hset
      cases hset
  | locks hhead hfree =>
      have howner := hs.owner
      rw [hfree] at howner
      cases howner
  | again hhead hflag => cases hs.innermost hhead
  | tests hhead hflag => cases hs.innermost hhead
  | sets hhead => cases hs.innermost hhead
  | unlocks hhead => cases hs.innermost hhead

theorem Stuck.of_same {s t : Process} {outer : List Handler} (hs : s.Stuck outer)
    (h : SameMain s t) (hblocked : s.owner = some .blocked → t.owner = some .blocked) :
    t.Stuck outer := by
  refine ⟨?_, h.gController.trans hs.found, h.handlers ▸ hs.handlers⟩
  cases howner : s.owner with
  | none =>
      have hbefore := hs.owner
      rw [howner] at hbefore
      cases hbefore
  | some holder =>
      cases holder with
      | main => rw [h.owner.mpr howner]; rfl
      | blocked => rw [hblocked howner]; rfl
      | other =>
          have hbefore := hs.owner
          rw [howner] at hbefore
          cases hbefore

/-- **Step lemma**: whatever anybody does. -/
theorem Stuck.step {s t : Process} {a : ProcessAction} {outer : List Handler} (hs : s.Stuck outer)
    (h : s.step a = some t) : t.Stuck outer := by
  cases processMove_of_step h with
  | main hnone hmove =>
      -- the main thread is interrupted
      obtain ⟨above, h, hhandlers, -, -⟩ := hs.handlers
      rw [hnone] at hhandlers
      cases above <;> cases hhandlers
  | deliver signal ht =>
      -- one more handler that does not hold the mutex
      obtain ⟨above, h, hhandlers, hwait, habove⟩ := hs.handlers
      rw [ht]
      refine ⟨hs.owner, hs.found, ⟨signal, .guard⟩ :: above, h, ?_, hwait, fun k hk => ?_⟩
      · show ⟨signal, .guard⟩ :: s.handlers = _
        rw [hhandlers]
        rfl
      · rcases List.mem_cons.mp hk with rfl | hk
        · rfl
        · exact habove k hk
  | handler hstep => exact hs.handlerStep hstep
  | relock howner hblocked hsame => exact hs.of_same hsame fun _ => hblocked
  | other hsame hblocked => exact hs.of_same hsame hblocked.mpr

/-- The process can go on to start an iteration of the loop after a handler has returned. -/
def Loses (s : Process) : Prop :=
  ∃ as t, exec Process.step s as = some t ∧ 0 < t.lateIterations

/-- A handler has returned, and its request is cleared, or will be when the main thread comes to the
loop. -/
structure Losing (s : Process) : Prop where
  noHandler : s.handlers = []
  handled : s.handled = true
  ahead : s.pc.clearsAhead = true ∨ (s.pc.beforeLoop = true ∧ s.shutdownRequested = false)
  running : s.pc.beforeRunning = true → s.running = false
  owner : s.owner = some .main → s.pc.holds = true
  unblocked : s.owner ≠ some .blocked

/-- The process can come to a state in which fewer steps are left until the loop. -/
def Closer (s : Process) : Prop :=
  ∃ as u, exec Process.step s as = some u ∧ u.Losing ∧ u.pc.distance < s.pc.distance

/-- A step of the main thread on its way to the loop. -/
theorem Losing.advance {s t : Process} (hs : s.Losing) (h : s.mainStep true = some t)
    (ht : t.Losing) (hdistance : t.pc.distance < s.pc.distance) : s.Closer := by
  refine ⟨[.main true], t, exec_cons_eq_some.mpr ⟨t, ?_, rfl⟩, ht, hdistance⟩
  show (if s.handlers = [] then s.mainStep true else none) = some t
  rw [if_pos hs.noHandler, h]

/-- After a call of the start-up that succeeds. -/
theorem Losing.started {s : Process} (hs : s.Losing) (next : MainPc) (hpc : s.pc.holds = false)
    (hnext : next.clearsAhead = true ∧ next.beforeRunning = false) (halLive : Bool) :
    Losing { s with pc := next, halLive } where
  noHandler := hs.noHandler
  handled := hs.handled
  ahead := .inl hnext.1
  running := fun h => by cases hnext.2.symm.trans h
  owner := fun h => by cases hpc.symm.trans (hs.owner h)
  unblocked := hs.unblocked

/-! ### From the delivery to the clearing -/

/-- The calls of the start-up. -/
theorem Losing.step_startup {s : Process} (hs : s.Losing) (hpc : s.pc.unpublished = true)
    (hpublish : s.pc ≠ .publish) : s.Closer := by
  have hattempt (next : MainPc) (halLive : Bool) (hfree : s.pc.holds = false)
      (hnext : next.clearsAhead = true ∧ next.beforeRunning = false)
      (hdistance : next.distance < s.pc.distance)
      (h : s.mainStep true = some { s with pc := next, halLive }) : s.Closer :=
    hs.advance h (hs.started next hfree hnext halLive) hdistance
  cases hmain : s.pc with
  | initConfig =>
      exact hattempt .initQueue s.halLive (by simp [hmain]) ⟨rfl, rfl⟩ (by simp [hmain])
        (by simp [mainStep, attempt, hmain])
  | initQueue =>
      -- `malloc` returns a block, whatever is in it
      obtain ⟨queue, hqueue, -⟩ := Queue.init_represents (show 0 < (100 : UInt32).toNat by decide)
        (Vector.replicate _ (Event.onuStatus .los))
      have hnext := hs.started .initData (by simp [hmain]) ⟨rfl, rfl⟩ s.halLive
      refine ⟨[.initQueue (some (Vector.replicate _ (.onuStatus .los))) true],
        { s with queue := some queue, pc := .initData }, exec_cons_eq_some.mpr ⟨_, ?_, rfl⟩,
        ⟨hnext.noHandler, hnext.handled, hnext.ahead, hnext.running, hnext.owner, hnext.unblocked⟩,
        by simp [hmain]⟩
      show (if s.handlers = [] ∧ s.pc = .initQueue then _ else none) = _
      rw [if_pos ⟨hs.noHandler, hmain⟩, hqueue]
  | initData =>
      exact hattempt .initHal s.halLive (by simp [hmain]) ⟨rfl, rfl⟩ (by simp [hmain])
        (by simp [mainStep, attempt, hmain])
  | initHal =>
      exact hattempt .checkVersion true (by simp [hmain]) ⟨rfl, rfl⟩ (by simp [hmain])
        (by simp [mainStep, attempt, hmain])
  | checkVersion =>
      exact hattempt .initPoller s.halLive (by simp [hmain]) ⟨rfl, rfl⟩ (by simp [hmain])
        (by simp [mainStep, attempt, hmain])
  | initPoller =>
      exact hattempt .registerTr181 s.halLive (by simp [hmain]) ⟨rfl, rfl⟩ (by simp [hmain])
        (by simp [mainStep, attempt, hmain])
  | registerTr181 =>
      exact hattempt .publish s.halLive (by simp [hmain]) ⟨rfl, rfl⟩ (by simp [hmain])
        (by simp [mainStep, attempt, hmain])
  | publish => exact absurd hmain hpublish
  | initFailed =>
      -- the error path does not lead to the loop
      have hahead := hs.ahead
      simp [hmain] at hahead
  | _ => simp [hmain] at hpc

/-- The lock of `eponMgr_controller_run` may have to wait for another thread. -/
theorem Losing.step_runLock {s : Process} (hs : s.Losing) (hpc : s.pc = .runLock) : s.Closer := by
  have hlock {s : Process} (hs : s.Losing) (hpc : s.pc = .runLock) (hfree : s.owner = none) :
      s.Closer := by
    refine hs.advance (t := { s with owner := some .main, pc := .runTest }) ?_ ?_ (by simp [hpc])
    · simp [mainStep, lockMutex, hpc, hfree]
    · exact ⟨hs.noHandler, hs.handled, .inl rfl, fun _ => hs.running (by rw [hpc]; rfl),
        fun _ => rfl, nofun⟩
  cases hheld : s.owner with
  | none => exact hlock hs hpc hheld
  | some holder =>
      cases holder with
      | main =>
          have hholds := hs.owner hheld
          simp [hpc] at hholds
      | blocked => exact absurd hheld hs.unblocked
      | other =>
          -- the other thread unlocks first
          have hfree : Losing { s with owner := none } :=
            ⟨hs.noHandler, hs.handled, hs.ahead, hs.running, nofun, nofun⟩
          obtain ⟨as, u, hrun, hlosing, hdistance⟩ := hlock hfree hpc rfl
          have hunlock : s.step .otherUnlock = some { s with owner := none } := if_pos hheld
          exact ⟨.otherUnlock :: as, u, exec_cons_eq_some.mpr ⟨_, hunlock, hrun⟩, hlosing,
            hdistance⟩

/-- **Step lemma**: the main thread comes closer to the loop. -/
theorem Losing.step {s : Process} (hs : s.Losing) (hloop : s.pc ≠ .loopTest) : s.Closer := by
  have howner (h : s.owner = some .main) (hpc : s.pc.holds = false) : False := by
    cases hpc.symm.trans (hs.owner h)
  cases hpc : s.pc with
  | publish =>
      refine hs.advance (t := { s with gController := true, pc := .initRunning })
        (by simp [mainStep, hpc]) ?_ (by simp [hpc])
      exact ⟨hs.noHandler, hs.handled, .inl rfl, nofun,
        fun h => (howner h (by simp [hpc])).elim, hs.unblocked⟩
  | initRunning =>
      refine hs.advance (t := { s with running := false, pc := .initRequested })
        (by simp [mainStep, hpc]) ?_ (by simp [hpc])
      exact ⟨hs.noHandler, hs.handled, .inl rfl, fun _ => rfl,
        fun h => (howner h (by simp [hpc])).elim, hs.unblocked⟩
  | initRequested =>
      refine hs.advance (t := { s with shutdownRequested := false, pc := .raiseInitSuccess })
        (by simp [mainStep, hpc]) ?_ (by simp [hpc])
      exact ⟨hs.noHandler, hs.handled, .inl rfl, fun _ => hs.running (by simp [hpc]),
        fun h => (howner h (by simp [hpc])).elim, hs.unblocked⟩
  | raiseInitSuccess =>
      refine hs.advance (t := { s with pc := .runLock }) (by simp [mainStep, hpc]) ?_
        (by simp [hpc])
      exact ⟨hs.noHandler, hs.handled, .inl rfl, fun _ => hs.running (by simp [hpc]),
        fun h => (howner h (by simp [hpc])).elim, hs.unblocked⟩
  | runLock => exact hs.step_runLock hpc
  | runTest =>
      -- `running` is clear, so `eponMgr_controller_run` goes on
      refine hs.advance (t := { s with pc := .runRunning }) ?_ ?_ (by simp [hpc])
      · simp [mainStep, hpc, hs.running]
      · exact ⟨hs.noHandler, hs.handled, .inl rfl, nofun, fun _ => rfl, hs.unblocked⟩
  | runRunning =>
      refine hs.advance (t := { s with running := true, pc := .runRequested })
        (by simp [mainStep, hpc]) ?_ (by simp [hpc])
      exact ⟨hs.noHandler, hs.handled, .inl rfl, nofun, fun _ => rfl, hs.unblocked⟩
  | runRequested =>
      -- the flag is cleared for the last time
      refine hs.advance (t := { s with shutdownRequested := false, pc := .runUnlock })
        (by simp [mainStep, hpc]) ?_ (by simp [hpc])
      exact ⟨hs.noHandler, hs.handled, .inr ⟨rfl, rfl⟩, nofun, fun _ => rfl, hs.unblocked⟩
  | runUnlock =>
      have hclear : s.shutdownRequested = false := by simpa [hpc] using hs.ahead
      refine hs.advance (t := { s with owner := none, pc := .startPoller })
        (by simp [mainStep, hpc]) ?_ (by simp [hpc])
      exact ⟨hs.noHandler, hs.handled, .inr ⟨rfl, hclear⟩, nofun, nofun, nofun⟩
  | startPoller =>
      have hclear : s.shutdownRequested = false := by simpa [hpc] using hs.ahead
      refine hs.advance (t := { s with pc := .loopTest }) (by simp [mainStep, hpc]) ?_
        (by simp [hpc])
      exact ⟨hs.noHandler, hs.handled, .inr ⟨rfl, hclear⟩, nofun,
        fun h => (howner h (by simp [hpc])).elim, hs.unblocked⟩
  | loopTest => exact absurd hpc hloop
  | initConfig => exact hs.step_startup (by simp [hpc]) (by simp [hpc])
  | initQueue => exact hs.step_startup (by simp [hpc]) (by simp [hpc])
  | initData => exact hs.step_startup (by simp [hpc]) (by simp [hpc])
  | initHal => exact hs.step_startup (by simp [hpc]) (by simp [hpc])
  | checkVersion => exact hs.step_startup (by simp [hpc]) (by simp [hpc])
  | initPoller => exact hs.step_startup (by simp [hpc]) (by simp [hpc])
  | registerTr181 => exact hs.step_startup (by simp [hpc]) (by simp [hpc])
  | _ =>
      have hahead := hs.ahead
      simp [hpc] at hahead

/-- **It comes to the loop, and goes on.** -/
theorem Losing.loses {s : Process} (hs : s.Losing) : s.Loses := by
  by_cases hloop : s.pc = .loopTest
  · have hclear : s.shutdownRequested = false := by simpa [hloop] using hs.ahead
    refine ⟨[.main true], { s with pc := .pop 0, lateIterations := s.lateIterations + 1 },
      exec_cons_eq_some.mpr ⟨_, ?_, rfl⟩, Nat.succ_pos _⟩
    show (if s.handlers = [] then s.mainStep true else none) = _
    rw [if_pos hs.noHandler]
    simp [mainStep, hloop, hclear, hs.handled]
  · obtain ⟨as, u, hrun, hlosing, hcloser⟩ := hs.step hloop
    obtain ⟨bs, v, hrest, hlate⟩ := hlosing.loses
    exact ⟨as ++ bs, v, (exec_append_of_eq_some hrun).trans hrest, hlate⟩
termination_by s.pc.distance

/-! ### The result -/

/-- A handler that is delivered before the flag is cleared returns, and the loop goes on. -/
theorem ShutdownInvariant.loses {s : Process} (hs : s.ShutdownInvariant)
    (hahead : s.pc.clearsAhead = true) (howner : s.owner ≠ some .main)
    (hblocked : s.owner ≠ some .blocked) (signal : Signal) :
    Loses { s with handlers := ⟨signal, .guard⟩ :: s.handlers } := by
  have hnone : s.handlers = [] := by
    by_contra hne
    have hkept := hs.request.kept (.inl hne)
    rw [hahead] at hkept
    cases hkept
  -- the handler returns first, then the main thread goes on to the loop
  obtain ⟨as, t, -, hrun, ht⟩ := returns_from_guard
    (s := { s with handlers := ⟨signal, .guard⟩ :: s.handlers }) rfl howner hblocked
  have hlosing : t.Losing :=
    { noHandler := ht.handlers.trans hnone
      handled := ht.handled
      ahead := .inl (by rw [ht.pc]; exact hahead)
      running := fun h => ht.running.trans (hs.request.running (ht.pc ▸ h))
      owner := fun h => absurd h ht.owner
      unblocked := fun h => hblocked (ht.blocked h) }
  obtain ⟨bs, u, hrest, hlate⟩ := hlosing.loses
  exact ⟨as ++ bs, u, (exec_append_of_eq_some hrun).trans hrest, hlate⟩

/-! ### The theorem -/

instance (s : Process) : Decidable s.Accepts :=
  decidable_of_iff (s.pc.clearsAhead = false ∧ s.owner ≠ some .main ∧ s.owner ≠ some .blocked)
    ⟨fun h => ⟨h.1, h.2.1, h.2.2⟩, fun h => ⟨h.kept, h.free, h.unblocked⟩⟩

instance (s : Process) (a : ProcessAction) : Decidable (s.Accepting a) :=
  match a with
  | .deliver _ => inferInstanceAs (Decidable s.Accepts)
  | .otherRelock => inferInstanceAs (Decidable (∀ h ∈ s.handlers, h.pc = .notify))
  | .main _ | .initQueue _ _ | .handler | .invoke _ | .callback _ | .otherLock | .otherUnlock =>
      isTrue trivial

end Process

end EponManager
