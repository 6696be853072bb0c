import EponManager.Hal
import EponManager.Lib.StepSystem
import EponManager.Queue
import EponManager.World

/-!
# The process at run time (`epon_manager_main.c`, `eponMgr_controller.c`)

The main thread goes through `eponMgr_controller_init` and `eponMgr_controller_run`. The HAL calls
back from threads of its own as soon as `epon_hal_init` has succeeded, `SIGTERM` and `SIGINT`
interrupt the main thread anywhere, and the TR-181 handlers lock the controller's mutex now and
then. A step of any of them is one action of `Process.step`, so a run is one order in which they
interleave.

One of these handlers locks the mutex a second time: `stats_poller_set_handler` holds it while
`eponMgr_stats_poller_set_enabled` and `eponMgr_stats_poller_set_interval` lock it around the
configuration. The mutex is not recursive, so that thread waits for itself and never unlocks:
`Holder.blocked`.

Of what the main thread does, the steps keep what the others can tell: `g_controller`,
`ctrl->event_queue`, the two flags of the controller and its mutex. Processing an event takes other
mutexes only and is one step.

`HandlerOutcome` and `CallbackOutcome` list what a step of a handler and of a callback can do.
-/

namespace EponManager

open Lib

/-! ### The main thread -/

/-- What the main thread does next. -/
inductive MainPc where
  /-- `eponMgr_controller_init` up to and with step 4: allocations, mutexes, logger, PSM, rbus and
  the configuration -/
  | initConfig
  /-- step 5: the event queue -/
  | initQueue
  /-- step 6: the data context -/
  | initData
  /-- step 7: `epon_hal_init` -/
  | initHal
  /-- step 7a: the version of the HAL -/
  | checkVersion
  /-- step 8: the stats poller -/
  | initPoller
  /-- step 9: the TR-181 parameters -/
  | registerTr181
  /-- `g_controller = ctrl` -/
  | publish
  /-- `ctrl->running = false` -/
  | initRunning
  /-- `ctrl->shutdown_requested = false` -/
  | initRequested
  /-- `main`, after `eponMgr_controller_init` returned the controller -/
  | raiseInitSuccess
  /-- `eponMgr_controller_run`: before its first lock -/
  | runLock
  /-- the test of `running` -/
  | runTest
  /-- `running = true` -/
  | runRunning
  /-- `shutdown_requested = false` -/
  | runRequested
  | runUnlock
  | startPoller
  /-- the condition of the outer loop -/
  | loopTest
  /-- `process_one_event`, when so many events have been processed in this iteration -/
  | pop (processed : Nat)
  /-- the event it popped -/
  | process (processed : Nat) (event : Event)
  /-- the timed wait on `event_cond` -/
  | wait
  /-- after the loop: before the lock around `running = false` -/
  | exitLock
  | exitRunning
  | exitUnlock
  /-- `main`, after `eponMgr_controller_run` returned -/
  | runReturned
  /-- the error path of `eponMgr_controller_init`; the main thread does not come to the loop -/
  | initFailed
  deriving DecidableEq, Repr

/-- Between a lock of the controller's mutex and the unlock. -/
@[simp] def MainPc.holds : MainPc → Bool
  | .runTest | .runRunning | .runRequested | .runUnlock | .exitRunning | .exitUnlock => true
  | _ => false

/-! ### The signal handler -/

inductive Signal where
  | sigterm
  | sigint
  deriving DecidableEq, Repr

/-- What `eponMgr_controller_shutdown` does next. -/
inductive ShutdownPc where
  /-- the test of `g_controller` -/
  | guard
  | lock
  /-- the test of `shutdown_requested` -/
  | test
  /-- `shutdown_requested = true` -/
  | set
  | unlock
  /-- `pthread_cond_signal` and the return -/
  | notify
  deriving DecidableEq, Repr

@[simp] def ShutdownPc.holds : ShutdownPc → Bool
  | .test | .set | .unlock => true
  | _ => false

/-- A call of `signal_handler`. -/
structure Handler where
  signal : Signal
  pc : ShutdownPc
  deriving DecidableEq, Repr

/-! ### The HAL's callbacks -/

/-- A callback: the event it makes of its argument; `none` if the argument is `NULL`. -/
structure HalCallback where
  event : Option Event
  deriving DecidableEq, Repr

/-- `hal_status_callback` -/
def halStatusCallback (status : OnuStatus) : HalCallback := ⟨some (.onuStatus status)⟩

/-- `hal_alarm_callback` -/
def halAlarmCallback (alarmInfo : Option AlarmInfo) : HalCallback := ⟨alarmInfo.map .alarm⟩

/-- `hal_interface_status_callback` -/
def halInterfaceStatusCallback (status : InterfaceInfo) : HalCallback :=
  ⟨some (.interfaceStatus status)⟩

/-- What a callback does next. -/
inductive CallbackPc where
  /-- the test of `g_controller`, `event_queue` and the argument -/
  | guard
  /-- `eponMgr_queue_push` -/
  | push
  /-- `pthread_cond_signal` -/
  | notify
  /-- `eponMgr_telemetry_raise_simple(EPON_TELEM_ERROR_EVENT_QUEUE_FULL)` -/
  | report
  | returned
  deriving DecidableEq, Repr

/-! ### The state -/

/-- Who holds the controller's mutex. -/
inductive Holder where
  /-- the main thread, in one of its own sections or in a signal handler that interrupts it -/
  | main
  /-- another thread, in a section that it leaves unless it locks the mutex once more -/
  | other
  /-- another thread, which waits for the mutex that it holds itself -/
  | blocked
  deriving DecidableEq, Repr

/-- Whether another thread holds the mutex. -/
@[simp] def heldElsewhere : Option Holder → Bool
  | some .other | some .blocked => true
  | some .main | none           => false

/-- Callbacks are numbered in the order in which they are invoked. -/
structure Process where
  pc : MainPc
  /-- the handlers that interrupt the main thread, the innermost first -/
  handlers : List Handler
  /-- whether `g_controller` is set -/
  gController : Bool
  /-- `ctrl->event_queue` -/
  queue : Option (Queue Event)
  running : Bool
  shutdownRequested : Bool
  /-- who holds `ctrl->mutex` -/
  owner : Option Holder
  /-- whether `epon_hal_init` has returned success -/
  halLive : Bool
  callback : Nat → HalCallback
  callbackPc : Nat → CallbackPc
  invoked : Nat
  /-- what was pushed, and by which callback -/
  pushed : List (Nat × Event)
  /-- what was popped -/
  popped : List Event
  /-- what a callback reported, and which -/
  reported : List (Nat × TelemetryEvent)
  /-- whether a handler has returned -/
  handled : Bool
  /-- how many iterations of the outer loop were started after a handler had returned -/
  lateIterations : Nat

inductive ProcessAction where
  /-- the next step of the main thread; whether the call it makes, if it makes one, succeeds -/
  | main (ok : Bool)
  /-- `eponMgr_queue_init` by the main thread, with the block that `malloc` returns -/
  | initQueue (malloc : Option (Vector Event (100 : UInt32).toNat)) (mutexInit : Bool)
  | deliver (signal : Signal)
  /-- the next step of the innermost handler -/
  | handler
  /-- the HAL invokes a callback -/
  | invoke (callback : HalCallback)
  /-- the next step of a callback -/
  | callback (k : Nat)
  | otherLock
  | otherUnlock
  /-- the thread that holds the mutex locks it a second time -/
  | otherRelock

namespace Process

/-- When the signal handlers have been installed. -/
def init : Process where
  pc := .initConfig
  handlers := []
  gController := false
  queue := none
  running := false
  shutdownRequested := false
  owner := none
  halLive := false
  callback _ := ⟨none⟩
  callbackPc _ := .guard
  invoked := 0
  pushed := []
  popped := []
  reported := []
  handled := false
  lateIterations := 0

/-! ### The steps of the main thread -/

/-- A call that `eponMgr_controller_init` makes: on failure it takes the error path. -/
def attempt (s : Process) (ok : Bool) (next : MainPc) : Process :=
  { s with pc := if ok then next else .initFailed }

/-- `process_one_event` until the event is known. -/
def popEvent (s : Process) (processed : Nat) : Option Process :=
  match s.queue with
  | none       => some { s with pc := .wait }
  | some queue =>
      match queue.pop with
      | .ok (rc, event, queue) =>
          if rc ≠ 0 then
            some { s with queue := some queue, pc := .wait }
          else
            event.map fun event => { s with
              queue := some queue
              popped := s.popped ++ [event]
              pc := .process processed event }
      | .error _ => none

/-- The main thread takes the controller's mutex, once it is free. -/
def lockMutex (s : Process) (next : MainPc) : Option Process :=
  if s.owner = none then some { s with owner := some .main, pc := next } else none

/-- The next step of the main thread. -/
def mainStep (s : Process) (ok : Bool) : Option Process :=
  match s.pc with
  | .initConfig       => some (s.attempt ok .initQueue)
  | .initQueue        => none
  | .initData         => some (s.attempt ok .initHal)
  | .initHal          => some { s.attempt ok .checkVersion with halLive := ok }
  | .checkVersion     => some (s.attempt ok .initPoller)
  | .initPoller       => some (s.attempt ok .registerTr181)
  | .registerTr181    => some (s.attempt ok .publish)
  | .publish          => some { s with gController := true, pc := .initRunning }
  | .initRunning      => some { s with running := false, pc := .initRequested }
  | .initRequested    => some { s with shutdownRequested := false, pc := .raiseInitSuccess }
  | .raiseInitSuccess => some { s with pc := .runLock }
  | .runLock          => s.lockMutex .runTest
  | .runTest          =>
      if s.running then some { s with owner := none, pc := .runReturned }
      else some { s with pc := .runRunning }
  | .runRunning       => some { s with running := true, pc := .runRequested }
  | .runRequested     => some { s with shutdownRequested := false, pc := .runUnlock }
  | .runUnlock        => some { s with owner := none, pc := .startPoller }
  | .startPoller      => some { s with pc := .loopTest }
  | .loopTest         =>
      if s.shutdownRequested then some { s with pc := .exitLock }
      else some { s with
        pc := .pop 0
        lateIterations := s.lateIterations + if s.handled then 1 else 0 }
  | .pop processed    => s.popEvent processed
  | .process processed _ =>
      -- the limit of 50 events, to avoid starvation
      some { s with pc := if processed + 1 ≥ 50 then .wait else .pop (processed + 1) }
  | .wait             => some { s with pc := .loopTest }
  | .exitLock         => s.lockMutex .exitRunning
  | .exitRunning      => some { s with running := false, pc := .exitUnlock }
  | .exitUnlock       => some { s with owner := none, pc := .runReturned }
  | .runReturned      => none
  | .initFailed       => none

/-! ### The steps of a handler -/

/-- The innermost handler returns. -/
def handlerReturn (s : Process) (outer : List Handler) : Process :=
  { s with handlers := outer, handled := true }

/-- The next step of the innermost handler. -/
def handlerStep (s : Process) : Option Process :=
  match s.handlers with
  | []             => none
  | ⟨signal, pc⟩ :: outer =>
      match pc with
      | .guard  =>
          if s.gController then some { s with handlers := ⟨signal, .lock⟩ :: outer }
          else some (s.handlerReturn outer)
      | .lock   =>
          if s.owner = none then
            some { s with handlers := ⟨signal, .test⟩ :: outer, owner := some .main }
          else none
      | .test   =>
          if s.shutdownRequested then some { s.handlerReturn outer with owner := none }
          else some { s with handlers := ⟨signal, .set⟩ :: outer }
      | .set    =>
          some { s with handlers := ⟨signal, .unlock⟩ :: outer, shutdownRequested := true }
      | .unlock => some { s with handlers := ⟨signal, .notify⟩ :: outer, owner := none }
      | .notify => some (s.handlerReturn outer)

/-! ### The steps of a callback -/

def setCallback (s : Process) (k : Nat) (pc : CallbackPc) : Process :=
  { s with callbackPc := Function.update s.callbackPc k pc }

/-- The next step of the callback `k`. -/
def callbackStep (s : Process) (k : Nat) : Option Process :=
  match s.callbackPc k with
  | .guard =>
      if !s.gController || s.queue.isNone || (s.callback k).event.isNone then
        some (s.setCallback k .returned)
      else
        some (s.setCallback k .push)
  | .push =>
      match s.queue, (s.callback k).event with
      | some queue, some event =>
          match queue.push event with
          | .ok (rc, queue) =>
              if rc = 0 then
                some { s.setCallback k .notify with
                  queue := some queue
                  pushed := s.pushed ++ [(k, event)] }
              else
                some { s.setCallback k .report with queue := some queue }
          | .error _ => none
      | _, _ => none
  | .notify   => some (s.setCallback k .returned)
  | .report   =>
      some { s.setCallback k .returned with
        reported := s.reported ++ [(k, .errorEventQueueFull)] }
  | .returned => none

/-- A signal is blocked while its own handler runs, and a handler interrupts the main thread. -/
def step (s : Process) : ProcessAction → Option Process
  | .main ok => if s.handlers = [] then s.mainStep ok else none
  | .initQueue malloc mutexInit =>
      if s.handlers = [] ∧ s.pc = .initQueue then
        match Queue.init 100 malloc mutexInit with
        | some queue => some { s with queue := some queue, pc := .initData }
        | none       => some { s with pc := .initFailed }
      else
        none
  | .deliver signal =>
      if s.handlers.all fun h => h.signal ≠ signal then
        some { s with handlers := ⟨signal, .guard⟩ :: s.handlers }
      else
        none
  | .handler => s.handlerStep
  | .invoke callback =>
      if s.halLive then
        some { s with
          callback := Function.update s.callback s.invoked callback
          callbackPc := Function.update s.callbackPc s.invoked .guard
          invoked := s.invoked + 1 }
      else
        none
  | .callback k => if k < s.invoked then s.callbackStep k else none
  | .otherLock =>
      if s.gController ∧ s.owner = none then some { s with owner := some .other } else none
  | .otherUnlock => if s.owner = some .other then some { s with owner := none } else none
  | .otherRelock => if s.owner = some .other then some { s with owner := some .blocked } else none

/-! ### What a step of a handler or of a callback can do -/

/-- A step of the innermost handler. -/
inductive HandlerOutcome (s : Process) (signal : Signal) (outer : List Handler) :
    Process → Prop where
  | ignores (hhandlers : s.handlers = ⟨signal, .guard⟩ :: outer) (hset : s.gController = false) :
      HandlerOutcome s signal outer (s.handlerReturn outer)
  | finds (hhandlers : s.handlers = ⟨signal, .guard⟩ :: outer) (hset : s.gController = true) :
      HandlerOutcome s signal outer { s with handlers := ⟨signal, .lock⟩ :: outer }
  | locks (hhandlers : s.handlers = ⟨signal, .lock⟩ :: outer) (hfree : s.owner = none) :
      HandlerOutcome s signal outer
        { s with handlers := ⟨signal, .test⟩ :: outer, owner := some .main }
  | again (hhandlers : s.handlers = ⟨signal, .test⟩ :: outer) (hflag : s.shutdownRequested = true) :
      HandlerOutcome s signal outer { s.handlerReturn outer with owner := none }
  | tests (hhandlers : s.handlers = ⟨signal, .test⟩ :: outer)
      (hflag : s.shutdownRequested = false) :
      HandlerOutcome s signal outer { s with handlers := ⟨signal, .set⟩ :: outer }
  | sets (hhandlers : s.handlers = ⟨signal, .set⟩ :: outer) :
      HandlerOutcome s signal outer
        { s with handlers := ⟨signal, .unlock⟩ :: outer, shutdownRequested := true }
  | unlocks (hhandlers : s.handlers = ⟨signal, .unlock⟩ :: outer) :
      HandlerOutcome s signal outer
        { s with handlers := ⟨signal, .notify⟩ :: outer, owner := none }
  | returns (hhandlers : s.handlers = ⟨signal, .notify⟩ :: outer) :
      HandlerOutcome s signal outer (s.handlerReturn outer)

/-- The innermost handler steps, one case per place of its program. -/
theorem handlerOutcome_of_step {s t : Process} (h : s.handlerStep = some t) :
    ∃ signal outer, HandlerOutcome s signal outer t := by
  unfold handlerStep at h
  split at h
  · cases h
  · next signal pc outer hhandlers =>
    refine ⟨signal, outer, ?_⟩
    cases pc with
    | guard =>
        simp only at h
        split at h
        · next hset =>
          cases h
          exact .finds hhandlers hset
        · next hset =>
          cases h
          exact .ignores hhandlers (Bool.not_eq_true _ ▸ hset)
    -- the only place where a handler waits
    | lock =>
        obtain ⟨hfree, h⟩ := Option.ite_none_right_eq_some.mp h
        cases h
        exact .locks hhandlers hfree
    | test =>
        simp only at h
        split at h
        · next hflag =>
          cases h
          exact .again hhandlers hflag
        · next hflag =>
          cases h
          exact .tests hhandlers (Bool.not_eq_true _ ▸ hflag)
    | set =>
        cases h
        exact .sets hhandlers
    | unlock =>
        cases h
        exact .unlocks hhandlers
    | notify =>
        cases h
        exact .returns hhandlers

/-- A handler changes nothing but these. -/
theorem handlerStep_frame {s t : Process} (h : s.handlerStep = some t) :
    ∃ handlers owner shutdownRequested handled,
      t = { s with handlers, owner, shutdownRequested, handled } := by
  obtain ⟨signal, outer, houtcome⟩ := handlerOutcome_of_step h
  cases houtcome <;> exact ⟨_, _, _, _, rfl⟩

/-- A step of the callback `k`. -/
inductive CallbackOutcome (s : Process) (k : Nat) : Process → Prop where
  | drops (hpc : s.callbackPc k = .guard)
      (hno : s.gController = false ∨ s.queue = none ∨ (s.callback k).event = none) :
      CallbackOutcome s k (s.setCallback k .returned)
  | passes (hpc : s.callbackPc k = .guard) (hset : s.gController = true)
      (hqueue : s.queue.isSome) (hevent : (s.callback k).event.isSome) :
      CallbackOutcome s k (s.setCallback k .push)
  | pushes (queue queue' : Queue Event) (event : Event) (hpc : s.callbackPc k = .push)
      (hqueue : s.queue = some queue) (hevent : (s.callback k).event = some event)
      (hpush : queue.push event = .ok (0, queue')) :
      CallbackOutcome s k { s.setCallback k .notify with
        queue := some queue'
        pushed := s.pushed ++ [(k, event)] }
  | full (queue queue' : Queue Event) (event : Event) (rc : Int) (hpc : s.callbackPc k = .push)
      (hqueue : s.queue = some queue) (hevent : (s.callback k).event = some event)
      (hpush : queue.push event = .ok (rc, queue')) (hrc : rc ≠ 0) :
      CallbackOutcome s k { s.setCallback k .report with queue := some queue' }
  | notifies (hpc : s.callbackPc k = .notify) : CallbackOutcome s k (s.setCallback k .returned)
  | reports (hpc : s.callbackPc k = .report) :
      CallbackOutcome s k { s.setCallback k .returned with
        reported := s.reported ++ [(k, .errorEventQueueFull)] }

theorem callbackOutcome_of_step {s t : Process} {k : Nat} (h : s.callbackStep k = some t) :
    CallbackOutcome s k t := by
  unfold callbackStep at h
  split at h
  · next hpc =>
    split at h
    · next hno =>
      cases h
      -- one of the guard's three tests has failed
      refine .drops hpc ?_
      simpa [Bool.or_eq_true, or_assoc] using hno
    · next hyes =>
      cases h
      rw [Bool.not_eq_true, Bool.or_eq_false_iff, Bool.or_eq_false_iff, Bool.not_eq_false',
        Option.isNone_eq_false_iff, Option.isNone_eq_false_iff] at hyes
      exact .passes hpc hyes.1.1 hyes.1.2 hyes.2
  · next hpc =>
    split at h
    · next queue event hqueue hevent =>
      split at h
      · next rc queue' hpush =>
        split at h
        · next hrc =>
          cases h
          exact .pushes queue queue' event hpc hqueue hevent (hrc ▸ hpush)
        · next hrc =>
          cases h
          exact .full queue queue' event rc hpc hqueue hevent hpush hrc
      · cases h
    · cases h
  · next hpc =>
    cases h
    exact .notifies hpc
  · next hpc =>
    cases h
    exact .reports hpc
  · cases h

end Process

end EponManager
