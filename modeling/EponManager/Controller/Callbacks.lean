import EponManager.Controller.MainThread

/-!
# The events that the HAL reports

A callback pushes its event on the controller's queue, or reports that the queue is full. But the
callbacks are live from `epon_hal_init` on, and they find the queue through `g_controller`, which
`eponMgr_controller_init` sets two steps and several calls later: until then they return at once.

* `AccountedFor` says of a callback that it led to exactly one event, or to one report.
* `QueueHolds` says that the queue holds what was pushed and not popped yet.
* `callback_accounted_for_iff` is the result, for every callback of every run.
-/

namespace EponManager

open Lib

/-- `eponMgr_controller_init` has set `ctrl->event_queue`, and has not failed since. -/
def MainPc.hasQueue : MainPc → Bool
  | .initConfig | .initQueue | .initFailed => false
  | _ => true

namespace Process

/-! ### What a callback led to -/

/-- The entries of a log that belong to the callback `k`. -/
def entriesOf {β : Type} (k : Nat) (log : List (Nat × β)) : List β :=
  (log.filter fun e => e.1 = k).map Prod.snd

/-! ### Reading a callback's entries in a log -/

theorem entriesOf_append_self {β : Type} (k : Nat) (log : List (Nat × β)) (b : β) :
    entriesOf k (log ++ [(k, b)]) = entriesOf k log ++ [b] := by
  simp [entriesOf]

/-- Another callback's entry is not seen. -/
theorem entriesOf_append_of_ne {β : Type} {j k : Nat} (h : j ≠ k) (log : List (Nat × β)) (b : β) :
    entriesOf k (log ++ [(j, b)]) = entriesOf k log := by
  simp [entriesOf, h]

/-- The callback has pushed nothing and reported nothing. -/
def Untraced (s : Process) (k : Nat) : Prop :=
  entriesOf k s.pushed = [] ∧ entriesOf k s.reported = []

/-- The callback has pushed its event once, and reported nothing. -/
def PushedOnce (s : Process) (k : Nat) : Prop :=
  ∃ event, (s.callback k).event = some event ∧ entriesOf k s.pushed = [event] ∧
    entriesOf k s.reported = []

/-- The callback has pushed nothing, and reported once that the queue is full. -/
def ReportedOnce (s : Process) (k : Nat) : Prop :=
  entriesOf k s.pushed = [] ∧ entriesOf k s.reported = [.errorEventQueueFull]

/-- One of the two. -/
def AccountedFor (s : Process) (k : Nat) : Prop := s.PushedOnce k ∨ s.ReportedOnce k

/-- What is known of a callback that has passed its test, by where it is. -/
def Stage (s : Process) (k : Nat) : CallbackPc → Prop
  | .guard    => False
  | .push     => s.Untraced k
  | .notify   => s.PushedOnce k
  | .report   => s.Untraced k
  | .returned => s.AccountedFor k

/-- A callback that has passed its test. -/
structure Passed (s : Process) (k : Nat) : Prop where
  invoked : k < s.invoked
  event : (s.callback k).event.isSome
  stage : s.Stage k (s.callbackPc k)

/-- A callback that has failed its test. -/
structure Dropped (s : Process) (k : Nat) : Prop where
  invoked : k < s.invoked
  pc : s.callbackPc k = .returned
  untraced : s.Untraced k

/-! ### What the other steps leave alone -/

/-- Everything there is to say about the callback `k`. -/
def callbackView (s : Process) (k : Nat) :
    HalCallback × CallbackPc × List Event × List TelemetryEvent :=
  (s.callback k, s.callbackPc k, entriesOf k s.pushed, entriesOf k s.reported)

/-- The main thread and the handlers leave the callbacks alone. -/
structure SameCallbacks (s t : Process) : Prop where
  callback : t.callback = s.callback
  callbackPc : t.callbackPc = s.callbackPc
  invoked : t.invoked = s.invoked
  pushed : t.pushed = s.pushed
  reported : t.reported = s.reported

theorem SameCallbacks.view {s t : Process} (h : SameCallbacks s t) (k : Nat) :
    t.callbackView k = s.callbackView k := by
  unfold callbackView
  rw [h.callback, h.callbackPc, h.pushed, h.reported]

/-- Taking an event from the queue is no callback's step. -/
theorem sameCallbacks_popEvent {s t : Process} {processed : Nat}
    (h : s.popEvent processed = some t) : SameCallbacks s t := by
  unfold popEvent at h
  split at h
  · cases h
    exact ⟨rfl, rfl, rfl, rfl, rfl⟩
  · split at h
    · split at h
      · cases h
        exact ⟨rfl, rfl, rfl, rfl, rfl⟩
      · obtain ⟨event, -, rfl⟩ := Option.map_eq_some_iff.mp h
        exact ⟨rfl, rfl, rfl, rfl, rfl⟩
    · cases h

theorem sameCallbacks_lockMutex {s t : Process} {next : MainPc}
    (h : s.lockMutex next = some t) : SameCallbacks s t := by
  unfold lockMutex at h
  split at h <;> cases h
  exact ⟨rfl, rfl, rfl, rfl, rfl⟩

theorem sameCallbacks_mainStep {s t : Process} {ok : Bool} (h : s.mainStep ok = some t) :
    SameCallbacks s t := by
  -- one case per place of the main thread's program
  unfold mainStep at h
  split at h <;> first
    | (cases h; done)
    | exact sameCallbacks_popEvent h
    | exact sameCallbacks_lockMutex h
    | cases h; exact ⟨rfl, rfl, rfl, rfl, rfl⟩
    | split at h <;> cases h <;> exact ⟨rfl, rfl, rfl, rfl, rfl⟩

/-- The callback `k` takes no part in a step of the callback `j`. -/
theorem view_of_callbackStep {s t : Process} {j k : Nat} (hjk : j ≠ k)
    (h : s.callbackStep j = some t) :
    t.callbackView k = s.callbackView k ∧ t.invoked = s.invoked := by
  have hpc (pc : CallbackPc) : (s.setCallback j pc).callbackPc k = s.callbackPc k :=
    Function.update_of_ne (Ne.symm hjk) ..
  unfold callbackView
  cases callbackOutcome_of_step h with
  | drops hguard hno => exact ⟨by rw [hpc]; rfl, rfl⟩
  | passes hguard hset hqueue hevent => exact ⟨by rw [hpc]; rfl, rfl⟩
  | pushes queue queue' event hpush hqueue hevent hok =>
      refine ⟨?_, rfl⟩
      show (s.callback k, (s.setCallback j .notify).callbackPc k,
        entriesOf k (s.pushed ++ [(j, event)]), entriesOf k s.reported) = _
      rw [hpc, entriesOf_append_of_ne hjk]
  | full queue queue' event rc hpush hqueue hevent hok hrc =>
      refine ⟨?_, rfl⟩
      show (s.callback k, (s.setCallback j .report).callbackPc k, entriesOf k s.pushed,
        entriesOf k s.reported) = _
      rw [hpc]
  | notifies hnotify => exact ⟨by rw [hpc]; rfl, rfl⟩
  | reports hreport =>
      refine ⟨?_, rfl⟩
      show (s.callback k, (s.setCallback j .returned).callbackPc k, entriesOf k s.pushed,
        entriesOf k (s.reported ++ [(j, .errorEventQueueFull)])) = _
      rw [hpc, entriesOf_append_of_ne hjk]

/-- What another agent does leaves a callback alone, unless it is the invocation of that callback.
-/
theorem view_of_step {s t : Process} {a : ProcessAction} {k : Nat} (ha : a ≠ .callback k)
    (hinvoke : ∀ callback, a = .invoke callback → k ≠ s.invoked) (h : s.step a = some t) :
    t.callbackView k = s.callbackView k ∧ s.invoked ≤ t.invoked := by
  have hsame (hst : SameCallbacks s t) :
      t.callbackView k = s.callbackView k ∧ s.invoked ≤ t.invoked :=
    ⟨hst.view k, Nat.le_of_eq hst.invoked.symm⟩
  cases a with
  | main ok =>
      obtain ⟨-, hmain⟩ := Option.ite_none_right_eq_some.mp h
      exact hsame (sameCallbacks_mainStep hmain)
  | initQueue malloc mutexInit =>
      obtain ⟨-, hinit⟩ := Option.ite_none_right_eq_some.mp h
      split at hinit <;> cases hinit <;> exact hsame ⟨rfl, rfl, rfl, rfl, rfl⟩
  | deliver signal =>
      obtain ⟨-, hdeliver⟩ := Option.ite_none_right_eq_some.mp h
      cases hdeliver
      exact hsame ⟨rfl, rfl, rfl, rfl, rfl⟩
  | handler =>
      obtain ⟨_, _, _, _, rfl⟩ := handlerStep_frame h
      exact hsame ⟨rfl, rfl, rfl, rfl, rfl⟩
  | invoke callback =>
      obtain ⟨-, hnew⟩ := Option.ite_none_right_eq_some.mp h
      cases hnew
      -- the new callback is another one
      have hne : k ≠ s.invoked := hinvoke callback rfl
      refine ⟨?_, Nat.le_succ _⟩
      show (Function.update s.callback s.invoked callback k,
        Function.update s.callbackPc s.invoked .guard k, entriesOf k s.pushed,
        entriesOf k s.reported) = _
      rw [Function.update_of_ne hne, Function.update_of_ne hne]
      rfl
  | callback j =>
      obtain ⟨-, hcallback⟩ := Option.ite_none_right_eq_some.mp h
      have hjk : j ≠ k := fun heq => ha (by rw [heq])
      obtain ⟨hview, hinvoked⟩ := view_of_callbackStep hjk hcallback
      exact ⟨hview, Nat.le_of_eq hinvoked.symm⟩
  | otherLock | otherUnlock | otherRelock =>
      obtain ⟨-, howner⟩ := Option.ite_none_right_eq_some.mp h
      cases howner
      exact hsame ⟨rfl, rfl, rfl, rfl, rfl⟩

/-- **A callback that has begun is moved by its own steps alone.** -/
theorem view_of_invoked {s t : Process} {a : ProcessAction} {k : Nat} (hk : k < s.invoked)
    (ha : a ≠ .callback k) (h : s.step a = some t) :
    t.callbackView k = s.callbackView k ∧ k < t.invoked := by
  obtain ⟨hview, hle⟩ := view_of_step ha (fun _ _ => Nat.ne_of_lt hk) h
  exact ⟨hview, Nat.lt_of_lt_of_le hk hle⟩

/-! ### One callback, from its invocation to its return -/

/-- A callback that passed the guard has passed it for good. -/
theorem Passed.of_view {s t : Process} {k : Nat} (h : t.callbackView k = s.callbackView k)
    (hk : k < t.invoked) (hs : s.Passed k) : t.Passed k := by
  simp only [callbackView, Prod.mk.injEq] at h
  have hstage := hs.stage
  refine ⟨hk, h.1 ▸ hs.event, ?_⟩
  unfold Stage AccountedFor PushedOnce ReportedOnce Untraced at hstage ⊢
  rw [h.1, h.2.1, h.2.2.1, h.2.2.2]
  exact hstage

theorem Dropped.of_view {s t : Process} {k : Nat} (h : t.callbackView k = s.callbackView k)
    (hk : k < t.invoked) (hs : s.Dropped k) : t.Dropped k := by
  simp only [callbackView, Prod.mk.injEq] at h
  refine ⟨hk, h.2.1.trans hs.pc, ?_⟩
  have huntraced := hs.untraced
  unfold Untraced at huntraced ⊢
  rw [h.2.2.1, h.2.2.2]
  exact huntraced

@[simp] theorem setCallback_self (s : Process) (k : Nat) (pc : CallbackPc) :
    (s.setCallback k pc).callbackPc k = pc := Function.update_self ..

/-- A callback that has passed its test moves on. -/
theorem Passed.moved {s t : Process} {k : Nat} (pc : CallbackPc) (hs : s.Passed k)
    (hinvoked : t.invoked = s.invoked) (hcallback : t.callback = s.callback)
    (hpc : t.callbackPc k = pc) (hstage : t.Stage k pc) : t.Passed k :=
  ⟨hinvoked ▸ hs.invoked, hcallback ▸ hs.event, hpc ▸ hstage⟩

/-- **Step lemma**: a callback that has passed its test goes on to be accounted for. -/
theorem Passed.step {s t : Process} {a : ProcessAction} {k : Nat} (hs : s.Passed k)
    (h : s.step a = some t) : t.Passed k := by
  -- a step of the callback itself, or of anybody else
  by_cases ha : a = .callback k
  · subst ha
    obtain ⟨-, hcallback⟩ := Option.ite_none_right_eq_some.mp h
    have hstage := hs.stage
    cases callbackOutcome_of_step hcallback with
    | drops hpc hno =>
        rw [hpc] at hstage
        exact hstage.elim
    | passes hpc hset hqueue hevent =>
        rw [hpc] at hstage
        exact hstage.elim
    | pushes queue queue' event hpc hqueue hevent hpush =>
        rw [hpc] at hstage
        refine hs.moved .notify rfl rfl (setCallback_self ..) ⟨event, hevent, ?_, hstage.2⟩
        show entriesOf k (s.pushed ++ [(k, event)]) = [event]
        rw [entriesOf_append_self, hstage.1]
        rfl
    | full queue queue' event rc hpc hqueue hevent hpush hrc =>
        rw [hpc] at hstage
        exact hs.moved .report rfl rfl (setCallback_self ..) hstage
    | notifies hpc =>
        rw [hpc] at hstage
        exact hs.moved .returned rfl rfl (setCallback_self ..) (.inl hstage)
    | reports hpc =>
        rw [hpc] at hstage
        refine hs.moved .returned rfl rfl (setCallback_self ..) (.inr ⟨hstage.1, ?_⟩)
        show entriesOf k (s.reported ++ [(k, .errorEventQueueFull)]) = _
        rw [entriesOf_append_self, hstage.2]
        rfl
  · obtain ⟨hview, hk⟩ := view_of_invoked hs.invoked ha h
    exact hs.of_view hview hk

/-- A callback that has failed its test leads to nothing. -/
theorem Dropped.step {s t : Process} {a : ProcessAction} {k : Nat} (hs : s.Dropped k)
    (h : s.step a = some t) : t.Dropped k := by
  by_cases ha : a = .callback k
  · subst ha
    obtain ⟨-, hcallback⟩ := Option.ite_none_right_eq_some.mp h
    unfold callbackStep at hcallback
    rw [hs.pc] at hcallback
    cases hcallback
  · obtain ⟨hview, hk⟩ := view_of_invoked hs.invoked ha h
    exact hs.of_view hview hk

/-! ### Before the guard -/

/-- Who has not taken the test has left no trace. -/
structure Guarded (s : Process) : Prop where
  fresh : ∀ k, s.invoked ≤ k → s.callbackPc k = .guard
  untraced : ∀ k, s.callbackPc k = .guard → s.Untraced k

/-- The guard is passed in one step, one way or the other. -/
theorem callbackStep_leaves_guard {s t : Process} {k : Nat} (h : s.callbackStep k = some t) :
    t.callbackPc k ≠ .guard := by
  cases callbackOutcome_of_step h with
  | drops hpc hno => simp
  | passes hpc hset hqueue hevent => simp
  | pushes queue queue' event hpc hqueue hevent hpush => simp [setCallback]
  | full queue queue' event rc hpc hqueue hevent hpush hrc => simp [setCallback]
  | notifies hpc => simp
  | reports hpc => simp [setCallback]

/-- At the guard, nothing of the callback has happened yet. -/
theorem Guarded.step {s t : Process} {a : ProcessAction} (hs : s.Guarded) (h : s.step a = some t) :
    t.Guarded := by
  -- the view of `k` is as it was, or `k` takes a step, or `k` is invoked
  have hview (k : Nat) : (a = .callback k ∧ t.callbackPc k ≠ .guard ∧ k < t.invoked) ∨
      (t.callbackPc k = .guard ∧ t.Untraced k) ∨
      (t.callbackView k = s.callbackView k ∧ s.invoked ≤ t.invoked) := by
    by_cases ha : a = .callback k
    · subst ha
      obtain ⟨hlt, hcallback⟩ := Option.ite_none_right_eq_some.mp h
      refine .inl ⟨rfl, callbackStep_leaves_guard hcallback, ?_⟩
      cases callbackOutcome_of_step hcallback <;> exact hlt
    · by_cases hinvoke : ∀ callback, a = .invoke callback → k ≠ s.invoked
      · exact .inr (.inr (view_of_step ha hinvoke h))
      · right; left
        simp only [not_forall, not_not] at hinvoke
        obtain ⟨callback, rfl, rfl⟩ := hinvoke
        obtain ⟨-, hnew⟩ := Option.ite_none_right_eq_some.mp h
        cases hnew
        exact ⟨Function.update_self .., hs.untraced _ (hs.fresh _ (Nat.le_refl _))⟩
  refine ⟨fun k hk => ?_, fun k hk => ?_⟩
  · rcases hview k with ⟨-, -, hlt⟩ | ⟨hpc, -⟩ | ⟨hview, hle⟩
    · exact absurd hlt (Nat.not_lt.mpr hk)
    · exact hpc
    · simp only [callbackView, Prod.mk.injEq] at hview
      exact hview.2.1.trans (hs.fresh k (Nat.le_trans hle hk))
  · rcases hview k with ⟨-, hpc, -⟩ | ⟨-, huntraced⟩ | ⟨hview, -⟩
    · exact absurd hk hpc
    · exact huntraced
    · simp only [callbackView, Prod.mk.injEq] at hview
      have huntraced := hs.untraced k (hview.2.1.symm.trans hk)
      unfold Untraced at huntraced ⊢
      rw [hview.2.2.1, hview.2.2.2]
      exact huntraced

/-! ### The queue -/

/-- The queue holds what was pushed and not popped yet, in this order. -/
structure QueueHolds (s : Process) : Prop where
  stored : ∀ queue, s.queue = some queue → ∃ f : BoundedFifo Event 100,
    queue.Represents f ∧ s.pushed.map Prod.snd = s.popped ++ f.contents
  unset : s.queue = none → s.pushed = [] ∧ s.popped = []

/-- Whoever needs the queue finds it. -/
structure QueueReady (s : Process) : Prop where
  early : s.pc = .initConfig ∨ s.pc = .initQueue → s.queue = none
  ready : s.pc.hasQueue = true → s.queue.isSome
  published : s.gController = true → s.queue.isSome
  push : ∀ k, s.callbackPc k = .push → s.queue.isSome ∧ (s.callback k).event.isSome

/-! ### The queue through the steps of the main thread -/

/-- The main thread takes the first event and goes on to process it, or finds none and waits. -/
theorem popEvent_frame {s t : Process} {processed : Nat} (h : s.popEvent processed = some t) :
    t.gController = s.gController ∧ (t.pc = .wait ∨ ∃ event, t.pc = .process processed event) := by
  unfold popEvent at h
  split at h
  · cases h
    exact ⟨rfl, .inl rfl⟩
  · split at h
    · split at h
      · cases h
        exact ⟨rfl, .inl rfl⟩
      · obtain ⟨event, -, rfl⟩ := Option.map_eq_some_iff.mp h
        exact ⟨rfl, .inr ⟨event, rfl⟩⟩
    · cases h

/-- A step of the main thread that is not a pop leaves the queue alone. -/
theorem mainStep_queue {s t : Process} {ok : Bool} (h : s.mainStep ok = some t) :
    (t.queue = s.queue ∧ t.popped = s.popped) ∨
      ∃ processed, s.pc = .pop processed ∧ s.popEvent processed = some t := by
  unfold mainStep lockMutex at h
  cases hpc : s.pc with
  | pop processed =>
      rw [hpc] at h
      exact .inr ⟨processed, rfl, h⟩
  | _ =>
      simp only [hpc] at h
      first
        | (cases h; done)
        | (cases h; exact .inl ⟨rfl, rfl⟩)
        | (split at h <;> cases h <;> exact .inl ⟨rfl, rfl⟩)

/-- The main thread goes forward. -/
theorem mainStep_pc {s t : Process} {ok : Bool} (h : s.mainStep ok = some t) :
    (t.pc = .initConfig ∨ t.pc = .initQueue → s.pc = .initConfig) ∧
      (t.pc.hasQueue = true → s.pc.hasQueue = true) ∧
      (t.gController = true → s.gController = true ∨ s.pc = .publish) := by
  unfold mainStep lockMutex attempt at h
  cases hpc : s.pc with
  | initConfig =>
      simp only [hpc] at h
      cases h
      refine ⟨fun _ => rfl, fun hqueue => ?_, .inl⟩
      cases ok <;> cases hqueue
  | publish =>
      simp only [hpc] at h
      cases h
      exact ⟨by simp, fun _ => rfl, fun _ => .inr rfl⟩
  | pop processed =>
      simp only [hpc] at h
      obtain ⟨hset, hwait | ⟨event, hprocess⟩⟩ := popEvent_frame h
      · exact ⟨by simp [hwait], fun _ => rfl, fun hg => .inl (hset ▸ hg)⟩
      · exact ⟨by simp [hprocess], fun _ => rfl, fun hg => .inl (hset ▸ hg)⟩
  | process processed event =>
      simp only [hpc] at h
      cases h
      refine ⟨?_, fun _ => rfl, .inl⟩
      -- after fifty events the loop waits, before that it takes the next
      by_cases hlimit : processed + 1 ≥ 50 <;> simp [hlimit]
  | _ =>
      simp only [hpc] at h
      first
        | (cases h; done)
        | (cases h; exact ⟨by cases ok <;> simp, fun _ => rfl, .inl⟩)
        | (split at h <;> cases h <;> exact ⟨by simp, fun _ => rfl, .inl⟩)

theorem popEvent_queueHolds {s t : Process} {processed : Nat} (hs : s.QueueHolds)
    (h : s.popEvent processed = some t) : t.QueueHolds := by
  unfold popEvent at h
  split at h
  · next hnone =>
    cases h
    exact ⟨hs.stored, hs.unset⟩
  · next queue hqueue =>
    obtain ⟨f, hrep, hpushed⟩ := hs.stored queue hqueue
    cases hcontents : f.contents with
    | nil =>
        rw [Queue.pop_empty hrep hcontents] at h
        cases h
        refine ⟨fun queue' heq => ?_, nofun⟩
        cases heq
        exact ⟨f, hrep, hpushed⟩
    | cons event rest =>
        obtain ⟨queue', hpop, hrep'⟩ := Queue.pop_cons hrep hcontents
        rw [hpop] at h
        cases h
        refine ⟨fun queue'' heq => ?_, nofun⟩
        cases heq
        refine ⟨_, hrep', ?_⟩
        show s.pushed.map Prod.snd = s.popped ++ [event] ++ rest
        rw [hpushed, hcontents, List.append_assoc]
        rfl

/-- What a callback pushes is counted as pushed. -/
theorem callbackStep_queueHolds {s t : Process} {k : Nat} (hs : s.QueueHolds)
    (h : s.callbackStep k = some t) : t.QueueHolds := by
  cases callbackOutcome_of_step h with
  | drops hpc hno => exact ⟨hs.stored, hs.unset⟩
  | passes hpc hset hqueue hevent => exact ⟨hs.stored, hs.unset⟩
  | pushes queue queue' event hpc hqueue hevent hpush =>
      obtain ⟨f, hrep, hpushed⟩ := hs.stored queue hqueue
      by_cases hroom : f.contents.length < 100
      · obtain ⟨queue'', hok, hrep'⟩ := Queue.push_room hrep hroom event
        rw [hok] at hpush
        cases hpush
        refine ⟨fun queue₁ heq => ?_, nofun⟩
        cases heq
        refine ⟨_, hrep', ?_⟩
        -- the event is the last in both
        show (s.pushed ++ [(k, event)]).map Prod.snd = s.popped ++ (f.contents ++ [event])
        rw [List.map_append, hpushed, List.append_assoc]
        rfl
      · have hfull : f.contents.length = 100 := Nat.le_antisymm f.bounded (Nat.not_lt.mp hroom)
        rw [Queue.push_full hrep hfull event] at hpush
        cases hpush
  | full queue queue' event rc hpc hqueue hevent hpush hrc =>
      obtain ⟨f, hrep, hpushed⟩ := hs.stored queue hqueue
      by_cases hroom : f.contents.length < 100
      · obtain ⟨queue'', hok, hrep'⟩ := Queue.push_room hrep hroom event
        rw [hok] at hpush
        -- with room the push would have succeeded
        cases hpush
        exact absurd rfl hrc
      · have hfull : f.contents.length = 100 := Nat.le_antisymm f.bounded (Nat.not_lt.mp hroom)
        rw [Queue.push_full hrep hfull event] at hpush
        cases hpush
        refine ⟨fun queue₁ heq => ?_, nofun⟩
        cases heq
        exact ⟨f, hrep, hpushed⟩
  | notifies hpc => exact ⟨hs.stored, hs.unset⟩
  | reports hpc => exact ⟨hs.stored, hs.unset⟩

/-- The steps that have nothing to do with the queue. -/
structure SameQueue (s t : Process) : Prop where
  queue : t.queue = s.queue
  pushed : t.pushed = s.pushed
  popped : t.popped = s.popped

theorem QueueHolds.of_same {s t : Process} (hs : s.QueueHolds) (h : SameQueue s t) :
    t.QueueHolds := by
  refine ⟨fun queue hqueue => ?_, fun hunset => ?_⟩
  · rw [h.pushed, h.popped]
    exact hs.stored queue (h.queue ▸ hqueue)
  · rw [h.pushed, h.popped]
    exact hs.unset (h.queue ▸ hunset)

/-! ### The queue through the steps of the process

The queue is allocated once; after that, callbacks push and the main thread takes.
-/

/-- `Queue.init` gives an empty queue of a hundred cells. -/
theorem init_stores {malloc : Option (Vector Event (100 : UInt32).toNat)} {mutexInit : Bool}
    {queue : Queue Event} (h : Queue.init 100 malloc mutexInit = some queue) :
    queue.Represents (BoundedFifo.empty Event 100) := by
  cases malloc with
  | none => cases h
  | some cells =>
      cases mutexInit with
      | false => cases h
      | true =>
          obtain ⟨queue', hinit, -, hrep⟩ :=
            Queue.init_represents (show 0 < (100 : UInt32).toNat by decide) cells
          cases hinit.symm.trans h
          exact hrep

/-- **The queue holds what was pushed and not yet taken.** -/
theorem QueueHolds.step {s t : Process} {a : ProcessAction} (hs : s.QueueHolds) (hr : s.QueueReady)
    (h : s.step a = some t) : t.QueueHolds := by
  cases a with
  | main ok =>
      obtain ⟨-, hmain⟩ := Option.ite_none_right_eq_some.mp h
      rcases mainStep_queue hmain with ⟨hqueue, hpopped⟩ | ⟨processed, -, hpop⟩
      · exact hs.of_same ⟨hqueue, (sameCallbacks_mainStep hmain).pushed, hpopped⟩
      · exact popEvent_queueHolds hs hpop
  | initQueue malloc mutexInit =>
      obtain ⟨⟨-, hpc⟩, hinit⟩ := Option.ite_none_right_eq_some.mp h
      -- the queue is new, so nothing was pushed or taken before
      obtain ⟨hpushed, hpopped⟩ := hs.unset (hr.early (.inr hpc))
      split at hinit
      · next queue hsome =>
        cases hinit
        refine ⟨fun queue' heq => ?_, nofun⟩
        cases heq
        refine ⟨_, init_stores hsome, ?_⟩
        show s.pushed.map Prod.snd = s.popped ++ []
        rw [hpushed, hpopped]
        rfl
      · cases hinit
        exact ⟨hs.stored, hs.unset⟩
  | deliver signal =>
      obtain ⟨-, hdeliver⟩ := Option.ite_none_right_eq_some.mp h
      cases hdeliver
      exact ⟨hs.stored, hs.unset⟩
  | handler =>
      obtain ⟨_, _, _, _, rfl⟩ := handlerStep_frame h
      exact ⟨hs.stored, hs.unset⟩
  | invoke callback =>
      obtain ⟨-, hnew⟩ := Option.ite_none_right_eq_some.mp h
      cases hnew
      exact ⟨hs.stored, hs.unset⟩
  | callback k =>
      obtain ⟨-, hcallback⟩ := Option.ite_none_right_eq_some.mp h
      exact callbackStep_queueHolds hs hcallback
  | otherLock | otherUnlock | otherRelock =>
      obtain ⟨-, howner⟩ := Option.ite_none_right_eq_some.mp h
      cases howner
      exact ⟨hs.stored, hs.unset⟩

/-! ### Who needs the queue finds it -/

/-- Taking an event does not take the queue away. -/
theorem popEvent_isSome {s t : Process} {processed : Nat} (h : s.popEvent processed = some t)
    (hs : s.queue.isSome) : t.queue.isSome := by
  unfold popEvent at h
  split at h
  · cases h
    exact hs
  · split at h
    · split at h
      · cases h
        rfl
      · obtain ⟨event, -, rfl⟩ := Option.map_eq_some_iff.mp h
        rfl
    · cases h

/-- A callback finds the queue and the argument of its event when it comes to push. -/
theorem callbackStep_push {s t : Process} {j : Nat} (hr : s.QueueReady)
    (h : s.callbackStep j = some t) {k : Nat} (hk : t.callbackPc k = .push) :
    s.queue.isSome ∧ (s.callback k).event.isSome := by
  by_cases hjk : j = k
  · subst hjk
    cases callbackOutcome_of_step h with
    | passes hpc hset hqueue hevent => exact ⟨hqueue, hevent⟩
    | drops hpc hno => simp at hk
    | pushes queue queue' event hpc hqueue hevent hpush => simp [setCallback] at hk
    | full queue queue' event rc hpc hqueue hevent hpush hrc => simp [setCallback] at hk
    | notifies hpc => simp at hk
    | reports hpc => simp [setCallback] at hk
  · obtain ⟨hview, -⟩ := view_of_callbackStep hjk h
    simp only [callbackView, Prod.mk.injEq] at hview
    exact hr.push k (hview.2.1.symm.trans hk)

/-- Steps that leave the main thread, `g_controller` and the queue's pointer alone. -/
theorem QueueReady.of_same {s t : Process} (hr : s.QueueReady) (hpc : t.pc = s.pc)
    (hset : t.gController = s.gController) (hqueue : t.queue.isSome = s.queue.isSome)
    (hpush : ∀ k, t.callbackPc k = .push → s.queue.isSome ∧ (t.callback k).event.isSome) :
    t.QueueReady where
  early := by
    intro hearly
    have hnone := hr.early (hpc ▸ hearly)
    rw [hnone] at hqueue
    exact Option.not_isSome_iff_eq_none.mp (by rw [hqueue]; nofun)
  ready := fun h => hqueue ▸ hr.ready (hpc ▸ h)
  published := fun h => hqueue ▸ hr.published (hset ▸ h)
  push := fun k hk => ⟨hqueue ▸ (hpush k hk).1, (hpush k hk).2⟩

/-- A step of the main thread. -/
theorem QueueReady.mainStep {s t : Process} {ok : Bool} (hr : s.QueueReady)
    (hmain : s.mainStep ok = some t) : t.QueueReady := by
  obtain ⟨hearly, hready, hpublished⟩ := mainStep_pc hmain
  have hsame := sameCallbacks_mainStep hmain
  have hmono : s.queue.isSome → t.queue.isSome := by
    intro hqueue
    rcases mainStep_queue hmain with ⟨heq, -⟩ | ⟨processed, -, hpop⟩
    · rw [heq]
      exact hqueue
    · exact popEvent_isSome hpop hqueue
  constructor
  · intro hpc
    have hconfig := hearly hpc
    rcases mainStep_queue hmain with ⟨heq, -⟩ | ⟨processed, hpop, -⟩
    · exact heq.trans (hr.early (.inl hconfig))
    · cases hconfig.symm.trans hpop
  · intro hpc
    exact hmono (hr.ready (hready hpc))
  · intro hset
    rcases hpublished hset with hbefore | hpc
    · exact hmono (hr.published hbefore)
    · exact hmono (hr.ready (by rw [hpc]; rfl))
  · intro k hk
    rw [hsame.callbackPc] at hk
    rw [hsame.callback]
    exact ⟨hmono (hr.push k hk).1, (hr.push k hk).2⟩

/-- **Step lemma.** -/
theorem QueueReady.step {s t : Process} {a : ProcessAction} (hr : s.QueueReady)
    (h : s.step a = some t) : t.QueueReady := by
  cases a with
  | main ok =>
      obtain ⟨-, hmain⟩ := Option.ite_none_right_eq_some.mp h
      exact hr.mainStep hmain
  | initQueue malloc mutexInit =>
      obtain ⟨⟨-, hpc⟩, hinit⟩ := Option.ite_none_right_eq_some.mp h
      split at hinit <;> cases hinit
      · exact ⟨by simp, fun _ => rfl, fun _ => rfl, fun k hk => ⟨rfl, (hr.push k hk).2⟩⟩
      · exact ⟨by simp, nofun, hr.published, hr.push⟩
  | deliver signal =>
      obtain ⟨-, hdeliver⟩ := Option.ite_none_right_eq_some.mp h
      cases hdeliver
      exact hr.of_same rfl rfl rfl hr.push
  | handler =>
      obtain ⟨_, _, _, _, rfl⟩ := handlerStep_frame h
      exact hr.of_same rfl rfl rfl hr.push
  | invoke callback =>
      obtain ⟨-, hnew⟩ := Option.ite_none_right_eq_some.mp h
      cases hnew
      refine hr.of_same rfl rfl rfl fun k hk => ?_
      by_cases hk' : k = s.invoked
      · subst hk'
        simp at hk
      · simp only [Function.update_of_ne hk'] at hk ⊢
        exact hr.push k hk
  | callback j =>
      obtain ⟨-, hcallback⟩ := Option.ite_none_right_eq_some.mp h
      -- a callback pushes only after it has seen the queue
      have hpush (k : Nat) (hk : t.callbackPc k = .push) := callbackStep_push hr hcallback hk
      cases callbackOutcome_of_step hcallback with
      | pushes queue queue' event hpc hqueue hevent hok =>
          exact hr.of_same rfl rfl (by rw [hqueue]; rfl) hpush
      | full queue queue' event rc hpc hqueue hevent hok hrc =>
          exact hr.of_same rfl rfl (by rw [hqueue]; rfl) hpush
      | drops hpc hno => exact hr.of_same rfl rfl rfl hpush
      | passes hpc hset hqueue hevent => exact hr.of_same rfl rfl rfl hpush
      | notifies hpc => exact hr.of_same rfl rfl rfl hpush
      | reports hpc => exact hr.of_same rfl rfl rfl hpush
  | otherLock | otherUnlock | otherRelock =>
      obtain ⟨-, howner⟩ := Option.ite_none_right_eq_some.mp h
      cases howner
      exact hr.of_same rfl rfl rfl hr.push

/-! ### Every callback of every run -/

/-- What holds in every state. -/
structure CallbackInvariant (s : Process) : Prop where
  guarded : s.Guarded
  holds : s.QueueHolds
  ready : s.QueueReady

/-- When the process starts, no callback has been made. -/
theorem init_callbackInvariant : init.CallbackInvariant where
  guarded := ⟨fun _ _ => rfl, fun _ _ => ⟨rfl, rfl⟩⟩
  holds := ⟨nofun, fun _ => ⟨rfl, rfl⟩⟩
  ready := ⟨fun _ => rfl, nofun, nofun, nofun⟩

/-- **Run lemma.** -/
theorem CallbackInvariant.exec {s t : Process} {as : List ProcessAction} (hs : s.CallbackInvariant)
    (h : exec Process.step s as = some t) : t.CallbackInvariant :=
  exec_invariant (P := CallbackInvariant)
    (fun _ _ _ hs hstep =>
      ⟨hs.guarded.step hstep, hs.holds.step hs.ready hstep, hs.ready.step hstep⟩)
    hs h

/-- A callback can always take its next step. -/
theorem CallbackInvariant.callback_enabled {s : Process} (hs : s.CallbackInvariant) {k : Nat}
    (hk : k < s.invoked) (hpc : s.callbackPc k ≠ .returned) :
    ∃ t, s.step (.callback k) = some t := by
  show ∃ t, (if k < s.invoked then s.callbackStep k else none) = some t
  rw [if_pos hk]
  unfold callbackStep
  cases hk' : s.callbackPc k with
  | guard =>
      simp only
      split <;> exact ⟨_, rfl⟩
  | push =>
      obtain ⟨hqueue, hevent⟩ := hs.ready.push k hk'
      obtain ⟨queue, hqueue⟩ := Option.isSome_iff_exists.mp hqueue
      obtain ⟨event, hevent⟩ := Option.isSome_iff_exists.mp hevent
      obtain ⟨f, hrep, -⟩ := hs.holds.stored queue hqueue
      obtain ⟨rc, queue', hpush, -⟩ := Queue.push_fails_iff hrep event
      simp only [hqueue, hevent, hpush]
      split <;> exact ⟨_, rfl⟩
  | notify => exact ⟨_, rfl⟩
  | report => exact ⟨_, rfl⟩
  | returned => exact absurd hk' hpc

/-- What the test of a callback decides. -/
theorem CallbackInvariant.guard_decides {s t : Process} (hs : s.CallbackInvariant) {k : Nat}
    (hk : k < s.invoked) (hpc : s.callbackPc k = .guard) (h : s.step (.callback k) = some t) :
    if s.gController = true ∧ (s.callback k).event.isSome then t.Passed k else t.Dropped k := by
  obtain ⟨-, hcallback⟩ := Option.ite_none_right_eq_some.mp h
  have huntraced := hs.guarded.untraced k hpc
  cases callbackOutcome_of_step hcallback with
  | drops _ hno =>
      rw [if_neg]
      · exact ⟨hk, setCallback_self .., huntraced⟩
      · rintro ⟨hset, hevent⟩
        have hqueue := hs.ready.published hset
        rcases hno with hno | hno | hno
        · rw [hset] at hno
          cases hno
        · rw [hno] at hqueue
          cases hqueue
        · rw [hno] at hevent
          cases hevent
  | passes _ hset hqueue hevent =>
      -- the queue is there before `g_controller` is set, so its test decides nothing
      rw [if_pos ⟨hset, hevent⟩]
      refine ⟨hk, hevent, ?_⟩
      rw [setCallback_self]
      exact huntraced
  | pushes queue queue' event hpush hqueue hevent hok => cases hpc.symm.trans hpush
  | full queue queue' event rc hpush hqueue hevent hok hrc => cases hpc.symm.trans hpush
  | notifies hnotify => cases hpc.symm.trans hnotify
  | reports hreport => cases hpc.symm.trans hreport

/-! ### The result -/

/-- **Which callbacks are accounted for**, in every run, and for every callback that takes its test
in it and has returned at its end: those that find `g_controller` set, and an argument to make an
event of. At the end of every run the queue holds exactly what was pushed and not popped, and no
callback is stuck. -/
theorem callback_accounted_for_iff {as bs : List ProcessAction} {s t : Process} {k : Nat}
    (has : exec Process.step init as = some s) (hk : k < s.invoked)
    (hguard : s.callbackPc k = .guard) (hbs : exec Process.step s (.callback k :: bs) = some t)
    (hreturned : t.callbackPc k = .returned) :
    (t.AccountedFor k ↔ s.gController = true ∧ (s.callback k).event.isSome) ∧ t.QueueHolds ∧
      ∀ j < t.invoked, t.callbackPc j ≠ .returned → ∃ u, t.step (.callback j) = some u := by
  have hs : s.CallbackInvariant := init_callbackInvariant.exec has
  have ht : t.CallbackInvariant := hs.exec hbs
  refine ⟨?_, ht.holds, fun j hj hpc => ht.callback_enabled hj hpc⟩
  obtain ⟨u, hstep, hrest⟩ := exec_cons_eq_some.mp hbs
  have hdecides := hs.guard_decides hk hguard hstep
  -- what the test decides stays decided in the rest of the run
  by_cases hfinds : s.gController = true ∧ (s.callback k).event.isSome
  · rw [if_pos hfinds] at hdecides
    have hpassed : t.Passed k :=
      exec_invariant (P := fun s => s.Passed k) (fun _ _ _ hs hstep => hs.step hstep) hdecides hrest
    have hstage := hpassed.stage
    rw [hreturned] at hstage
    exact ⟨fun _ => hfinds, fun _ => hstage⟩
  · rw [if_neg hfinds] at hdecides
    have hdropped : t.Dropped k :=
      exec_invariant (P := fun s => s.Dropped k) (fun _ _ _ hs hstep => hs.step hstep) hdecides
        hrest
    obtain ⟨hpushed, hreported⟩ := hdropped.untraced
    refine ⟨?_, fun h => absurd h hfinds⟩
    rintro (⟨event, -, honce, -⟩ | ⟨-, honce⟩)
    · cases hpushed.symm.trans honce
    · cases hreported.symm.trans honce

/-- The start-up until `epon_hal_init` has succeeded. -/
def startHal : List ProcessAction :=
  [.main true, .initQueue (some (Vector.replicate 100 (.onuStatus .los))) true, .main true,
    .main true]

/-- The start-up until `g_controller` is set, and a status callback. -/
def startController : List ProcessAction :=
  startHal ++ [.main true, .main true, .main true, .main true,
    .invoke (halStatusCallback .registration)]

/-- A callback that comes after `g_controller` is set. -/
theorem callback_accounted_for_registration :
    ∃ s t : Process, exec Process.step init startController = some s ∧ s.gController = true ∧
      exec Process.step s [.callback 0, .callback 0, .callback 0] = some t ∧ t.AccountedFor 0 := by
  have hrun : ((exec Process.step init startController).bind fun s =>
      (exec Process.step s [.callback 0, .callback 0, .callback 0]).map fun t =>
        (s.invoked, s.gController, (s.callback 0).event.isSome, s.callbackPc 0, t.callbackPc 0)) =
      some (1, true, true, .guard, .returned) := by
    decide +kernel
  simp only [Option.bind_eq_some_iff, Option.map_eq_some_iff, Prod.mk.injEq] at hrun
  obtain ⟨s, hs, t, ht, hinvoked, hset, hevent, hguard, hreturned⟩ := hrun
  have hiff := (callback_accounted_for_iff hs (by omega) hguard ht hreturned).1
  exact ⟨s, t, hs, hset, ht, hiff.mpr ⟨hset, hevent⟩⟩

/-- A status callback while the version of the HAL is checked. -/
def callbackBeforeController : List ProcessAction :=
  startHal ++ [.invoke (halStatusCallback .registration), .callback 0]

/-- A callback that the HAL makes before `g_controller` is stored: it returns, and its event is
nowhere. -/
theorem callback_lost : ∃ s, exec Process.step init callbackBeforeController = some s ∧
    s.halLive = true ∧ s.callbackPc 0 = .returned ∧ ¬ s.AccountedFor 0 := by
  have hrun : (exec Process.step init callbackBeforeController).map (fun s =>
      (s.halLive, s.callbackPc 0, entriesOf 0 s.pushed, entriesOf 0 s.reported)) =
      some (true, .returned, [], []) := by
    decide +kernel
  simp only [Option.map_eq_some_iff, Prod.mk.injEq] at hrun
  obtain ⟨s, hs, hlive, hreturned, hpushed, hreported⟩ := hrun
  refine ⟨s, hs, hlive, hreturned, ?_⟩
  rintro (⟨event, -, honce, -⟩ | ⟨-, honce⟩)
  · cases hpushed.symm.trans honce
  · cases hreported.symm.trans honce

end Process

end EponManager
