import EponManager.Lib.BoundedFifo
import EponManager.Lib.CMemory
import EponManager.Lib.Ring

/-!
# The event queue (`eponMgr_queue.c`)

HAL callbacks push events, the controller's loop pops them. The queue is a circular buffer of
`capacity` cells: `head` is where the next push writes, `tail` where the next pop reads, and
`count` tells a full buffer from an empty one. All four are `uint32_t`.

A call is modelled with its return code (`0` or `-1`) and the queue it leaves; the mutex makes each
call one step, so the order of calls of several threads is a list of calls. Reading or writing
outside the buffer, through a `NULL` buffer, or taking a remainder by a zero capacity is a `Fault`.

`Represents` ties the four counters and the cells to a `BoundedFifo`; `queue_implements` is one
call, and everything about sequences of calls follows from it.
-/

namespace EponManager

open Lib
open Lib.BoundedFifo (Op Answer)

/-- `eponMgr_queue_t` -/
structure Queue (α : Type) where
  events   : Block α
  capacity : UInt32
  head     : UInt32
  tail     : UInt32
  count    : UInt32

namespace Queue

variable {α : Type}

/-- `eponMgr_queue_init`: `malloc` is the block it allocates (with whatever it holds), `none` when
it fails, and `mutexInit` says whether the mutex could be initialised. `none` is the return `-1`.
The size passed to `malloc` is a 64-bit product, so the block has `capacity` cells. -/
def init (capacity : UInt32) (malloc : Option (Vector α capacity.toNat)) (mutexInit : Bool) :
    Option (Queue α) :=
  if capacity = 0 then none
  else
    match malloc with
    | none        => none
    | some events =>
      if mutexInit then
        some { events := some events.toArray, capacity, head := 0, tail := 0, count := 0 }
      else none

/-- `eponMgr_queue_is_empty` -/
def isEmpty (queue : Queue α) : Bool := queue.count = 0

/-- `eponMgr_queue_is_full` -/
def isFull (queue : Queue α) : Bool := queue.count ≥ queue.capacity

/-- `eponMgr_queue_size` -/
def size (queue : Queue α) : UInt32 := queue.count

/-- `eponMgr_queue_destroy` -/
def destroy (_queue : Queue α) : Queue α :=
  { events := none, capacity := 0, head := 0, tail := 0, count := 0 }

/-- `eponMgr_queue_push` -/
def push (queue : Queue α) (event : α) : Except Fault (Int × Queue α) :=
  if queue.count ≥ queue.capacity then
    return (-1, queue)
  else do
    let events ← queue.events.store queue.head event
    let head ← umod (queue.head + 1) queue.capacity
    return (0, { queue with events, head, count := queue.count + 1 })

/-- `eponMgr_queue_pop`; the second component is the caller's event buffer, if written. -/
def pop (queue : Queue α) : Except Fault (Int × Option α × Queue α) :=
  if queue.count = 0 then
    return (-1, none, queue)
  else do
    let event ← queue.events.load queue.tail
    let tail ← umod (queue.tail + 1) queue.capacity
    return (0, some event, { queue with tail, count := queue.count - 1 })

/-- A call with its return code read as an `Answer`. -/
def call (queue : Queue α) : Op α → Except Fault (Answer α × Queue α)
  | .push event => do
      let (rc, queue) ← queue.push event
      return (.push (rc = 0), queue)
  | .pop => do
      let (_, event, queue) ← queue.pop
      return (.pop event, queue)

/-- Any number of calls, one after another. -/
def calls : Queue α → List (Op α) → Except Fault (List (Answer α) × Queue α) :=
  BoundedFifo.runStored call

/-! ### The queue and the FIFO it stores -/

/-- `queue` stores the FIFO `f`: the buffer has `capacity` cells, of which the `count` cells from
`tail` on hold `f`'s values, and the next free cell is at `head`. -/
structure Represents {cap : Nat} (queue : Queue α) (f : BoundedFifo α cap) : Prop where
  cap_pos  : 0 < cap
  capacity : queue.capacity.toNat = cap
  tail_lt  : queue.tail.toNat < cap
  head     : queue.head.toNat = (queue.tail.toNat + queue.count.toNat) % cap
  cells    : ∃ a : Array α, queue.events = some a ∧ a.size = cap ∧
    ringView (fun i => a[i]?) cap queue.tail.toNat queue.count.toNat = f.contents.map some

variable {cap : Nat} {queue : Queue α} {f : BoundedFifo α cap}

/-- The count is the length of the contents. -/
theorem Represents.count_eq (h : Represents queue f) :
    queue.count.toNat = f.contents.length := by
  obtain ⟨a, -, -, hview⟩ := h.cells
  simpa using congrArg List.length hview

/-- What the three observers report about the stored FIFO. -/
theorem Represents.observers (h : Represents queue f) :
    queue.size.toNat = f.contents.length ∧ (queue.isEmpty ↔ f.contents = []) ∧
      (queue.isFull ↔ f.contents.length = cap) := by
  refine ⟨h.count_eq, ?_, ?_⟩
  · rw [← List.length_eq_zero_iff, ← h.count_eq, isEmpty, decide_eq_true_iff,
      ← UInt32.toNat_inj, UInt32.toNat_zero]
  · rw [isFull, decide_eq_true_iff, ge_iff_le, UInt32.le_iff_toNat_le, h.capacity, h.count_eq]
    have hb := f.bounded
    omega

theorem Represents.head_lt (h : Represents queue f) : queue.head.toNat < cap := by
  rw [h.head]
  exact Nat.mod_lt _ h.cap_pos

/-- One more than an index below `capacity` does not wrap around `2 ^ 32`. -/
theorem toNat_succ_mod {i capacity : UInt32} (h : i.toNat < capacity.toNat) :
    ((i + 1) % capacity).toNat = (i.toNat + 1) % capacity.toNat := by
  have hc := capacity.toNat_lt
  rw [UInt32.toNat_mod, UInt32.toNat_add, UInt32.toNat_one, Nat.mod_eq_of_lt (a := i.toNat + 1)]
  omega

/-- A queue that was initialised is empty. -/
theorem init_represents {capacity : UInt32} (hc : 0 < capacity.toNat)
    (events : Vector α capacity.toNat) :
    ∃ queue, init capacity (some events) true = some queue ∧ queue.capacity = capacity ∧
      Represents queue (BoundedFifo.empty α capacity.toNat) := by
  have hne : capacity ≠ 0 := by
    rintro rfl
    simp at hc
  refine ⟨⟨some events.toArray, capacity, 0, 0, 0⟩, by simp [init, hne], rfl, ?_⟩
  exact {
    cap_pos := hc
    capacity := rfl
    tail_lt := hc
    head := by simp
    cells := ⟨events.toArray, rfl, by simp, rfl⟩ }

/-! ### One call -/

/-- A full queue refuses the event and stays as it was. -/
theorem push_full (h : Represents queue f) (hfull : f.contents.length = cap) (event : α) :
    queue.push event = .ok (-1, queue) := by
  have hge : queue.count ≥ queue.capacity := by
    rw [ge_iff_le, UInt32.le_iff_toNat_le, h.capacity, h.count_eq]
    exact Nat.le_of_eq hfull.symm
  rw [push, if_pos hge]
  rfl

/-- A push into a queue with room writes the cell at `head`, which is the cell just past the
stored values. -/
theorem push_room (h : Represents queue f) (hroom : f.contents.length < cap) (event : α) :
    ∃ queue', queue.push event = .ok (0, queue') ∧
      Represents queue'
        (⟨f.contents ++ [event], BoundedFifo.length_push_le hroom event⟩ : BoundedFifo α cap) := by
  obtain ⟨a, hevents, hsize, hview⟩ := h.cells
  have hcount : queue.count.toNat < cap := by
    rw [h.count_eq]
    exact hroom
  have hlt : ¬ queue.count ≥ queue.capacity := by
    rw [ge_iff_le, UInt32.le_iff_toNat_le, h.capacity]
    omega
  have hhead : queue.head.toNat < a.size := by
    rw [hsize]
    exact h.head_lt
  have hcap : 0 < queue.capacity.toNat := by
    rw [h.capacity]
    exact h.cap_pos
  refine ⟨{ queue with
      events := some (a.set queue.head.toNat event)
      head := (queue.head + 1) % queue.capacity
      count := queue.count + 1 }, ?_, ?_⟩
  · simp only [push, if_neg hlt, hevents, Block.store_of_lt event hhead, umod_of_pos _ hcap,
      bind, Except.bind, pure, Except.pure]
  · -- the count is below the capacity, so it does not wrap around
    have hcount' : (queue.count + 1).toNat = queue.count.toNat + 1 := by
      have hc := queue.capacity.toNat_lt
      rw [UInt32.toNat_add, UInt32.toNat_one, Nat.mod_eq_of_lt]
      rw [h.capacity] at hc
      omega
    exact {
      cap_pos := h.cap_pos
      capacity := h.capacity
      tail_lt := h.tail_lt
      head := by
        show ((queue.head + 1) % queue.capacity).toNat =
          (queue.tail.toNat + (queue.count + 1).toNat) % cap
        rw [toNat_succ_mod (by rw [h.capacity]; exact h.head_lt), h.capacity, hcount', h.head,
          Nat.mod_add_mod, Nat.add_assoc]
      cells := by
        refine ⟨_, rfl, by simpa using hsize, ?_⟩
        show ringView _ cap queue.tail.toNat (queue.count + 1).toNat = _
        rw [hcount', getElem?_set_eq_update, h.head, ringView_update hcount, hview]
        simp }

theorem pop_empty (h : Represents queue f) (hempty : f.contents = []) :
    queue.pop = .ok (-1, none, queue) := by
  have hzero : queue.count = 0 := by
    rw [← UInt32.toNat_inj, h.count_eq, hempty]
    rfl
  rw [pop, if_pos hzero]
  rfl

/-- A pop from a queue that holds something reads the cell at `tail`, which is the oldest value. -/
theorem pop_cons (h : Represents queue f) {event : α} {rest : List α}
    (hcons : f.contents = event :: rest) :
    ∃ queue', queue.pop = .ok (0, some event, queue') ∧
      Represents queue'
        (⟨rest, BoundedFifo.length_pop_le f.bounded hcons⟩ : BoundedFifo α cap) := by
  obtain ⟨a, hevents, hsize, hview⟩ := h.cells
  have hcount : queue.count.toNat = rest.length + 1 := by
    rw [h.count_eq, hcons]
    rfl
  have hne : queue.count ≠ 0 := by
    intro hzero
    rw [hzero] at hcount
    simp at hcount
  have htail : queue.tail.toNat < a.size := by
    rw [hsize]
    exact h.tail_lt
  have hcap : 0 < queue.capacity.toNat := by
    rw [h.capacity]
    exact h.cap_pos
  -- the oldest value is the one in the cell at `tail`
  rw [hcount, ringView_succ, hcons, List.map_cons, Nat.mod_eq_of_lt h.tail_lt] at hview
  obtain ⟨hfirst, hrest⟩ := List.cons.inj hview
  have hevent : a[queue.tail.toNat] = event := by
    rw [Array.getElem?_eq_getElem htail] at hfirst
    exact Option.some.inj hfirst
  refine ⟨{ queue with tail := (queue.tail + 1) % queue.capacity, count := queue.count - 1 },
    ?_, ?_⟩
  · simp only [pop, if_neg hne, hevents, Block.load_of_lt htail, umod_of_pos _ hcap, hevent,
      bind, Except.bind, pure, Except.pure]
  · have hcount' : (queue.count - 1).toNat = rest.length := by
      have hle : (1 : UInt32) ≤ queue.count := by
        rw [UInt32.le_iff_toNat_le, hcount]
        simp
      rw [UInt32.toNat_sub_of_le _ _ hle, hcount]
      simp
    have htail' : ((queue.tail + 1) % queue.capacity).toNat = (queue.tail.toNat + 1) % cap := by
      rw [toNat_succ_mod (by rw [h.capacity]; exact h.tail_lt), h.capacity]
    exact {
      cap_pos := h.cap_pos
      capacity := h.capacity
      tail_lt := by
        show ((queue.tail + 1) % queue.capacity).toNat < cap
        rw [htail']
        exact Nat.mod_lt _ h.cap_pos
      head := by
        show queue.head.toNat = _
        rw [h.head, htail', hcount', hcount, Nat.mod_add_mod]
        congr 1
        omega
      cells := by
        refine ⟨a, hevents, hsize, ?_⟩
        show ringView _ cap ((queue.tail + 1) % queue.capacity).toNat (queue.count - 1).toNat = _
        rw [htail', hcount']
        exact hrest }

/-! ### The refinement -/

/-- **One call**: the stored queue answers as the FIFO it stores, without fault. -/
theorem queue_implements :
    BoundedFifo.Implements (call (α := α)) (Represents : Queue α → BoundedFifo α cap → Prop) := by
  intro queue f o h
  cases o with
  | push event =>
      -- with room the event is appended on both sides; without, both refuse
      by_cases hroom : f.contents.length < cap
      · obtain ⟨queue', hpush, h'⟩ := push_room h hroom event
        refine ⟨queue', ?_, ?_⟩
        · simp [call, hpush, BoundedFifo.call, BoundedFifo.push, hroom, bind, Except.bind, pure,
            Except.pure]
        · simpa [BoundedFifo.call, BoundedFifo.push, hroom] using h'
      · have hfull : f.contents.length = cap := Nat.le_antisymm f.bounded (by omega)
        have hpush := push_full h hfull event
        refine ⟨queue, ?_, ?_⟩
        · simp [call, hpush, BoundedFifo.call, BoundedFifo.push, hroom, bind, Except.bind, pure,
            Except.pure]
        · simpa [BoundedFifo.call, BoundedFifo.push, hroom] using h
  | pop =>
      obtain ⟨contents, hb⟩ := f
      cases contents with
      | nil =>
          refine ⟨queue, ?_, h⟩
          simp only [call, pop_empty h rfl, bind, Except.bind, pure, Except.pure]
          rfl
      | cons event rest =>
          obtain ⟨queue', hpop, h'⟩ := pop_cons h rfl
          refine ⟨queue', ?_, h'⟩
          simp only [call, hpop, bind, Except.bind, pure, Except.pure]
          rfl

/-! ### After `destroy` -/

/-- The answer of a call that fails. -/
def refused : Op α → Answer α
  | .push _ => .push false
  | .pop    => .pop none

/-- A destroyed queue is full and empty at once: both tests fail before any cell is touched and
before the remainder by the zero capacity is taken. -/
theorem call_destroy (queue : Queue α) (o : Op α) :
    queue.destroy.call o = .ok (refused o, queue.destroy) := by
  cases o with
  | push event => rfl
  | pop => rfl

/-- After `destroy`, every call is refused. -/
theorem calls_destroy (queue : Queue α) (os : List (Op α)) :
    queue.destroy.calls os = .ok (os.map refused, queue.destroy) := by
  induction os with
  | nil => rfl
  | cons o os ih =>
      rw [calls] at ih ⊢
      simp only [BoundedFifo.runStored, call_destroy, ih, bind, Except.bind, pure, Except.pure,
        List.map_cons]

/-! ### Any sequence of calls -/

/-- What a run of the calls `os` from `queue₀` has to satisfy, given its answers `rs` and the queue
it leaves. -/
structure FifoFrom (queue₀ : Queue α) (os : List (Op α)) (rs : List (Answer α))
    (queue : Queue α) : Prop where
  /-- the run faults nowhere: no index outside the buffer, no remainder by zero -/
  run : queue₀.calls os = .ok (rs, queue)
  /-- the answers are those of a FIFO bounded by the capacity -/
  refines : rs = ((BoundedFifo.empty α queue₀.capacity.toNat).run os).1
  /-- what was delivered is an initial segment of what was accepted -/
  fifo : BoundedFifo.delivered rs <+: BoundedFifo.accepted os rs
  /-- both indices are inside the buffer -/
  indices : queue.head.toNat < queue₀.capacity.toNat ∧ queue.tail.toNat < queue₀.capacity.toNat
  /-- the next push fails exactly when `capacity` accepted events are still undelivered -/
  push_fails : ∀ event, ∃ rc queue', queue.push event = .ok (rc, queue') ∧
    (rc = -1 ↔ (BoundedFifo.accepted os rs).length =
      (BoundedFifo.delivered rs).length + queue₀.capacity.toNat) ∧
    (rc = -1 → queue' = queue)
  /-- the next pop fails exactly when everything accepted was delivered -/
  pop_fails : ∃ rc event queue', queue.pop = .ok (rc, event, queue') ∧
    (rc = -1 ↔ (BoundedFifo.accepted os rs).length = (BoundedFifo.delivered rs).length) ∧
    (rc = -1 → queue' = queue)

/-- A push fails exactly when the queue is full. -/
theorem push_fails_iff (h : Represents queue f) (event : α) :
    ∃ rc queue', queue.push event = .ok (rc, queue') ∧
      (rc = -1 ↔ f.contents.length = cap) ∧ (rc = -1 → queue' = queue) := by
  by_cases hroom : f.contents.length < cap
  · obtain ⟨queue', hpush, -⟩ := push_room h hroom event
    exact ⟨0, queue', hpush, by omega, by omega⟩
  · have hfull : f.contents.length = cap := Nat.le_antisymm f.bounded (by omega)
    exact ⟨-1, queue, push_full h hfull event, by simp [hfull], fun _ => rfl⟩

/-- A pop fails exactly when the queue is empty. -/
theorem pop_fails_iff (h : Represents queue f) :
    ∃ rc event queue', queue.pop = .ok (rc, event, queue') ∧
      (rc = -1 ↔ f.contents.length = 0) ∧ (rc = -1 → queue' = queue) := by
  cases hcontents : f.contents with
  | nil => exact ⟨-1, none, queue, pop_empty h hcontents, by simp, fun _ => rfl⟩
  | cons event rest =>
      obtain ⟨queue', hpop, -⟩ := pop_cons h hcontents
      exact ⟨0, some event, queue', hpop, by simp, by omega⟩

/-- A run from a queue that stores the empty FIFO. -/
theorem fifoFrom_of_represents_empty {queue₀ : Queue α}
    (h₀ : Represents queue₀ (BoundedFifo.empty α queue₀.capacity.toNat)) (os : List (Op α)) :
    ∃ rs queue, FifoFrom queue₀ os rs queue := by
  obtain ⟨queue, hrun, h⟩ := queue_implements.run h₀ os
  -- the FIFO was empty at the start, so what is undelivered is what it holds at the end
  have hcons := BoundedFifo.run_conservation (BoundedFifo.empty α queue₀.capacity.toNat) os
  rw [show (BoundedFifo.empty α queue₀.capacity.toNat).contents = [] from rfl,
    List.nil_append] at hcons
  have hlen := congrArg List.length hcons
  rw [List.length_append] at hlen
  refine ⟨_, queue, hrun, rfl, ⟨_, hcons.symm⟩, ⟨h.head_lt, h.tail_lt⟩, ?_, ?_⟩
  · intro event
    obtain ⟨rc, queue', hpush, hiff, hsame⟩ := push_fails_iff h event
    exact ⟨rc, queue', hpush, by rw [hiff]; omega, hsame⟩
  · obtain ⟨rc, event, queue', hpop, hiff, hsame⟩ := pop_fails_iff h
    exact ⟨rc, event, queue', hpop, by rw [hiff]; omega, hsame⟩

/-- **The ring buffer is a bounded FIFO**, from `init` through any sequence of calls and after
`destroy`. -/
theorem ring_is_bounded_fifo {capacity : UInt32} (hc : 0 < capacity)
    (cells : Vector α capacity.toNat) (os : List (Op α)) :
    ∃ queue₀ rs queue,
      init capacity (some cells) true = some queue₀ ∧ queue₀.capacity = capacity ∧
      FifoFrom queue₀ os rs queue ∧
      ∀ os', queue.destroy.calls os' = .ok (os'.map refused, queue.destroy) := by
  have hc' : 0 < capacity.toNat := by
    rw [UInt32.lt_iff_toNat_lt] at hc
    exact hc
  obtain ⟨queue₀, hinit, hcap, h₀⟩ := init_represents hc' cells
  obtain ⟨rs, queue, hrun⟩ := fifoFrom_of_represents_empty (by rw [hcap]; exact h₀) os
  exact ⟨queue₀, rs, queue, hinit, hcap, hrun, calls_destroy queue⟩

/-- Two cells, three pushes, a pop and a push that goes back to the first cell. -/
theorem ring_is_bounded_fifo_two :
    (0 : UInt32) < 2 ∧ ∃ queue₀ rs queue,
      init 2 (some (Vector.replicate 2 0)) true = some queue₀ ∧ queue₀.capacity = 2 ∧
      FifoFrom queue₀ [.push 5, .push 6, .push 7, .pop, .push 8] rs queue ∧
      ∀ os', queue.destroy.calls os' = .ok (os'.map refused, queue.destroy) :=
  ⟨by decide, ring_is_bounded_fifo (by decide : (0 : UInt32) < 2) (Vector.replicate 2 0) _⟩

end Queue

end EponManager
