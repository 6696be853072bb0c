import Mathlib.Logic.Function.Basic
import Mathlib.Order.Defs.Unbundled

/-!
# Programs that lock mutexes

A C function that talks to its environment, changes memory and locks mutexes is a value of
`Prog ρ L σ α`: from the environment `ρ` (whatever the calls it makes may answer) and a state it
either returns a value and the next state, or it commits a `LockFault`: it locks a mutex that is not
recursive and that it holds already, and so blocks for ever, or it unlocks a mutex it does not hold.

The state is the memory together with the number of times each mutex of `L` is held by the thread
that runs the program.

* `Moves I f h h' R` is total correctness for the locks: in memory that meets `I`, with the mutexes
  held as `h` says, `f` returns, leaves them held as `h'` says, keeps `I`, and its result meets `R`.
* `Faults I f h e`: in such a state `f` commits the fault `e`, whatever the environment does.
* `Ensures P f Q` is partial correctness for the memory, and `Respects R f` a frame condition: the
  memory before and after are related by the preorder `R`.

Each comes with one rule for each way of building a program.
-/

namespace EponManager.Lib

/-- A mutex initialised with `NULL` attributes is `normal`; the other kind can be locked again by
the thread that holds it. -/
inductive MutexKind where
  | normal
  | recursive
  deriving DecidableEq, Repr

/-- The mutexes of a program. -/
class Mutexes (L : Type) where
  kind : L → MutexKind

inductive LockFault (L : Type) where
  /-- the thread waits for a mutex that it holds itself -/
  | selfDeadlock (m : L)
  | notHeld (m : L)
  deriving DecidableEq, Repr

/-- How often the running thread holds each mutex. -/
abbrev Held (L : Type) := L → Nat

section Held

variable {L : Type} [DecidableEq L]

def Held.acquire (h : Held L) (m : L) : Held L := Function.update h m (h m + 1)

def Held.release (h : Held L) (m : L) : Held L := Function.update h m (h m - 1)

/-! ### What a thread holds -/

@[simp] theorem Held.acquire_self (h : Held L) (m : L) : h.acquire m m = h m + 1 := by
  simp [acquire]

@[simp] theorem Held.acquire_of_ne (h : Held L) {m n : L} (hne : n ≠ m) :
    h.acquire m n = h n := by
  simp [acquire, hne]

@[simp] theorem Held.release_acquire (h : Held L) (m : L) : (h.acquire m).release m = h := by
  simp [acquire, release]

end Held

/-- The memory and the mutexes held. -/
structure LockState (L σ : Type) where
  held : Held L
  mem : σ

def Prog (ρ L σ α : Type) : Type :=
  ρ → LockState L σ → Except (LockFault L) (α × LockState L σ)

namespace Prog

variable {ρ L σ α β : Type}

instance : Monad (Prog ρ L σ) where
  pure a := fun _ s => .ok (a, s)
  bind f g := fun env s =>
    match f env s with
    | .ok (a, t) => g a env t
    | .error e   => .error e

/-- Run a program. -/
def run (f : Prog ρ L σ α) (env : ρ) (s : LockState L σ) :
    Except (LockFault L) (α × LockState L σ) := f env s

/-- Read the memory. -/
def read (f : σ → α) : Prog ρ L σ α := fun _ s => .ok (f s.mem, s)

/-- Change the memory. -/
def write (f : σ → σ) : Prog ρ L σ Unit := fun _ s => .ok ((), { s with mem := f s.mem })

/-- Call the environment: what it answers may depend on the memory, and the call may change it. -/
def call (f : ρ → σ → α × σ) : Prog ρ L σ α :=
  fun env s => .ok ((f env s.mem).1, { s with mem := (f env s.mem).2 })

/-- `pthread_mutex_lock` -/
def lock [DecidableEq L] [Mutexes L] (m : L) : Prog ρ L σ Unit := fun _ s =>
  if Mutexes.kind m = .normal ∧ 0 < s.held m then .error (.selfDeadlock m)
  else .ok ((), { s with held := s.held.acquire m })

/-- `pthread_mutex_unlock` -/
def unlock [DecidableEq L] (m : L) : Prog ρ L σ Unit := fun _ s =>
  if s.held m = 0 then .error (.notHeld m)
  else .ok ((), { s with held := s.held.release m })

/-- Run `body` for each element in turn. -/
def forEach (body : β → Prog ρ L σ Unit) : List β → Prog ρ L σ Unit
  | []      => pure ()
  | b :: bs => do
      body b
      forEach body bs

/-- The value that a run returned, if it did. -/
def result? {ε S : Type} : Except ε (α × S) → Option α
  | .ok (a, _) => some a
  | .error _   => none

/-! ### Composing programs

A call is executed symbolically by these equations: the result of its first part is rewritten, and
the rest runs in the state that it leaves.
-/

/-- The result is known exactly when the program has come to its end. -/
theorem result?_eq_some {ε S : Type} {x : Except ε (α × S)} {a : α} :
    result? x = some a ↔ ∃ t, x = .ok (a, t) := by
  cases x with
  | error e => simp [result?]
  | ok p =>
      obtain ⟨b, t⟩ := p
      simp [result?]

/-- A composition comes to its end exactly when both parts do, one after the other. -/
theorem bind_eq_ok {f : Prog ρ L σ α} {g : α → Prog ρ L σ β} {env : ρ} {s u : LockState L σ}
    {b : β} :
    (f >>= g) env s = .ok (b, u) ↔ ∃ a t, f env s = .ok (a, t) ∧ g a env t = .ok (b, u) := by
  show (match f env s with
    | .ok (a, t) => g a env t
    | .error e   => .error e) = _ ↔ _
  cases hf : f env s with
  | error e => simp
  | ok p =>
      obtain ⟨a, t⟩ := p
      constructor
      · intro h
        exact ⟨a, t, rfl, h⟩
      · rintro ⟨_, _, ⟨⟩, h⟩
        exact h

/-- After a first part that returns `a`, the rest runs with `a`. -/
theorem bind_of_ok {f : Prog ρ L σ α} {g : α → Prog ρ L σ β} {env : ρ} {s t : LockState L σ}
    {a : α} (h : f env s = .ok (a, t)) : (f >>= g) env s = g a env t := by
  show (match f env s with
    | .ok (a, t) => g a env t
    | .error e   => .error e) = _
  rw [h]

/-- A fault of the first part is the fault of the composition. -/
theorem bind_of_error {f : Prog ρ L σ α} {g : α → Prog ρ L σ β} {env : ρ} {s : LockState L σ}
    {e : LockFault L} (h : f env s = .error e) : (f >>= g) env s = .error e := by
  show (match f env s with
    | .ok (a, t) => g a env t
    | .error e   => .error e) = _
  rw [h]

theorem bind_assoc (f : Prog ρ L σ α) (g : α → Prog ρ L σ β) {γ : Type}
    (h : β → Prog ρ L σ γ) : (f >>= g) >>= h = f >>= fun a => g a >>= h := by
  funext env s
  cases hf : f env s with
  | error e => rw [bind_of_error hf, bind_of_error (bind_of_error hf)]
  | ok p =>
      obtain ⟨a, t⟩ := p
      rw [bind_of_ok hf]
      cases hg : g a env t with
      | error e => rw [bind_of_error hg, bind_of_error ((bind_of_ok hf).trans hg)]
      | ok q => rw [bind_of_ok hg, bind_of_ok ((bind_of_ok hf).trans hg)]

/-- A recursive mutex can always be locked. -/
theorem lock_of_recursive [DecidableEq L] [Mutexes L] {m : L}
    (hm : Mutexes.kind m = .recursive) (env : ρ) (s : LockState L σ) :
    lock m env s = .ok ((), { s with held := s.held.acquire m }) := by
  rw [lock, if_neg]
  rintro ⟨hkind, -⟩
  rw [hm] at hkind
  cases hkind

/-- The unlock of the mutex that was locked last. -/
theorem unlock_acquired [DecidableEq L] (m : L) (env : ρ) (s : LockState L σ) :
    unlock m env { s with held := s.held.acquire m } = .ok ((), s) := by
  have hpos : (s.held.acquire m) m ≠ 0 := by
    rw [Held.acquire_self]
    omega
  rw [unlock, if_neg hpos]
  show Except.ok ((), LockState.mk ((s.held.acquire m).release m) s.mem) = _
  rw [Held.release_acquire]

/-- A loop whose body always returns folds what the body does to the state. -/
theorem forEach_of_ok {body : β → Prog ρ L σ Unit} {env : ρ} {g : σ → β → σ}
    (h : ∀ b s, body b env s = .ok ((), { s with mem := g s.mem b })) (bs : List β)
    (s : LockState L σ) :
    forEach body bs env s = .ok ((), { s with mem := bs.foldl g s.mem }) := by
  induction bs generalizing s with
  | nil => rfl
  | cons b bs ih =>
      rw [forEach, bind_of_ok (h b s), ih]
      rfl

/-! ### Lock discipline -/

/-- **Total correctness for the locks.** -/
def Moves (I : σ → Prop) (f : Prog ρ L σ α) (h h' : Held L) (R : α → Prop) : Prop :=
  ∀ env s, I s.mem → s.held = h → ∃ a t, f env s = .ok (a, t) ∧ I t.mem ∧ t.held = h' ∧ R a

/-- Whatever the environment does, `f` commits the fault `e`. -/
def Faults (I : σ → Prop) (f : Prog ρ L σ α) (h : Held L) (e : LockFault L) : Prop :=
  ∀ env s, I s.mem → s.held = h → f env s = .error e

section Moves

variable {I : σ → Prop} {f : Prog ρ L σ α} {g : α → Prog ρ L σ β} {h h₁ h₂ : Held L}
  {R : α → Prop} {R₂ : β → Prop} {e : LockFault L}

/-! ### Rules for programs that keep the lock discipline

One rule for each way to build a program; the counts before and after the parts are what the next
part starts and ends with.
-/

theorem Moves.pure {a : α} (ha : R a) : Moves I (Pure.pure a : Prog ρ L σ α) h h R :=
  fun _ s hI hh => ⟨a, s, rfl, hI, hh, ha⟩

/-- The second part may rely on what the first part returns. -/
theorem Moves.bind (hf : Moves I f h h₁ R) (hg : ∀ a, R a → Moves I (g a) h₁ h₂ R₂) :
    Moves I (f >>= g) h h₂ R₂ := by
  intro env s hI hh
  obtain ⟨a, t, hrun, hI', hh', ha⟩ := hf env s hI hh
  obtain ⟨b, u, hrun', hI'', hh'', hb⟩ := hg a ha env t hI' hh'
  exact ⟨b, u, by rw [bind_of_ok hrun, hrun'], hI'', hh'', hb⟩

theorem Moves.ite {c : Prop} [Decidable c] {f' : Prog ρ L σ α} (hf : c → Moves I f h h₁ R)
    (hf' : ¬ c → Moves I f' h h₁ R) : Moves I (if c then f else f') h h₁ R := by
  by_cases hc : c
  · rw [if_pos hc]
    exact hf hc
  · rw [if_neg hc]
    exact hf' hc

theorem Moves.read {q : σ → α} (hR : ∀ w, I w → R (q w)) :
    Moves I (Prog.read q : Prog ρ L σ α) h h R :=
  fun _ s hI hh => ⟨q s.mem, s, rfl, hI, hh, hR _ hI⟩

theorem Moves.write {q : σ → σ} (hI : ∀ w, I w → I (q w)) :
    Moves I (Prog.write q : Prog ρ L σ Unit) h h (fun _ => True) :=
  fun _ _ hs hh => ⟨(), _, rfl, hI _ hs, hh, trivial⟩

theorem Moves.call {q : ρ → σ → α × σ} (hI : ∀ env w, I w → I (q env w).2) :
    Moves I (Prog.call q : Prog ρ L σ α) h h (fun _ => True) :=
  fun env _ hs hh => ⟨_, _, rfl, hI env _ hs, hh, trivial⟩

/-- A loop whose body leaves the counts as they were. -/
theorem Moves.forEach {body : β → Prog ρ L σ Unit} {bs : List β}
    (hbody : ∀ b, Moves I (body b) h h (fun _ => True)) :
    Moves I (Prog.forEach body bs) h h (fun _ => True) := by
  induction bs with
  | nil => exact Moves.pure trivial
  | cons b bs ih => exact (hbody b).bind (fun _ _ => ih)

/-! ### Rules for programs that block

A program blocks if a part does that is reached with the counts that make it block.
-/

theorem Faults.bind_left (hf : Faults I f h e) : Faults I (f >>= g) h e :=
  fun env s hI hh => bind_of_error (hf env s hI hh)

/-- The second part blocks, whatever the first part returns. -/
theorem Faults.bind_right (hf : Moves I f h h₁ R) (hg : ∀ a, R a → Faults I (g a) h₁ e) :
    Faults I (f >>= g) h e := by
  intro env s hI hh
  obtain ⟨a, t, hrun, hI', hh', ha⟩ := hf env s hI hh
  rw [bind_of_ok hrun]
  exact hg a ha env t hI' hh'

theorem Faults.ite {c : Prop} [Decidable c] {f' : Prog ρ L σ α} (hf : c → Faults I f h e)
    (hf' : ¬ c → Faults I f' h e) : Faults I (if c then f else f') h e := by
  by_cases hc : c
  · rw [if_pos hc]
    exact hf hc
  · rw [if_neg hc]
    exact hf' hc

variable [DecidableEq L] {m : L}

/-! ### Locks and unlocks -/

/-- An unlock of a mutex that the thread has locked. -/
theorem Moves.unlock :
    Moves I (Prog.unlock m : Prog ρ L σ Unit) (h.acquire m) h (fun _ => True) := by
  intro env s hI hh
  have hpos : s.held m ≠ 0 := by
    rw [hh, Held.acquire_self]
    omega
  refine ⟨(), { s with held := s.held.release m }, by rw [Prog.unlock, if_neg hpos], hI, ?_,
    trivial⟩
  show s.held.release m = h
  rw [hh, Held.release_acquire]

variable [Mutexes L]

/-- A lock of a recursive mutex, or of one that the thread does not hold. -/
theorem Moves.lock (hm : Mutexes.kind m = .recursive ∨ h m = 0) :
    Moves I (Prog.lock m : Prog ρ L σ Unit) h (h.acquire m) (fun _ => True) := by
  intro env s hI hh
  have hfree : ¬ (Mutexes.kind m = .normal ∧ 0 < s.held m) := by
    rintro ⟨hkind, hpos⟩
    rcases hm with hrec | hzero
    · rw [hrec] at hkind
      cases hkind
    · rw [hh] at hpos
      omega
  refine ⟨(), { s with held := s.held.acquire m }, by rw [Prog.lock, if_neg hfree], hI, ?_, trivial⟩
  show s.held.acquire m = h.acquire m
  rw [hh]

/-- **A thread that locks a normal mutex twice blocks.** -/
theorem Faults.lock (hkind : Mutexes.kind m = .normal) (hm : 0 < h m) :
    Faults I (Prog.lock m : Prog ρ L σ Unit) h (.selfDeadlock m) := by
  intro env s _ hh
  rw [Prog.lock, if_pos ⟨hkind, by rw [hh]; exact hm⟩]

end Moves

/-! ### What a program does to the memory -/

/-- **Partial correctness for the memory.** -/
def Ensures (P : σ → Prop) (f : Prog ρ L σ α) (Q : α → σ → Prop) : Prop :=
  ∀ env s a t, P s.mem → f env s = .ok (a, t) → Q a t.mem

section Ensures

variable {P : σ → Prop} {f : Prog ρ L σ α} {g : α → Prog ρ L σ β} {Q : α → σ → Prop}
  {Q₂ : β → σ → Prop}

/-! ### Rules for pre- and postconditions

The rules of a program logic; loops are by an invariant of the memory, which the body keeps.
-/

theorem Ensures.pure {a : α} (h : ∀ w, P w → Q a w) : Ensures P (Pure.pure a : Prog ρ L σ α) Q := by
  rintro env s _ _ hP ⟨⟩
  exact h _ hP

/-- The postcondition of the first part is the precondition of the second. -/
theorem Ensures.bind (hf : Ensures P f Q) (hg : ∀ a, Ensures (Q a) (g a) Q₂) :
    Ensures P (f >>= g) Q₂ := by
  intro env s b u hP hrun
  obtain ⟨a, t, hrun₁, hrun₂⟩ := bind_eq_ok.mp hrun
  exact hg a env t b u (hf env s a t hP hrun₁) hrun₂

/-- A stronger precondition and a weaker postcondition. -/
theorem Ensures.conseq {P' : σ → Prop} {Q' : α → σ → Prop} (hf : Ensures P f Q)
    (hP : ∀ w, P' w → P w) (hQ : ∀ a w, Q a w → Q' a w) : Ensures P' f Q' :=
  fun env s a t hs hrun => hQ _ _ (hf env s a t (hP _ hs) hrun)

theorem Ensures.and {Q' : α → σ → Prop} (hf : Ensures P f Q) (hf' : Ensures P f Q') :
    Ensures P f (fun a w => Q a w ∧ Q' a w) :=
  fun env s a t hs hrun => ⟨hf env s a t hs hrun, hf' env s a t hs hrun⟩

/-- A fact about the parameters may be assumed before it is used in an assertion. -/
theorem Ensures.of_and {p : Prop} (h : p → Ensures P f Q) : Ensures (fun w => p ∧ P w) f Q :=
  fun env s a t hs hrun => h hs.1 env s a t hs.2 hrun

/-- A witness of the precondition may be fixed before the program runs. -/
theorem Ensures.of_exists {ι : Type} {P : ι → σ → Prop} (h : ∀ i, Ensures (P i) f Q) :
    Ensures (fun w => ∃ i, P i w) f Q := by
  rintro env s a t ⟨i, hs⟩ hrun
  exact h i env s a t hs hrun

theorem Ensures.ite {c : Prop} [Decidable c] {f' : Prog ρ L σ α} (hf : c → Ensures P f Q)
    (hf' : ¬ c → Ensures P f' Q) : Ensures P (if c then f else f') Q := by
  by_cases hc : c
  · rw [if_pos hc]
    exact hf hc
  · rw [if_neg hc]
    exact hf' hc

/-- What is read is known from the memory before. -/
theorem Ensures.read {q : σ → α} (h : ∀ w, P w → Q (q w) w) :
    Ensures P (Prog.read q : Prog ρ L σ α) Q := by
  rintro env s _ _ hP ⟨⟩
  exact h _ hP

theorem Ensures.write {q : σ → σ} {Q : Unit → σ → Prop} (h : ∀ w, P w → Q () (q w)) :
    Ensures P (Prog.write q : Prog ρ L σ Unit) Q := by
  rintro env s _ _ hP ⟨⟩
  exact h _ hP

/-- A call of the environment, whatever it answers. -/
theorem Ensures.call {q : ρ → σ → α × σ} (h : ∀ env w, P w → Q (q env w).1 (q env w).2) :
    Ensures P (Prog.call q : Prog ρ L σ α) Q := by
  rintro env s _ _ hP ⟨⟩
  exact h _ _ hP

theorem Ensures.forEach {body : β → Prog ρ L σ Unit} {bs : List β}
    (hbody : ∀ b, Ensures P (body b) (fun _ => P)) :
    Ensures P (Prog.forEach body bs) (fun _ => P) := by
  induction bs with
  | nil => exact Ensures.pure (fun _ h => h)
  | cons b bs ih => exact (hbody b).bind (fun _ => ih)

variable [DecidableEq L] {m : L}

theorem Ensures.unlock : Ensures P (Prog.unlock m : Prog ρ L σ Unit) (fun _ => P) := by
  intro env s _ t hP hrun
  rw [Prog.unlock] at hrun
  split at hrun
  · cases hrun
  · cases hrun
    exact hP

theorem Ensures.lock [Mutexes L] : Ensures P (Prog.lock m : Prog ρ L σ Unit) (fun _ => P) := by
  intro env s _ t hP hrun
  rw [Prog.lock] at hrun
  split at hrun
  · cases hrun
  · cases hrun
    exact hP

end Ensures

/-! ### One environment -/

/-- The program in one environment. The rules for `Ensures` then may use what that environment
answers. -/
def within (env : ρ) (f : Prog ρ L σ α) : Prog ρ L σ α := fun _ s => f env s

section Within

variable {P : σ → Prop} {f : Prog ρ L σ α} {g : α → Prog ρ L σ β} {Q : α → σ → Prop}
  {Q₂ : β → σ → Prop}

/-- What holds in every environment holds in one. -/
theorem Ensures.within (hf : Ensures P f Q) (env : ρ) : Ensures P (within env f) Q :=
  fun _ => hf env

/-- What holds in each environment holds in all. -/
theorem Ensures.of_within (h : ∀ env, Ensures P (Prog.within env f) Q) : Ensures P f Q :=
  fun env => h env env

/-- The rule for compositions, in one environment. -/
theorem Ensures.within_bind {env : ρ} (hf : Ensures P (Prog.within env f) Q)
    (hg : ∀ a, Ensures (Q a) (Prog.within env (g a)) Q₂) :
    Ensures P (Prog.within env (f >>= g)) Q₂ :=
  Ensures.bind hf hg

theorem Ensures.within_ite {env : ρ} {c : Prop} [Decidable c] {f' : Prog ρ L σ α}
    (hf : c → Ensures P (Prog.within env f) Q) (hf' : ¬ c → Ensures P (Prog.within env f') Q) :
    Ensures P (Prog.within env (if c then f else f')) Q := by
  by_cases hc : c
  · rw [if_pos hc]
    exact hf hc
  · rw [if_neg hc]
    exact hf' hc

/-- The answer of a call is the one that the environment gives. -/
theorem Ensures.within_call {env : ρ} {q : ρ → σ → α × σ}
    (h : ∀ w, P w → Q (q env w).1 (q env w).2) :
    Ensures P (Prog.within env (Prog.call q) : Prog ρ L σ α) Q := by
  rintro _ s _ _ hP ⟨⟩
  exact h _ hP

end Within

/-! ### Frames -/

/-- **Frame**: whenever `f` returns, `R` relates the memory before to the memory after. -/
def Respects (R : σ → σ → Prop) (f : Prog ρ L σ α) : Prop :=
  ∀ env s a t, f env s = .ok (a, t) → R s.mem t.mem

/-- The frame condition that `π` of the memory is left as it is. -/
abbrev Keeps {κ : Type} (π : σ → κ) (f : Prog ρ L σ α) : Prop :=
  Respects (fun w w' => π w' = π w) f

instance {κ : Type} (π : σ → κ) : IsPreorder σ (fun w w' => π w' = π w) where
  refl _ := rfl
  trans _ _ _ h₁ h₂ := h₂.trans h₁

section Respects

variable {R : σ → σ → Prop} {f : Prog ρ L σ α} {g : α → Prog ρ L σ β}

theorem Respects.mono {R' : σ → σ → Prop} (hf : Respects R f) (h : ∀ w w', R w w' → R' w w') :
    Respects R' f :=
  fun env s a t hrun => h _ _ (hf env s a t hrun)

/-- What `R` carries over can be asserted after a program if it held before. -/
theorem Respects.ensures {P : σ → Prop} (hf : Respects R f) (h : ∀ w w', R w w' → P w → P w') :
    Ensures P f (fun _ => P) :=
  fun env s a t hs hrun => h _ _ (hf env s a t hrun) hs

theorem Respects.write {q : σ → σ} (h : ∀ w, R w (q w)) :
    Respects R (Prog.write q : Prog ρ L σ Unit) := by
  rintro env s _ _ ⟨⟩
  exact h _

theorem Respects.call {q : ρ → σ → α × σ} (h : ∀ env w, R w (q env w).2) :
    Respects R (Prog.call q : Prog ρ L σ α) := by
  rintro env s _ _ ⟨⟩
  exact h _ _

theorem Respects.ite {c : Prop} [Decidable c] {f' : Prog ρ L σ α} (hf : Respects R f)
    (hf' : Respects R f') : Respects R (if c then f else f') := by
  by_cases hc : c
  · rw [if_pos hc]
    exact hf
  · rw [if_neg hc]
    exact hf'

variable [IsPreorder σ R]

theorem Respects.pure {a : α} : Respects R (Pure.pure a : Prog ρ L σ α) := by
  rintro env s _ _ ⟨⟩
  exact refl_of R _

theorem Respects.read {q : σ → α} : Respects R (Prog.read q : Prog ρ L σ α) := by
  rintro env s _ _ ⟨⟩
  exact refl_of R _

/-- A transitive relation is respected by parts and so by the whole. -/
theorem Respects.bind (hf : Respects R f) (hg : ∀ a, Respects R (g a)) : Respects R (f >>= g) := by
  intro env s b u hrun
  obtain ⟨a, t, hrun₁, hrun₂⟩ := bind_eq_ok.mp hrun
  exact trans_of R (hf env s a t hrun₁) (hg a env t b u hrun₂)

theorem Respects.forEach {body : β → Prog ρ L σ Unit} {bs : List β}
    (hbody : ∀ b, Respects R (body b)) : Respects R (Prog.forEach body bs) := by
  induction bs with
  | nil => exact Respects.pure
  | cons b bs ih => exact (hbody b).bind (fun _ => ih)

variable [DecidableEq L] {m : L}

theorem Respects.unlock : Respects R (Prog.unlock m : Prog ρ L σ Unit) :=
  fun env s a t hrun => Ensures.unlock (P := R s.mem) env s a t (refl_of R _) hrun

theorem Respects.lock [Mutexes L] : Respects R (Prog.lock m : Prog ρ L σ Unit) :=
  fun env s a t hrun => Ensures.lock (P := R s.mem) env s a t (refl_of R _) hrun

end Respects

/-! ### A whole call -/

/-- What a call made by a thread that holds no mutex returns and leaves in the memory. -/
def alone (f : Prog ρ L σ α) (env : ρ) (w : σ) : Option (α × σ) :=
  match f env ⟨fun _ => 0, w⟩ with
  | .ok (a, t) => some (a, t.mem)
  | .error _   => none

section Alone

variable {β : Type} {f : Prog ρ L σ α} {env : ρ} {w w' : σ} {a : α}

/-- A call that returns, with the mutexes that it leaves locked. -/
theorem alone_eq_some :
    alone f env w = some (a, w') ↔ ∃ h, f env ⟨fun _ => 0, w⟩ = .ok (a, ⟨h, w'⟩) := by
  unfold alone
  cases f env ⟨fun _ => 0, w⟩ with
  | error e => simp
  | ok p =>
      obtain ⟨b, ⟨h, v⟩⟩ := p
      simp

/-! ### Calls by a thread that holds no mutex -/

/-- The postcondition holds of what such a call returns and leaves. -/
theorem Ensures.alone {P : σ → Prop} {Q : α → σ → Prop} (hf : Ensures P f Q) (hP : P w)
    (h : alone f env w = some (a, w')) : Q a w' := by
  obtain ⟨held, hrun⟩ := alone_eq_some.mp h
  exact hf env _ a _ hP hrun

/-- The same for a postcondition in the call's own environment. -/
theorem Ensures.alone_within {P : σ → Prop} {Q : α → σ → Prop}
    (hf : Ensures P (Prog.within env f) Q)
    (hP : P w) (h : Prog.alone f env w = some (a, w')) : Q a w' := by
  obtain ⟨held, hrun⟩ := alone_eq_some.mp h
  exact hf env _ a _ hP hrun

/-- Such a call leaves the memory in the relation. -/
theorem Respects.alone {R : σ → σ → Prop} (hf : Respects R f)
    (h : alone f env w = some (a, w')) : R w w' := by
  obtain ⟨held, hrun⟩ := alone_eq_some.mp h
  exact hf env _ a _ hrun

/-- A call that is correct for the locks returns. -/
theorem Moves.alone {I : σ → Prop} {h' : Held L} {R : α → Prop}
    (hf : Moves I f (fun _ => 0) h' R) (hI : I w) (env : ρ) :
    ∃ a w', alone f env w = some (a, w') ∧ I w' ∧ R a := by
  obtain ⟨a, t, hrun, hI', -, ha⟩ := hf env ⟨fun _ => 0, w⟩ hI rfl
  exact ⟨a, t.mem, alone_eq_some.mpr ⟨t.held, hrun⟩, hI', ha⟩

/-- A call that ends with all mutexes free can be followed by the next. -/
theorem Moves.alone_bind {I : σ → Prop} {R : α → Prop} {g : α → Prog ρ L σ β}
    (hf : Moves I f (fun _ => 0) (fun _ => 0) R) (hI : I w) (env : ρ) :
    Prog.alone (f >>= g) env w =
      (Prog.alone f env w).bind (fun p => Prog.alone (g p.1) env p.2) := by
  obtain ⟨a, ⟨held, v⟩, hrun, -, rfl, -⟩ := hf env ⟨fun _ => 0, w⟩ hI rfl
  rw [alone_eq_some.mpr ⟨_, hrun⟩, Option.bind_some]
  unfold Prog.alone
  rw [bind_of_ok hrun]

end Alone

end Prog

end EponManager.Lib
