import EponManager.Lib.RecursiveMutex
import EponManager.Lib.StepSystem
import EponManager.World

/-!
# Sections on a global context while it is destroyed

`eponMgr_data_lock`, `eponMgr_controller_lock_persistence_config` and
`eponMgr_controller_get_stats_poller` test a global pointer, read it again for the mutex, and once
more for what they return; their unlocks test it and read it again. `eponMgr_data_destroy` and
`eponMgr_controller_destroy` clear the pointer before anything else. An unlock that finds it cleared
does nothing, so the mutex stays locked.

The configuration and the poller of the controller are there as long as the pointer is set. A caller
whose lock returned `NULL` may call unlock nevertheless; the pointer is not set again, so that is no
step.

* `ContextRun.step` interleaves any number of threads, with sections inside sections, and a destroy.
* `Quiet` is the condition on the steps of the destroy.
* `Accounts` counts the mutex against the sections that are open; a run whose steps are quiet keeps
  it. `fails_of_tooEarly` continues a step that is not quiet.
-/

namespace EponManager

open Lib

/-- The contexts behind a global pointer: `g_eponData` and `g_controller`. -/
inductive GlobalContext where
  | data
  | controller
  deriving DecidableEq, Repr

inductive MutexHolder (ι : Type) where
  | thread (i : ι)
  | destroy
  deriving DecidableEq, Repr

/-- The threads and the destroy are different holders. -/
theorem MutexHolder.thread_ne_destroy {ι : Type} {i : ι} : MutexHolder.thread i ≠ .destroy := nofun

theorem MutexHolder.thread_ne {ι : Type} {i j : ι} (h : i ≠ j) :
    MutexHolder.thread i ≠ .thread j :=
  fun heq => h (MutexHolder.thread.inj heq)

/-- Where a thread is. -/
inductive SectionPc where
  /-- between its calls, inside or outside of a section -/
  | between
  /-- lock: the pointer was not `NULL`, and is read again for the mutex -/
  | lock
  /-- in `pthread_mutex_lock` -/
  | waiting
  /-- lock: before the pointer is read for the result -/
  | result
  /-- unlock: the pointer was not `NULL`, and is read again for the mutex -/
  | unlock
  /-- in `pthread_mutex_unlock` -/
  | release
  /-- it has followed a null pointer or used a mutex that was destroyed -/
  | crashed
  deriving DecidableEq, Repr

/-- How often the mutex is held for a lock that has not returned. -/
def SectionPc.taken : SectionPc → Nat
  | .result => 1
  | _       => 0

/-- Where the destroy of the context is. -/
inductive DestroyPc where
  /-- before the pointer is cleared -/
  | notCalled
  /-- data: in `pthread_mutex_lock` -/
  | locking
  /-- data: before the unlock -/
  | locked
  /-- before `pthread_mutex_destroy` -/
  | destroying
  | destroyed
  deriving DecidableEq, Repr

namespace GlobalContext

def mutex : GlobalContext → MutexId
  | .data       => .data
  | .controller => .controller

/-- Only `eponMgr_data_destroy` takes the mutex. -/
def cleared : GlobalContext → DestroyPc
  | .data       => .locking
  | .controller => .destroying

variable {A : Type} [DecidableEq A]

/-- `none`: the thread has to wait. -/
def lock (ctx : GlobalContext) (m : RecursiveMutex A) (a : A) : Option (RecursiveMutex A) :=
  match Mutexes.kind ctx.mutex with
  | .recursive => m.lock a
  | .normal    => if m.isSome then none else m.lock a

/-! ### Locking one of the two mutexes

The data mutex is recursive, the controller's is not; what they share is enough for the accounts.
-/

/-- A lock that succeeds is one of the recursive mutex as well. -/
theorem lock_eq_some {ctx : GlobalContext} {m m' : RecursiveMutex A} {a : A}
    (h : ctx.lock m a = some m') : m.lock a = some m' := by
  cases ctx with
  | data => exact h
  | controller =>
      obtain ⟨-, h⟩ := Option.ite_none_left_eq_some.mp h
      exact h

/-- A mutex that nobody holds can be locked, of either kind. -/
theorem lock_none (ctx : GlobalContext) (a : A) : ctx.lock none a = some (some (a, 0)) := by
  cases ctx <;> rfl

end GlobalContext

/-- A context, the threads with sections on it, and its destroy. -/
structure ContextRun (ι : Type) where
  /-- whether the global pointer is set -/
  isSet : Bool
  mutex : RecursiveMutex (MutexHolder ι)
  pc : ι → SectionPc
  /-- how many calls of lock have returned the context and await their unlock -/
  opened : ι → Nat
  destroy : DestroyPc

inductive ContextAction (ι : Type) where
  /-- lock is called, and tests the pointer -/
  | lock (i : ι)
  /-- unlock is called for the innermost section, and tests the pointer -/
  | unlock (i : ι)
  /-- the next step of a call -/
  | thread (i : ι)
  | destroy
  deriving DecidableEq, Repr

namespace ContextRun

variable {ι : Type} [DecidableEq ι]

/-! ### The steps -/

def init : ContextRun ι where
  isSet := true
  mutex := none
  pc _ := .between
  opened _ := 0
  destroy := .notCalled

/-- A thread goes on; `opened` sections of it are open. -/
def move (s : ContextRun ι) (i : ι) (pc : SectionPc) (opened : Nat) : ContextRun ι :=
  { s with pc := Function.update s.pc i pc, opened := Function.update s.opened i opened }

/-- The next step of a call of lock or unlock. -/
def threadStep (ctx : GlobalContext) (s : ContextRun ι) (i : ι) : Option (ContextRun ι) :=
  match s.pc i with
  | .lock => some (s.move i (if s.isSet then .waiting else .crashed) (s.opened i))
  | .waiting =>
      -- the mutex is part of the context, which is freed after the destroy
      if s.destroy = .destroyed then some (s.move i .crashed (s.opened i))
      else (ctx.lock s.mutex (.thread i)).map fun mutex =>
        { s.move i .result (s.opened i) with mutex }
  | .result =>
      if s.isSet then some (s.move i .between (s.opened i + 1))
      else match ctx with
        -- `NULL` is returned, and the caller leaves without an unlock
        | .data       => some (s.move i .between (s.opened i))
        -- a field of the context is read through the pointer
        | .controller => some (s.move i .crashed (s.opened i))
  | .unlock => some (s.move i (if s.isSet then .release else .crashed) (s.opened i))
  | .release =>
      if s.destroy = .destroyed then some (s.move i .crashed (s.opened i))
      else (s.mutex.unlock (.thread i)).map fun mutex =>
        { s.move i .between (s.opened i - 1) with mutex }
  | .between | .crashed => none

/-- The next step of the destroy. -/
def destroyStep (ctx : GlobalContext) (s : ContextRun ι) : Option (ContextRun ι) :=
  match s.destroy with
  | .notCalled  => some { s with isSet := false, destroy := ctx.cleared }
  | .locking    =>
      (ctx.lock s.mutex .destroy).map fun mutex => { s with mutex, destroy := .locked }
  | .locked     =>
      (s.mutex.unlock .destroy).map fun mutex => { s with mutex, destroy := .destroying }
  | .destroying => some { s with destroy := .destroyed }
  | .destroyed  => none

def step (ctx : GlobalContext) (s : ContextRun ι) : ContextAction ι → Option (ContextRun ι)
  | .lock i =>
      if s.pc i = .between then some (if s.isSet then s.move i .lock (s.opened i) else s) else none
  | .unlock i =>
      if s.pc i = .between ∧ 0 < s.opened i then
        -- with the pointer cleared, the section ends and the mutex stays locked
        some (if s.isSet then s.move i .unlock (s.opened i)
          else s.move i .between (s.opened i - 1))
      else none
  | .thread i => s.threadStep ctx i
  | .destroy  => s.destroyStep ctx

/-! ### The condition on a destroy -/

/-- The thread reads the pointer no more, unless it begins a new section. -/
def Past (s : ContextRun ι) (i : ι) : Prop :=
  (s.pc i = .between ∧ s.opened i = 0) ∨ (s.pc i = .release ∧ s.opened i = 1)

/-- **The condition on a step.** The destroy does not clear the pointer while a thread is between
the test of its lock and the last read of its unlock; the one of the controller, which does not take
the mutex, does not destroy it while a thread unlocks it. -/
def Quiet (ctx : GlobalContext) (s : ContextRun ι) : ContextAction ι → Prop
  | .destroy => (s.destroy = .notCalled → ∀ i, s.Past i) ∧
      (ctx = .controller → s.destroy = .destroying → ∀ i, s.pc i ≠ .release)
  | _ => True

/-- The mutex is taken by the destroy, or has been. -/
def Drained (ctx : GlobalContext) : DestroyPc → Prop
  | .notCalled | .locking => False
  | .destroying => ctx = .data
  | .locked | .destroyed => True

/-! ### The mutex and the sections -/

/-- What holds of a thread, `held` being how often it holds the mutex. -/
structure ThreadAccounts (ctx : GlobalContext) (destroy : DestroyPc) (pc : SectionPc)
    (opened held : Nat) : Prop where
  alive : pc ≠ .crashed
  counted : held = opened + pc.taken
  closing : pc = .unlock ∨ pc = .release → 0 < opened
  past : destroy ≠ .notCalled → (pc = .between ∧ opened = 0) ∨ (pc = .release ∧ opened = 1)
  drained : Drained ctx destroy → pc ≠ .release

structure Accounts (ctx : GlobalContext) (s : ContextRun ι) : Prop where
  threads : ∀ i, ThreadAccounts ctx s.destroy (s.pc i) (s.opened i) (s.mutex.count (.thread i))
  isSet : s.isSet = true ↔ s.destroy = .notCalled
  destroy : s.mutex.count .destroy = if s.destroy = .locked then 1 else 0

variable {ctx : GlobalContext} {s t : ContextRun ι} {a : ContextAction ι} {i : ι}

omit [DecidableEq ι] in
theorem ThreadAccounts.outside {d : DestroyPc} : ThreadAccounts ctx d .between 0 0 where
  alive := nofun
  counted := rfl
  closing := nofun
  past _ := .inl ⟨rfl, rfl⟩
  drained _ := nofun

/-- Before the destroy only the count and the place matter. -/
theorem ThreadAccounts.before {pc : SectionPc} {opened held : Nat} (halive : pc ≠ .crashed)
    (hcounted : held = opened + pc.taken)
    (hclosing : pc = .unlock ∨ pc = .release → 0 < opened) :
    ThreadAccounts ctx .notCalled pc opened held where
  alive := halive
  counted := hcounted
  closing := hclosing
  past h := absurd rfl h
  drained h := h.elim

/-- Only the destroy moves the destroy. -/
theorem destroy_of_thread (h : s.threadStep ctx i = some t) : t.destroy = s.destroy := by
  unfold threadStep at h
  split at h
  · cases h
    rfl
  · split at h
    · cases h
      rfl
    · obtain ⟨m, -, rfl⟩ := Option.map_eq_some_iff.mp h
      rfl
  · split at h
    · cases h
      rfl
    · split at h <;> cases h <;> rfl
  · cases h
    rfl
  · split at h
    · cases h
      rfl
    · obtain ⟨m, -, rfl⟩ := Option.map_eq_some_iff.mp h
      rfl
  · cases h
  · cases h

theorem init_accounts (ctx : GlobalContext) : Accounts ctx (init : ContextRun ι) where
  threads _ := .outside
  isSet := iff_of_true rfl rfl
  destroy := rfl

/-! ### How the accounts change

A move of one thread, before the context is cleared and after it, and then the steps of the destroy.
-/

/-- A step of one thread. -/
theorem Accounts.move (hs : Accounts ctx s) {pc : SectionPc} {opened : Nat}
    {mutex : RecursiveMutex (MutexHolder ι)}
    (hi : ThreadAccounts ctx s.destroy pc opened (mutex.count (.thread i)))
    (hother : ∀ b ≠ MutexHolder.thread i, mutex.count b = s.mutex.count b) :
    Accounts ctx { s.move i pc opened with mutex } where
  threads j := by
    by_cases hji : j = i
    · subst hji
      simpa only [ContextRun.move, Function.update_self] using hi
    · have hne := MutexHolder.thread_ne hji
      simpa only [ContextRun.move, Function.update_of_ne hji, hother _ hne] using hs.threads j
  isSet := hs.isSet
  destroy := (hother .destroy nofun).trans hs.destroy

/-- A step of one thread that leaves the mutex alone. -/
theorem Accounts.moves (hs : Accounts ctx s) {pc : SectionPc} {opened : Nat}
    (hi : ThreadAccounts ctx s.destroy pc opened (s.mutex.count (.thread i))) :
    Accounts ctx (s.move i pc opened) :=
  hs.move hi fun _ _ => rfl

/-- A step of a call before the destroy. -/
theorem Accounts.thread_before (hs : Accounts ctx s) (hd : s.destroy = .notCalled)
    (h : s.threadStep ctx i = some t) : Accounts ctx t := by
  have hset : s.isSet = true := hs.isSet.mpr hd
  have hnot : s.destroy ≠ .destroyed := by rw [hd]; nofun
  have hcounted := (hs.threads i).counted
  unfold threadStep at h
  -- the destroy has not begun: the context is set, so no branch of the thread crashes
  cases hpc : s.pc i with
  | lock =>
      simp only [hpc, hset, if_true, Option.some.injEq] at h
      subst h
      rw [hpc] at hcounted
      refine hs.moves ?_
      rw [hd]
      exact .before nofun hcounted nofun
  | waiting =>
      simp only [hpc, if_neg hnot] at h
      obtain ⟨m, hm, rfl⟩ := Option.map_eq_some_iff.mp h
      have hlock := GlobalContext.lock_eq_some hm
      rw [hpc] at hcounted
      refine hs.move ?_ fun b hb => RecursiveMutex.count_lock_of_ne hlock hb
      rw [hd, RecursiveMutex.count_lock hlock, hcounted]
      exact .before nofun rfl nofun
  | result =>
      simp only [hpc, hset, if_true, Option.some.injEq] at h
      subst h
      rw [hpc] at hcounted
      refine hs.moves ?_
      rw [hd]
      exact .before nofun hcounted nofun
  | unlock =>
      simp only [hpc, hset, if_true, Option.some.injEq] at h
      subst h
      rw [hpc] at hcounted
      refine hs.moves ?_
      rw [hd]
      exact .before nofun hcounted fun _ => (hs.threads i).closing (.inl hpc)
  | release =>
      simp only [hpc, if_neg hnot] at h
      obtain ⟨m, hm, rfl⟩ := Option.map_eq_some_iff.mp h
      rw [hpc, RecursiveMutex.count_unlock hm] at hcounted
      refine hs.move ?_ fun b hb => RecursiveMutex.count_unlock_of_ne hm hb
      have hone : m.count (.thread i) + 1 = s.opened i := hcounted
      rw [hd, ← hone]
      exact .before nofun rfl nofun
  | between => simp [hpc] at h
  | crashed => simp [hpc] at h

/-- After the destroy has cleared the pointer, a thread can only finish an unlock. -/
theorem Accounts.thread_after (hs : Accounts ctx s) (hd : s.destroy ≠ .notCalled)
    (h : s.threadStep ctx i = some t) : Accounts ctx t := by
  have hi := hs.threads i
  unfold threadStep at h
  rcases hi.past hd with ⟨hpc, -⟩ | ⟨hpc, hone⟩
  · simp [hpc] at h
  · have hnot : s.destroy ≠ .destroyed := by
      intro hdestroyed
      refine hi.drained ?_ hpc
      rw [hdestroyed]
      trivial
    simp only [hpc, if_neg hnot] at h
    obtain ⟨m, hm, rfl⟩ := Option.map_eq_some_iff.mp h
    refine hs.move ?_ fun b hb => RecursiveMutex.count_unlock_of_ne hm hb
    have hcounted := hi.counted
    rw [RecursiveMutex.count_unlock hm, hpc, hone] at hcounted
    have hzero : m.count (.thread i) = 0 := Nat.succ.inj hcounted
    rw [hone, hzero]
    exact .outside

omit [DecidableEq ι] in
/-- Another step of the destroy, which leaves the thread where it is. -/
theorem ThreadAccounts.later {d d' : DestroyPc} {pc : SectionPc} {opened held held' : Nat}
    (h : ThreadAccounts ctx d pc opened held) (hheld : held' = held)
    (hpast : d' ≠ .notCalled → (pc = .between ∧ opened = 0) ∨ (pc = .release ∧ opened = 1))
    (hdrained : Drained ctx d' → pc ≠ .release) : ThreadAccounts ctx d' pc opened held' where
  alive := h.alive
  counted := hheld.trans h.counted
  closing := h.closing
  past := hpast
  drained := hdrained

/-- The pointer is cleared when no thread is between a test of it and the last read. -/
theorem Accounts.clear (hs : Accounts ctx s) (hd : s.destroy = .notCalled)
    (hpast : ∀ i, s.Past i) :
    Accounts ctx { s with isSet := false, destroy := ctx.cleared } := by
  have hnot : ctx.cleared ≠ .notCalled := by cases ctx <;> nofun
  constructor
  · intro i
    apply (hs.threads i).later rfl
    · intro _
      exact hpast i
    · intro hdrained
      cases ctx <;> cases hdrained
  · exact iff_of_false nofun hnot
  · have howned := hs.destroy
    rw [hd] at howned
    cases ctx <;> exact howned

/-- A step of the destroy after it has cleared the pointer. -/
theorem Accounts.later (hs : Accounts ctx s) (hd : s.destroy ≠ .notCalled) {d : DestroyPc}
    (hd' : d ≠ .notCalled) {mutex : RecursiveMutex (MutexHolder ι)}
    (hthreads : ∀ i, ThreadAccounts ctx d (s.pc i) (s.opened i) (mutex.count (.thread i)))
    (howned : mutex.count .destroy = if d = .locked then 1 else 0) :
    Accounts ctx { s with mutex, destroy := d } where
  threads := hthreads
  isSet := iff_of_false (fun hset => hd (hs.isSet.mp hset)) hd'
  destroy := howned

/-- The destroy takes the mutex when no thread holds it, so when none is in an unlock. -/
theorem Accounts.locks (hs : Accounts ctx s) (hd : s.destroy = .locking)
    {m : RecursiveMutex (MutexHolder ι)} (hlock : s.mutex.lock .destroy = some m) :
    Accounts ctx { s with mutex := m, destroy := .locked } := by
  have hnot : s.destroy ≠ .notCalled := by rw [hd]; nofun
  apply hs.later hnot (d := .locked) nofun
  · intro i
    have hi := hs.threads i
    have hfree : s.mutex.count (.thread i) = 0 := by
      by_contra hheld
      have hblocked := RecursiveMutex.lock_eq_none (Nat.pos_of_ne_zero hheld)
        MutexHolder.thread_ne_destroy.symm
      cases hlock.symm.trans hblocked
    have hcount : m.count (.thread i) = 0 :=
      (RecursiveMutex.count_lock_of_ne hlock MutexHolder.thread_ne_destroy).trans hfree
    rcases hi.past hnot with ⟨hpc, hno⟩ | ⟨hpc, hone⟩
    · simp only [hpc, hno, hcount]
      exact .outside
    · -- a thread in an unlock would hold it
      have hcounted := hi.counted
      rw [hfree, hone] at hcounted
      omega
  · rw [RecursiveMutex.count_lock hlock, hs.destroy, hd]
    rfl

/-- The destroy gives the mutex back. -/
theorem Accounts.unlocks (hs : Accounts ctx s) (hd : s.destroy = .locked)
    {m : RecursiveMutex (MutexHolder ι)} (hunlock : s.mutex.unlock .destroy = some m) :
    Accounts ctx { s with mutex := m, destroy := .destroying } := by
  have hnot : s.destroy ≠ .notCalled := by rw [hd]; nofun
  apply hs.later hnot (d := .destroying) nofun
  · intro i
    have hi := hs.threads i
    apply hi.later (RecursiveMutex.count_unlock_of_ne hunlock MutexHolder.thread_ne_destroy)
    · intro _
      exact hi.past hnot
    · intro _
      apply hi.drained
      rw [hd]
      trivial
  · have howned := hs.destroy
    rw [hd, RecursiveMutex.count_unlock hunlock] at howned
    exact Nat.succ.inj howned

/-- The mutex is destroyed. -/
theorem Accounts.destroys (hs : Accounts ctx s) (hd : s.destroy = .destroying)
    (hquiet : ctx = .controller → ∀ i, s.pc i ≠ .release) :
    Accounts ctx { s with destroy := .destroyed } := by
  have hnot : s.destroy ≠ .notCalled := by rw [hd]; nofun
  apply hs.later hnot (d := .destroyed) nofun
  · intro i
    have hi := hs.threads i
    apply hi.later rfl
    · intro _
      exact hi.past hnot
    · intro _
      cases ctx with
      | data =>
          -- the destroy of the data context has held the mutex since
          apply hi.drained
          rw [hd]
          rfl
      | controller => exact hquiet rfl i
  · rw [hs.destroy, hd]
    rfl

/-- The destroy locks, unlocks and destroys, all of them as the last one. -/
theorem Accounts.destroyStep (hs : Accounts ctx s) (hquiet : Quiet ctx s .destroy)
    (h : s.destroyStep ctx = some t) : Accounts ctx t := by
  unfold ContextRun.destroyStep at h
  cases hd : s.destroy with
  | notCalled =>
      simp only [hd, Option.some.injEq] at h
      subst h
      exact hs.clear hd (hquiet.1 hd)
  | locking =>
      simp only [hd] at h
      obtain ⟨m, hm, rfl⟩ := Option.map_eq_some_iff.mp h
      exact hs.locks hd (GlobalContext.lock_eq_some hm)
  | locked =>
      simp only [hd] at h
      obtain ⟨m, hm, rfl⟩ := Option.map_eq_some_iff.mp h
      exact hs.unlocks hd hm
  | destroying =>
      simp only [hd, Option.some.injEq] at h
      subst h
      exact hs.destroys hd fun hctx => hquiet.2 hctx hd
  | destroyed => simp [hd] at h

/-! ### The accounts in a run -/

/-- **Step lemma.** -/
theorem Accounts.step (hs : Accounts ctx s) (hquiet : Quiet ctx s a) (h : s.step ctx a = some t) :
    Accounts ctx t := by
  cases a with
  | lock i =>
      obtain ⟨hpc, h⟩ := Option.ite_none_right_eq_some.mp h
      cases h
      split
      · rename_i hset
        refine hs.moves ?_
        have hcounted := (hs.threads i).counted
        rw [hpc] at hcounted
        rw [hs.isSet.mp hset]
        exact .before nofun hcounted nofun
      · exact hs
  | unlock i =>
      obtain ⟨⟨hpc, hopen⟩, h⟩ := Option.ite_none_right_eq_some.mp h
      cases h
      split
      · rename_i hset
        refine hs.moves ?_
        have hcounted := (hs.threads i).counted
        rw [hpc] at hcounted
        rw [hs.isSet.mp hset]
        exact .before nofun hcounted fun _ => hopen
      · -- no section is open when the pointer is cleared
        rename_i hclear
        have hd : s.destroy ≠ .notCalled := fun h => hclear (hs.isSet.mpr h)
        rcases (hs.threads i).past hd with ⟨-, hno⟩ | ⟨hrelease, -⟩
        · omega
        · cases hpc.symm.trans hrelease
  | thread i =>
      by_cases hd : s.destroy = .notCalled
      · exact hs.thread_before hd h
      · exact hs.thread_after hd h
  | destroy => exact hs.destroyStep hquiet h

/-- **Run lemma.** -/
theorem Accounts.exec {as : List (ContextAction ι)} (hs : Accounts ctx s)
    (has : Along (ContextRun.step ctx) (Quiet ctx) s as)
    (h : Lib.exec (ContextRun.step ctx) s as = some t) : Accounts ctx t :=
  exec_invariant_along (fun _ _ _ hs hquiet hstep => hs.step hquiet hstep) hs has h

/-! ### What the destroy waits for -/

/-- The destroy can go on, at the latest after one step of a thread that unlocks the mutex. -/
def DestroyGoesOn (ctx : GlobalContext) (s : ContextRun ι) : Prop :=
  (∃ t, s.step ctx .destroy = some t) ∨
    ∃ i t u, s.pc i = .release ∧ s.step ctx (.thread i) = some t ∧ t.step ctx .destroy = some u

/-- A mutex that nobody holds does not keep the destroy waiting. -/
theorem destroy_of_free (hd : s.destroy = .locking) (hfree : s.mutex = none) :
    ∃ t, s.step ctx .destroy = some t := by
  refine ⟨{ s with mutex := some (.destroy, 0), destroy := .locked }, ?_⟩
  show s.destroyStep ctx = _
  rw [destroyStep, hd, hfree]
  show (ctx.lock none MutexHolder.destroy).map _ = _
  rw [GlobalContext.lock_none]
  rfl

/-- **The destroy goes on once the threads have come out.** -/
theorem Accounts.destroyGoesOn (hs : Accounts ctx s) (hd : s.destroy = .locking) :
    s.DestroyGoesOn ctx := by
  cases hmutex : s.mutex with
  | none => exact .inl (destroy_of_free hd hmutex)
  | some held =>
      obtain ⟨b, n⟩ := held
      cases b with
      | destroy =>
          have howned := hs.destroy
          rw [hmutex, RecursiveMutex.count_self, hd] at howned
          cases howned
      | thread i =>
          -- the thread that holds it has one section left, and is in its unlock
          right
          have hi := hs.threads i
          rw [hmutex, RecursiveMutex.count_self] at hi
          rcases hi.past (by rw [hd]; nofun) with ⟨hpc, hno⟩ | ⟨hpc, hone⟩
          · have hcounted := hi.counted
            rw [hpc, hno] at hcounted
            cases hcounted
          · have hcounted := hi.counted
            rw [hpc, hone] at hcounted
            obtain rfl : n = 0 := Nat.succ.inj hcounted
            have hstep : s.step ctx (.thread i) =
                some { s.move i .between (s.opened i - 1) with mutex := none } := by
              have hunlock : RecursiveMutex.unlock (some (MutexHolder.thread i, 0)) (.thread i) =
                  some none := if_pos rfl
              have hnot : s.destroy ≠ .destroyed := by rw [hd]; nofun
              show s.threadStep ctx i = _
              unfold threadStep
              simp only [hpc, if_neg hnot, hmutex, hunlock]
              rfl
            have hgoes : ∃ u, ContextRun.step ctx
                { s.move i .between (s.opened i - 1) with mutex := none } .destroy = some u :=
              destroy_of_free hd rfl
            obtain ⟨u, hu⟩ := hgoes
            exact ⟨i, _, u, hpc, hstep, hu⟩

/-- A mutex that is destroyed is free. -/
theorem Accounts.free_of_destroyed (hs : Accounts ctx s) (hd : s.destroy = .destroyed) :
    s.mutex = none := by
  refine RecursiveMutex.eq_none_of_count fun b => ?_
  cases b with
  | destroy =>
      rw [hs.destroy, hd]
      rfl
  | thread i =>
      have hi := hs.threads i
      rw [hd] at hi
      rcases hi.past nofun with ⟨hpc, hno⟩ | ⟨hpc, -⟩
      · rw [hi.counted, hpc, hno]
        rfl
      · exact absurd hpc (hi.drained trivial)

/-! ### A destroy that comes too early -/

/-- The thread holds the mutex more often than it has sections left to unlock, or it has crashed. -/
def Fails (s : ContextRun ι) (i : ι) : Prop :=
  s.pc i = .crashed ∨ (s.pc i = .between ∧ s.opened i < s.mutex.count (.thread i))

/-- The next step of the destroy is not quiet, because of this thread. A thread that waits for the
mutex counts if it can get it. -/
def TooEarly (ctx : GlobalContext) (s : ContextRun ι) (i : ι) : Prop :=
  (s.destroy = .notCalled ∧ ¬ s.Past i ∧
      (s.pc i = .waiting → ∃ m, ctx.lock s.mutex (.thread i) = some m)) ∨
    (ctx = .controller ∧ s.destroy = .destroying ∧ s.pc i = .release)

/-- Some run goes on to a state in which the thread fails. -/
def CanFail (ctx : GlobalContext) (s : ContextRun ι) (i : ι) : Prop :=
  ∃ as t, Lib.exec (step ctx) s as = some t ∧ t.Fails i

theorem CanFail.of_step (hstep : s.step ctx a = some t) (h : CanFail ctx t i) :
    CanFail ctx s i := by
  obtain ⟨as, u, hexec, hfails⟩ := h
  exact ⟨a :: as, u, exec_cons_eq_some.mpr ⟨t, hstep, hexec⟩, hfails⟩

theorem canFail_of_crashed (h : s.pc i = .crashed) : CanFail ctx s i := ⟨[], s, rfl, .inl h⟩

/-- The section that is open cannot release the mutex any more. -/
theorem canFail_of_open (hclear : s.isSet = false) (hpc : s.pc i = .between)
    (hopen : 0 < s.opened i) (hheld : s.opened i ≤ s.mutex.count (.thread i)) :
    CanFail ctx s i := by
  have hstep : s.step ctx (.unlock i) = some (s.move i .between (s.opened i - 1)) := by
    show (if _ then _ else _) = _
    rw [if_pos ⟨hpc, hopen⟩, hclear]
    rfl
  refine ⟨[.unlock i], _, exec_cons_eq_some.mpr ⟨_, hstep, rfl⟩, .inr ⟨?_, ?_⟩⟩
  · exact Function.update_self ..
  · rw [show (s.move i .between (s.opened i - 1)).opened i = s.opened i - 1 from
      Function.update_self ..]
    show s.opened i - 1 < s.mutex.count (.thread i)
    omega

/-- The lock has the mutex, but not the context. -/
theorem canFail_of_result (hclear : s.isSet = false) (hpc : s.pc i = .result)
    (hheld : s.opened i < s.mutex.count (.thread i)) : CanFail ctx s i := by
  cases ctx with
  | data =>
      have hstep : s.step .data (.thread i) = some (s.move i .between (s.opened i)) := by
        show s.threadStep .data i = _
        rw [threadStep, hpc, hclear]
        rfl
      refine ⟨[.thread i], _, exec_cons_eq_some.mpr ⟨_, hstep, rfl⟩, .inr ⟨?_, ?_⟩⟩
      · exact Function.update_self ..
      · rw [show (s.move i .between (s.opened i)).opened i = s.opened i from
          Function.update_self ..]
        exact hheld
  | controller =>
      have hstep : s.step .controller (.thread i) = some (s.move i .crashed (s.opened i)) := by
        show s.threadStep .controller i = _
        rw [threadStep, hpc, hclear]
        rfl
      exact .of_step hstep (canFail_of_crashed (Function.update_self ..))

/-- The pointer is read between the test that found it set and the lock or the unlock. -/
theorem canFail_of_tested (hclear : s.isSet = false) (hpc : s.pc i = .lock ∨ s.pc i = .unlock) :
    CanFail ctx s i := by
  have hstep : s.step ctx (.thread i) = some (s.move i .crashed (s.opened i)) := by
    show s.threadStep ctx i = _
    unfold threadStep
    rcases hpc with hpc | hpc <;> simp [hpc, hclear]
  exact .of_step hstep (canFail_of_crashed (Function.update_self ..))

/-- A thread that waits for the mutex will find the context cleared, or destroyed. -/
theorem canFail_of_waiting (hclear : s.isSet = false) (hd : s.destroy ≠ .destroyed)
    (hpc : s.pc i = .waiting) (hheld : s.mutex.count (.thread i) = s.opened i)
    {m : RecursiveMutex (MutexHolder ι)} (hm : ctx.lock s.mutex (.thread i) = some m) :
    CanFail ctx s i := by
  have hstep : s.step ctx (.thread i) =
      some { s.move i .result (s.opened i) with mutex := m } := by
    show s.threadStep ctx i = _
    unfold threadStep
    simp only [hpc, if_neg hd, hm]
    rfl
  refine .of_step hstep (canFail_of_result hclear (Function.update_self ..) ?_)
  show Function.update s.opened i (s.opened i) i < m.count (.thread i)
  rw [Function.update_self, RecursiveMutex.count_lock (GlobalContext.lock_eq_some hm), hheld]
  exact Nat.lt_succ_self _

/-- The section around the one that is unlocked stays open. -/
theorem canFail_of_release (hclear : s.isSet = false) (hd : s.destroy ≠ .destroyed)
    (hpc : s.pc i = .release) (hheld : s.mutex.count (.thread i) = s.opened i)
    (hmany : 1 < s.opened i) : CanFail ctx s i := by
  have hpos : 0 < s.mutex.count (.thread i) := by omega
  obtain ⟨m, hm⟩ := RecursiveMutex.exists_unlock hpos
  have hstep : s.step ctx (.thread i) =
      some { s.move i .between (s.opened i - 1) with mutex := m } := by
    show s.threadStep ctx i = _
    unfold threadStep
    simp only [hpc, if_neg hd, hm]
    rfl
  have hunlock := RecursiveMutex.count_unlock hm
  have hopened : Function.update s.opened i (s.opened i - 1) i = s.opened i - 1 :=
    Function.update_self ..
  refine .of_step hstep (canFail_of_open hclear (Function.update_self ..) ?_ ?_)
  · show 0 < Function.update s.opened i (s.opened i - 1) i
    omega
  · show Function.update s.opened i (s.opened i - 1) i ≤ m.count (.thread i)
    omega

/-- The mutex is destroyed before it is unlocked. -/
theorem canFail_of_destroyed (hd : s.destroy = .destroyed) (hpc : s.pc i = .release) :
    CanFail ctx s i := by
  have hstep : s.step ctx (.thread i) = some (s.move i .crashed (s.opened i)) := by
    show s.threadStep ctx i = _
    unfold threadStep
    simp only [hpc, if_pos hd]
  exact .of_step hstep (canFail_of_crashed (Function.update_self ..))

/-! ### Every destroy that comes too early -/

/-- **A destroy that is not quiet can be followed by a failure.** -/
theorem fails_of_tooEarly (hs : Accounts ctx s) (hearly : s.TooEarly ctx i)
    (h : s.step ctx .destroy = some t) : CanFail ctx t i := by
  have h : s.destroyStep ctx = some t := h
  have hi := hs.threads i
  have hcounted := hi.counted
  rcases hearly with ⟨hd, hpast, hget⟩ | ⟨rfl, hd, hpc⟩
  · rw [destroyStep, hd] at h
    cases h
    have hdestroyed : ctx.cleared ≠ .destroyed := by cases ctx <;> nofun
    -- wherever the thread is, its next use of the mutex finds the context cleared
    cases hpc : s.pc i with
    | between =>
        rw [hpc] at hcounted
        have hopen : 0 < s.opened i := Nat.pos_of_ne_zero fun hno => hpast (.inl ⟨hpc, hno⟩)
        exact canFail_of_open rfl hpc hopen hcounted.ge
    | lock => exact canFail_of_tested rfl (.inl hpc)
    | waiting =>
        rw [hpc] at hcounted
        obtain ⟨m, hm⟩ := hget hpc
        exact canFail_of_waiting rfl hdestroyed hpc hcounted hm
    | result =>
        rw [hpc] at hcounted
        exact canFail_of_result rfl hpc (Nat.lt_of_succ_le hcounted.ge)
    | unlock => exact canFail_of_tested rfl (.inr hpc)
    | release =>
        rw [hpc] at hcounted
        have hopen := hi.closing (.inr hpc)
        -- this unlock is not the last one that the thread owes
        have hone : s.opened i ≠ 1 := fun h => hpast (.inr ⟨hpc, h⟩)
        exact canFail_of_release rfl hdestroyed hpc hcounted (show 1 < s.opened i by omega)
    | crashed => exact absurd hpc hi.alive
  · rw [destroyStep, hd] at h
    cases h
    exact canFail_of_destroyed rfl hpc

/-- **When unlock releases what lock acquired.** In a run whose steps are quiet no thread crashes; a
thread that is between its calls holds the mutex once for each section that it is in, so not at all
after the last; the destroy never waits longer than for a thread that unlocks the mutex; and a mutex
that is destroyed is free. A destroy that is not quiet can be followed by a failure. -/
theorem unlock_releases_when_quiet (ctx : GlobalContext) {as : List (ContextAction ι)}
    (has : Along (step ctx) (Quiet ctx) init as)
    (hrun : Lib.exec (step ctx) init as = some s) :
    (∀ i, s.pc i ≠ .crashed ∧
        (s.pc i = .between → s.mutex.count (.thread i) = s.opened i)) ∧
      (s.destroy = .locking → s.DestroyGoesOn ctx) ∧
      (s.destroy = .destroyed → s.mutex = none) ∧
      ∀ i t, s.TooEarly ctx i → s.step ctx .destroy = some t → CanFail ctx t i := by
  have hs := (init_accounts ctx).exec has hrun
  refine ⟨?_, hs.destroyGoesOn, hs.free_of_destroyed, fun i t => fails_of_tooEarly hs⟩
  intro i
  constructor
  · exact (hs.threads i).alive
  · intro hpc
    have hcounted := (hs.threads i).counted
    rw [hpc] at hcounted
    exact hcounted

/-- Two sections one inside the other, and one that ends after the pointer is cleared. -/
def sectionsThenDestroy : List (ContextAction Bool) :=
  [.lock false, .thread false, .thread false, .thread false, .lock false, .thread false,
    .thread false, .thread false, .unlock false, .thread false, .thread false, .unlock false,
    .thread false, .destroy, .lock true, .thread false, .destroy, .destroy, .destroy]

instance (s : ContextRun Bool) (i : Bool) : Decidable (s.Past i) :=
  inferInstanceAs (Decidable (_ ∨ _))

instance (ctx : GlobalContext) (s : ContextRun Bool) :
    (a : ContextAction Bool) → Decidable (Quiet ctx s a)
  | .destroy => inferInstanceAs (Decidable ((_ → ∀ i, s.Past i) ∧ (_ → _ → ∀ i, s.pc i ≠ _)))
  | .lock _ | .unlock _ | .thread _ => isTrue trivial

/-- Sections that end before the destroy begins. -/
theorem unlock_releases_sections :
    ∃ s : ContextRun Bool, Lib.exec (step .data) init sectionsThenDestroy = some s ∧
      s.destroy = .destroyed ∧ s.mutex = none := by
  have hmap : (Lib.exec (step .data) init sectionsThenDestroy).map ContextRun.destroy =
      some .destroyed := by
    decide +kernel
  obtain ⟨s, hs, hd⟩ := Option.map_eq_some_iff.mp hmap
  have hchecked : checked (step .data) (fun s a => decide (Quiet .data s a)) init
      sectionsThenDestroy = true := by
    decide +kernel
  have has : Along (step .data) (Quiet .data) init sectionsThenDestroy :=
    along_of_checked (P := fun _ => True) (fun _ _ _ _ _ => trivial)
      (fun _ _ _ h => of_decide_eq_true h) trivial hchecked
  exact ⟨s, hs, hd, (unlock_releases_when_quiet .data has hs).2.2.1 hd⟩

/-! ### A mutex that stays locked -/

/-- The thread holds the mutex, and has no section left to unlock. -/
structure Stuck (s : ContextRun ι) (i : ι) : Prop where
  clear : s.isSet = false
  between : s.pc i = .between
  finished : s.opened i = 0
  held : 0 < s.mutex.count (.thread i)

/-- A step of another thread. -/
theorem Stuck.move (hs : s.Stuck i) {j : ι} (hji : j ≠ i) {pc : SectionPc} {opened : Nat}
    {mutex : RecursiveMutex (MutexHolder ι)}
    (hcount : mutex.count (.thread i) = s.mutex.count (.thread i)) :
    Stuck { s.move j pc opened with mutex } i where
  clear := hs.clear
  between := (Function.update_of_ne hji.symm ..).trans hs.between
  finished := (Function.update_of_ne hji.symm ..).trans hs.finished
  held := hcount ▸ hs.held

/-- No step of a thread lets the stuck one go on. -/
theorem Stuck.thread (hs : s.Stuck i) {j : ι} (h : s.threadStep ctx j = some t) : t.Stuck i := by
  unfold threadStep at h
  have hji : j ≠ i := by
    rintro rfl
    simp [hs.between] at h
  -- the stuck thread holds the mutex, so its count is not touched by another
  have hne := MutexHolder.thread_ne hji.symm
  cases hpc : s.pc j with
  | waiting =>
      simp only [hpc] at h
      split at h
      · cases h
        exact hs.move hji rfl
      · obtain ⟨m, hm, rfl⟩ := Option.map_eq_some_iff.mp h
        have hlock := GlobalContext.lock_eq_some hm
        exact hs.move hji (RecursiveMutex.count_lock_of_ne hlock hne)
  | release =>
      simp only [hpc] at h
      split at h
      · cases h
        exact hs.move hji rfl
      · obtain ⟨m, hm, rfl⟩ := Option.map_eq_some_iff.mp h
        exact hs.move hji (RecursiveMutex.count_unlock_of_ne hm hne)
  | result =>
      simp only [hpc, hs.clear] at h
      cases ctx <;> cases h <;> exact hs.move hji rfl
  | lock =>
      simp only [hpc] at h
      cases h
      exact hs.move hji rfl
  | unlock =>
      simp only [hpc] at h
      cases h
      exact hs.move hji rfl
  | between => simp [hpc] at h
  | crashed => simp [hpc] at h

/-- A destroy that waits for the mutex goes on waiting. -/
theorem Stuck.step (hs : s.Stuck i) (hd : s.destroy = .locking) (h : s.step ctx a = some t) :
    t.Stuck i ∧ t.destroy = .locking := by
  cases a with
  | lock j =>
      obtain ⟨-, h⟩ := Option.ite_none_right_eq_some.mp h
      rw [hs.clear] at h
      cases h
      exact ⟨hs, hd⟩
  | unlock j =>
      obtain ⟨⟨-, hopen⟩, h⟩ := Option.ite_none_right_eq_some.mp h
      have hji : j ≠ i := by
        rintro rfl
        rw [hs.finished] at hopen
        cases hopen
      rw [hs.clear] at h
      cases h
      exact ⟨hs.move hji rfl, hd⟩
  | thread j => exact ⟨hs.thread h, (destroy_of_thread h).trans hd⟩
  | destroy =>
      have h : s.destroyStep ctx = some t := h
      rw [destroyStep, hd] at h
      obtain ⟨m, hm, -⟩ := Option.map_eq_some_iff.mp h
      have hblocked := RecursiveMutex.lock_eq_none hs.held MutexHolder.thread_ne_destroy.symm
      cases (GlobalContext.lock_eq_some hm).symm.trans hblocked

/-- **A destroy that waits for a mutex of a finished section waits for ever.** -/
theorem Stuck.waits_for_ever (hs : s.Stuck i) (hd : s.destroy = .locking)
    {as : List (ContextAction ι)} (h : Lib.exec (ContextRun.step ctx) s as = some t) :
    t.destroy = .locking :=
  (exec_invariant (P := fun s => s.Stuck i ∧ s.destroy = .locking)
    (fun _ _ _ hs hstep => hs.1.step hs.2 hstep) ⟨hs, hd⟩ h).2

/-- The pointer is cleared while the thread is in its section. -/
def clearedInSection : List (ContextAction Unit) :=
  [.lock (), .thread (), .thread (), .thread (), .destroy, .unlock ()]

/-- The data mutex is never released and the destroy waits for ever; the controller mutex is
destroyed while it is held. -/
theorem unlock_keeps_mutex :
    (∃ s : ContextRun Unit, Lib.exec (step .data) init clearedInSection = some s ∧
      s.pc () = .between ∧ s.opened () = 0 ∧ s.mutex = some (.thread (), 0) ∧
      ∀ as t, Lib.exec (step .data) s as = some t → t.destroy = .locking) ∧
    ∃ s : ContextRun Unit, Lib.exec (step .controller) init (clearedInSection ++ [.destroy]) =
      some s ∧ s.pc () = .between ∧ s.opened () = 0 ∧ s.mutex = some (.thread (), 0) ∧
        s.destroy = .destroyed := by
  have hdata : (Lib.exec (step .data) init clearedInSection).map
      (fun s => (s.pc (), s.opened (), s.mutex, s.isSet, s.destroy)) =
        some (.between, 0, some (.thread (), 0), false, .locking) := by
    rfl
  have hcontroller : (Lib.exec (step .controller) init (clearedInSection ++ [.destroy])).map
      (fun s => (s.pc (), s.opened (), s.mutex, s.destroy)) =
        some (.between, 0, some (.thread (), 0), .destroyed) := by
    rfl
  obtain ⟨s, hs, heq⟩ := Option.map_eq_some_iff.mp hdata
  obtain ⟨u, hu, hequ⟩ := Option.map_eq_some_iff.mp hcontroller
  simp only [Prod.mk.injEq] at heq hequ
  obtain ⟨hpc, hopened, hmutex, hclear, hd⟩ := heq
  have hheld : 0 < s.mutex.count (.thread ()) := by
    rw [hmutex, RecursiveMutex.count_self]
    exact Nat.one_pos
  have hstuck : s.Stuck () := ⟨hclear, hpc, hopened, hheld⟩
  exact ⟨⟨s, hs, hpc, hopened, hmutex, fun _ _ h => hstuck.waits_for_ever hd h⟩, u, hu, hequ⟩

end ContextRun

end EponManager
