import Mathlib.Data.Finset.Basic
import Mathlib.Data.Finset.Lattice.Lemmas

/-!
# Programs that acquire and release resources

A C function that allocates memory, initialises mutexes, opens connections and gives them back is a
value of `Owner R σ α`: from a memory `σ` and the *ledger* of the resources that are held, it
returns a value, the next memory and the next ledger. Acquiring a resource that is held, or
releasing one that is not, is a fault: an allocation whose only pointer is lost, or a double free.

* `takeAll` acquires several resources or, if one of the calls fails, none (`takeAll_eq`).
* A `Stage` either takes all of its resources or none, whatever the ledger holds besides.
* `chain` runs stages until one fails; `chain_eq` says what is held then: what the stages before
  the failure took.
* `releaseIf` releases resources if a flag says that they are held. If it is right, that cannot
  fault (`releaseIf_eq`). `Releases` is for a sequence of such steps.
-/

namespace EponManager.Lib

inductive LedgerFault (R : Type) where
  | acquiredTwice (r : R)
  | notHeld (r : R)
  deriving DecidableEq, Repr

def Owner (R σ α : Type) : Type := σ → Finset R → Except (LedgerFault R) (α × σ × Finset R)

namespace Owner

variable {R σ α β : Type}

instance : Monad (Owner R σ) where
  pure a := fun s h => .ok (a, s, h)
  bind f g := fun s h =>
    match f s h with
    | .ok (a, s, h) => g a s h
    | .error e      => .error e

/-! ### Acquiring and releasing

What each operation does to the set of resources that are held, as equations to execute a program
with.
-/

/-- After a first part that returns, the rest runs with what it leaves held. -/
theorem bind_of_ok {f : Owner R σ α} {g : α → Owner R σ β} {s s' : σ} {h h' : Finset R} {a : α}
    (hf : f s h = .ok (a, s', h')) : (f >>= g) s h = g a s' h' := by
  show (match f s h with
    | .ok (a, s, h) => g a s h
    | .error e      => .error e) = _
  rw [hf]

/-- Read the memory. -/
def read (f : σ → α) : Owner R σ α := fun s h => .ok (f s, s, h)

/-- Change the memory. -/
def modify (f : σ → σ) : Owner R σ Unit := fun s h => .ok ((), f s, h)

/-- Do something if a flag is set. -/
def ifSet (flag : σ → Bool) (f : Owner R σ Unit) : Owner R σ Unit := do
  let set ← read flag
  if set then f else return ()

/-- A flag that is set lets the program through. -/
theorem ifSet_of_set {flag : σ → Bool} {s : σ} (hset : flag s = true) (f : Owner R σ Unit)
    (h : Finset R) : ifSet flag f s h = f s h := by
  have hread : read flag s h = .ok (flag s, s, h) := rfl
  rw [ifSet, bind_of_ok hread, hset]
  rfl

theorem ifSet_of_not {flag : σ → Bool} {s : σ} (hset : flag s = false) (f : Owner R σ Unit)
    (h : Finset R) : ifSet flag f s h = .ok ((), s, h) := by
  have hread : read flag s h = .ok (flag s, s, h) := rfl
  rw [ifSet, bind_of_ok hread, hset]
  rfl

variable [DecidableEq R]

/-- A call that acquires a resource, if it succeeds. -/
def acquire (ok : Bool) (r : R) : Owner R σ Bool := fun s h =>
  if ok then
    if r ∈ h then .error (.acquiredTwice r) else .ok (true, s, insert r h)
  else
    .ok (false, s, h)

def release (r : R) : Owner R σ Unit := fun s h =>
  if r ∈ h then .ok ((), s, h.erase r) else .error (.notHeld r)

/-- Release resources one after another. -/
def releaseAll : List R → Owner R σ Unit
  | []      => return ()
  | r :: rs => do
      release r
      releaseAll rs

/-- Release resources if a flag is set. -/
def releaseIf (flag : σ → Bool) (rs : List R) : Owner R σ Unit := ifSet flag (releaseAll rs)

/-- Acquire resources one after another; if a call fails, release those `done` before, the latest
first. -/
def takeAll (ok : R → Bool) : List R → List R → Owner R σ Bool
  | [], _         => return true
  | r :: rs, done => do
      let got ← acquire (ok r) r
      if got then
        takeAll ok rs (r :: done)
      else
        releaseAll done
        return false

/-! ### Equations for single resources and for lists of them -/

/-- A resource that is not held is acquired, or the call fails and nothing is. -/
theorem acquire_of_notMem {r : R} {h : Finset R} (hr : r ∉ h) (ok : Bool) (s : σ) :
    acquire ok r s h = .ok (ok, s, if ok then insert r h else h) := by
  cases ok with
  | false => rfl
  | true => simp [acquire, hr]

theorem release_of_mem {r : R} {h : Finset R} (hr : r ∈ h) (s : σ) :
    release r s h = .ok ((), s, h.erase r) := if_pos hr

/-- Releasing a list of different resources that are all held. -/
theorem releaseAll_eq {rs : List R} {h : Finset R} (hnodup : rs.Nodup) (hmem : ∀ r ∈ rs, r ∈ h)
    (s : σ) : releaseAll rs s h = .ok ((), s, h \ rs.toFinset) := by
  induction rs generalizing h with
  | nil =>
      rw [List.toFinset_nil, Finset.sdiff_empty]
      rfl
  | cons r rs ih =>
      obtain ⟨hr, hnodup⟩ := List.nodup_cons.mp hnodup
      obtain ⟨hrh, hmem⟩ := List.forall_mem_cons.mp hmem
      have hrest : ∀ x ∈ rs, x ∈ h.erase r := fun x hx =>
        Finset.mem_erase.mpr ⟨ne_of_mem_of_not_mem hx hr, hmem x hx⟩
      rw [releaseAll, bind_of_ok (release_of_mem hrh s), ih hnodup hrest, List.toFinset_cons,
        Finset.erase_sdiff_comm, Finset.sdiff_insert]

/-- **A flag that mirrors the ledger** makes the release safe. -/
theorem releaseIf_eq {flag : σ → Bool} {rs : List R} {s : σ} {h : Finset R} (hnodup : rs.Nodup)
    (hflag : ∀ r ∈ rs, flag s = true ↔ r ∈ h) :
    releaseIf flag rs s h = .ok ((), s, h \ rs.toFinset) := by
  cases hset : flag s with
  | true =>
      have hmem : ∀ r ∈ rs, r ∈ h := fun r hr => (hflag r hr).mp hset
      exact (ifSet_of_set hset _ h).trans (releaseAll_eq hnodup hmem s)
  | false =>
      have hdisjoint : Disjoint h rs.toFinset := by
        rw [Finset.disjoint_right]
        intro r hr hmem
        rw [(hflag r (List.mem_toFinset.mp hr)).mpr hmem] at hset
        cases hset
      rw [Finset.sdiff_eq_self_of_disjoint hdisjoint]
      exact ifSet_of_not hset _ h

/-- **All or nothing.** -/
theorem takeAll_eq {ok : R → Bool} {rs done : List R} {h : Finset R}
    (hnodup : (rs.reverse ++ done).Nodup) (hnew : ∀ r ∈ rs.reverse ++ done, r ∉ h) (s : σ) :
    takeAll ok rs done s (done.toFinset ∪ h) =
      .ok (rs.all ok, s, if rs.all ok then rs.toFinset ∪ (done.toFinset ∪ h) else h) := by
  -- `done` are the resources taken so far, which a failure gives back
  induction rs generalizing done with
  | nil =>
      rw [List.toFinset_nil, Finset.empty_union]
      rfl
  | cons r rs ih =>
      have hlist : (r :: rs).reverse ++ done = rs.reverse ++ r :: done := by simp
      rw [hlist] at hnodup hnew
      have hr : r ∉ done.toFinset ∪ h := by
        have hrdone := (List.nodup_cons.mp (List.nodup_append.mp hnodup).2.1).1
        simp [hrdone, hnew r (by simp)]
      rw [takeAll, bind_of_ok (acquire_of_notMem hr (ok r) s), List.all_cons]
      cases hok : ok r with
      | false =>
          have hdone : done.Nodup := (List.nodup_cons.mp (List.nodup_append.mp hnodup).2.1).2
          have hrelease := releaseAll_eq hdone (h := done.toFinset ∪ h) (by simp +contextual) s
          have hrest : (done.toFinset ∪ h) \ done.toFinset = h := by
            rw [Finset.union_sdiff_left]
            refine Finset.sdiff_eq_self_of_disjoint (Finset.disjoint_right.mpr fun x hx => ?_)
            exact hnew x (List.mem_append_right _
              (List.mem_cons_of_mem _ (List.mem_toFinset.mp hx)))
          rw [hrest] at hrelease
          exact bind_of_ok hrelease
      | true =>
          have hinsert : insert r (done.toFinset ∪ h) = (r :: done).toFinset ∪ h := by
            rw [List.toFinset_cons, Finset.insert_union]
          have hunion : rs.toFinset ∪ ((r :: done).toFinset ∪ h) =
              (r :: rs).toFinset ∪ (done.toFinset ∪ h) := by
            ext x
            simp only [List.toFinset_cons, Finset.mem_union, Finset.mem_insert, List.mem_toFinset]
            tauto
          rw [if_pos rfl, if_pos rfl, hinsert, ih hnodup hnew, hunion, Bool.true_and]

/-- With nothing done before. -/
theorem takeAll_nil_eq {ok : R → Bool} {rs : List R} {h : Finset R} (hnodup : rs.Nodup)
    (hnew : Disjoint rs.toFinset h) (s : σ) :
    takeAll ok rs [] s h = .ok (rs.all ok, s, if rs.all ok then rs.toFinset ∪ h else h) := by
  have htake : takeAll ok rs [] s (([] : List R).toFinset ∪ h) = _ :=
    takeAll_eq (by simpa using hnodup)
      (fun r hr => Finset.disjoint_left.mp hnew (by simpa using hr)) s
  rwa [List.toFinset_nil, Finset.empty_union] at htake

/-! ### Releasing step by step -/

/-- From the memory `s`, and the ledger `h` less what was released so far, `f` goes to the memory
`s'` and releases `rs`. -/
def Releases (h : Finset R) (s : σ) (f : Owner R σ Unit) (s' : σ) (rs : Finset R) : Prop :=
  ∀ released, Disjoint rs released → f s (h \ released) = .ok ((), s', h \ (released ∪ rs))

section Releases

variable {h : Finset R} {s s' s'' : σ} {f g : Owner R σ Unit} {rs rs' : Finset R}

theorem Releases.eq (hf : Releases h s f s' rs) : f s h = .ok ((), s', h \ rs) := by
  have hrun := hf ∅ (Finset.disjoint_empty_right _)
  rwa [Finset.sdiff_empty, Finset.empty_union] at hrun

/-- **One step after the other.** -/
theorem Releases.bind (hf : Releases h s f s' rs) (hg : Releases h s' g s'' rs')
    (hdisjoint : Disjoint rs' rs) : Releases h s (f >>= fun _ => g) s'' (rs ∪ rs') := by
  intro released hreleased
  obtain ⟨hrs, hrs'⟩ := Finset.disjoint_union_left.mp hreleased
  rw [bind_of_ok (hf released hrs), hg _ (Finset.disjoint_union_right.mpr ⟨hrs', hdisjoint⟩),
    Finset.union_assoc]

theorem Releases.ifSet {flag : σ → Bool} (hset : flag s = true) (hf : Releases h s f s' rs) :
    Releases h s (Owner.ifSet flag f) s' rs :=
  fun released hreleased => (ifSet_of_set hset f _).trans (hf released hreleased)

omit [DecidableEq R] in
theorem modify_eq (set : σ → σ) (s : σ) (h : Finset R) : modify set s h = .ok ((), set s, h) := rfl

theorem Releases.modify (set : σ → σ) (s : σ) : Releases h s (Owner.modify set) (set s) ∅ := by
  intro released _
  rw [modify_eq, Finset.union_empty]

theorem Releases.all {rs : List R} (hnodup : rs.Nodup) (hmem : ∀ r ∈ rs, r ∈ h) (s : σ) :
    Releases h s (releaseAll rs) s rs.toFinset := by
  intro released hreleased
  rw [releaseAll_eq hnodup fun r hr => Finset.mem_sdiff.mpr ⟨hmem r hr,
    Finset.disjoint_left.mp hreleased (List.mem_toFinset.mpr hr)⟩, sdiff_sdiff_left]
  rfl

/-- A flag stays right as long as nothing of its own is released. -/
theorem Releases.ifHeld {flag : σ → Bool} {rs : List R} (hnodup : rs.Nodup)
    (hflag : ∀ r ∈ rs, flag s = true ↔ r ∈ h) :
    Releases h s (releaseIf flag rs) s rs.toFinset := by
  intro released hreleased
  rw [releaseIf_eq hnodup fun r hr => ?_, sdiff_sdiff_left]
  · rfl
  · rw [hflag r hr, Finset.mem_sdiff]
    exact (and_iff_left (Finset.disjoint_left.mp hreleased (List.mem_toFinset.mpr hr))).symm

/-! ### Releases that go wrong

A resource that is not held cannot be released; what was released before is known.
-/

omit [DecidableEq R] in
theorem bind_of_error {f : Owner R σ α} {g : α → Owner R σ β} {e : LedgerFault R}
    (hf : f s h = .error e) : (f >>= g) s h = .error e := by
  show (match f s h with
    | .ok (a, s, h) => g a s h
    | .error e      => .error e) = _
  rw [hf]

/-- From the memory `s`, and the ledger `h` less what was released so far, `f` releases `rs` and
then commits the fault `e`. -/
def Faults (h : Finset R) (s : σ) (f : Owner R σ Unit) (rs : Finset R) (e : LedgerFault R) : Prop :=
  ∀ released, Disjoint rs released → f s (h \ released) = .error e

variable {e : LedgerFault R}

theorem Faults.eq (hf : Faults h s f rs e) : f s h = .error e := by
  have hrun := hf ∅ (Finset.disjoint_empty_right _)
  rwa [Finset.sdiff_empty] at hrun

theorem Faults.bind (hf : Faults h s f rs e) : Faults h s (f >>= fun _ => g) rs e :=
  fun released hreleased => bind_of_error (hf released hreleased)

theorem Releases.faults (hf : Releases h s f s' rs) (hg : Faults h s' g rs' e)
    (hdisjoint : Disjoint rs' rs) : Faults h s (f >>= fun _ => g) (rs ∪ rs') e := by
  intro released hreleased
  obtain ⟨hrs, hrs'⟩ := Finset.disjoint_union_left.mp hreleased
  rw [bind_of_ok (hf released hrs), hg _ (Finset.disjoint_union_right.mpr ⟨hrs', hdisjoint⟩)]

theorem Faults.ifSet {flag : σ → Bool} (hset : flag s = true) (hf : Faults h s f rs e) :
    Faults h s (Owner.ifSet flag f) rs e :=
  fun released hreleased => (ifSet_of_set hset f _).trans (hf released hreleased)

/-- The first resource of the list is not held. -/
theorem Faults.all {r : R} (hr : r ∉ h) (rs : List R) (s : σ) :
    Faults h s (releaseAll (r :: rs)) ∅ (.notHeld r) := by
  intro released _
  have hno : r ∉ h \ released := fun hmem => hr (Finset.mem_sdiff.mp hmem).1
  exact bind_of_error (if_neg hno)

end Releases

/-! ### Stages -/

/-- Run the steps until one of them fails. -/
def chain : List (Owner R σ Bool) → Owner R σ Bool
  | []      => pure true
  | f :: fs => do
      let ok ← f
      if ok then chain fs else return false

/-- A step that succeeds if `ok`, needs some resources to be held, and takes others. -/
structure Stage (R σ : Type) where
  run : Owner R σ Bool
  ok : Bool
  needs : Finset R
  takes : Finset R

/-- The stage takes all of its resources or none, and keeps the invariant. -/
def Stage.Sound (I : σ → Finset R → Prop) (stage : Stage R σ) : Prop :=
  ∀ s h, I s h → stage.needs ⊆ h → Disjoint stage.takes h →
    ∃ s', stage.run s h = .ok (stage.ok, s', if stage.ok then stage.takes ∪ h else h) ∧
      I s' (if stage.ok then stage.takes ∪ h else h)

/-- Each stage finds what it needs, and nothing that it takes. -/
def Fits : Finset R → List (Stage R σ) → Prop
  | _, []            => True
  | h, stage :: rest =>
      stage.needs ⊆ h ∧ Disjoint stage.takes h ∧ Fits (stage.takes ∪ h) rest

/-- What the stages before the first failure take. -/
def taken : List (Stage R σ) → Finset R
  | []            => ∅
  | stage :: rest => if stage.ok then stage.takes ∪ taken rest else ∅

/-- If no stage fails, all of them take what they say. -/
theorem taken_of_all {stages : List (Stage R σ)} (hall : stages.all Stage.ok = true) :
    taken stages = stages.foldr (fun stage rs => stage.takes ∪ rs) ∅ := by
  induction stages with
  | nil => rfl
  | cons stage rest ih =>
      obtain ⟨hok, hrest⟩ := Bool.and_eq_true_iff.mp (List.all_cons.symm.trans hall)
      rw [taken, hok, if_pos rfl, ih hrest, List.foldr_cons]

/-- What no stage takes is not taken. -/
theorem notMem_taken {stages : List (Stage R σ)} {r : R} (hr : ∀ stage ∈ stages, r ∉ stage.takes) :
    r ∉ taken stages := by
  induction stages with
  | nil => exact Finset.notMem_empty r
  | cons stage rest ih =>
      obtain ⟨hstage, hrest⟩ := List.forall_mem_cons.mp hr
      rw [taken]
      split_ifs
      · exact Finset.notMem_union.mpr ⟨hstage, ih hrest⟩
      · exact Finset.notMem_empty r

/-- **What is held after a chain of stages**: what the stages before the first failure took. -/
theorem chain_eq {I : σ → Finset R → Prop} {stages : List (Stage R σ)}
    (hsound : ∀ stage ∈ stages, stage.Sound I) {s : σ} {h : Finset R} (hI : I s h)
    (hfits : Fits h stages) :
    ∃ s', chain (stages.map Stage.run) s h =
        .ok (stages.all Stage.ok, s', taken stages ∪ h) ∧ I s' (taken stages ∪ h) := by
  -- the invariant is handed from stage to stage; a failure ends the chain
  induction stages generalizing s h with
  | nil =>
      rw [taken, Finset.empty_union]
      exact ⟨s, rfl, hI⟩
  | cons stage rest ih =>
      obtain ⟨hstage, hrest⟩ := List.forall_mem_cons.mp hsound
      obtain ⟨hneeds, hdisjoint, hfits⟩ := hfits
      obtain ⟨s₁, hrun, hI₁⟩ := hstage s h hI hneeds hdisjoint
      rw [List.map_cons, chain, bind_of_ok hrun]
      cases hok : stage.ok with
      | false =>
          rw [hok] at hI₁
          refine ⟨s₁, ?_, ?_⟩
          · simp [hok, taken, pure]
          · simpa [hok, taken] using hI₁
      | true =>
          rw [hok, if_pos rfl] at hI₁
          obtain ⟨s₂, hchain, hI₂⟩ := ih hrest hI₁ hfits
          have htaken : taken (stage :: rest) ∪ h = taken rest ∪ (stage.takes ∪ h) := by
            rw [taken, hok, if_pos rfl, Finset.union_comm stage.takes, Finset.union_assoc]
          rw [htaken]
          refine ⟨s₂, ?_, hI₂⟩
          rw [List.all_cons, hok, Bool.true_and]
          exact hchain

end Owner

end EponManager.Lib
