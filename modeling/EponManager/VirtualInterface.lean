import EponManager.WanManager
import Mathlib.Order.Bounds.Basic

/-!
# Which virtual interface is updated (`eponMgr_wanmanager_update.c`)

`eponMgr_rbus_update_virtual_interface` searches twice: the WanManager interface of this device,
unless its index is cached, and then the row of its table that has the interface's name. Both loops
skip what cannot be read and stop at the first match. The calls of the environment are numbered, so
the query about index `i` of a loop is the `i`-th after the one about the length of its table.

* `search` is the loop, `search_run` what it finds.
* `Knows` says which interface index a call works with, `virtualRows` which rows match.
* `update_sets_first_row`: what is set, and when.
-/

namespace EponManager.WanManager

open Lib

/-! ### The search loop -/

/-- Query number `n` reads this text from the parameter. -/
def Reads (env : Env) (n : Nat) (param : WanParam) (text : CharBuf) : Prop :=
  ∃ buf, env.rbusGetString n param = some (some buf) ∧ cstr buf = text

/-- Ask for the parameter of each index in turn, up to the first that holds the text. -/
def search (param : Int → WanParam) (text : CharBuf) (found : Int → M Int) : List Int → M Int
  | []      => return -1
  | i :: is => do
      let answer ← ask (fun env n => env.rbusGetString n (param i))
      match answer with
      | some (some buf) => if cstr buf = text then found i else search param text found is
      | _ => search param text found is

/-- The search for the base interface is one of two searches with the same loop. -/
theorem discoverFrom_eq (is : List Int) :
    discoverFrom is = search .baseInterface baseInterfacePath (fun i => do
      Prog.write (fun w => { w with wanmanagerIfIndex := i })
      return i) is := by
  induction is with
  | nil => rfl
  | cons i is ih =>
      refine congrArg (ask _ >>= ·) (funext fun answer => ?_)
      rcases answer with _ | _ | buf
      · exact ih
      · exact ih
      · exact if_congr Iff.rfl rfl ih

/-- The other is the search for the virtual interface. -/
theorem updateFrom_eq (index : Int) (interfaceName : CharBuf) (isUp : Bool) (js : List Int) :
    updateFrom index interfaceName isUp js =
      search (.virtualInterfaceName index) (cstr interfaceName) (fun j => do
        let ok ← rbusSet (.virtualInterfaceEnable index j) (.boolean isUp)
        return if ok then 0 else -1) js := by
  induction js with
  | nil => rfl
  | cons j js ih =>
      refine congrArg (ask _ >>= ·) (funext fun answer => ?_)
      rcases answer with _ | _ | buf
      · exact ih
      · exact ih
      · exact if_congr Iff.rfl rfl ih

/-- The values of the loop variable. -/
theorem oneTo_toInt {count : UInt32} (hcount : count.toNat < 2 ^ 31 - 1) :
    oneTo (toInt count) = (List.range' 1 count.toNat).map Nat.cast := by
  have hcast : toInt count = count.toNat := if_pos (by omega)
  rw [oneTo, hcast, Int.toNat_natCast, List.range'_eq_map_range, List.map_map]
  refine List.map_congr_left fun k _ => ?_
  show (k : Int) + 1 = ((1 + k : Nat) : Int)
  omega

section Search

variable (env : Env) (param : Int → WanParam) (text : CharBuf) (found : Int → M Int)

/-- A query moves the loop on by one. -/
theorem search_cons (i : Int) (is : List Int) (s : LockState MutexId World) :
    (Reads env s.mem.tick (param i) text ∧ search param text found (i :: is) env s =
      found i env { s with mem := { s.mem with tick := s.mem.tick + 1 } }) ∨
    (¬ Reads env s.mem.tick (param i) text ∧ search param text found (i :: is) env s =
      search param text found is env { s with mem := { s.mem with tick := s.mem.tick + 1 } }) := by
  have hask : ask (fun env n => env.rbusGetString n (param i)) env s =
      .ok (env.rbusGetString s.mem.tick (param i),
        { s with mem := { s.mem with tick := s.mem.tick + 1 } }) := rfl
  rw [search, Prog.bind_of_ok hask]
  rcases hread : env.rbusGetString s.mem.tick (param i) with _ | _ | buf
  · refine .inr ⟨?_, rfl⟩
    rintro ⟨buf, hbuf, -⟩
    rw [hread] at hbuf
    cases hbuf
  · refine .inr ⟨?_, rfl⟩
    rintro ⟨buf, hbuf, -⟩
    rw [hread] at hbuf
    cases hbuf
  · by_cases htext : cstr buf = text
    · refine .inl ⟨⟨buf, hread, htext⟩, ?_⟩
      show (if cstr buf = text then found i else _) env _ = _
      rw [if_pos htext]
    · refine .inr ⟨?_, ?_⟩
      · rintro ⟨buf', hbuf', heq⟩
        rw [hread] at hbuf'
        cases hbuf'
        exact htext heq
      · show (if cstr buf = text then found i else _) env _ = _
        rw [if_neg htext]

/-- **The loop stops at the least match**, or goes through all indices if there is none. -/
theorem search_run (b a n : Nat) (s : LockState MutexId World) (hs : s.mem.tick = b + a) :
    (∃ i, IsLeast {i : Nat | a ≤ i ∧ i < a + n ∧ Reads env (b + i) (param i) text} i ∧
      search param text found ((List.range' a n).map Nat.cast) env s =
        found i env { s with mem := { s.mem with tick := b + i + 1 } }) ∨
    ((∀ i, a ≤ i → i < a + n → ¬ Reads env (b + i) (param i) text) ∧
      search param text found ((List.range' a n).map Nat.cast) env s =
        .ok (-1, { s with mem := { s.mem with tick := b + a + n } })) := by
  induction n generalizing a s with
  | zero =>
      refine .inr ⟨fun i hlow hhigh => absurd hhigh (by omega), ?_⟩
      rw [Nat.add_zero, ← hs]
      rfl
  | succ n ih =>
      have hcons : (List.range' a (n + 1)).map (Nat.cast (R := Int)) =
          (a : Int) :: (List.range' (a + 1) n).map Nat.cast := rfl
      rw [hcons]
      rcases search_cons env param text found a ((List.range' (a + 1) n).map Nat.cast) s with
        ⟨hreads, hrun⟩ | ⟨hno, hrun⟩
      · rw [hs] at hreads hrun
        exact .inl ⟨a, ⟨⟨le_rfl, by omega, hreads⟩, fun i hi => hi.1⟩, hrun⟩
      · rw [hs] at hno hrun
        rw [hrun]
        rcases ih (a + 1) { s with mem := { s.mem with tick := b + a + 1 } } rfl with
          ⟨i, hleast, hrest⟩ | ⟨hnone, hrest⟩
        · obtain ⟨hlow, hhigh, hreads⟩ := hleast.1
          refine .inl ⟨i, ⟨⟨by omega, by omega, hreads⟩, fun j ⟨hjlow, hjhigh, hj⟩ => ?_⟩, hrest⟩
          -- the first index is not a match
          rcases Nat.eq_or_lt_of_le hjlow with rfl | hlt
          · exact absurd hj hno
          · exact hleast.2 ⟨hlt, by omega, hj⟩
        · refine .inr ⟨fun i hlow hhigh => ?_, ?_⟩
          · rcases Nat.eq_or_lt_of_le hlow with rfl | hlt
            · exact hno
            · exact hnone i hlt (by omega)
          · have htick : b + (a + 1) + n = b + a + (n + 1) := by omega
            rw [hrest, htick]

end Search

/-! ### The interface index -/

/-- The WanManager interfaces of this device, among the first `count`, when query `n` was about
their number. -/
def interfaceRows (env : Env) (n : Nat) (count : UInt32) : Set Nat :=
  {i | 1 ≤ i ∧ i < 1 + count.toNat ∧ Reads env (n + i) (.baseInterface i) baseInterfacePath}

/-- The search finds interface `k`. -/
def Discovers (env : Env) (w : World) (k : Nat) : Prop :=
  w.rbusInitialized = true ∧ ∃ count,
    env.rbusGetUInt32 w.tick .interfaceNumberOfEntries = some count ∧
      IsLeast (interfaceRows env w.tick count) k

/-- The call works with interface `k`, and query `n` comes next. -/
inductive Knows (env : Env) (w : World) : Int → Nat → Prop where
  | cached (hindex : 0 < w.wanmanagerIfIndex) : Knows env w w.wanmanagerIfIndex w.tick
  | discovered (k : Nat) (hindex : w.wanmanagerIfIndex = 0) (hk : Discovers env w k) :
      Knows env w k (w.tick + k + 1)

theorem Discovers.unique {env : Env} {w : World} {k l : Nat} (hk : Discovers env w k)
    (hl : Discovers env w l) : k = l := by
  obtain ⟨-, count, hcount, hk⟩ := hk
  obtain ⟨-, count', hcount', hl⟩ := hl
  cases hcount.symm.trans hcount'
  exact hk.unique hl

theorem Knows.unique {env : Env} {w : World} {k l : Int} {n m : Nat} (hk : Knows env w k n)
    (hl : Knows env w l m) : k = l ∧ n = m := by
  cases hk with
  | cached hindex =>
      cases hl with
      | cached => exact ⟨rfl, rfl⟩
      | discovered l hzero => omega
  | discovered k hzero hk =>
      cases hl with
      | cached hindex => omega
      | discovered l _ hl =>
          cases hk.unique hl
          exact ⟨rfl, rfl⟩

/-- No number that is read is so large that an `int` loop variable could overflow. -/
def SmallTables (env : Env) : Prop :=
  ∀ n param count, env.rbusGetUInt32 n param = some count → count.toNat < 2 ^ 31 - 1

/-- What the search for the index returns, and what it stores. -/
theorem discoverInterfaceIndex_run {env : Env} (hcounts : SmallTables env)
    (s : LockState MutexId World) (hindex : 0 ≤ s.mem.wanmanagerIfIndex) :
    (∃ k n, Knows env s.mem k n ∧ discoverInterfaceIndex env s =
      .ok (k, { s with mem := { s.mem with tick := n, wanmanagerIfIndex := k } })) ∨
    ((∀ k n, ¬ Knows env s.mem k n) ∧ ∃ n, discoverInterfaceIndex env s =
      .ok (-1, { s with mem := { s.mem with tick := n } })) := by
  have hread : Prog.read World.wanmanagerIfIndex env s = .ok (s.mem.wanmanagerIfIndex, s) := rfl
  rw [discoverInterfaceIndex, Prog.bind_of_ok hread]
  by_cases hpos : s.mem.wanmanagerIfIndex > 0
  · rw [if_pos hpos]
    exact .inl ⟨_, _, .cached hpos, rfl⟩
  have hzero : s.mem.wanmanagerIfIndex = 0 := by omega
  have hhandle : Prog.read World.rbusInitialized env s = .ok (s.mem.rbusInitialized, s) := rfl
  rw [if_neg hpos, Prog.bind_of_ok hhandle]
  -- without a cached index nothing is known unless the search finds it
  have hnone (hno : ∀ k, ¬ Discovers env s.mem k) (k : Int) (n : Nat) :
      ¬ Knows env s.mem k n := by
    rintro (_ | ⟨k, -, hk⟩)
    · omega
    · exact hno k hk
  by_cases hrbus : s.mem.rbusInitialized = true
  · rw [if_pos hrbus]
    have hask : ask (fun env n => env.rbusGetUInt32 n .interfaceNumberOfEntries) env s =
        .ok (env.rbusGetUInt32 s.mem.tick .interfaceNumberOfEntries,
          { s with mem := { s.mem with tick := s.mem.tick + 1 } }) := rfl
    rw [Prog.bind_of_ok hask]
    cases hcount : env.rbusGetUInt32 s.mem.tick .interfaceNumberOfEntries with
    | none =>
        refine .inr ⟨hnone ?_, _, rfl⟩
        rintro k ⟨-, count, hcount', -⟩
        rw [hcount] at hcount'
        cases hcount'
    | some count =>
        show (∃ k n, _ ∧ discoverFrom (oneTo (toInt count)) env _ = _) ∨
          (_ ∧ ∃ n, discoverFrom (oneTo (toInt count)) env _ = _)
        rw [discoverFrom_eq, oneTo_toInt (hcounts _ _ _ hcount)]
        rcases search_run env .baseInterface baseInterfacePath (fun i => do
            Prog.write (fun w => { w with wanmanagerIfIndex := i })
            return i) s.mem.tick 1 count.toNat
          { s with mem := { s.mem with tick := s.mem.tick + 1 } } rfl with
          ⟨k, hleast, hrun⟩ | ⟨hno, hrun⟩
        · exact .inl ⟨k, _, .discovered k hzero ⟨hrbus, count, hcount, hleast⟩, hrun⟩
        · refine .inr ⟨hnone ?_, _, hrun⟩
          rintro k ⟨-, count', hcount', hleast⟩
          cases hcount.symm.trans hcount'
          exact hno k hleast.1.1 hleast.1.2.1 hleast.1.2.2
  · rw [if_neg hrbus]
    exact .inr ⟨hnone fun k hk => hrbus hk.1, s.mem.tick, rfl⟩

/-! ### The row -/

/-- The rows of interface `k` with this name, when query `n` was about their number. -/
def virtualRows (env : Env) (k : Int) (n : Nat) (count : UInt32) (name : CharBuf) : Set Nat :=
  {j | 1 ≤ j ∧ j < 1 + count.toNat ∧ Reads env (n + j) (.virtualInterfaceName k j) (cstr name)}

/-- The number of rows of the interface that the call works with is read. -/
def ReadsRows (env : Env) (w : World) (k : Int) (n : Nat) (count : UInt32) : Prop :=
  w.rbusInitialized = true ∧ Knows env w k n ∧
    env.rbusGetUInt32 n (.virtualInterfaceNumberOfEntries k) = some count

/-- The parameter that is set, and whether it was. -/
def enableSet (k : Int) (j : Nat) (isUp ok : Bool) : Effect :=
  .rbusSet (.virtualInterfaceEnable k j) (.boolean isUp) ok

/-- The second search, for the row: it is set, or there is none and nothing is. -/
theorem updateRows_run {env : Env} (hcounts : SmallTables env) (k : Int) (name : CharBuf)
    (isUp : Bool) (s : LockState MutexId World) :
    (∃ count j, env.rbusGetUInt32 s.mem.tick (.virtualInterfaceNumberOfEntries k) = some count ∧
      IsLeast (virtualRows env k s.mem.tick count name) j ∧
      (do let count ← ask (fun env n => env.rbusGetUInt32 n (.virtualInterfaceNumberOfEntries k))
          match count with
          | none       => return -1
          | some count => updateFrom k name isUp (oneTo (toInt count)) : M Int) env s =
        .ok (if env.rbusSet (s.mem.tick + j + 1) then 0 else -1, { s with mem := { s.mem with
          tick := s.mem.tick + j + 1 + 1
          trace := s.mem.trace ++ [enableSet k j isUp (env.rbusSet (s.mem.tick + j + 1))] } })) ∨
    ((∀ count, env.rbusGetUInt32 s.mem.tick (.virtualInterfaceNumberOfEntries k) = some count →
        virtualRows env k s.mem.tick count name = ∅) ∧
      ∃ n, (do
          let count ← ask (fun env n => env.rbusGetUInt32 n (.virtualInterfaceNumberOfEntries k))
          match count with
          | none       => return -1
          | some count => updateFrom k name isUp (oneTo (toInt count)) : M Int) env s =
        .ok (-1, { s with mem := { s.mem with tick := n } })) := by
  have hask : ask (fun env n => env.rbusGetUInt32 n (.virtualInterfaceNumberOfEntries k)) env s =
      .ok (env.rbusGetUInt32 s.mem.tick (.virtualInterfaceNumberOfEntries k),
        { s with mem := { s.mem with tick := s.mem.tick + 1 } }) := rfl
  rw [Prog.bind_of_ok hask]
  cases hcount : env.rbusGetUInt32 s.mem.tick (.virtualInterfaceNumberOfEntries k) with
  | none => exact .inr ⟨nofun, _, rfl⟩
  | some count =>
      show (∃ count' j, _ ∧ _ ∧ updateFrom k name isUp (oneTo (toInt count)) env _ = _) ∨
        (_ ∧ ∃ n, updateFrom k name isUp (oneTo (toInt count)) env _ = _)
      rw [updateFrom_eq, oneTo_toInt (hcounts _ _ _ hcount)]
      -- both searches have one loop; it ends at the least row with the name, or at no row
      rcases search_run env (.virtualInterfaceName k) (cstr name) (fun j => do
          let ok ← rbusSet (.virtualInterfaceEnable k j) (.boolean isUp)
          return if ok then 0 else -1) s.mem.tick 1 count.toNat
        { s with mem := { s.mem with tick := s.mem.tick + 1 } } rfl with
        ⟨j, hleast, hrun⟩ | ⟨hno, hrun⟩
      · exact .inl ⟨count, j, rfl, hleast, hrun⟩
      · refine .inr ⟨fun count' h => Set.eq_empty_iff_forall_notMem.mpr fun j hj => ?_, _, hrun⟩
        cases h
        exact hno j hj.1 hj.2.1 hj.2.2

/-- **What an update does**: it sets the row that there is to set, or it fails and sets nothing. -/
theorem updateVirtualInterface_run {env : Env} (hcounts : SmallTables env)
    (s : LockState MutexId World) (hindex : 0 ≤ s.mem.wanmanagerIfIndex) (name : CharBuf)
    (isUp : Bool) :
    (∃ k n count j, ReadsRows env s.mem k n count ∧ IsLeast (virtualRows env k n count name) j ∧
      updateVirtualInterface name isUp env s = .ok (if env.rbusSet (n + j + 1) then 0 else -1,
        { s with mem := { s.mem with
            tick := n + j + 1 + 1
            wanmanagerIfIndex := k
            trace := s.mem.trace ++ [enableSet k j isUp (env.rbusSet (n + j + 1))] } })) ∨
    ((∀ k n count, ReadsRows env s.mem k n count → virtualRows env k n count name = ∅) ∧
      ∃ k n, (k = s.mem.wanmanagerIfIndex ∨ ∃ m, Knows env s.mem k m) ∧
        updateVirtualInterface name isUp env s =
          .ok (-1, { s with mem := { s.mem with tick := n, wanmanagerIfIndex := k } })) := by
  rw [updateVirtualInterface]
  -- without an index nothing is read and nothing is set
  rcases discoverInterfaceIndex_run hcounts s hindex with ⟨k, n, hk, hrun⟩ | ⟨hno, n, hrun⟩
  · have hpos : ¬ k < 0 := by
      rcases hk with hcached | ⟨k, -, -⟩ <;> omega
    have hhandle (v : LockState MutexId World) :
        Prog.read World.rbusInitialized env v = .ok (v.mem.rbusInitialized, v) := rfl
    rw [Prog.bind_of_ok hrun, if_neg hpos, Prog.bind_of_ok (hhandle _)]
    by_cases hrbus : s.mem.rbusInitialized = true
    · rw [if_pos hrbus]
      rcases updateRows_run hcounts k name isUp
        { s with mem := { s.mem with tick := n, wanmanagerIfIndex := k } } with
        ⟨count, j, hcount, hleast, hrows⟩ | ⟨hnone, m, hrows⟩
      · exact .inl ⟨k, n, count, j, ⟨hrbus, hk, hcount⟩, hleast, hrows⟩
      · refine .inr ⟨?_, k, m, .inr ⟨n, hk⟩, hrows⟩
        rintro k' n' count ⟨-, hk', hcount⟩
        obtain ⟨rfl, rfl⟩ := hk'.unique hk
        exact hnone count hcount
    · rw [if_neg hrbus]
      exact .inr ⟨fun _ _ _ h => absurd h.1 hrbus, k, n, .inr ⟨n, hk⟩, rfl⟩
  · rw [Prog.bind_of_ok hrun]
    exact .inr ⟨fun k n _ h => absurd h.2.1 (hno k n), _, n, .inl rfl, rfl⟩

/-! ### The result -/

/-- **The first matching row, and nothing else, is set**: an update returns and makes at most one
`rbus_set`; it makes one if and only if rbus is open, the interface index is known, the number of
its rows is read and one of them has the name; then it sets `Enable` of the first such row. It
succeeds if and only if this call did, and stores no index but one that it found while none was
stored. -/
theorem update_sets_first_row {env : Env} {w : World} (hcounts : SmallTables env)
    (hindex : 0 ≤ w.wanmanagerIfIndex) (name : CharBuf) (isUp : Bool) :
    ∃ ret w' sets, Prog.alone (updateVirtualInterface name isUp) env w = some (ret, w') ∧
      w'.trace = w.trace ++ sets ∧ sets.length ≤ 1 ∧
      (sets ≠ [] ↔ ∃ k n count, ReadsRows env w k n count ∧
        (virtualRows env k n count name).Nonempty) ∧
      (∀ e ∈ sets, ∃ k n count j ok, ReadsRows env w k n count ∧
        IsLeast (virtualRows env k n count name) j ∧ e = enableSet k j isUp ok) ∧
      (ret = 0 ↔ ∃ k j, enableSet k j isUp true ∈ sets) ∧
      (w'.wanmanagerIfIndex = w.wanmanagerIfIndex ∨ w.wanmanagerIfIndex = 0 ∧
        ∃ k : Nat, Discovers env w k ∧ w'.wanmanagerIfIndex = k) := by
  -- the index that was searched with is the one that is stored
  have hstored {k : Int} (hk : k = w.wanmanagerIfIndex ∨ ∃ m, Knows env w k m) :
      k = w.wanmanagerIfIndex ∨ w.wanmanagerIfIndex = 0 ∧ ∃ l : Nat, Discovers env w l ∧ k = l := by
    rcases hk with rfl | ⟨m, hm⟩
    · exact .inl rfl
    · cases hm with
      | cached => exact .inl rfl
      | discovered l hzero hl => exact .inr ⟨hzero, l, hl, rfl⟩
  rcases updateVirtualInterface_run hcounts ⟨fun _ => 0, w⟩ hindex name isUp with
    ⟨k, n, count, j, hrows, hleast, hrun⟩ | ⟨hnone, k, n, hk, hrun⟩
  · refine ⟨_, _, [enableSet k j isUp (env.rbusSet (n + j + 1))],
      Prog.alone_eq_some.mpr ⟨_, hrun⟩, rfl, le_rfl,
      ⟨fun _ => ⟨k, n, count, hrows, j, hleast.1⟩, fun _ => by simp⟩, ?_, ?_,
      hstored (.inr ⟨n, hrows.2.1⟩)⟩
    · intro e he
      exact ⟨k, n, count, j, _, hrows, hleast, List.mem_singleton.mp he⟩
    · cases hok : env.rbusSet (n + j + 1) with
      | true => exact iff_of_true rfl ⟨k, j, by simp⟩
      | false =>
          refine iff_of_false (by simp) ?_
          rintro ⟨k', j', hmem⟩
          simp [enableSet] at hmem
  · refine ⟨_, _, [], Prog.alone_eq_some.mpr ⟨_, hrun⟩, (List.append_nil _).symm, Nat.zero_le _,
      iff_of_false (fun h => h rfl) ?_, fun _ he => absurd he List.not_mem_nil,
      iff_of_false (by simp) (by simp), hstored hk⟩
    rintro ⟨k', n', count, hrows, hne⟩
    exact hne.ne_empty (hnone k' n' count hrows)

/-- WanManager has one interface, this device's, with one virtual interface. -/
def oneInterface (rowsRead : Nat → Bool) : Env :=
  { Env.quiet with
    rbusGetUInt32 := fun n _ => if rowsRead n then some 1 else none
    rbusGetString := fun _ param => match param with
      | .baseInterface _ => some (some baseInterfacePath)
      | _                => some (some "veip0".toList) }

/-- rbus is open, and no index is stored. -/
def undiscovered : World := { World.boot (fun _ => none) with rbusInitialized := true }

/-- WanManager has two interfaces. The first cannot be read, the second is this device's. Of its
four rows the first cannot be read either, the second has another name, and the last two have the
same. -/
def unreadableAndRepeated : Env :=
  { Env.quiet with
    rbusGetUInt32 := fun _ param => match param with
      | .interfaceNumberOfEntries => some 2
      | _                         => some 4
    rbusGetString := fun _ param => match param with
      | .baseInterface i          => if i = 1 then none else some (some baseInterfacePath)
      | .virtualInterfaceName _ j =>
          if j = 1 then none
          else some (some (if j = 2 then "veip1".toList else "veip0".toList))
      | _ => none }

/-- The third row of the second interface is set, and no other. -/
theorem update_sets_first_row_discovered :
    ∃ ret w' ok, Prog.alone (updateVirtualInterface "veip0".toList true) unreadableAndRepeated
        undiscovered = some (ret, w') ∧
      w'.trace = undiscovered.trace ++ [enableSet 2 3 true ok] := by
  have hcounts : SmallTables unreadableAndRepeated := by
    rintro n (_ | _ | _ | _ | _ | _) count ⟨⟩ <;> decide
  obtain ⟨ret, w', sets, hrun, htrace, hone, hsome, hsets, -⟩ :=
    update_sets_first_row hcounts (w := undiscovered) le_rfl "veip0".toList true
  -- what the searches find
  have hinterface : IsLeast (interfaceRows unreadableAndRepeated 0 2) 2 := by
    refine ⟨⟨by decide, by decide, _, rfl, by decide⟩, ?_⟩
    rintro i ⟨hpos, -, buf, hbuf, -⟩
    by_contra hlt
    obtain rfl : i = 1 := by omega
    cases hbuf
  have hrow : IsLeast (virtualRows unreadableAndRepeated 2 3 4 "veip0".toList) 3 := by
    refine ⟨⟨by decide, by decide, _, rfl, by decide⟩, ?_⟩
    rintro j ⟨hpos, -, buf, hbuf, htext⟩
    by_contra hlt
    obtain rfl | rfl : j = 1 ∨ j = 2 := by omega
    · cases hbuf
    · cases hbuf
      exact absurd htext (by decide)
  have hreads : ReadsRows unreadableAndRepeated undiscovered 2 3 4 :=
    ⟨rfl, .discovered 2 rfl ⟨rfl, 2, rfl, hinterface⟩, rfl⟩
  -- what is set is the first of them
  have hne : sets ≠ [] := hsome.mpr ⟨2, 3, 4, hreads, 3, hrow.1⟩
  obtain ⟨e, rfl⟩ := List.length_eq_one_iff.mp
    (Nat.le_antisymm hone (List.length_pos_of_ne_nil hne))
  obtain ⟨k, n, count, j, ok, ⟨-, hknows, hcount⟩, hleast, rfl⟩ := hsets e List.mem_cons_self
  obtain ⟨rfl, rfl⟩ := hknows.unique hreads.2.1
  obtain rfl : count = 4 := Option.some.inj (hcount.symm.trans hreads.2.2)
  obtain rfl : j = 3 := hleast.unique hrow
  exact ⟨ret, w', ok, hrun, htrace⟩

/-- The index is known and the row has the name, but nothing is set: the number of rows cannot be
read. -/
theorem unread_row_count_sets_nothing :
    ∃ env w, Knows env w 1 w.tick ∧
      (∀ n, env.rbusGetUInt32 (n + 1) (.virtualInterfaceNumberOfEntries 1) = some 1) ∧
      (∀ n, Reads env n (.virtualInterfaceName 1 1) "veip0".toList) ∧
      ∃ w', Prog.alone (updateVirtualInterface "veip0".toList true) env w = some (-1, w') ∧
        w'.trace = w.trace :=
  ⟨oneInterface fun n => n ≠ 0, { undiscovered with wanmanagerIfIndex := 1 },
    .cached (by decide), fun _ => rfl, fun _ => ⟨_, rfl, by decide⟩, _, rfl, rfl⟩

end EponManager.WanManager
