import Mathlib.Data.List.Dedup
import Mathlib.Data.List.Nodup
import Mathlib.Data.List.Perm.Subperm

/-!
# Tables of latest records

A table of records with distinct keys, in a list: a new record replaces the one with its key, or
goes to the end (`upsert`). Seen from the history of all records, such a table has the keys in the
order in which they first appeared (`firstKeys`), and under each key the latest record (`latest`).

* `IsTable xs table` says so, of the table that the history `xs` leaves.
* `IsTable.upsert` is the step: one more record in the history is one `upsert` of the table.
* `upsert_eq_set` and `upsert_eq_append` are for tables that are searched by position.
-/

namespace EponManager.Lib

variable {α κ : Type} [DecidableEq κ] (key : α → κ)

/-- Replace the record with `e`'s key by `e`, or append `e`. -/
def upsert (e : α) : List α → List α
  | []      => [e]
  | x :: xs => if key x = key e then e :: xs else x :: upsert e xs

/-- The keys of the records in `xs`, in the order of their first appearance. -/
def firstKeys (xs : List α) : List κ := (xs.map key).reverse.dedup.reverse

/-- The latest record in `xs` with the key `k`. -/
def latest (k : κ) (xs : List α) : Option α := xs.reverse.find? (fun x => key x = k)

/-! ### Histories -/

theorem mem_firstKeys {xs : List α} {k : κ} : k ∈ firstKeys key xs ↔ k ∈ xs.map key := by
  simp [firstKeys]

theorem firstKeys_nodup (xs : List α) : (firstKeys key xs).Nodup :=
  List.nodup_reverse.mpr (List.nodup_dedup _)

/-- A history without repetition is in that order already. -/
theorem firstKeys_of_nodup {xs : List α} (h : (xs.map key).Nodup) :
    firstKeys key xs = xs.map key := by
  rw [firstKeys, (List.nodup_reverse.mpr h).dedup, List.reverse_reverse]

theorem firstKeys_append_singleton (xs : List α) (e : α) :
    firstKeys key (xs ++ [e]) =
      if key e ∈ xs.map key then firstKeys key xs else firstKeys key xs ++ [key e] := by
  have hrev : ((xs ++ [e]).map key).reverse = key e :: (xs.map key).reverse := by simp
  rw [firstKeys, hrev]
  by_cases he : key e ∈ xs.map key
  · rw [if_pos he, List.dedup_cons_of_mem (List.mem_reverse.mpr he), firstKeys]
  · rw [if_neg he, List.dedup_cons_of_notMem (fun h => he (List.mem_reverse.mp h)),
      List.reverse_cons, firstKeys]

theorem firstKeys_length_le (xs ys : List α) :
    (firstKeys key xs).length ≤ (firstKeys key (xs ++ ys)).length := by
  refine ((firstKeys_nodup key xs).subperm fun k hk => ?_).length_le
  rw [mem_firstKeys] at hk ⊢
  rw [List.map_append]
  exact List.mem_append_left _ hk

/-! ### The latest entry of a key -/

theorem latest_append_singleton (k : κ) (xs : List α) (e : α) :
    latest key k (xs ++ [e]) = if key e = k then some e else latest key k xs := by
  rw [latest, List.reverse_append, List.reverse_singleton, List.singleton_append, List.find?_cons]
  by_cases he : key e = k
  · simp [he]
  · simp [he, latest]

/-- The latest entry is an entry of the history, and has the key. -/
theorem latest_eq_some_mem {k : κ} {xs : List α} {e : α} (h : latest key k xs = some e) :
    e ∈ xs ∧ key e = k := by
  refine ⟨List.mem_reverse.mp (List.mem_of_find?_eq_some h), ?_⟩
  simpa using List.find?_some h

/-- A key that has been written has one. -/
theorem latest_isSome {k : κ} {xs : List α} (h : k ∈ xs.map key) : (latest key k xs).isSome := by
  obtain ⟨x, hx, rfl⟩ := List.mem_map.mp h
  rw [latest, List.find?_isSome]
  exact ⟨x, List.mem_reverse.mpr hx, by simp⟩

/-! ### One upsert -/

/-- The keys afterwards: at most the new one is added, at the end. -/
theorem map_upsert (e : α) (xs : List α) :
    (upsert key e xs).map key =
      if key e ∈ xs.map key then xs.map key else xs.map key ++ [key e] := by
  induction xs with
  | nil => rfl
  | cons x xs ih =>
      rw [upsert]
      by_cases hx : key x = key e
      · rw [if_pos hx, if_pos (by rw [List.map_cons, hx]; exact List.mem_cons_self),
          List.map_cons, List.map_cons, hx]
      · have hmem : key e ∈ (x :: xs).map key ↔ key e ∈ xs.map key := by
          rw [List.map_cons, List.mem_cons]
          exact or_iff_right (Ne.symm hx)
        rw [if_neg hx, List.map_cons, ih]
        by_cases he : key e ∈ xs.map key
        · rw [if_pos he, if_pos (hmem.mpr he), List.map_cons]
        · rw [if_neg he, if_neg (fun h => he (hmem.mp h)), List.map_cons, List.cons_append]

/-- Records with other keys stay where they are. -/
theorem upsert_getElem? {e x : α} {xs : List α} {i : Nat} (hx : xs[i]? = some x)
    (hne : key x ≠ key e) : (upsert key e xs)[i]? = some x := by
  induction xs generalizing i with
  | nil => cases hx
  | cons y ys ih =>
      rw [upsert]
      by_cases hy : key y = key e
      · rw [if_pos hy]
        cases i with
        | zero =>
            cases hx
            exact absurd hy hne
        | succ i => exact hx
      · rw [if_neg hy]
        cases i with
        | zero => exact hx
        | succ i => exact ih hx

/-- An entry afterwards is the new one, or an old one with another key. -/
theorem mem_upsert {e x : α} {xs : List α} (hnd : (xs.map key).Nodup) (h : x ∈ upsert key e xs) :
    x = e ∨ (x ∈ xs ∧ key x ≠ key e) := by
  induction xs with
  | nil => exact .inl (List.mem_singleton.mp h)
  | cons y ys ih =>
      obtain ⟨hfresh, hnd'⟩ := List.nodup_cons.mp hnd
      rw [upsert] at h
      by_cases hy : key y = key e
      · rw [if_pos hy] at h
        rcases List.mem_cons.mp h with rfl | hx
        · exact .inl rfl
        · refine .inr ⟨List.mem_cons_of_mem _ hx, fun hxe => hfresh ?_⟩
          exact List.mem_map.mpr ⟨x, hx, hxe.trans hy.symm⟩
      · rw [if_neg hy] at h
        rcases List.mem_cons.mp h with rfl | hx
        · exact .inr ⟨List.mem_cons_self, hy⟩
        · rcases ih hnd' hx with hxe | ⟨hmem, hne⟩
          · exact .inl hxe
          · exact .inr ⟨List.mem_cons_of_mem _ hmem, hne⟩

/-- Where the key is new, the entry is appended. -/
theorem upsert_eq_append {e : α} {xs : List α} (h : ∀ x ∈ xs, key x ≠ key e) :
    upsert key e xs = xs ++ [e] := by
  induction xs with
  | nil => rfl
  | cons x xs ih =>
      rw [upsert, if_neg (h x List.mem_cons_self), List.cons_append,
        ih fun y hy => h y (List.mem_cons_of_mem _ hy)]

/-- Where the key is found, its cell is overwritten. -/
theorem upsert_eq_set {e x : α} {xs : List α} {i : Nat} (hx : xs[i]? = some x)
    (hkey : key x = key e) (hfirst : ∀ j < i, ∀ y, xs[j]? = some y → key y ≠ key e) :
    upsert key e xs = xs.set i e := by
  induction xs generalizing i with
  | nil => cases hx
  | cons y ys ih =>
      cases i with
      | zero =>
          cases hx
          rw [upsert, if_pos hkey, List.set_cons_zero]
      | succ i =>
          rw [upsert, if_neg (hfirst 0 (Nat.succ_pos i) y rfl), List.set_cons_succ,
            ih hx fun j hj z hz => hfirst (j + 1) (Nat.succ_lt_succ hj) z hz]

/-! ### The table of a history -/

/-- `table` holds the latest record of each key of the history `xs`, in the order in which the keys
appeared. -/
structure IsTable (xs table : List α) : Prop where
  keys : table.map key = firstKeys key xs
  latest : ∀ e ∈ table, latest key (key e) xs = some e

variable {key} {xs table : List α}

/-- A history without repetition is its own table. -/
theorem IsTable.of_nodup (h : (xs.map key).Nodup) : IsTable key xs xs := by
  refine ⟨(firstKeys_of_nodup key h).symm, fun e he => ?_⟩
  obtain ⟨e', he'⟩ := Option.isSome_iff_exists.mp
    (latest_isSome key (List.mem_map_of_mem (f := key) he))
  obtain ⟨hmem, hkey⟩ := latest_eq_some_mem key he'
  rw [he', List.inj_on_of_nodup_map h hmem he hkey]

/-- A table has one entry for each key. -/
theorem IsTable.nodup (h : IsTable key xs table) : (table.map key).Nodup := by
  rw [h.keys]
  exact firstKeys_nodup key xs

theorem IsTable.mem_keys (h : IsTable key xs table) {k : κ} :
    k ∈ table.map key ↔ k ∈ xs.map key := by
  rw [h.keys, mem_firstKeys]

/-- **Step lemma**: one more record in the history is one `upsert` of the table. -/
theorem IsTable.upsert (h : IsTable key xs table) (e : α) :
    IsTable key (xs ++ [e]) (upsert key e table) := by
  constructor
  · rw [map_upsert, firstKeys_append_singleton, ← h.keys]
    by_cases he : key e ∈ xs.map key
    · rw [if_pos he, if_pos (h.mem_keys.mpr he)]
    · rw [if_neg he, if_neg (fun hk => he (h.mem_keys.mp hk))]
  · intro x hx
    rw [latest_append_singleton]
    rcases mem_upsert key h.nodup hx with rfl | ⟨hmem, hne⟩
    · rw [if_pos rfl]
    · rw [if_neg (Ne.symm hne)]
      exact h.latest x hmem

/-- The table holds a record as described by `p` exactly when some key's latest record is one. -/
theorem IsTable.exists_mem_iff (h : IsTable key xs table) (p : α → Prop) :
    (∃ e ∈ table, p e) ↔ ∃ k e, Lib.latest key k xs = some e ∧ p e := by
  constructor
  · rintro ⟨e, he, hp⟩
    exact ⟨key e, e, h.latest e he, hp⟩
  · rintro ⟨k, e, hlatest, hp⟩
    obtain ⟨hmem, rfl⟩ := latest_eq_some_mem key hlatest
    obtain ⟨x, hx, hkey⟩ := List.mem_map.mp (h.mem_keys.mpr (List.mem_map_of_mem (f := key) hmem))
    have hx' := h.latest x hx
    rw [hkey, hlatest] at hx'
    cases hx'
    exact ⟨e, hx, hp⟩

end EponManager.Lib
