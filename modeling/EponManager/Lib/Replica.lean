import EponManager.Lib.LastWriter

/-!
# Replicas of a table

A table of latest records has a replica, and its records reach the replica through a log: some are
in the replica already, the rest still have to be replayed. The replica may also be read anew at any
time, which overtakes the records in the log.

* `replay` is what the records of a log do to a table.
* `Settled log table`: the latest record under each key of the log is in the table already.
  Replaying the log then changes nothing (`replay_of_settled`), so the table may be read at any
  time.
* `Settled.append` and `Settled.tail` are the two steps: a record that is put into the table and the
  log, and a record that leaves the log.
-/

namespace EponManager.Lib

variable {α κ : Type} [DecidableEq κ] (key : α → κ)

/-- Put the records of a log into a table, one by one. -/
def replay (log table : List α) : List α := log.foldl (fun t e => upsert key e t) table

/-- The latest record under each key of the log is in the table. -/
def Settled (log table : List α) : Prop := ∀ k e, latest key k log = some e → e ∈ table

/-! ### Replaying -/

@[simp] theorem replay_nil (table : List α) : replay key [] table = table := rfl

theorem replay_cons (e : α) (log table : List α) :
    replay key (e :: log) table = replay key log (upsert key e table) := rfl

theorem replay_append (log log' table : List α) :
    replay key (log ++ log') table = replay key log' (replay key log table) :=
  List.foldl_append

variable {key}

/-- **Run lemma**: replaying a log adds it to the history. -/
theorem IsTable.replay {xs log table : List α} (h : IsTable key xs table) :
    IsTable key (xs ++ log) (replay key log table) := by
  induction log generalizing xs table with
  | nil =>
      rw [List.append_nil]
      exact h
  | cons e log ih =>
      rw [List.append_cons]
      exact ih (h.upsert e)

/-- **A history leaves one table.** -/
theorem IsTable.unique {xs table table' : List α} (h : IsTable key xs table)
    (h' : IsTable key xs table') : table = table' := by
  have hkeys : table.map key = table'.map key := h.keys.trans h'.keys.symm
  have hlength : table.length = table'.length := by
    simpa using congrArg List.length hkeys
  apply List.ext_getElem hlength
  intro i hi hi'
  have hkey : key table[i] = key table'[i] := by
    have hget := congrArg (fun l => l[i]?) hkeys
    simpa [List.getElem?_map, hi, hi'] using hget
  have hlatest := h.latest table[i] (List.getElem_mem hi)
  rw [hkey, h'.latest table'[i] (List.getElem_mem hi')] at hlatest
  exact (Option.some.inj hlatest).symm

/-- The latest record of two histories, one after the other. -/
theorem latest_append (k : κ) (xs ys : List α) :
    latest key k (xs ++ ys) = (latest key k ys).or (latest key k xs) := by
  rw [latest, List.reverse_append, List.find?_append]
  rfl

/-- A record is no news if it is the latest one already. -/
theorem latest_append_eq_iff {xs : List α} {e : α} :
    (∀ k, latest key k (xs ++ [e]) = latest key k xs) ↔ latest key (key e) xs = some e := by
  constructor
  · intro h
    rw [← h (key e), latest_append_singleton, if_pos rfl]
  · intro h k
    rw [latest_append_singleton]
    by_cases hk : key e = k
    · rw [if_pos hk, ← hk, h]
    · rw [if_neg hk]

section Settled

variable {log table : List α}

/-! ### Logs that are settled

Replaying such a log changes nothing of a table that has its latest records already.
-/

theorem settled_nil (table : List α) : Settled key [] table := by
  intro k e he
  cases he

/-- A key that is still to be replayed is in the table. -/
theorem Settled.mem_keys (h : Settled key log table) {k : κ} (hk : k ∈ log.map key) :
    k ∈ table.map key := by
  obtain ⟨e, he⟩ := Option.isSome_iff_exists.mp (latest_isSome key hk)
  obtain ⟨-, rfl⟩ := latest_eq_some_mem key he
  exact List.mem_map_of_mem (h _ e he)

/-- Records under keys that are known already. -/
theorem firstKeys_append_of_mem {xs ys : List α} (h : ∀ k ∈ ys.map key, k ∈ xs.map key) :
    firstKeys key (xs ++ ys) = firstKeys key xs := by
  induction ys generalizing xs with
  | nil => rw [List.append_nil]
  | cons e ys ih =>
      rw [List.map_cons] at h
      have he : key e ∈ xs.map key := h _ List.mem_cons_self
      rw [List.append_cons, ih, firstKeys_append_singleton, if_pos he]
      intro k hk
      rw [List.map_append]
      exact List.mem_append_left _ (h k (List.mem_cons_of_mem _ hk))

/-- The records of a settled log are no news. -/
theorem Settled.isTable (h : Settled key log table) (hnodup : (table.map key).Nodup) :
    IsTable key (table ++ log) table := by
  constructor
  · rw [firstKeys_append_of_mem fun k hk => h.mem_keys hk, firstKeys_of_nodup key hnodup]
  · intro e he
    rw [latest_append]
    cases hlog : latest key (key e) log with
    | none => exact (IsTable.of_nodup hnodup).latest e he
    | some e' =>
        obtain ⟨-, hkey⟩ := latest_eq_some_mem key hlog
        rw [List.inj_on_of_nodup_map hnodup (h _ e' hlog) he hkey]
        rfl

/-- **Replaying a settled log changes nothing.** -/
theorem replay_of_settled (h : Settled key log table) (hnodup : (table.map key).Nodup) :
    replay key log table = table :=
  (IsTable.of_nodup hnodup).replay.unique (h.isTable hnodup)

/-- An upsert of records that are seen under the same keys. -/
theorem map_upsert_of_key {β : Type} {key' : β → κ} {f : α → β} (hf : ∀ x, key' (f x) = key x)
    (e : α) (table : List α) : (upsert key e table).map f = upsert key' (f e) (table.map f) := by
  induction table with
  | nil => rfl
  | cons x table ih =>
      rw [upsert, List.map_cons, upsert, hf, hf]
      by_cases hx : key x = key e
      · rw [if_pos hx, if_pos hx, List.map_cons]
      · rw [if_neg hx, if_neg hx, List.map_cons, ih]

/-- What holds of a record and of all records of a table holds after the upsert. -/
theorem forall_mem_upsert {p : α → Prop} {e : α} {table : List α} (he : p e)
    (htable : ∀ x ∈ table, p x) : ∀ x ∈ upsert key e table, p x := by
  induction table with
  | nil =>
      intro x hx
      rw [List.mem_singleton.mp hx]
      exact he
  | cons y table ih =>
      obtain ⟨hy, hrest⟩ := List.forall_mem_cons.mp htable
      rw [upsert]
      by_cases hkey : key y = key e
      · rw [if_pos hkey]
        exact List.forall_mem_cons.mpr ⟨he, hrest⟩
      · rw [if_neg hkey]
        exact List.forall_mem_cons.mpr ⟨hy, ih hrest⟩

theorem length_le_upsert (e : α) (table : List α) :
    table.length ≤ (upsert key e table).length := by
  have hkeys := congrArg List.length (map_upsert key e table)
  rw [List.length_map] at hkeys
  rw [hkeys]
  split
  · exact Nat.le_of_eq (List.length_map key).symm
  · rw [List.length_append, List.length_map]
    exact Nat.le_add_right _ _

/-- A replay only makes a table longer. -/
theorem length_le_replay (log table : List α) :
    table.length ≤ (replay key log table).length := by
  induction log generalizing table with
  | nil => exact Nat.le_refl _
  | cons e log ih => exact Nat.le_trans (length_le_upsert e table) (ih _)

theorem mem_upsert_self (e : α) (table : List α) : e ∈ upsert key e table := by
  induction table with
  | nil => exact List.mem_cons_self
  | cons x table ih =>
      rw [upsert]
      by_cases hx : key x = key e
      · rw [if_pos hx]
        exact List.mem_cons_self
      · rw [if_neg hx]
        exact List.mem_cons_of_mem _ ih

/-- A record is put into the table and into the log. -/
theorem Settled.append (h : Settled key log table) (e : α) :
    Settled key (log ++ [e]) (upsert key e table) := by
  intro k x hx
  rw [latest_append_singleton] at hx
  by_cases hkey : key e = k
  · rw [if_pos hkey] at hx
    cases hx
    exact mem_upsert_self e table
  · rw [if_neg hkey] at hx
    have hmem := h k x hx
    obtain ⟨-, rfl⟩ := latest_eq_some_mem key hx
    obtain ⟨i, hi⟩ := List.getElem?_of_mem hmem
    exact List.mem_of_getElem? (upsert_getElem? key hi (Ne.symm hkey))

/-- The oldest record leaves the log. -/
theorem Settled.tail {e : α} (h : Settled key (e :: log) table) : Settled key log table := by
  intro k x hx
  refine h k x ?_
  rw [← List.singleton_append, latest_append, hx]
  rfl

end Settled

end EponManager.Lib
