import Endorsement.Table
import Mathlib.Data.List.Dedup
import Mathlib.Data.List.Induction
import Mathlib.Data.List.Nodup

/-!
# Tables filled one entry after the other

What a table holds once entries were inserted into it in order, some of them
under the same key: for every key the value of its last entry.

* `Table.mem_keys_iff`, `Table.keys_insert_of_mem`, `Table.keys_insert_of_not_mem`:
  the keys, as entries are inserted;
* `Table.insertAll`: the table with entries inserted, one after the other;
* `Table.latest?`: the value that the last entry of a key gives it;
* `Table.find?_insertAll`, `Table.size_insertAll`: the values of keys, and the
  number of keys.
-/

namespace Endorsement.Table

variable {κ α : Type} [DecidableEq κ]

/-- Setting a key to the value that it has changes nothing. -/
theorem insert_eq_self {t : Table κ α} {key : κ} {value : α} (h : t.find? key = some value) :
    t.insert key value = t := by
  have hput : ∀ entries : List (κ × α), lookup key entries = some value →
      put key value entries = entries := by
    intro entries
    induction entries with
    | nil => simp [lookup]
    | cons e rest ih =>
      obtain ⟨k, a⟩ := e
      intro h
      by_cases hk : k = key
      · rw [lookup, if_pos hk] at h
        rw [put, if_pos hk, Option.some.inj h]
      · rw [lookup, if_neg hk] at h
        rw [put, if_neg hk, ih h]
  cases t
  simp only [insert, mk.injEq]
  exact hput _ h

/-- Setting a key again replaces what it was set to. -/
theorem insert_insert (t : Table κ α) (key : κ) (value value' : α) :
    (t.insert key value).insert key value' = t.insert key value' := by
  have hput : ∀ entries : List (κ × α), put key value' (put key value entries) =
      put key value' entries := by
    intro entries
    induction entries with
    | nil => simp [put]
    | cons e rest ih =>
      obtain ⟨k, a⟩ := e
      by_cases hk : k = key
      · rw [put, if_pos hk, put, if_pos hk, put, if_pos hk]
      · rw [put, if_neg hk, put, if_neg hk, put, if_neg hk, ih]
  simp only [insert, mk.injEq]
  exact hput t.entries

/-! ## Keys -/

theorem mem_keys_iff {t : Table κ α} {key : κ} : key ∈ t.keys ↔ (t.find? key).isSome = true := by
  have hlookup : ∀ entries : List (κ × α),
      key ∈ entries.map Prod.fst ↔ (lookup key entries).isSome = true := by
    intro entries
    induction entries with
    | nil => simp [lookup]
    | cons e rest ih =>
      obtain ⟨k, a⟩ := e
      by_cases hk : k = key
      · simp [lookup, hk]
      · rw [List.map_cons, List.mem_cons, lookup, if_neg hk, ih, or_iff_right (Ne.symm hk)]
  exact hlookup t.entries

/-- A key that is there keeps its place. -/
theorem keys_insert_of_mem {t : Table κ α} {key : κ} (h : key ∈ t.keys) (value : α) :
    (t.insert key value).keys = t.keys := by
  have hput : ∀ entries : List (κ × α), key ∈ entries.map Prod.fst →
      (put key value entries).map Prod.fst = entries.map Prod.fst := by
    intro entries hmem
    induction entries with
    | nil => cases hmem
    | cons e rest ih =>
      obtain ⟨k, a⟩ := e
      by_cases hk : k = key
      · rw [put, if_pos hk, List.map_cons, List.map_cons]
      · rw [put, if_neg hk, List.map_cons, List.map_cons,
          ih ((List.mem_cons.1 hmem).resolve_left (Ne.symm hk))]
  exact hput t.entries h

/-- A new key comes last. -/
theorem keys_insert_of_not_mem {t : Table κ α} {key : κ} (h : key ∉ t.keys) (value : α) :
    (t.insert key value).keys = t.keys ++ [key] := by
  have hput : ∀ entries : List (κ × α), key ∉ entries.map Prod.fst →
      (put key value entries).map Prod.fst = entries.map Prod.fst ++ [key] := by
    intro entries hmem
    induction entries with
    | nil => rfl
    | cons e rest ih =>
      obtain ⟨k, a⟩ := e
      rw [List.map_cons, List.mem_cons, not_or] at hmem
      rw [put, if_neg (Ne.symm hmem.1), List.map_cons, List.map_cons, ih hmem.2, List.cons_append]
  exact hput t.entries h

omit [DecidableEq κ] in
theorem size_eq_length_keys (t : Table κ α) : t.size = t.keys.length :=
  (List.length_map _).symm

theorem size_le_size_insert (t : Table κ α) (key : κ) (value : α) :
    t.size ≤ (t.insert key value).size := by
  rw [size_eq_length_keys, size_eq_length_keys]
  by_cases hmem : key ∈ t.keys
  · exact Nat.le_of_eq (congrArg List.length (keys_insert_of_mem hmem value).symm)
  · rw [keys_insert_of_not_mem hmem, List.length_append]
    exact Nat.le_add_right _ _

/-! ## Entries in order -/

/-- The table with entries inserted, one after the other. -/
def insertAll (t : Table κ α) (entries : List (κ × α)) : Table κ α :=
  entries.foldl (fun t e => t.insert e.1 e.2) t

/-- The value that the last entry of a key gives it. -/
def latest? (key : κ) (entries : List (κ × α)) : Option α :=
  ((entries.filter fun e => e.1 = key).getLast?).map Prod.snd

variable {t : Table κ α} {entries : List (κ × α)} {key : κ}

theorem latest?_append (first rest : List (κ × α)) :
    latest? key (first ++ rest) = (latest? key rest).or (latest? key first) := by
  rw [latest?, List.filter_append, List.getLast?_append, latest?, latest?]
  cases (rest.filter fun e => e.1 = key).getLast? <;> rfl

theorem latest?_singleton (e : κ × α) :
    latest? key [e] = if e.1 = key then some e.2 else none := by
  by_cases h : e.1 = key <;> simp [latest?, h]

theorem insertAll_append (first rest : List (κ × α)) :
    t.insertAll (first ++ rest) = (t.insertAll first).insertAll rest :=
  List.foldl_append

theorem find?_insertAll (t : Table κ α) (entries : List (κ × α)) (key : κ) :
    (t.insertAll entries).find? key = (latest? key entries).or (t.find? key) := by
  induction entries using List.reverseRecOn with
  | nil => rfl
  | append_singleton first e ih =>
    rw [insertAll_append, latest?_append, latest?_singleton]
    change ((t.insertAll first).insert e.1 e.2).find? key = _
    rw [find?_insert, ih]
    split <;> simp

/-- No key is lost. -/
theorem isSome_find?_insertAll (h : (t.find? key).isSome = true) :
    ((t.insertAll entries).find? key).isSome = true := by
  rw [find?_insertAll, Option.isSome_or, h, Bool.or_true]

theorem mem_keys_insertAll :
    key ∈ (t.insertAll entries).keys ↔ key ∈ entries.map Prod.fst ∨ key ∈ t.keys := by
  induction entries generalizing t with
  | nil => simp [insertAll]
  | cons e rest ih =>
    change key ∈ ((t.insert e.1 e.2).insertAll rest).keys ↔ _
    rw [ih, List.map_cons, List.mem_cons]
    change _ ∨ key ∈ (put e.1 e.2 t.entries).map Prod.fst ↔ _
    rw [mem_keys_put, keys]
    tauto

theorem size_le_size_insertAll (t : Table κ α) (entries : List (κ × α)) :
    t.size ≤ (t.insertAll entries).size := by
  induction entries generalizing t with
  | nil => exact Nat.le_refl _
  | cons e rest ih => exact Nat.le_trans (size_le_size_insert t e.1 e.2) (ih _)

/-- A table filled from nothing has as many keys as there are in the entries,
    each counted once. -/
theorem size_insertAll (entries : List (κ × α)) :
    (empty.insertAll entries).size = (entries.map Prod.fst).dedup.length := by
  have hperm : ((empty : Table κ α).insertAll entries).keys.Perm (entries.map Prod.fst).dedup := by
    refine (List.perm_ext_iff_of_nodup (nodup _) (List.nodup_dedup _)).2 fun key => ?_
    rw [List.mem_dedup]
    exact mem_keys_insertAll.trans (or_iff_left List.not_mem_nil)
  rw [← hperm.length_eq, size_eq_length_keys]

end Endorsement.Table
