/-!
# Tables

A table maps keys to values, keeps the order in which its keys were first
inserted, and never holds a key twice. Every cache and register of the library
is one.

* `Table.find?`, `Table.insert`, `Table.erase`, `Table.map`, `Table.size`: the
  operations;
* `Table.find?_insert`, `Table.find?_erase`, `Table.find?_map`,
  `Table.find?_empty`: what each does to the values that keys have.
-/

namespace Endorsement

/-- A map from keys to values, in the order of insertion. -/
structure Table (κ α : Type) where
  entries : List (κ × α)
  /-- No key occurs twice. -/
  nodup : (entries.map Prod.fst).Nodup

namespace Table

variable {κ α β : Type}

/-- The table without entries. -/
def empty : Table κ α := ⟨[], List.nodup_nil⟩

instance : Inhabited (Table κ α) := ⟨empty⟩

/-- The keys, in the order of insertion. -/
def keys (t : Table κ α) : List κ := t.entries.map Prod.fst

/-- The values, in the order of their keys. -/
def values (t : Table κ α) : List α := t.entries.map Prod.snd

/-- The number of keys. -/
def size (t : Table κ α) : Nat := t.entries.length

/-- Whether there are no keys. -/
def isEmpty (t : Table κ α) : Bool := t.entries.isEmpty

/-- The table with every value mapped. -/
def map (f : α → β) (t : Table κ α) : Table κ β :=
  ⟨t.entries.map fun e => (e.1, f e.2), by
    simpa [List.map_map, Function.comp_def] using t.nodup⟩

variable [DecidableEq κ]

/-- The value of a key in a list of entries. -/
def lookup (key : κ) : List (κ × α) → Option α
  | [] => none
  | (k, a) :: rest => if k = key then some a else lookup key rest

/-- The entries with a key set to a value: in its place, or at the end. -/
def put (key : κ) (value : α) : List (κ × α) → List (κ × α)
  | [] => [(key, value)]
  | (k, a) :: rest => if k = key then (k, value) :: rest else (k, a) :: put key value rest

/-- The value of a key. -/
def find? (t : Table κ α) (key : κ) : Option α := lookup key t.entries

theorem mem_keys_put {key k : κ} {value : α} {entries : List (κ × α)} :
    k ∈ (put key value entries).map Prod.fst ↔ k = key ∨ k ∈ entries.map Prod.fst := by
  induction entries with
  | nil => simp [put]
  | cons e rest ih =>
    obtain ⟨k', a⟩ := e
    by_cases h : k' = key
    · subst h
      simp [put]
    · rw [put, if_neg h, List.map_cons, List.mem_cons, ih, List.map_cons, List.mem_cons]
      constructor
      · rintro (h₁ | h₁ | h₁)
        · exact .inr (.inl h₁)
        · exact .inl h₁
        · exact .inr (.inr h₁)
      · rintro (h₁ | h₁ | h₁)
        · exact .inr (.inl h₁)
        · exact .inl h₁
        · exact .inr (.inr h₁)

theorem nodup_put {key : κ} {value : α} {entries : List (κ × α)}
    (h : (entries.map Prod.fst).Nodup) : ((put key value entries).map Prod.fst).Nodup := by
  induction entries with
  | nil => simp [put]
  | cons e rest ih =>
    obtain ⟨k, a⟩ := e
    rw [List.map_cons, List.nodup_cons] at h
    by_cases hk : k = key
    · rw [put, if_pos hk, List.map_cons, List.nodup_cons]
      exact h
    · rw [put, if_neg hk, List.map_cons, List.nodup_cons, mem_keys_put]
      exact ⟨fun hmem => hmem.elim hk h.1, ih h.2⟩

/-- The table with a key set to a value. -/
def insert (t : Table κ α) (key : κ) (value : α) : Table κ α :=
  ⟨put key value t.entries, nodup_put t.nodup⟩

/-- The table without a key. -/
def erase (t : Table κ α) (key : κ) : Table κ α :=
  ⟨t.entries.filter (fun e => !decide (e.1 = key)),
    List.Nodup.sublist ((List.filter_sublist).map Prod.fst) t.nodup⟩

/-! ## What keys have afterwards -/

@[simp] theorem find?_empty (key : κ) : (empty : Table κ α).find? key = none := rfl

theorem lookup_put (key k : κ) (value : α) (entries : List (κ × α)) :
    lookup k (put key value entries) = if key = k then some value else lookup k entries := by
  induction entries with
  | nil => simp [put, lookup]
  | cons e rest ih =>
    obtain ⟨k', a⟩ := e
    by_cases h : k' = key
    · subst h
      by_cases hk : k' = k <;> simp [put, lookup, hk]
    · by_cases hk : k' = k
      · subst hk
        simp [put, lookup, h, Ne.symm h]
      · simp [put, lookup, h, hk, ih]

theorem find?_insert (t : Table κ α) (key k : κ) (value : α) :
    (t.insert key value).find? k = if key = k then some value else t.find? k :=
  lookup_put key k value t.entries

theorem find?_erase (t : Table κ α) (key k : κ) :
    (t.erase key).find? k = if key = k then none else t.find? k := by
  simp only [find?, erase]
  induction t.entries with
  | nil => simp [lookup]
  | cons e rest ih =>
    obtain ⟨k', a⟩ := e
    by_cases h : k' = key
    · subst h
      by_cases hk : k' = k
      · rw [if_pos hk] at ih ⊢
        simpa using ih
      · simp [lookup, hk, ih]
    · by_cases hk : k' = k
      · subst hk
        simp [lookup, h, Ne.symm h]
      · simp [lookup, h, hk, ih]

theorem find?_map (f : α → β) (t : Table κ α) (key : κ) :
    (t.map f).find? key = (t.find? key).map f := by
  simp only [find?, map]
  induction t.entries with
  | nil => rfl
  | cons e rest ih =>
    obtain ⟨k', a⟩ := e
    by_cases h : k' = key <;> simp [lookup, h, ih]

end Table

end Endorsement
