import Endorsement.Proofs.Product
import Mathlib.Algebra.BigOperators.Group.List.Basic
import Mathlib.Logic.Function.Iterate

/-!
# Products, move by move

The product of some lists is enumerated with a stack of positions, one for each of
the first lists, the deepest on top. Move by move: while there are lists without a
position, the next one starts at its first item; when all have one, a tuple is
read; then the list on top moves on to its next item, or is dropped if it has none.

* `Stage`, `move`: where the enumeration stands, and its moves;
* `finishes_down`: from any stack within the lists, the enumeration adds the tuples
  below it and comes back;
* `never_outside`: an enumeration that ends never looked outside a list;
* `place`, `IsDigits`: numbers written in the mixed radix of some lengths;
* `getElem?_expand`: where a tuple stands in the product;
* `tuples_enumerated`: all of this about the tuples of any lists.
-/

namespace Endorsement.Product

variable {α : Type}

/-! ## The moves -/

/-- Where the enumeration stands. -/
inductive Stage (α : Type) where
  /-- The first lists have positions; the next one, if there is one, has to start. -/
  | down (stack : List Nat) (found : List (List α))
  /-- The list on top is done with its position, and has to move on. -/
  | up (stack : List Nat) (found : List (List α))
  /-- Something was looked for in a list, or a list, that is not there. -/
  | outside
  /-- There is nothing left to enumerate. -/
  | finished (found : List (List α))

/-- The items at positions, the first list first; none if an item or a list is not
    there. -/
def itemsAt : List (List α) → List Nat → Option (List α)
  | _, [] => some []
  | [], _ :: _ => none
  | list :: lists, i :: positions => do
    let item ← list[i]?
    let items ← itemsAt lists positions
    return item :: items

/-- One move of the enumeration. -/
def move (lists : List (List α)) : Stage α → Stage α
  | .down stack found =>
    if stack.length < lists.length then .down (0 :: stack) found
    else
      match itemsAt lists stack.reverse with
      | none => .outside
      | some tuple => .up stack (found ++ [tuple])
  | .up [] found => .finished found
  | .up (i :: below) found =>
    match lists[below.length]? with
    | none => .outside
    | some list => if i + 1 < list.length then .down ((i + 1) :: below) found else .up below found
  | .outside => .outside
  | .finished found => .finished found

/-- Where the enumeration starts: with no tuples to come if there is no list, or one
    of them is empty, and else with the first list at its first item. -/
def start (lists : List (List α)) : Stage α :=
  if lists.isEmpty || lists.any List.isEmpty then .finished [] else .down [0] []

/-- From a stage, the enumeration ends with these tuples. -/
def Finishes (lists : List (List α)) (stage : Stage α) (product : List (List α)) : Prop :=
  ∃ n, (move lists)^[n] stage = .finished product

variable {lists before rest : List (List α)} {list : List α} {stack : List Nat}
  {found product : List (List α)}

theorem Finishes.of_move {stage : Stage α} (h : Finishes lists (move lists stage) product) :
    Finishes lists stage product := by
  obtain ⟨n, hn⟩ := h
  exact ⟨n + 1, by rwa [Function.iterate_succ_apply]⟩

theorem Finishes.after_move {stage : Stage α} (h : Finishes lists stage product) :
    Finishes lists (move lists stage) product := by
  obtain ⟨n, hn⟩ := h
  refine ⟨n, ?_⟩
  rw [← Function.iterate_succ_apply, Function.iterate_succ_apply', hn]
  rfl

/-- An enumeration that ends never looked outside a list, since it would have got
    stuck there. -/
theorem never_outside {stage : Stage α} (h : Finishes lists stage product) (n : Nat) :
    (move lists)^[n] stage ≠ .outside := by
  intro houtside
  obtain ⟨k, hk⟩ := h
  have hstuck : (move lists)^[k + n] stage = .outside := by
    rw [Function.iterate_add_apply, houtside, Function.iterate_fixed rfl]
  rw [Nat.add_comm, Function.iterate_add_apply, hk, Function.iterate_fixed rfl] at hstuck
  cases hstuck

theorem itemsAt_concat {positions : List Nat} (hlen : positions.length = before.length)
    (list : List α) (i : Nat) :
    itemsAt (before ++ [list]) (positions ++ [i]) =
      (itemsAt before positions).bind fun items => list[i]?.map fun a => items ++ [a] := by
  induction before generalizing positions with
  | nil =>
    obtain rfl := List.length_eq_zero_iff.1 hlen
    cases h : list[i]? <;> simp [itemsAt, h]
  | cons first before ih =>
    cases positions with
    | nil => cases hlen
    | cons j positions =>
      have hrest := ih (Nat.succ.inj hlen)
      simp only [List.cons_append, itemsAt, hrest]
      cases first[j]? <;> cases itemsAt before positions <;> cases list[i]? <;> rfl

theorem move_up_next {i : Nat} (hlist : lists[stack.length]? = some list)
    (hi : i + 1 < list.length) :
    move lists (.up (i :: stack) found) = .down ((i + 1) :: stack) found := by
  rw [move, hlist]
  exact if_pos hi

theorem move_up_dropped {i : Nat} (hlist : lists[stack.length]? = some list)
    (hi : ¬i + 1 < list.length) : move lists (.up (i :: stack) found) = .up stack found := by
  rw [move, hlist]
  exact if_neg hi

/-- The tuples that begin with some items and go on with the first item of a list come
    before those that go on with one of its other items. -/
theorem map_expand_cons_cons (items : List α) (a : α) (todo : List α) (rest : List (List α)) :
    (expand ((a :: todo) :: rest)).map (items ++ ·) =
      (expand rest).map (items ++ [a] ++ ·) ++ (expand (todo :: rest)).map (items ++ ·) := by
  simp [expand, List.map_map, Function.comp_def]

/-- If every item of a list leads to the tuples with it, then so does the list from
    any of its items on. -/
theorem finishes_row (items : List α) (hlists : lists = before ++ list :: rest)
    (hlen : stack.length = before.length)
    (hitem : ∀ i a found, list[i]? = some a →
      Finishes lists (.up (i :: stack) (found ++ (expand rest).map (items ++ [a] ++ ·))) product →
        Finishes lists (.down (i :: stack) found) product)
    (todo : List α) : ∀ (done : List α) (a : α) (found : List (List α)), list = done ++ a :: todo →
      Finishes lists (.up stack (found ++
        (expand ((a :: todo) :: rest)).map (items ++ ·))) product →
          Finishes lists (.down (done.length :: stack) found) product := by
  have hget : lists[stack.length]? = some list := by
    rw [hlists, hlen, List.getElem?_append_right (Nat.le_refl _), Nat.sub_self]
    rfl
  induction todo with
  | nil =>
    intro done a found hlist hup
    refine hitem _ a found (by simp [hlist]) (.of_move ?_)
    rw [move_up_dropped hget (by simp [hlist])]
    rw [map_expand_cons_cons] at hup
    simpa [expand] using hup
  | cons b todo ih =>
    intro done a found hlist hup
    refine hitem _ a found (by simp [hlist]) (.of_move ?_)
    rw [move_up_next hget (by simp [hlist])]
    rw [map_expand_cons_cons, ← List.append_assoc] at hup
    have hnext := ih (done ++ [a]) b _ (by simp [hlist]) hup
    rwa [List.length_append, List.length_singleton] at hnext

/-- Below a stack that gives the first lists positions within them, the enumeration
    adds all tuples that begin with the items there, and comes back up to it. -/
theorem finishes_down (rest : List (List α)) : ∀ (before : List (List α)) {stack : List Nat}
    {items : List α} {found : List (List α)}, lists = before ++ rest →
      stack.length = before.length → itemsAt before stack.reverse = some items → [] ∉ rest →
        Finishes lists (.up stack (found ++ (expand rest).map (items ++ ·))) product →
          Finishes lists (.down stack found) product := by
  induction rest with
  | nil =>
    intro before stack items found hlists hlen hitems _ hup
    rw [List.append_nil] at hlists
    subst hlists
    refine .of_move ?_
    rw [move, if_neg (by omega), hitems]
    simpa [expand] using hup
  | cons list rest ih =>
    intro before stack items found hlists hlen hitems hne hup
    rw [List.mem_cons, not_or] at hne
    obtain ⟨a, todo, rfl⟩ := List.exists_cons_of_ne_nil (Ne.symm hne.1)
    have hroom : stack.length < lists.length := by
      rw [hlists, hlen]
      simp
    refine .of_move ?_
    rw [move, if_pos hroom]
    refine finishes_row items hlists hlen (fun i b found hb hup => ?_) todo [] a found rfl hup
    -- With a position more, there is a list less to go down.
    refine ih (before ++ [a :: todo]) (by simp [hlists]) (by simp [hlen]) ?_ hne.2 hup
    rw [List.reverse_cons, itemsAt_concat (by rw [List.length_reverse, hlen]), hitems, hb]
    rfl

/-- The enumeration ends with the tuples. -/
theorem finishes_start (lists : List (List α)) : Finishes lists (start lists) (tuples lists) := by
  by_cases hnone : (lists.isEmpty || lists.any List.isEmpty) = true
  · rw [start, tuples, if_pos hnone, if_pos hnone]
    exact ⟨0, rfl⟩
  · have hlists : lists ≠ [] ∧ [] ∉ lists := by simpa using hnone
    have hdown : Finishes lists (.down [] []) (tuples lists) := by
      refine finishes_down lists [] rfl rfl rfl hlists.2 ⟨1, ?_⟩
      simp [tuples_eq_expand hlists.1, move]
    rw [start, if_neg hnone]
    have hfirst : move lists (.down [] []) = .down [0] [] :=
      if_pos (List.length_pos_iff.2 hlists.1)
    exact hfirst ▸ hdown.after_move

/-! ## Places in the product -/

/-- The number that is written with some digits in the mixed radix of some lengths: a
    digit counts as many times as there are numbers with the digits behind it. -/
def place : (lengths positions : List Nat) → Nat
  | _ :: lengths, i :: positions => i * lengths.prod + place lengths positions
  | _, _ => 0

/-- Some positions are the digits of a number in the mixed radix of some lengths, the
    last of them the least. -/
def IsDigits (lengths : List Nat) (k : Nat) (positions : List Nat) : Prop :=
  List.Forall₂ (· < ·) positions lengths ∧ place lengths positions = k

theorem place_lt {lengths positions : List Nat} (h : List.Forall₂ (· < ·) positions lengths) :
    place lengths positions < lengths.prod := by
  induction h with
  | nil => exact Nat.one_pos
  | @cons i length positions lengths hi _ ih =>
    rw [place, List.prod_cons]
    calc i * lengths.prod + place lengths positions
        < i * lengths.prod + lengths.prod := Nat.add_lt_add_left ih _
      _ = (i + 1) * lengths.prod := (Nat.succ_mul i _).symm
      _ ≤ length * lengths.prod := Nat.mul_le_mul_right _ hi

/-- Every number below the product of the lengths has digits. -/
theorem exists_isDigits {lengths : List Nat} : ∀ {k : Nat}, k < lengths.prod →
    ∃ positions, IsDigits lengths k positions := by
  induction lengths with
  | nil =>
    intro k hk
    exact ⟨[], .nil, (Nat.lt_one_iff.1 hk).symm⟩
  | cons length lengths ih =>
    intro k hk
    rw [List.prod_cons] at hk
    have hpos : 0 < lengths.prod := Nat.pos_of_mul_pos_left (Nat.zero_lt_of_lt hk)
    obtain ⟨positions, hwithin, hplace⟩ := ih (Nat.mod_lt k hpos)
    refine ⟨k / lengths.prod :: positions, .cons (Nat.div_lt_of_lt_mul ?_) hwithin, ?_⟩
    · rwa [Nat.mul_comm]
    · rw [place, hplace, Nat.div_add_mod']

theorem length_expand (lists : List (List α)) :
    (expand lists).length = (lists.map List.length).prod := by
  induction lists with
  | nil => rfl
  | cons list lists ih => simp [expand, List.length_flatMap, ih]

/-- Among blocks of the same length, an item stands behind all blocks before its own. -/
theorem getElem?_flatMap_of_length {β : Type} {f : α → List β} {size j : Nat} (hj : j < size) :
    ∀ (list : List α) (i : Nat), (∀ a ∈ list, (f a).length = size) →
      (list.flatMap f)[i * size + j]? = list[i]?.bind fun a => (f a)[j]? := by
  intro list
  induction list with
  | nil => simp
  | cons a list ih =>
    intro i hsize
    rw [List.forall_mem_cons] at hsize
    cases i with
    | zero => simp [List.getElem?_append_left, hsize.1, hj]
    | succ i =>
      have hskip : (i + 1) * size + j = size + (i * size + j) := by
        rw [Nat.succ_mul]
        omega
      rw [List.flatMap_cons, hskip, ← hsize.1, List.getElem?_append_right (Nat.le_add_right _ _),
        Nat.add_sub_cancel_left, hsize.1, ih i hsize.2, List.getElem?_cons_succ]

/-- Where the tuple at some positions stands in the product. -/
theorem getElem?_expand (lists : List (List α)) : ∀ {positions : List Nat},
    List.Forall₂ (· < ·) positions (lists.map List.length) →
      (expand lists)[place (lists.map List.length) positions]? = itemsAt lists positions := by
  induction lists with
  | nil =>
    intro positions h
    cases h
    rfl
  | cons list lists ih =>
    intro positions h
    cases h with
    | @cons i _ positions _ hi hrest =>
      have hj := place_lt hrest
      rw [← length_expand] at hj
      rw [List.map_cons, place, expand, ← length_expand,
        getElem?_flatMap_of_length hj list i fun a _ => List.length_map _, itemsAt]
      simp only [List.getElem?_map, ih hrest]
      cases list[i]? <;> cases itemsAt lists positions <;> rfl

/-- The enumeration of the product of any lists, move by move, ends with its tuples,
    and never looks for anything in a list, or a list, that is not there. Without
    lists, or with an empty one among them, there are no tuples. Else the tuples are
    the product by recursion: as many as the product of the lengths, and the tuple at
    `k` has from each list the item at a digit of `k` in the mixed radix of the
    lengths, the last list varying fastest. -/
theorem tuples_enumerated (lists : List (List α)) :
    (∃ n, (move lists)^[n] (start lists) = .finished (tuples lists)) ∧
      (∀ n, (move lists)^[n] (start lists) ≠ .outside) ∧
      (lists = [] ∨ [] ∈ lists → tuples lists = []) ∧
      (lists ≠ [] → [] ∉ lists →
        tuples lists = expand lists ∧ (tuples lists).length = (lists.map List.length).prod ∧
          ∀ k < (lists.map List.length).prod, ∃ positions tuple,
            IsDigits (lists.map List.length) k positions ∧
              itemsAt lists positions = some tuple ∧ (tuples lists)[k]? = some tuple) := by
  have hends := finishes_start lists
  refine ⟨hends, never_outside hends, fun hnone => ?_, fun hne _ => ?_⟩
  · rw [tuples, if_pos (by simpa using hnone)]
  · rw [tuples_eq_expand hne, length_expand]
    refine ⟨rfl, rfl, fun k hk => ?_⟩
    obtain ⟨positions, hdigits⟩ := exists_isDigits hk
    have hplace := getElem?_expand lists hdigits.1
    rw [hdigits.2] at hplace
    have hlt : k < (expand lists).length := by rwa [length_expand]
    rw [List.getElem?_eq_getElem hlt] at hplace
    exact ⟨positions, _, hdigits, hplace.symm, List.getElem?_eq_getElem hlt⟩

/-- With two items and then three, 4 has the digits 1 and 1. -/
theorem tuple_at_four :
    [[0, 1], [2, 3, 4]] ≠ [] ∧ [] ∉ [[0, 1], [2, 3, 4]] ∧ 4 < [2, 3].prod ∧
      ∃ positions, IsDigits [2, 3] 4 positions ∧
        itemsAt [[0, 1], [2, 3, 4]] positions = some [1, 3] ∧
        (tuples [[0, 1], [2, 3, 4]])[4]? = some [1, 3] := by
  have hne : [[0, 1], [2, 3, 4]] ≠ [] := by decide
  have hnil : [] ∉ [[0, 1], [2, 3, 4]] := by decide
  have hlt : 4 < [2, 3].prod := by decide
  obtain ⟨-, -, -, hsome⟩ := tuples_enumerated [[0, 1], [2, 3, 4]]
  obtain ⟨hexpand, -, hat⟩ := hsome hne hnil
  obtain ⟨positions, tuple, hdigits, hitems, hget⟩ := hat 4 hlt
  have htuple : some tuple = some [1, 3] := by
    rw [← hget, hexpand]
    rfl
  rw [htuple] at hitems hget
  exact ⟨hne, hnil, hlt, positions, hdigits, hitems, hget⟩

end Endorsement.Product
