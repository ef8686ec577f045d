import Endorsement.Product
import Mathlib.Data.List.Forall2
import Mathlib.Data.List.Nodup
import Mathlib.Data.List.Sublists

/-!
# Tuples and choices

What products and choices of lists enumerate.

* `expand`: the product by recursion on the lists;
* `tuples_eq_expand`: the odometer enumerates that product, in the same order;
* `exists_tuple_iff`: some tuple consists of items with a property iff every
  list has such an item;
* `nodup_tuples`: no tuple of lists without repetition comes twice;
* `sublists_eq_reverse`, `mem_choices`: the choices of a size are the sublists of
  that size;
* `choices_one`: the choices of one item;
* `exists_choice_iff`: some choice consists of items with a property iff there
  are enough such items, counted by position.
-/

namespace Endorsement.Product

variable {α : Type}

/-! ## The product by recursion -/

/-- Every tuple with one item from each list, the last list varying fastest. -/
def expand : List (List α) → List (List α)
  | [] => [[]]
  | list :: lists => list.flatMap fun a => (expand lists).map (a :: ·)

theorem mem_expand {lists : List (List α)} {tuple : List α} :
    tuple ∈ expand lists ↔ List.Forall₂ (· ∈ ·) tuple lists := by
  induction lists generalizing tuple with
  | nil => simp [expand]
  | cons list lists ih =>
    simp only [expand, List.mem_flatMap, List.mem_map]
    constructor
    · rintro ⟨a, ha, rest, hrest, rfl⟩
      exact .cons ha (ih.1 hrest)
    · intro h
      cases h with
      | cons ha hrest => exact ⟨_, ha, _, ih.2 hrest, rfl⟩

/-- Lists of one item each have one tuple. -/
theorem expand_map_singleton (items : List α) : expand (items.map ([·])) = [items] := by
  induction items with
  | nil => rfl
  | cons a items ih =>
    rw [List.map_cons, expand, ih]
    rfl

theorem exists_mem_expand_iff {lists : List (List α)} {p : α → Prop} :
    (∃ tuple ∈ expand lists, ∀ a ∈ tuple, p a) ↔ ∀ list ∈ lists, ∃ a ∈ list, p a := by
  induction lists with
  | nil => simp [expand]
  | cons list lists ih =>
    rw [List.forall_mem_cons, ← ih]
    constructor
    · rintro ⟨tuple, htuple, hp⟩
      simp only [expand, List.mem_flatMap, List.mem_map] at htuple
      obtain ⟨a, ha, rest, hrest, rfl⟩ := htuple
      rw [List.forall_mem_cons] at hp
      exact ⟨⟨a, ha, hp.1⟩, rest, hrest, hp.2⟩
    · rintro ⟨⟨a, ha, hpa⟩, rest, hrest, hp⟩
      refine ⟨a :: rest, ?_, List.forall_mem_cons.2 ⟨hpa, hp⟩⟩
      simp only [expand, List.mem_flatMap, List.mem_map]
      exact ⟨a, ha, rest, hrest, rfl⟩

/-! ## The odometer -/

/-- The full stacks that a stack can be completed to, in the order of the odometer. -/
def completions (lengths stack : List Nat) : List (List Nat) :=
  (expand ((lengths.drop stack.length).map List.range)).map (·.reverse ++ stack)

/-- The full stacks from the one that the odometer moves on to. -/
def stacksAfter (lengths stack : List Nat) (hlen : stack.length ≤ lengths.length) :
    List (List Nat) :=
  (stacksFrom lengths stack hlen).tail

theorem stacksFrom_eq_cons {lengths stack : List Nat} (hlen : stack.length ≤ lengths.length) :
    stacksFrom lengths stack hlen = stack :: stacksAfter lengths stack hlen := by
  rw [stacksAfter, stacksFrom, List.tail_cons]

theorem stacksAfter_of_none {lengths stack : List Nat} (hlen : stack.length ≤ lengths.length)
    (h : advance lengths stack = none) : stacksAfter lengths stack hlen = [] := by
  rw [stacksAfter, stacksFrom, List.tail_cons]
  split
  · rfl
  · simp_all

theorem stacksAfter_of_some {lengths stack next : List Nat} (hlen : stack.length ≤ lengths.length)
    (h : advance lengths stack = some next) (hnext : next.length ≤ lengths.length) :
    stacksAfter lengths stack hlen =
      stacksFrom lengths (fill lengths next) (Nat.le_of_eq (length_fill hnext)) := by
  rw [stacksAfter, stacksFrom, List.tail_cons]
  split
  · simp_all
  · rename_i next' hnext'
    obtain rfl : next = next' := Option.some.inj (h.symm.trans hnext')
    rfl

theorem completions_of_full {lengths stack : List Nat} (h : stack.length = lengths.length) :
    completions lengths stack = [stack] := by
  simp [completions, h, expand]

theorem completions_of_lt {lengths stack : List Nat} (h : stack.length < lengths.length) :
    completions lengths stack =
      (List.range lengths[stack.length]).flatMap fun i => completions lengths (i :: stack) := by
  simp only [completions, List.drop_eq_getElem_cons h, List.map_cons, expand, List.length_cons,
    List.map_flatMap, List.map_map, Function.comp_def, List.reverse_cons, List.append_assoc,
    List.singleton_append]

/-- A stack with room is filled by starting the next list at its first item. -/
theorem fill_cons_zero {lengths stack : List Nat} (h : stack.length < lengths.length) :
    fill lengths (0 :: stack) = fill lengths stack := by
  -- The position pushed is one of the zeros that filling adds.
  obtain ⟨n, hn⟩ : ∃ n, lengths.length - stack.length = n + 1 :=
    ⟨lengths.length - stack.length - 1, by omega⟩
  have hn' : lengths.length - (stack.length + 1) = n := by omega
  rw [fill, fill, List.length_cons, hn, hn', List.replicate_succ', List.append_assoc]
  rfl

/-- After a stack comes the one with the next item of its last list; if there is none,
    what comes after the stack below. -/
theorem stacksAfter_cons {lengths below : List Nat} {i : Nat}
    (hlen : (i :: below).length ≤ lengths.length) :
    stacksAfter lengths (i :: below) hlen =
      if h : i + 1 < lengths[below.length] then
        stacksFrom lengths (fill lengths ((i + 1) :: below)) (Nat.le_of_eq (length_fill hlen))
      else stacksAfter lengths below (Nat.le_of_succ_le hlen) := by
  have hget : lengths.getD below.length 0 = lengths[below.length] := by
    rw [List.getD_eq_getElem?_getD, List.getElem?_eq_getElem hlen, Option.getD_some]
  by_cases h : i + 1 < lengths[below.length]
  · have hadv : advance lengths (i :: below) = some ((i + 1) :: below) := by
      rw [advance, hget, if_pos h]
    rw [dif_pos h, stacksAfter_of_some hlen hadv hlen]
  · have hadv : advance lengths (i :: below) = advance lengths below := by
      rw [advance, hget, if_neg h]
    rw [dif_neg h]
    cases hbelow : advance lengths below with
    | none => rw [stacksAfter_of_none _ (hadv.trans hbelow), stacksAfter_of_none _ hbelow]
    | some next =>
      have hnext := Nat.le_trans (length_advance_le hbelow) (Nat.le_of_succ_le hlen)
      rw [stacksAfter_of_some _ (hadv.trans hbelow) hnext, stacksAfter_of_some _ hbelow hnext]

/-- The odometer first runs through the completions of a stack, then goes on
    from where the stack moves to. -/
theorem stacksFrom_fill {lengths : List Nat} (hpos : ∀ length ∈ lengths, 0 < length) :
    ∀ (n : Nat) (stack : List Nat) (hlen : stack.length ≤ lengths.length),
      stack.length + n = lengths.length →
      stacksFrom lengths (fill lengths stack) (Nat.le_of_eq (length_fill hlen)) =
        completions lengths stack ++ stacksAfter lengths stack hlen
  | 0, stack, hlen, hn => by
    have hfill : fill lengths stack = stack := by
      simp [fill, show lengths.length - stack.length = 0 by omega]
    simp only [hfill, stacksFrom_eq_cons, completions_of_full (Nat.add_zero _ ▸ hn)]
    rfl
  | n + 1, stack, hlen, hn => by
    have hlt : stack.length < lengths.length := by omega
    -- The list on top runs through its positions from `i` on, by induction on
    -- how many there are.
    have hrun : ∀ d i, i + d + 1 = lengths[stack.length] →
        stacksFrom lengths (fill lengths (i :: stack)) (Nat.le_of_eq (length_fill hlt)) =
          (List.range' i (d + 1)).flatMap (fun j => completions lengths (j :: stack)) ++
            stacksAfter lengths stack hlen := by
      intro d
      induction d with
      | zero =>
        intro i hi
        rw [stacksFrom_fill hpos n (i :: stack) hlt (by rw [List.length_cons]; omega),
          stacksAfter_cons, dif_neg (by omega)]
        simp
      | succ d ih =>
        intro i hi
        rw [stacksFrom_fill hpos n (i :: stack) hlt (by rw [List.length_cons]; omega),
          stacksAfter_cons, dif_pos (by omega), ih (i + 1) (by omega)]
        simp [List.range'_succ]
    obtain ⟨d, hd⟩ : ∃ d, lengths[stack.length] = d + 1 :=
      Nat.exists_eq_add_one.2 (hpos _ (List.getElem_mem hlt))
    have hzero := hrun d 0 (by omega)
    simp only [fill_cons_zero hlt] at hzero
    rw [hzero, completions_of_lt hlt, List.range_eq_range', hd]

theorem readouts_eq {lengths : List Nat} (hpos : ∀ length ∈ lengths, 0 < length) :
    readouts lengths = (expand (lengths.map List.range)).map List.reverse := by
  have hafter : stacksAfter lengths [] (Nat.zero_le _) = [] := stacksAfter_of_none _ rfl
  rw [readouts, stacksFrom_fill hpos lengths.length [] (Nat.zero_le _) (Nat.zero_add _), hafter]
  simp [completions]

/-! ## Tuples -/

theorem tuple?_append_singleton (list : List α) (lists : List (List α)) (stack : List Nat)
    (i : Nat) : tuple? (list :: lists) (stack ++ [i]) =
      list[i]?.bind fun a => (tuple? lists stack).map (a :: ·) := by
  rw [tuple?, tuple?, List.reverse_append, List.reverse_singleton, List.singleton_append,
    List.zip_cons_cons, List.mapM_cons]
  simp only [Option.map_eq_bind]
  rfl

theorem filterMap_getElem?_range (list : List α) :
    (List.range list.length).filterMap (list[·]?) = list := by
  induction list with
  | nil => rfl
  | cons a list ih =>
    rw [List.length_cons, List.range_succ_eq_map, List.filterMap_cons, List.filterMap_map]
    simpa [Function.comp_def] using ih

/-- Reading the items at all positions gives the product. -/
theorem filterMap_tuple? (lists : List (List α)) :
    (expand (lists.map fun list => List.range list.length)).filterMap
      (fun positions => tuple? lists positions.reverse) = expand lists := by
  induction lists with
  | nil => simp [expand, tuple?]
  | cons list lists ih =>
    -- Position `i` of the first list goes with all positions of the others, and
    -- with none if the list has no such position.
    have hitem : ∀ i, ((expand (lists.map fun list => List.range list.length)).map
        (i :: ·)).filterMap (fun positions => tuple? (list :: lists) positions.reverse) =
          list[i]?.toList.flatMap fun a => (expand lists).map (a :: ·) := by
      intro i
      cases h : list[i]? with
      | none => simp [tuple?_append_singleton, h]
      | some a => simp [tuple?_append_singleton, h, ← ih, List.map_filterMap]
    rw [List.map_cons, expand, List.filterMap_flatMap]
    simp only [hitem]
    rw [← List.flatMap_assoc, ← List.filterMap_eq_flatMap_toList, filterMap_getElem?_range, expand]

/-- The odometer enumerates the product; without lists there are no tuples. -/
theorem tuples_eq_expand {lists : List (List α)} (h : lists ≠ []) :
    tuples lists = expand lists := by
  by_cases hempty : [] ∈ lists
  -- The odometer does not start on an empty list, from which no tuple can take
  -- an item.
  · have hnone : expand lists = [] := by
      refine List.eq_nil_iff_forall_not_mem.2 fun tuple htuple => ?_
      obtain ⟨a, ha, -⟩ := exists_mem_expand_iff.1 ⟨tuple, htuple, fun _ _ => trivial⟩ [] hempty
      exact List.not_mem_nil ha
    rw [hnone, tuples, if_pos (by simp [hempty])]
  · rw [tuples, if_neg (by simp [h, hempty]), readouts_eq, List.filterMap_map, List.map_map]
    · exact filterMap_tuple? lists
    · intro length hlength
      obtain ⟨list, hlist, rfl⟩ := List.mem_map.1 hlength
      exact List.length_pos_iff.2 fun hnil => hempty (hnil ▸ hlist)

theorem mem_tuples {lists : List (List α)} {tuple : List α} :
    tuple ∈ tuples lists ↔ lists ≠ [] ∧ List.Forall₂ (· ∈ ·) tuple lists := by
  by_cases h : lists = []
  · simp [h, tuples]
  · rw [tuples_eq_expand h, mem_expand, and_iff_right h]

theorem ne_nil_of_mem_tuples {lists : List (List α)} {tuple : List α} (h : tuple ∈ tuples lists) :
    tuple ≠ [] := by
  obtain ⟨hne, hitems⟩ := mem_tuples.1 h
  rw [← List.length_pos_iff, hitems.length_eq]
  exact List.length_pos_iff.2 hne

/-- Each item of a tuple is from one of the lists. -/
theorem exists_list_of_mem_tuple {lists : List (List α)} {tuple : List α}
    (h : tuple ∈ tuples lists) {a : α} (ha : a ∈ tuple) : ∃ list ∈ lists, a ∈ list := by
  have hitems := (mem_tuples.1 h).2
  clear h
  induction hitems with
  | nil => exact absurd ha List.not_mem_nil
  | cons hmem _ ih =>
    rcases List.mem_cons.1 ha with rfl | ha
    · exact ⟨_, List.mem_cons_self, hmem⟩
    · obtain ⟨list, hlist, ha⟩ := ih ha
      exact ⟨list, List.mem_cons_of_mem _ hlist, ha⟩

/-- Some tuple has only items with a property iff there are lists and each of
    them has such an item. -/
theorem exists_tuple_iff {lists : List (List α)} {p : α → Prop} :
    (∃ tuple ∈ tuples lists, ∀ a ∈ tuple, p a) ↔
      lists ≠ [] ∧ ∀ list ∈ lists, ∃ a ∈ list, p a := by
  by_cases h : lists = []
  · simp [h, tuples]
  · rw [tuples_eq_expand h, exists_mem_expand_iff, and_iff_right h]

/-! ### Without repetition -/

theorem nodup_expand {lists : List (List α)} (h : ∀ list ∈ lists, list.Nodup) :
    (expand lists).Nodup := by
  induction lists with
  | nil => exact List.nodup_singleton []
  | cons list lists ih =>
    rw [List.forall_mem_cons] at h
    rw [expand, List.nodup_flatMap]
    refine ⟨fun a _ => (ih h.2).map (List.cons_injective), h.1.imp fun {a b} hab => ?_⟩
    -- Tuples with different first items differ.
    refine List.disjoint_left.2 fun tuple ha hb => ?_
    obtain ⟨rest, -, rfl⟩ := List.mem_map.1 ha
    obtain ⟨rest', -, heq⟩ := List.mem_map.1 hb
    exact hab (List.cons.inj heq).1.symm

theorem nodup_tuples {lists : List (List α)} (h : ∀ list ∈ lists, list.Nodup) :
    (tuples lists).Nodup := by
  by_cases hnil : lists = []
  · simp [hnil, tuples]
  · rw [tuples_eq_expand hnil]
    exact nodup_expand h

/-! ## Choices -/

/-- The sublists of a size, those with the first items first. -/
theorem sublists_eq_reverse (size : Nat) (items : List α) :
    sublists size items = (List.sublistsLen size items).reverse := by
  induction items generalizing size with
  | nil => cases size <;> rfl
  | cons x rest ih =>
    cases size with
    | zero => simp [sublists]
    | succ size =>
      rw [sublists, List.sublistsLen_succ_cons, List.reverse_append, ← List.map_reverse, ← ih, ← ih]
      split
      · -- With too few items left there is nothing to leave out.
        rename_i hshort
        have hnone : ∀ n, rest.length < n → sublists n rest = [] := fun n hn => by
          rw [ih, List.sublistsLen_of_length_lt hn, List.reverse_nil]
        rw [hnone size hshort, hnone (size + 1) (by omega)]
        rfl
      · rfl

theorem mem_sublists {size : Nat} {items choice : List α} :
    choice ∈ sublists size items ↔ choice.Sublist items ∧ choice.length = size := by
  rw [sublists_eq_reverse, List.mem_reverse, List.mem_sublistsLen]

/-- Some sublist of a size has only items with a property iff there are that
    many such items. -/
theorem exists_sublist_iff {p : α → Prop} [DecidablePred p] {size : Nat} {items : List α} :
    (∃ choice ∈ sublists size items, ∀ a ∈ choice, p a) ↔ size ≤ items.countP (p ·) := by
  induction items generalizing size with
  | nil => cases size <;> simp [sublists]
  | cons x rest ih =>
    cases size with
    | zero => simp [sublists]
    | succ size =>
      have hcount : rest.countP (p ·) ≤ rest.length := List.countP_le_length
      rw [sublists, List.countP_cons]
      split
      · simp only [List.not_mem_nil, false_and, exists_false, false_iff]
        split <;> omega
      -- A choice has the first item and one less of the rest, or has all from the
      -- rest.
      · have hsplit : (∃ choice ∈ (sublists size rest).map (x :: ·) ++ sublists (size + 1) rest,
            ∀ a ∈ choice, p a) ↔
            (p x ∧ ∃ choice ∈ sublists size rest, ∀ a ∈ choice, p a) ∨
              ∃ choice ∈ sublists (size + 1) rest, ∀ a ∈ choice, p a := by
          simp only [List.mem_append, or_and_right, exists_or, List.mem_map,
            exists_exists_and_eq_and, List.forall_mem_cons]
          grind
        rw [hsplit, ih, ih]
        by_cases hx : p x
        · simp only [hx, true_and, decide_true, if_true]
          omega
        · simp [hx]

/-- A choice is a sublist of the size asked for, which is at least one. -/
theorem mem_choices {size : Nat} {items choice : List α} :
    choice ∈ choices items size ↔ 0 < size ∧ choice.Sublist items ∧ choice.length = size := by
  rw [choices]
  split
  · rename_i h
    refine iff_of_false List.not_mem_nil ?_
    rintro ⟨hpos, hsub, rfl⟩
    have := hsub.length_le
    simp only [Bool.or_eq_true, decide_eq_true_eq] at h
    omega
  · rename_i h
    simp only [Bool.or_eq_true, decide_eq_true_eq, not_or] at h
    rw [mem_sublists, and_iff_right (Nat.pos_of_ne_zero h.1)]

/-- Some choice of at least one item has only items with a property iff there are
    that many such items, counted by position. -/
theorem exists_choice_iff {p : α → Prop} [DecidablePred p] {size : Nat} {items : List α}
    (hsize : 0 < size) :
    (∃ choice ∈ choices items size, choice ≠ [] ∧ ∀ a ∈ choice, p a) ↔
      size ≤ items.countP (p ·) := by
  rw [← exists_sublist_iff]
  refine exists_congr fun choice => ?_
  rw [mem_choices, mem_sublists, and_iff_right hsize]
  refine and_congr_right fun ⟨_, hlen⟩ => and_iff_right ?_
  exact List.ne_nil_of_length_pos (by omega)

theorem mem_of_mem_choices {size : Nat} {items choice : List α} (h : choice ∈ choices items size)
    {a : α} (ha : a ∈ choice) : a ∈ items :=
  (mem_choices.1 h).2.1.subset ha

/-- To choose one item is to take each on its own. -/
theorem choices_one (items : List α) : choices items 1 = items.map ([·]) := by
  have hsublists : sublists 1 items = items.map ([·]) := by
    induction items with
    | nil => rfl
    | cons x rest ih =>
      rw [sublists, if_neg (Nat.not_lt_zero _), ih, sublists, List.map_singleton]
      rfl
  cases items with
  | nil => rfl
  | cons x rest => rw [choices, if_neg (by simp), hsublists]

end Endorsement.Product
