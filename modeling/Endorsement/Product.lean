/-!
# Products and choices of lists

Picking one item from each of several lists, in all ways, and picking a number
of items from one list, in all ways.

* `Product.tuples`: every tuple with one item from each list, the last list
  varying fastest. It is enumerated without recursion on the lists: a stack of
  positions, the deepest list on top, says which tuple is next, and moves on
  like an odometer (`Product.readouts`, by `Product.advance` and `Product.fill`).
  Each move lowers `Product.reading`, so the enumeration ends;
* `Product.choices`: every way of picking `size` items of a list, in order.
-/

namespace Endorsement.Product

variable {α : Type}

/-! ## Tuples -/

/-- What a stack of positions still leaves to be enumerated: the positions read
    as digits, counted down from the lengths. -/
def weight : List Nat → Nat
  | [] => 1
  | length :: rest => (length + 1) * weight rest

/-- The reading of a stack: positions are digits with the weight of the lists
    behind them, each counted down from the length of its list. -/
def reading (lengths : List Nat) : List Nat → Nat
  | [] => 0
  | i :: below =>
    (lengths.getD below.length 0 - i) * weight (lengths.drop (below.length + 1)) +
      reading lengths below

/-- Moves the stack on to the next position: the top moves on if its list has
    more items, and is dropped if not. Nothing is left when no list has. -/
def advance (lengths : List Nat) : List Nat → Option (List Nat)
  | [] => none
  | i :: below =>
    if i + 1 < lengths.getD below.length 0 then some ((i + 1) :: below) else advance lengths below

/-- Starts every list that the stack does not reach at its first item. -/
def fill (lengths : List Nat) (stack : List Nat) : List Nat :=
  List.replicate (lengths.length - stack.length) 0 ++ stack

/-- The items at the positions of a full stack, the first list first. -/
def tuple? (lists : List (List α)) (stack : List Nat) : Option (List α) :=
  (lists.zip stack.reverse).mapM fun (list, i) => list[i]?

theorem weight_pos (lengths : List Nat) : 0 < weight lengths := by
  induction lengths with
  | nil => exact Nat.one_pos
  | cons length rest ih => exact Nat.mul_pos (Nat.succ_pos length) ih

/-- A filled stack adds less than the weight of the lists behind it. -/
theorem reading_replicate (lengths : List Nat) (stack : List Nat) :
    ∀ n, stack.length + n ≤ lengths.length →
      reading lengths (List.replicate n 0 ++ stack) + weight (lengths.drop (stack.length + n)) =
        reading lengths stack + weight (lengths.drop stack.length)
  | 0, _ => by simp
  | n + 1, h => by
    have hlt : stack.length + n < lengths.length := by omega
    have ih := reading_replicate lengths stack n (by omega)
    rw [List.drop_eq_getElem_cons hlt, weight] at ih
    have hget : lengths.getD (n + stack.length) 0 = lengths[stack.length + n] := by
      rw [Nat.add_comm, List.getD_eq_getElem?_getD, List.getElem?_eq_getElem hlt]
      rfl
    simp only [List.replicate_succ, List.cons_append, reading, List.length_append,
      List.length_replicate, hget, Nat.sub_zero]
    rw [Nat.add_mul, Nat.one_mul] at ih
    have hcomm : n + stack.length + 1 = stack.length + n + 1 := by omega
    rw [hcomm, show stack.length + (n + 1) = stack.length + n + 1 from rfl]
    omega

/-- Moving on and filling up lowers the reading. -/
theorem reading_fill_advance_lt {lengths stack next : List Nat}
    (hlen : stack.length ≤ lengths.length) (h : advance lengths stack = some next) :
    reading lengths (fill lengths next) < reading lengths stack := by
  induction stack with
  | nil => simp [advance] at h
  | cons i below ih =>
    rw [List.length_cons] at hlen
    rw [advance] at h
    split at h
    · rename_i hi
      injection h with h
      subst h
      -- The digit on top is lowered by one, which is more than the digits filled in
      -- above it come to.
      have hfill := reading_replicate lengths ((i + 1) :: below)
        (lengths.length - (below.length + 1)) (by rw [List.length_cons]; omega)
      have hpos := weight_pos (lengths.drop (below.length + 1 + (lengths.length - (below.length + 1))))
      have hsub : lengths.getD below.length 0 - i = (lengths.getD below.length 0 - (i + 1)) + 1 := by
        omega
      simp only [fill, List.length_cons, reading] at hfill ⊢
      rw [hsub, Nat.add_mul, Nat.one_mul]
      omega
    · exact Nat.lt_of_lt_of_le (ih (by omega) h) (Nat.le_add_left _ _)

theorem length_advance_le {lengths stack next : List Nat} (h : advance lengths stack = some next) :
    next.length ≤ stack.length := by
  induction stack with
  | nil => simp [advance] at h
  | cons i below ih =>
    rw [advance] at h
    split at h
    · injection h with h
      subst h
      simp
    · exact Nat.le_succ_of_le (ih h)

theorem length_fill {lengths stack : List Nat} (h : stack.length ≤ lengths.length) :
    (fill lengths stack).length = lengths.length := by
  simp only [fill, List.length_append, List.length_replicate]
  omega

/-- The full stacks from the given one on, in the order of the odometer. -/
def stacksFrom (lengths stack : List Nat) (hlen : stack.length ≤ lengths.length) :
    List (List Nat) :=
  stack ::
    match h : advance lengths stack with
    | none => []
    | some next =>
      stacksFrom lengths (fill lengths next)
        (Nat.le_of_eq (length_fill (Nat.le_trans (length_advance_le h) hlen)))
termination_by reading lengths stack
decreasing_by exact reading_fill_advance_lt hlen h

/-- All full stacks, from the one with every list at its first item. -/
def readouts (lengths : List Nat) : List (List Nat) :=
  stacksFrom lengths (fill lengths []) (Nat.le_of_eq (length_fill (Nat.zero_le _)))

/-- Every tuple with one item from each list, the last list varying fastest;
    none if there are no lists or one of them is empty. -/
def tuples (lists : List (List α)) : List (List α) :=
  if lists.isEmpty || lists.any List.isEmpty then []
  else (readouts (lists.map List.length)).filterMap (tuple? lists)

/-! ## Choices -/

/-- Every way of picking `size` items in the order of the list. -/
def sublists : (size : Nat) → List α → List (List α)
  | 0, _ => [[]]
  | _ + 1, [] => []
  | size + 1, x :: rest =>
    -- Too few items are left to choose from.
    if rest.length < size then []
    else (sublists size rest).map (x :: ·) ++ sublists (size + 1) rest

/-- Every choice of `size` items of a list, at least one, in the order of their
    positions. -/
def choices (items : List α) (size : Nat) : List (List α) :=
  if size = 0 || items.length < size then [] else sublists size items

end Endorsement.Product
