import Endorsement.Failure
import Endorsement.Group.Basic
import Endorsement.Product

/-!
# Alternatives of a group

Reducing a group distributes its conjunctions over its disjunctions. What is
left is a list of alternatives, each a leaf or a conjunction of leaves, in an
order that depends on the group alone: everything is read from left to right.

* `Group.collapse`: a conjunction with the conjunctions among its items merged
  in, and without repeated items;
* `Group.reduce`: the alternatives of a group;
* `Group.conjoin`: the conjunctions that pick one item from each of several
  groups;
* `Group.atLeast`: a number of groups out of several, as the disjunction of
  their choices.
-/

namespace Endorsement.Group

/-! ## Collapsing conjunctions -/

mutual

/-- The items of a conjunction after merging: first those that are not
    conjunctions, then those of the merged conjunctions, each item once. -/
def flatten : Group → List Group
  | .all items => distinct (items.filter (fun g => !g.isAll) ++ flattenNested items)
  | g => [g]

/-- The merged items of the conjunctions among some groups. -/
def flattenNested : List Group → List Group
  | [] => []
  | g :: rest => if g.isAll then flatten g ++ flattenNested rest else flattenNested rest

end

/-- A conjunction with nested conjunctions merged in; any other group as it is. -/
def collapse (g : Group) : Group :=
  if g.isAll then .all (flatten g) else g

/-! ## Distributing conjunctions over disjunctions -/

/-- The conjunctions that pick one item from each list, collapsed, each once. -/
def conjunctions (branches : List (List Group)) : List Group :=
  distinct ((Product.tuples branches).map fun items => collapse (.all items))

mutual

/-- The alternatives of a group. A peer is the leaf of that peer alone. -/
def reduce : Group → List Group
  | .peer p => [.leaf (.fixed [p])]
  | .leaf peers => [.leaf peers]
  | .any [only] => reduce only
  | .any groups => distinct (reduceEach groups).flatten
  | .all items => conjunctions (reduceEach items)

/-- The alternatives of each group. -/
def reduceEach : List Group → List (List Group)
  | [] => []
  | g :: rest => reduce g :: reduceEach rest

end

/-! ## Combining groups -/

/-- The conjunctions that pick one item from each group, the items of leaves
    being looked up. -/
def conjoin {m : Type → Type} [Monad m] (lookup : String → m (List Peer)) (groups : List Group) :
    m (List Group) := do
  return (Product.tuples (← groups.mapM (items lookup))).map .all

/-- `threshold` of the groups: the conjunctions of every such choice, to be read
    as a disjunction. -/
def atLeast (threshold : Int32) (groups : List Group) : Except Failure (List Group) :=
  if threshold.toInt ≤ 0 ∨ groups.length < threshold.toInt.toNat then
    .error (.badThreshold threshold groups.length)
  else .ok ((Product.choices groups threshold.toInt.toNat).map .all)

end Endorsement.Group
