import Endorsement.Balance
import Endorsement.Group.Reduce

/-!
# Resolvers

A resolver holds the alternatives of a policy and the state of its chooser. The
alternatives are computed once; which peers stand behind their leaves is looked
up each time, so peers that join or leave are seen at once.

* `Group.legs`: the leaves of an alternative, each of which a candidate has a
  peer of;
* `Resolver.alternativesOf`: the alternatives of a disjunction of groups;
* `Resolver.candidates`: the candidates at the moment;
* `Resolver.resolve`: the candidate chosen;
* `Resolver.text`: a resolver on one line.
-/

namespace Endorsement

namespace Group

mutual

/-- The leaves of a group, from left to right; a peer is a leaf of itself. -/
def legs : Group → List PeerGroup
  | .peer p => [.fixed [p]]
  | .leaf peers => [peers]
  | .all items => legsOfEach items
  | .any groups => legsOfEach groups

/-- The leaves of some groups. -/
def legsOfEach : List Group → List PeerGroup
  | [] => []
  | g :: rest => legs g ++ legsOfEach rest

end

end Group

/-- The alternatives of a policy, and the state of a chooser among candidates. -/
structure Resolver (ρ : Type) where
  alternatives : List Group
  chooser : ρ
  deriving Repr

namespace Resolver

/-- The alternatives of a disjunction of groups; there has to be one. -/
def alternativesOf (groups : List Group) : ExceptT Failure Logged (List Group) := do
  let alternatives := (Group.any groups).reduce
  if alternatives.isEmpty then throw .noAlternatives
  report (.resolverBuilt alternatives.length)
  return alternatives

variable {m : Type → Type} [Monad m]

/-- The candidates of an alternative: one peer of each of its leaves. -/
def candidatesOf (lookup : String → m (List Peer)) (alternative : Group) : m (List Candidate) := do
  return Product.tuples (← alternative.legs.mapM (PeerGroup.peers lookup))

/-- The candidates of all alternatives, in their order. -/
def candidates (lookup : String → m (List Peer)) (alternatives : List Group) :
    m (List Candidate) := do
  return (← alternatives.mapM (candidatesOf lookup)).flatten

variable [MonadLiftT Logged m] {ρ : Type}

/-- The candidate chosen, and the resolver with its chooser's state afterwards. -/
def resolve (lookup : String → m (List Peer)) (balancer : Balancer m ρ) (resolver : Resolver ρ) :
    m (Candidate × Resolver ρ) := do
  let found ← candidates lookup resolver.alternatives
  report (.resolving found.length)
  let (chosen, chooser) ← balancer.choose found resolver.chooser
  return (chosen, { resolver with chooser })

/-- A resolver on one line; its chooser is left out. -/
def text (resolver : Resolver ρ) : String :=
  Text.partialRecord "PeerGroupResolver"
    [("msp_groups", Text.listing (Group.texts resolver.alternatives))]

end Resolver

end Endorsement
