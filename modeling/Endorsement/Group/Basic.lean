import Endorsement.Peer

/-!
# Groups of peers

Policies are compiled into groups, and selections are made from them. A group
is a peer, a leaf that stands for some peers, a conjunction or a disjunction.

* `PeerGroup`: a leaf, either fixed peers or all live peers of an organisation.
  The latter are looked up when they are needed, by a function from the
  organisation to its peers that is given at that moment;
* `Group`: the terms;
* `PeerGroup.same`, `Group.same`: equality as sets. The order of items does not
  matter; both sides have the same number of items, and each item of one has an
  equal in the other;
* `Group.items`: what a group consists of at its top level;
* `Group.text`: a group on one line.
-/

namespace Endorsement

/-! ## Leaves -/

/-- A leaf: some peers. -/
inductive PeerGroup where
  /-- The given peers. -/
  | fixed (peers : List Peer)
  /-- The live peers of an organisation. -/
  | msp (mspId : String)
  deriving DecidableEq, Repr

namespace PeerGroup

/-- The organisation whose peers a leaf stands for, if it is not fixed. -/
def mspId? : PeerGroup → Option String
  | .fixed _ => none
  | .msp mspId => some mspId

/-- The current peers of a leaf; those of an organisation are looked up. -/
def peers {m : Type → Type} [Monad m] (lookup : String → m (List Peer)) :
    PeerGroup → m (List Peer)
  | .fixed peers => pure peers
  | .msp mspId => lookup mspId

/-- Fixed leaves are equal as sets of peers, others if they stand for the same
    organisation. -/
def same : PeerGroup → PeerGroup → Bool
  | .fixed a, .fixed b => a.length == b.length && a.all b.contains && b.all a.contains
  | .msp a, .msp b => a == b
  | _, _ => false

/-- A leaf on one line. -/
def text : PeerGroup → String
  | .fixed peers => Text.wrapped "Static" (Text.listing (peers.map Peer.text))
  | .msp mspId => Text.record "Msp" [("msp_id", Text.quoted mspId)]

end PeerGroup

/-! ## Terms -/

/-- A term over peers. -/
inductive Group where
  /-- A single peer. -/
  | peer (p : Peer)
  /-- Any one of the peers of a leaf. -/
  | leaf (peers : PeerGroup)
  /-- All of the items together. -/
  | all (items : List Group)
  /-- Any one of the groups. -/
  | any (groups : List Group)
  deriving Repr

namespace Group

/-- Whether a group is a conjunction. -/
def isAll : Group → Bool
  | .all _ => true
  | _ => false

/-- What a group consists of: the items of a conjunction, the groups of a
    disjunction, the current peers of a leaf. -/
def items {m : Type → Type} [Monad m] (lookup : String → m (List Peer)) : Group → m (List Group)
  | .peer p => pure [.peer p]
  | .leaf peerGroup => do return (← peerGroup.peers lookup).map .peer
  | .all items => pure items
  | .any groups => pure groups

/-! ### Equality as sets -/

mutual

/-- Equality of groups as sets, at every level. -/
def same : Group → Group → Bool
  | .peer a, .peer b => a == b
  | .leaf a, .leaf b => a.same b
  | .all as, .all bs => as.length == bs.length && coveredBy as bs && bs.all (covers as)
  | .any as, .any bs => as.length == bs.length && coveredBy as bs && bs.all (covers as)
  | _, _ => false

/-- Every group of the first list has an equal in the second. -/
def coveredBy : List Group → List Group → Bool
  | [], _ => true
  | a :: as, bs => bs.any (fun b => same a b) && coveredBy as bs

/-- Some group of the list equals the given one. -/
def covers : List Group → Group → Bool
  | [], _ => false
  | a :: as, b => same a b || covers as b

end

/-- Equality of lists of groups as sets. -/
def sameAll (as bs : List Group) : Bool :=
  as.length == bs.length && coveredBy as bs && bs.all (covers as)

/-- A list with a group added at its end, unless it holds an equal one. -/
def insertNew (groups : List Group) (g : Group) : List Group :=
  if covers groups g then groups else groups ++ [g]

/-- The groups without those that equal an earlier one. -/
def distinct (groups : List Group) : List Group :=
  groups.foldl insertNew []

/-! ### Text -/

mutual

/-- A group on one line. -/
def text : Group → String
  | .peer p => Text.wrapped "Peer" p.text
  | .leaf peers => Text.wrapped "Peers" peers.text
  | .all items => Text.wrapped "Items" (Text.listing (itemTexts items))
  | .any groups =>
    Text.wrapped "OfGroups" (Text.record "GroupOfGroups" [("groups", Text.listing (texts groups))])

/-- The items of a conjunction, each on one line. -/
def itemTexts : List Group → List String
  | [] => []
  | .peer p :: rest => Text.wrapped "Peer" p.text :: itemTexts rest
  | g :: rest => Text.wrapped "Group" g.text :: itemTexts rest

/-- Groups, each on one line. -/
def texts : List Group → List String
  | [] => []
  | g :: rest => g.text :: texts rest

end

end Group

end Endorsement
