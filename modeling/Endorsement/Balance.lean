import Endorsement.Config.Basic
import Endorsement.Event

/-!
# Choosing among candidates

A selection ends with a list of candidates, each a list of peers, of which one
is chosen. A balancer does that; it may keep a state of its own between its
choices, and answers no peers if there are no candidates.

* `Balancer`: a way to choose, with fresh states of its own;
* `RoundRobin.next`: the candidate after the last one, the first after the end;
* `Balance.choose`, `Balance.balancer`: the built-in ways to choose. A random
  number is an answer of the surroundings, of which the remainder by the number
  of candidates is used;
* `Balancer.first`, `Balancer.last`, `Balancer.turn`: choosers without chance,
  the last of which counts its choices.
-/

namespace Endorsement

/-- A candidate: peers that together satisfy what was asked for. -/
abbrev Candidate := List Peer

/-- A way to choose, acting in `m`, with states of type `ρ`. -/
structure Balancer (m : Type → Type) (ρ : Type) where
  /-- The state of a new chooser. -/
  fresh : m ρ
  /-- The choice among the candidates, and the state afterwards. -/
  choose : List Candidate → ρ → m (Candidate × ρ)

/-- The position of a round robin: that of its last choice, if there was one. -/
abbrev Position := Option Nat

/-- The next position among `count` candidates: after the last one, or at
    `start`; past the end it is the first. -/
def RoundRobin.next (start : Nat) (last : Position) (count : Nat) : Nat :=
  let next := match last with
    | none => start
    | some last => last + 1
  if next < count then next else 0

variable {m : Type → Type} [Monad m]

/-- The candidate at a position; no peers past the end. -/
def candidateAt (candidates : List Candidate) (position : Nat) : Candidate :=
  candidates[position]?.getD []

/-! ## Built-in ways -/

namespace Balance

/-- The choice of a built-in way, and its position afterwards. Without
    candidates there is no choice, no random number is drawn and the position
    stays. -/
def choose (draw : m Nat) (balance : Balance) (candidates : List Candidate) (last : Position) :
    m (Candidate × Position) := do
  let count := candidates.length
  if count = 0 then return ([], last)
  match balance, last with
  | .random, last => return (candidateAt candidates ((← draw) % count), last)
  | .roundRobin, none =>
    let position := RoundRobin.next ((← draw) % count) none count
    return (candidateAt candidates position, some position)
  | .roundRobin, some last =>
    let position := RoundRobin.next 0 (some last) count
    return (candidateAt candidates position, some position)

/-- A built-in way to choose. New choosers have no position yet. -/
def balancer (draw : m Nat) (balance : Balance) : Balancer m Position where
  fresh := pure none
  choose := balance.choose draw

end Balance

/-! ## Choosers without chance -/

namespace Balancer

/-- Always the first candidate. -/
def first : Balancer m Position where
  fresh := return none
  choose candidates last := return (candidateAt candidates 0, last)

/-- Always the last candidate. -/
def last : Balancer m Position where
  fresh := return none
  choose candidates last := return (candidateAt candidates (candidates.length - 1), last)

/-- The candidate whose position is the number of choices so far, counted round;
    choices without candidates count too. -/
def turn : Balancer m Position where
  fresh := return none
  choose candidates count :=
    let calls := count.getD 0
    return (candidateAt candidates (calls % candidates.length), some (calls + 1))

/-- The same way to choose, with an action before each new chooser. -/
def onFresh {ρ : Type} (action : m Unit) (balancer : Balancer m ρ) : Balancer m ρ where
  fresh := do
    action
    balancer.fresh
  choose := balancer.choose

end Balancer

end Endorsement
