import Endorsement.Chaincode.Cache
import Endorsement.Schedule

/-!
# Chaincode data, asked for by many

Several callers query, invalidate and clear one chaincode cache at once. Each
goes through its phases one atomic step at a time, in any interleaving: a query
looks for the data; if there is none, it takes the fill lock, looks again, asks
the provider and inserts what it answers. Invalidating and clearing is a single
step and does not wait for the lock.

* `Request`, `Phase`, `Caller`: what is asked for, and where a caller stands;
* `Shared`: the cache, the lock and the callers;
* `Shared.step`, `Shared.run`: the step of one caller, and of many in turn;
* `Shared.queryAll`: lets a number of callers query, all of them in turn.
-/

namespace Endorsement.ChaincodeCache

/-- What a caller wants. -/
inductive Request where
  /-- The data of a chaincode. -/
  | query (channel chaincode : String)
  /-- That the data of a chaincode is forgotten. -/
  | invalidate (channel chaincode : String)
  /-- That all data is forgotten. -/
  | clear
  deriving DecidableEq, Repr

/-- Where a caller stands. -/
inductive Phase where
  /-- It has not begun. -/
  | idle
  /-- About to take the fill lock. -/
  | waiting
  /-- Has the lock, and is about to look again. -/
  | lookingAgain
  /-- Has the lock, and is about to ask the provider. -/
  | asking
  /-- Has the lock, and is about to insert the data. -/
  | inserting (data : Chaincode)
  /-- Has the lock, and is about to release it. -/
  | releasing (answer : Except Failure Chaincode)
  /-- Has its answer. -/
  | answered (answer : Except Failure Chaincode)
  /-- Has done what it wanted. -/
  | finished
  deriving Repr

/-- A caller. -/
structure Caller where
  request : Request
  phase : Phase := .idle
  deriving Repr

/-- The answer of a caller, once it has one. -/
def Caller.answer? (c : Caller) : Option (Except Failure Chaincode) :=
  match c.phase with
  | .answered answer => some answer
  | _ => none

/-- A cache and those who use it. -/
structure Shared where
  cache : ChaincodeCache := .empty
  /-- The caller that has the fill lock. -/
  holder : Option Nat := none
  callers : List Caller := []

namespace Shared

/-- A caller moves on to a phase. -/
def moveTo (s : Shared) (i : Nat) (phase : Phase) : Shared :=
  { s with callers := s.callers.modify i fun c => { c with phase } }

variable {m : Type → Type} [Monad m] [MonadLiftT Logged m]

/-- One step of a query for a chaincode. -/
def stepQuery (provider : ChaincodeProvider m) (channel chaincode : String) (i : Nat)
    (phase : Phase) (s : Shared) : m Shared := do
  match phase with
  | .idle =>
    match s.cache.find? (channel, chaincode) with
    | some data => return s.moveTo i (.answered (.ok data))
    | none => return s.moveTo i .waiting
  | .waiting =>
    match s.holder with
    | some _ => return s
    | none => return { s.moveTo i .lookingAgain with holder := some i }
  | .lookingAgain =>
    -- Another caller may have inserted the data since.
    match s.cache.find? (channel, chaincode) with
    | some data => return s.moveTo i (.releasing (.ok data))
    | none => return s.moveTo i .asking
  | .asking =>
    report (.chaincodeQueried channel chaincode)
    match ← provider channel chaincode with
    | .ok data => return s.moveTo i (.inserting data)
    | .error failure => return s.moveTo i (.releasing (.error failure))
  | .inserting data =>
    return { s.moveTo i (.releasing (.ok data)) with
      cache := s.cache.insert (channel, chaincode) data }
  | .releasing answer => return { s.moveTo i (.answered answer) with holder := none }
  | .answered _ | .finished => return s

/-- One step of a caller; nothing happens if it cannot move. -/
def step (provider : ChaincodeProvider m) (i : Nat) (s : Shared) : m Shared :=
  match s.callers[i]? with
  | none => return s
  | some ⟨.query channel chaincode, phase⟩ => s.stepQuery provider channel chaincode i phase
  | some ⟨.invalidate channel chaincode, .idle⟩ =>
    return { s.moveTo i .finished with cache := s.cache.invalidate channel chaincode }
  | some ⟨.clear, .idle⟩ => return { s.moveTo i .finished with cache := s.cache.clear }
  | some _ => return s

/-- The steps of callers, in the order of a schedule. -/
def run (provider : ChaincodeProvider m) : List Nat → Shared → m Shared
  | [], s => return s
  | i :: rest, s => do run provider rest (← s.step provider i)

/-- The answers to `n` queries for a chaincode at the same time, and the cache
    afterwards. -/
def queryAll (provider : ChaincodeProvider m) (channel chaincode : String) (n : Nat)
    (cache : ChaincodeCache) : m (List (Except Failure Chaincode) × ChaincodeCache) := do
  let callers := List.replicate n { request := .query channel chaincode }
  let s ← run provider (Schedule.turns n) { cache, callers }
  return (s.callers.filterMap Caller.answer?, s.cache)

end Shared

end Endorsement.ChaincodeCache
