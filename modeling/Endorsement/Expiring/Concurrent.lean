import Endorsement.Expiring
import Endorsement.Schedule

/-!
# Values that expire, asked for by many

Several callers ask for the same value at once. Each of them goes through the
same phases, one atomic step at a time, in any interleaving: it looks for a
fresh value; if there is none, it takes the refresh lock, looks again, since
another caller may have loaded the value meanwhile, and only then loads and
stores it. The lock is part of the state, and a caller that wants it while
another one has it stays where it is.

* `Phase`: where a caller stands;
* `Shared`: the value, the lock and the callers;
* `Shared.step`, `Shared.run`: the step of one caller, and of many in turn;
* `Shared.getAll`: lets a number of callers ask, all of them in turn.
-/

namespace Endorsement.Expiring

/-- Where a caller stands. -/
inductive Phase (α : Type) where
  /-- About to look for a fresh value. -/
  | looking
  /-- About to take the refresh lock. -/
  | waiting
  /-- Has the lock, and is about to look again. -/
  | lookingAgain
  /-- Has the lock, and is about to load the value. -/
  | loading
  /-- Has the lock, and is about to store the value it loaded. -/
  | storing (value : α)
  /-- Has the lock, and is about to release it. -/
  | releasing (value : α)
  /-- Has its answer. -/
  | done (value : α)
  deriving Repr

/-- The answer of a caller, once it has one. -/
def Phase.answer? {α : Type} : Phase α → Option α
  | .done value => some value
  | _ => none

/-- A value and those who ask for it. -/
structure Shared (α : Type) where
  entry : Expiring α := {}
  /-- The caller that has the refresh lock. -/
  holder : Option Nat := none
  /-- How many times the value was loaded. -/
  loads : Nat := 0
  /-- Where each caller stands. -/
  phases : List (Phase α) := []
  deriving Repr

namespace Shared

variable {α : Type} {m : Type → Type} [Monad m]

/-- A caller moves on to a phase. -/
def moveTo (s : Shared α) (i : Nat) (phase : Phase α) : Shared α :=
  { s with phases := s.phases.set i phase }

/-- One step of a caller; nothing happens if it cannot move. -/
def step (lifetime : Duration) (clock : m Moment) (load : Option α → m α) (i : Nat)
    (s : Shared α) : m (Shared α) := do
  match s.phases[i]? with
  | some .looking =>
    match s.entry.fresh? lifetime (← clock) with
    | some value => return s.moveTo i (.done value)
    | none => return s.moveTo i .waiting
  | some .waiting =>
    match s.holder with
    | some _ => return s
    | none => return { s.moveTo i .lookingAgain with holder := some i }
  | some .lookingAgain =>
    -- Another caller may have stored a value since.
    match s.entry.fresh? lifetime (← clock) with
    | some value => return s.moveTo i (.releasing value)
    | none => return s.moveTo i .loading
  | some .loading =>
    let value ← load s.entry.previous
    return { s.moveTo i (.storing value) with loads := s.loads + 1 }
  | some (.storing value) =>
    return { s.moveTo i (.releasing value) with entry := store value (← clock) }
  | some (.releasing value) => return { s.moveTo i (.done value) with holder := none }
  | some (.done _) | none => return s

/-- The steps of callers, in the order of a schedule. -/
def run (lifetime : Duration) (clock : m Moment) (load : Option α → m α) :
    List Nat → Shared α → m (Shared α)
  | [], s => return s
  | i :: rest, s => do run lifetime clock load rest (← s.step lifetime clock load i)

/-- The answers to `n` callers who ask at the same time, and the value
    afterwards. -/
def getAll (lifetime : Duration) (clock : m Moment) (load : Option α → m α) (n : Nat)
    (entry : Expiring α) : m (List α × Expiring α) := do
  let s ← run lifetime clock load (Schedule.turns n) { entry, phases := List.replicate n .looking }
  return (s.phases.filterMap Phase.answer?, s.entry)

end Shared

end Endorsement.Expiring
