import Endorsement.Duration
import Endorsement.Event

/-!
# Values that expire

A value that is loaded when it is first asked for, and again when it is asked
for after its lifetime or after it was invalidated. The loader is handed the
value that it loaded before, so that it can fall back on it.

* `Expiring`: the last value loaded, and when, unless it was invalidated since;
* `Expiring.fresh?`: the value, if it need not be loaded again;
* `Expiring.get`, `Expiring.invalidate`: asking for the value, and making the
  next one who asks load it.
-/

namespace Endorsement

/-- A moment, in nanoseconds of a clock that never goes back. -/
abbrev Moment := Nat

/-- A value and the moment it was loaded, none once it was invalidated. -/
structure Loaded (α : Type) where
  value : α
  loadedAt : Option Moment
  deriving Repr

/-- A value that expires. -/
structure Expiring (α : Type) where
  /-- What was loaded last, if anything was. -/
  last : Option (Loaded α) := none
  deriving Repr

namespace Expiring

variable {α : Type}

/-- The value last loaded, fresh or not. -/
def previous (e : Expiring α) : Option α :=
  e.last.map Loaded.value

/-- The value last loaded, if its lifetime has not passed and it was not
    invalidated. -/
def fresh? (lifetime : Duration) (now : Moment) (e : Expiring α) : Option α :=
  match e.last with
  | some ⟨value, some loadedAt⟩ => if now - loadedAt < lifetime.nanos then some value else none
  | _ => none

/-- Makes the next one who asks load the value again. -/
def invalidate (e : Expiring α) : Expiring α :=
  ⟨e.last.map fun loaded => { loaded with loadedAt := none }⟩

/-- The value, loaded at the given moment. -/
def store (value : α) (now : Moment) : Expiring α :=
  ⟨some ⟨value, some now⟩⟩

variable {m : Type → Type} [Monad m]

/-- The value: the fresh one, or one loaded now. -/
def get (lifetime : Duration) (clock : m Moment) (load : Option α → m α) :
    StateT (Expiring α) m α := fun e => do
  match e.fresh? lifetime (← clock) with
  | some value => return (value, e)
  | none =>
    let value ← load e.previous
    return (value, store value (← clock))

end Expiring

end Endorsement
