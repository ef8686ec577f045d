/-!
# Schedules

Callers that share something move one atomic step at a time. A schedule lists
whose step comes next; any list is one, whatever the order and however often a
caller occurs in it.

* `Schedule.turns`: a schedule in which all callers take turns, often enough
  for each of them to be done.
-/

namespace Endorsement.Schedule

/-- The steps that a caller makes at most, from the moment it gets the lock
    that all of them want. -/
def stepsWithLock : Nat := 6

/-- `n` callers take turns for as long as they need if each one waits for all
    others. -/
def turns (n : Nat) : List Nat :=
  (List.replicate (stepsWithLock * (n + 1)) (List.range n)).flatten

end Endorsement.Schedule
