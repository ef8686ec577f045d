import Endorsement.Identity.Listener
import Endorsement.Proofs.Identity.Register

/-!
# What listeners read

A listener that is driven reads all that is pending in its queue, unless it was
stopped, and applies it to the register.

* `Queue.read`, `Queue.driven`: what a listener reads, and what is left of its queue;
* `Listeners.run_drive`: driving applies what the listeners read, one after the
  other.
-/

namespace Endorsement.Identity

open Gossip

namespace Register

theorem left_handleAll_append (first rest : List Message) (r : Register) :
    left (handleAll (first ++ rest)) r = left (handleAll rest) (left (handleAll first) r) := by
  rw [left_handleAll, left_handleAll, left_handleAll, List.flatMap_append, Table.insertAll_append]

/-- It makes no difference whether other messages are left out before. -/
theorem left_handleAll_filter (messages : List Message) (r : Register) :
    left (handleAll (messages.filter Message.isIdentityUpdate)) r =
      left (handleAll messages) r := by
  rw [left_handleAll, left_handleAll, flatMap_named_filter]

end Register

namespace Queue

/-- The messages that the listener reads when it is driven. -/
def read (q : Queue) : List Message :=
  if q.isLive then q.pending else []

/-- The queue when its listener was driven. -/
def driven (q : Queue) : Queue :=
  { q with pending := [], stage := if q.isLive && !q.closed then .listening else .gone }

theorem push_eq (q : Queue) (message : Message) :
    q.push message =
      ⟨if q.accepts then q.pending ++ [message] else q.pending, q.closed, q.stage⟩ := by
  rw [push]
  split <;> rfl

theorem run_drive (q : Queue) (r : Register) :
    Runs.run q.drive (r, ()) = (q.driven, Register.left (Register.handleAll q.read) r, ()) := by
  rw [drive, read, driven]
  cases hlive : q.isLive with
  | false => rfl
  | true =>
    rw [if_pos rfl, if_pos rfl, ← Register.left_handleAll_filter]
    by_cases hstarted : q.stage = .started <;> cases hclosed : q.closed <;>
      simp only [hstarted, reduceIte] <;> rfl

end Queue

namespace Listeners

theorem length_stop (l : Listeners) : l.stop.queues.length = l.queues.length := by
  rw [stop]
  cases l.current with
  | none => rfl
  | some i => exact List.length_modify _ _ _

/-- Only the listener at work is stopped. -/
theorem getElem?_stop (l : Listeners) (i : Nat) :
    l.stop.queues[i]? = l.queues[i]?.map fun q => if l.current = some i then q.stop else q := by
  rw [stop]
  cases l.current with
  | none => simp
  | some j => simp [List.getElem?_modify]

theorem run_driveAll (queues : List Queue) (r : Register) :
    Runs.run (driveAll queues) (r, ()) =
      (queues.map Queue.driven, Register.left (Register.handleAll (queues.flatMap Queue.read)) r,
        ()) := by
  induction queues generalizing r with
  | nil => rfl
  | cons q rest ih =>
    simp only [driveAll, Runs.run_bind, Queue.run_drive, ih, Runs.run_pure]
    rw [List.map_cons, List.flatMap_cons, Register.left_handleAll_append]

theorem run_drive (l : Listeners) (r : Register) :
    Runs.run l.drive (r, ()) =
      ({ l with queues := l.queues.map Queue.driven },
        Register.left (Register.handleAll (l.queues.flatMap Queue.read)) r, ()) := by
  rw [drive, Runs.run_bind, run_driveAll, Runs.run_pure]

end Listeners

end Endorsement.Identity
