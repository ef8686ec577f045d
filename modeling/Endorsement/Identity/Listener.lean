import Endorsement.Identity.Register

/-!
# Identity listeners

A listener reads gossip messages from a queue of its own and applies the
identities in them to the register. Listeners work only when they are driven;
in between, messages wait in their queues.

There is at most one listener at work. Starting another one stops it, and so
does shutting down: a stopped listener applies nothing any more, and what waits
in its queue is lost. The next drive takes it away; until then its queue takes
messages.

* `Queue`, `Stage`: a queue, and what has become of its listener;
* `Listeners`: all queues so far, numbered from zero, and the one at work;
* `Listeners.start`, `Listeners.stop`, `Listeners.send`, `Listeners.close`,
  `Listeners.drive`: what can be done.
-/

namespace Endorsement.Identity

open Gossip

/-- What has become of a listener. -/
inductive Stage where
  /-- It has not been driven yet. -/
  | started
  /-- It has read all there was, and waits for more. -/
  | listening
  /-- It was stopped, and is not taken away yet. -/
  | stopped
  /-- It is gone. -/
  | gone
  deriving DecidableEq, Repr

/-- The queue of a listener. -/
structure Queue where
  /-- The messages not read yet, oldest first. -/
  pending : List Message := []
  /-- Whether there will be no more messages. -/
  closed : Bool := false
  stage : Stage := .started
  deriving Repr

namespace Queue

/-- A queue takes messages until it is closed or its listener is gone. -/
def accepts (q : Queue) : Bool :=
  !q.closed && q.stage != .gone

/-- Adds a message, if the queue takes it. -/
def push (message : Message) (q : Queue) : Queue :=
  if q.accepts then { q with pending := q.pending ++ [message] } else q

/-- Stops the listener, unless it is gone. -/
def stop (q : Queue) : Queue :=
  if q.stage = .gone then q else { q with stage := .stopped }

/-- Whether the listener can still apply messages. -/
def isLive (q : Queue) : Bool :=
  q.stage = .started || q.stage = .listening

/-- Lets the listener read all that is pending. A closed queue then ends it; a
    stopped listener is taken away without reading. -/
def drive (q : Queue) : Act Register Queue := do
  if q.isLive then
    -- A listener reports its start when it is driven for the first time.
    if q.stage = .started then report .listenerStarted
    Register.handleAll (q.pending.filter Message.isIdentityUpdate)
    if q.closed then
      report .listenerEnded
      return { q with pending := [], stage := .gone }
    return { q with pending := [], stage := .listening }
  else return { q with pending := [], stage := .gone }

end Queue

/-- The queues of all listeners so far, and the number of the one at work. -/
structure Listeners where
  queues : List Queue := []
  current : Option Nat := none
  deriving Repr

namespace Listeners

/-- Stops the listener at work, if there is one. -/
def stop (l : Listeners) : Listeners :=
  match l.current with
  | none => l
  | some i => ⟨l.queues.modify i Queue.stop, none⟩

/-- Starts a listener on a new queue, instead of the one at work. -/
def start (l : Listeners) : Listeners :=
  ⟨l.stop.queues ++ [({} : Queue)], some l.queues.length⟩

/-- Whether a queue takes messages. -/
def accepts (l : Listeners) (i : Nat) : Bool :=
  (l.queues[i]?.map Queue.accepts).getD false

/-- Sends a message to a queue. -/
def send (i : Nat) (message : Message) (l : Listeners) : Listeners :=
  { l with queues := l.queues.modify i (Queue.push message) }

/-- Closes a queue. -/
def close (i : Nat) (l : Listeners) : Listeners :=
  { l with queues := l.queues.modify i fun q => { q with closed := true } }

/-- Drives queues, one after the other. -/
def driveAll : List Queue → Act Register (List Queue)
  | [] => return []
  | q :: rest => do
    let q ← q.drive
    return q :: (← driveAll rest)

/-- Drives all listeners. -/
def drive (l : Listeners) : Act Register Listeners := do
  return { l with queues := ← driveAll l.queues }

end Listeners

end Endorsement.Identity
