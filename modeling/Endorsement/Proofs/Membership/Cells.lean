import Endorsement.Membership.Cache
import Endorsement.Proofs.Expiring

/-!
# The cells of a membership cache

A membership cache has a cell for all peers and one for each channel that was
asked about; the others are empty. Every query concerns one cell: it asks for
the snapshot in it, and leaves all other cells alone.

* `Cell`, `MembershipCache.stored`, `MembershipCache.store`: the cells, what is
  in them, and putting something there;
* `Setup.ask`: asks the source for the peers of a cell;
* `MembershipCache.snapshot`, `MembershipCache.run_snapshot`: asking for the
  snapshot in a cell.
-/

namespace Endorsement.MembershipCache

/-- A cell of a membership cache. -/
inductive Cell where
  /-- That of all peers. -/
  | all
  /-- That of the peers of a channel. -/
  | channel (name : String)
  deriving DecidableEq, Repr

/-- What is in a cell. -/
def stored (cache : MembershipCache) : Cell → Expiring Snapshot
  | .all => cache.all
  | .channel name => (cache.channels.find? name).getD {}

/-- The cache with something put into a cell. -/
def store (cell : Cell) (e : Expiring Snapshot) (cache : MembershipCache) : MembershipCache :=
  match cell with
  | .all => { cache with all := e }
  | .channel name => { cache with channels := cache.channels.insert name e }

theorem stored_empty (cell : Cell) : stored {} cell = {} := by
  cases cell <;> rfl

theorem stored_store (cell k : Cell) (e : Expiring Snapshot) (cache : MembershipCache) :
    (cache.store cell e).stored k = if cell = k then e else cache.stored k := by
  cases cell with
  | all => cases k <;> simp [stored, store]
  | channel name =>
    cases k with
    | all => simp [stored, store]
    | channel name' =>
      simp only [stored, store, Table.find?_insert, Cell.channel.injEq]
      split <;> rfl

/-- Putting back what is in a cell changes nothing. -/
theorem stored_store_stored (cell k : Cell) (cache : MembershipCache) :
    (cache.store cell (cache.stored cell)).stored k = cache.stored k := by
  rw [stored_store]
  split
  · rename_i hcell
    rw [hcell]
  · rfl

theorem stored_invalidate (cache : MembershipCache) (cell : Cell) :
    cache.invalidate.stored cell = (cache.stored cell).invalidate := by
  cases cell with
  | all => rfl
  | channel name =>
    simp only [stored, invalidate, Table.find?_map]
    cases cache.channels.find? name <;> rfl

/-! ## Queries -/

variable {m : Type → Type} [Monad m]

/-- Asks the source for the peers of a cell. -/
def Setup.ask (setup : Setup m) : Cell → m (Except Failure (List Peer))
  | .all => setup.source.allPeers
  | .channel name => setup.source.peersOfChannel name

/-- Loads the snapshot of a cell, given the one before. -/
def Setup.load (setup : Setup m) (cell : Cell) (previous : Option Snapshot) : m Snapshot := do
  return Snapshot.reload previous (← setup.ask cell)

variable [MonadLiftT Logged m]

/-- Asks for the snapshot in a cell. -/
def snapshot (setup : Setup m) : Cell → StateT MembershipCache m Snapshot
  | .all => allSnapshot setup
  | .channel name => channelSnapshot setup name

variable {σ : Type} [Runs m σ]

/-- Asking for the snapshot in a cell is asking for the value in it, which is
    put back. -/
theorem run_snapshot (setup : Setup m) (cell : Cell) (cache : MembershipCache) (s : σ) :
    Runs.run (snapshot setup cell) (cache, s) =
      let r := Runs.run ((cache.stored cell).get setup.lifetime setup.clock (setup.load cell)) s
      (r.1.1, cache.store cell r.1.2, r.2) := by
  have hget : ∀ (e : Expiring Snapshot), Runs.run (e.get setup.lifetime (liftM setup.clock)
      (fun previous => do return Snapshot.reload previous (← liftM (setup.ask cell))) :
        StateT MembershipCache m (Snapshot × Expiring Snapshot)) (cache, s) =
      let r := Runs.run (e.get setup.lifetime setup.clock (setup.load cell)) s
      (r.1, cache, r.2) :=
    fun e => Expiring.run_get_lift (fun previous s => by
      simp only [Setup.load, Runs.run_bind, Runs.run_lift, Runs.run_pure]) s
  cases cell with
  | all =>
    simp only [Setup.ask] at hget
    simp only [snapshot, allSnapshot, Runs.run_bind, Runs.run_get, hget, Runs.run_set,
      Runs.run_pure]
    rfl
  | channel name =>
    have hcell : Runs.run (MembershipCache.cell name : StateT MembershipCache m _) (cache, s) =
        (cache.stored (.channel name), cache, s) := by
      simp only [MembershipCache.cell, Runs.run_bind, Runs.run_get, stored]
      cases cache.channels.find? name <;> simp
    simp only [Setup.ask] at hget
    simp only [snapshot, channelSnapshot, Runs.run_bind, hcell, hget, Runs.run_modify,
      Runs.run_pure]
    rfl

theorem run_membership (setup : Setup m) (channel : String) (cache : MembershipCache) (s : σ) :
    Runs.run (membership setup channel) (cache, s) =
      let r := Runs.run (snapshot setup (.channel channel)) (cache, s)
      (⟨r.1.peers, r.1.failure, setup.pollingEnabled⟩, r.2) := by
  simp only [membership, snapshot, Runs.run_bind, Runs.run_log, Runs.run_pure]

theorem run_peersOfChannel (setup : Setup m) (channel : String) (cache : MembershipCache) (s : σ) :
    Runs.run (peersOfChannel setup channel) (cache, s) =
      let r := Runs.run (snapshot setup (.channel channel)) (cache, s)
      (r.1.usable, r.2) := by
  simp only [peersOfChannel, snapshot, Runs.run_bind, Runs.run_pure]

theorem run_allPeers (setup : Setup m) (cache : MembershipCache) (s : σ) :
    Runs.run (allPeers setup) (cache, s) =
      let r := Runs.run (snapshot setup .all) (cache, s)
      (r.1.usable, r.2) := by
  simp only [allPeers, snapshot, Runs.run_bind, Runs.run_pure]

/-! ## Answers -/

/-- What can be asked of a membership cache. -/
inductive Query where
  /-- The membership of a channel. -/
  | membership (channel : String)
  /-- The peers of a channel. -/
  | peersOfChannel (channel : String)
  /-- All peers. -/
  | allPeers

/-- What is answered. -/
inductive Answer where
  | membership (m : Membership)
  | peers (peers : Except Failure (List Peer))
  deriving DecidableEq

namespace Query

/-- The cell that a query concerns. -/
def cell : Query → Cell
  | .membership channel | .peersOfChannel channel => .channel channel
  | .allPeers => .all

/-- Asks a query. -/
def ask (setup : Setup m) : Query → StateT MembershipCache m Answer
  | .membership channel => return .membership (← MembershipCache.membership setup channel)
  | .peersOfChannel channel => return .peers (← MembershipCache.peersOfChannel setup channel)
  | .allPeers => return .peers (← MembershipCache.allPeers setup)

/-- The answer to a query, given the snapshot in its cell. -/
def answer (pollingEnabled : Bool) (snapshot : Snapshot) : Query → Answer
  | .membership _ => .membership ⟨snapshot.peers, snapshot.failure, pollingEnabled⟩
  | .peersOfChannel _ | .allPeers => .peers snapshot.usable

/-- The answer to a query depends on the snapshot in its cell alone. -/
theorem run_ask (setup : Setup m) (q : Query) (cache : MembershipCache) (s : σ) :
    Runs.run (q.ask setup) (cache, s) =
      let r := Runs.run (snapshot setup q.cell) (cache, s)
      (q.answer setup.pollingEnabled r.1, r.2) := by
  cases q with
  | membership channel => simp only [ask, Runs.run_bind, run_membership, Runs.run_pure]; rfl
  | peersOfChannel channel => simp only [ask, Runs.run_bind, run_peersOfChannel, Runs.run_pure]; rfl
  | allPeers => simp only [ask, Runs.run_bind, run_allPeers, Runs.run_pure]; rfl

end Query

end Endorsement.MembershipCache
