import Endorsement.Proofs.Identity.Register
import Endorsement.Proofs.Membership.Cells
import Endorsement.Proofs.Selection.Requests
import Endorsement.Selection.Context
import Mathlib.Data.List.Induction

/-!
# Contexts in use

A context is used in any order: what gossip and the chaincode provider know
changes, identities arrive, caches and resolvers are dropped, and requests are
made. All that happened is written down, newest first, each thing with what the
surroundings were asked in its course, and what they answered.

* `World`: the surroundings of a context, which write down what they are asked;
* `Move`, `Move.of_snapshot`: what a single question does to the stores and the
  surroundings;
* `Stable`, `Stable.request`: what single questions keep, requests keep;
* `Request`, `Edit`, `Op`: what can be done with a context;
* `Record`, `System`, `System.after`: a context in use, with its past;
* `System.after_of_forall`: what holds at some time and is kept from there on.
-/

namespace Endorsement.Selection

open MembershipCache

/-! ## Surroundings that change -/

/-- What gossip and the chaincode provider know. -/
structure Outside where
  /-- All members. -/
  members : List Member
  /-- The members on a channel. -/
  membersOfChannel : String → Except Failure (List Member)
  /-- The data of the chaincodes on a channel. -/
  chaincode : String → String → Except Failure Chaincode

/-- What the surroundings were asked, and what they answered. -/
inductive Asked where
  | members (answer : List Member)
  | membersOfChannel (channel : String) (answer : Except Failure (List Member))
  | chaincode (channel chaincode : String) (answer : Except Failure Chaincode)

/-- The surroundings of a context, as they are from now on. -/
structure World where
  outside : Outside
  /-- What the clock will say. -/
  readings : Readings
  /-- The random numbers that will be drawn. -/
  draws : Nat → Nat
  /-- What was asked so far, newest first. -/
  asked : List Asked := []

namespace World

/-- Writes down what was asked. -/
def note (asked : Asked) (world : World) : World :=
  { world with asked := asked :: world.asked }

/-- The clock was read. -/
def tick (world : World) : World :=
  { world with readings := world.readings.drop 1 }

/-- A random number was drawn. -/
def roll (world : World) : World :=
  { world with draws := fun i => world.draws (i + 1) }

/-- The surroundings as a context asks them. -/
def surroundings : Surroundings (Act World) where
  view.members := do
    let world ← get
    set (world.note (.members world.outside.members))
    return world.outside.members
  view.membersOfChannel channel := do
    let world ← get
    set (world.note (.membersOfChannel channel (world.outside.membersOfChannel channel)))
    return world.outside.membersOfChannel channel
  chaincode channel chaincode := do
    let world ← get
    set (world.note (.chaincode channel chaincode (world.outside.chaincode channel chaincode)))
    return world.outside.chaincode channel chaincode
  draw := do
    let world ← get
    set world.roll
    return world.draws 0
  clock := do
    let world ← get
    set world.tick
    return world.readings 0

/-- What is asked for the snapshot in a cell, and answered. -/
def answer (world : World) : Cell → Asked
  | .all => .members world.outside.members
  | .channel name => .membersOfChannel name (world.outside.membersOfChannel name)

/-- The peers that this tells of, by a register. -/
def peers (register : Identity.Register) (world : World) : Cell → Except Failure (List Peer)
  | .all => .ok (Member.peers register world.outside.members).value
  | .channel name =>
    (world.outside.membersOfChannel name).map fun members => (Member.peers register members).value

variable {world : World}

theorem run_chaincode (channel chaincode : String) :
    Runs.run (surroundings.chaincode channel chaincode) (world, ()) =
      (world.outside.chaincode channel chaincode,
        world.note (.chaincode channel chaincode (world.outside.chaincode channel chaincode)),
        ()) := by
  simp only [surroundings, Runs.run_bind, Runs.run_get, Runs.run_set, Runs.run_pure]

theorem run_draw :
    Runs.run surroundings.draw (world, ()) = (world.draws 0, world.roll, ()) := by
  simp only [surroundings, Runs.run_bind, Runs.run_get, Runs.run_set, Runs.run_pure]

theorem run_clock :
    Runs.run surroundings.clock (world, ()) = (world.readings 0, world.tick, ()) := by
  simp only [surroundings, Runs.run_bind, Runs.run_get, Runs.run_set, Runs.run_pure]

theorem run_load (config : Config) (register : Identity.Register) (cell : Cell)
    (previous : Option Snapshot) :
    Runs.run ((Stores.membershipSetup surroundings config register).load cell previous)
        (world, ()) =
      (.reload previous (world.peers register cell), world.note (world.answer cell), ()) := by
  cases cell with
  | all =>
    simp only [Setup.load, Setup.ask, Stores.membershipSetup, Gossip.View.source, surroundings,
      Runs.run_bind, Runs.run_get, Runs.run_set, Runs.run_log, Runs.run_pure]
    rfl
  | channel name =>
    simp only [Setup.load, Setup.ask, Stores.membershipSetup, Gossip.View.source, surroundings,
      Runs.run_bind, Runs.run_get, Runs.run_set, Runs.run_pure, peers, answer]
    cases world.outside.membersOfChannel name with
    | error failure => simp only [Runs.run_pure]; rfl
    | ok members => simp only [Runs.run_bind, Runs.run_log, Runs.run_pure]; rfl

end World

/-! ## Moves -/

/-- Acting on a part is acting on what the part holds. -/
theorem run_part {m : Type → Type} [Monad m] [MonadLiftT Logged m] {σ τ ρ α : Type} [Runs m σ]
    (part : Part τ ρ) (action : StateT ρ m α) (t : τ) (s : σ) :
    Runs.run (part.act action) (t, s) =
      let r := Runs.run action (part.get t, s)
      (r.1, part.set r.2.1 t, r.2.2) := by
  refine Runs.run_stateT ?_
  rw [Part.act, Runs.run_bind, Runs.run_pure]
  rfl

/-- What a context remembers, and its surroundings. -/
abbrev Scene := Stores × World × Unit

/-- The cache with what the provider answered; failures are not remembered. -/
def remember (channel chaincode : String) (answer : Except Failure Chaincode)
    (cache : ChaincodeCache) : ChaincodeCache :=
  match answer with
  | .ok data => cache.insert (channel, chaincode) data
  | .error _ => cache

/-- What a single question to the surroundings does. Only the data of some
    chaincodes may be asked for. -/
inductive Move (config : Config) (allowed : String → String → Prop) : Scene → Scene → Prop where
  /-- A snapshot is fresh; only the clock was read. -/
  | look (stores : Stores) (world : World) (cell : Cell) (snapshot : Snapshot)
      (h : (stores.membership.stored cell).fresh? config.lifetime (world.readings 0) =
        some snapshot) :
      Move config allowed (stores, world, ())
        ({ stores with
          membership := stores.membership.store cell (stores.membership.stored cell) },
          world.tick, ())
  /-- A snapshot is loaded. -/
  | load (stores : Stores) (world : World) (cell : Cell)
      (h : (stores.membership.stored cell).fresh? config.lifetime (world.readings 0) = none) :
      Move config allowed (stores, world, ())
        ({ stores with
          membership := stores.membership.store cell (.store
            (.reload (stores.membership.stored cell).previous (world.peers stores.register cell))
            (world.readings 1)) },
          (world.tick.note (world.answer cell)).tick, ())
  /-- The data of a chaincode is fetched. -/
  | fetch (stores : Stores) (world : World) (channel chaincode : String)
      (hallowed : allowed channel chaincode)
      (h : stores.chaincodes.find? (channel, chaincode) = none) :
      Move config allowed (stores, world, ())
        ({ stores with
          chaincodes := remember channel chaincode (world.outside.chaincode channel chaincode)
            stores.chaincodes },
          world.note (.chaincode channel chaincode (world.outside.chaincode channel chaincode)), ())
  /-- A random number is drawn. -/
  | draw (stores : Stores) (world : World) :
      Move config allowed (stores, world, ()) (stores, world.roll, ())

section Moves

variable {config : Config} {allowed : String → String → Prop} {stores : Stores} {world : World}
  {cell : Cell}

/-- The collaborators of the service of a context in use. -/
abbrev collaborators (config : Config) : Collaborators (StateT Stores (Act World)) :=
  Stores.collaborators World.surroundings config

/-- How the membership cache of a context in use asks. -/
abbrev membershipSetup (config : Config) (register : Identity.Register) : Setup (Act World) :=
  Stores.membershipSetup World.surroundings config register

theorem run_snapshot_fresh {snapshot : Snapshot}
    (h : (stores.membership.stored cell).fresh? config.lifetime (world.readings 0) =
      some snapshot) :
    Runs.run (MembershipCache.snapshot (membershipSetup config stores.register) cell)
        (stores.membership, world, ()) =
      (snapshot, stores.membership.store cell (stores.membership.stored cell), world.tick, ()) := by
  have hclock : Runs.run (membershipSetup config stores.register).clock (world, ()) =
      (world.readings 0, world.tick, ()) := World.run_clock
  rw [run_snapshot, Expiring.run_get_fresh (by rw [hclock]; exact h), hclock]

theorem run_snapshot_load
    (h : (stores.membership.stored cell).fresh? config.lifetime (world.readings 0) = none) :
    let snapshot := Snapshot.reload (stores.membership.stored cell).previous
      (world.peers stores.register cell)
    Runs.run (MembershipCache.snapshot (membershipSetup config stores.register) cell)
        (stores.membership, world, ()) =
      (snapshot, stores.membership.store cell (.store snapshot (world.readings 1)),
        (world.tick.note (world.answer cell)).tick, ()) := by
  have hclock : ∀ world : World, Runs.run (membershipSetup config stores.register).clock
      (world, ()) = (world.readings 0, world.tick, ()) := fun _ => World.run_clock
  rw [run_snapshot, Expiring.run_get_load (by rw [hclock]; exact h), hclock]
  simp only [World.run_load, hclock]
  rfl

/-- Asking for a snapshot is one move. -/
theorem Move.of_snapshot (config : Config) (stores : Stores) (world : World) (cell : Cell) :
    let r := Runs.run (MembershipCache.snapshot (membershipSetup config stores.register) cell)
      (stores.membership, world, ())
    Move config allowed (stores, world, ()) ({ stores with membership := r.2.1 }, r.2.2) := by
  cases h : (stores.membership.stored cell).fresh? config.lifetime (world.readings 0) with
  | none =>
    rw [run_snapshot_load h]
    exact .load stores world cell h
  | some snapshot =>
    rw [run_snapshot_fresh h]
    exact .look stores world cell snapshot h

theorem run_onMembership {α : Type}
    (action : Setup (Act World) → StateT MembershipCache (Act World) α) :
    Runs.run (Stores.onMembership World.surroundings config action) (stores, world, ()) =
      let r := Runs.run (action (membershipSetup config stores.register))
        (stores.membership, world, ())
      (r.1, { stores with membership := r.2.1 }, r.2.2) := by
  rw [Stores.onMembership, Runs.run_bind, Runs.run_get, run_part]
  rfl

theorem run_membership (config : Config) (channel : String) (stores : Stores) (world : World) :
    Runs.run ((collaborators config).membership channel) (stores, world, ()) =
      let r := Runs.run (MembershipCache.snapshot (membershipSetup config stores.register)
        (.channel channel)) (stores.membership, world, ())
      (⟨r.1.peers, r.1.failure, config.pollingEnabled⟩, { stores with membership := r.2.1 },
        r.2.2) := by
  change Runs.run (Stores.onMembership World.surroundings config _) _ = _
  rw [run_onMembership, MembershipCache.run_membership]
  rfl

theorem run_membership_fresh {channel : String} {snapshot : Snapshot}
    (h : (stores.membership.stored (.channel channel)).fresh? config.lifetime
      (world.readings 0) = some snapshot) :
    Runs.run ((collaborators config).membership channel) (stores, world, ()) =
      (⟨snapshot.peers, snapshot.failure, config.pollingEnabled⟩,
        { stores with
          membership := stores.membership.store (.channel channel)
            (stores.membership.stored (.channel channel)) },
        world.tick, ()) := by
  rw [run_membership, run_snapshot_fresh h]

theorem run_membership_load {channel : String}
    (h : (stores.membership.stored (.channel channel)).fresh? config.lifetime
      (world.readings 0) = none) :
    let snapshot := Snapshot.reload (stores.membership.stored (.channel channel)).previous
      (world.peers stores.register (.channel channel))
    Runs.run ((collaborators config).membership channel) (stores, world, ()) =
      (⟨snapshot.peers, snapshot.failure, config.pollingEnabled⟩,
        { stores with
          membership := stores.membership.store (.channel channel)
            (.store snapshot (world.readings 1)) },
        (world.tick.note (world.answer (.channel channel))).tick, ()) := by
  rw [run_membership, run_snapshot_load h]

theorem run_chaincode_kept {channel chaincode : String} {data : Chaincode}
    (h : stores.chaincodes.find? (channel, chaincode) = some data) :
    Runs.run ((collaborators config).chaincode channel chaincode) (stores, world, ()) =
      (.ok data, stores, world, ()) := by
  change Runs.run (Stores.chaincodesPart.act _) _ = _
  rw [run_part]
  have hfind : (Stores.chaincodesPart.get stores).find? (channel, chaincode) = some data := h
  simp only [ChaincodeCache.query, Runs.run_bind, Runs.run_get, hfind, Runs.run_pure]
  rfl

theorem run_chaincode_fetched {channel chaincode : String}
    (h : stores.chaincodes.find? (channel, chaincode) = none) :
    Runs.run ((collaborators config).chaincode channel chaincode) (stores, world, ()) =
      (world.outside.chaincode channel chaincode,
        { stores with
          chaincodes := remember channel chaincode (world.outside.chaincode channel chaincode)
            stores.chaincodes },
        world.note (.chaincode channel chaincode (world.outside.chaincode channel chaincode)),
        ()) := by
  change Runs.run (Stores.chaincodesPart.act _) _ = _
  rw [run_part]
  have hfind : (Stores.chaincodesPart.get stores).find? (channel, chaincode) = none := h
  simp only [ChaincodeCache.query, Runs.run_bind, Runs.run_get, hfind, Runs.run_log, Runs.run_lift,
    World.run_chaincode]
  cases world.outside.chaincode channel chaincode with
  | ok data =>
    simp only [Runs.run_bind, Runs.run_modify, Runs.run_pure]
    rfl
  | error failure =>
    simp only [Runs.run_pure]
    rfl

theorem run_draw (config : Config) (stores : Stores) (world : World) :
    Runs.run (collaborators config).draw (stores, world, ()) =
      (world.draws 0, stores, world.roll, ()) := by
  change Runs.run (liftM World.surroundings.draw) _ = _
  rw [Runs.run_lift, World.run_draw]

/-! ## What asking keeps -/

/-- A property that every single question keeps. -/
def Stable (config : Config) (allowed : String → String → Prop) (keeps : Scene → Prop) : Prop :=
  ∀ s t, Move config allowed s t → keeps s → keeps t

namespace Stable

variable {keeps : Scene → Prop}

theorem chaincode (h : Stable config allowed keeps) {channel chaincode : String}
    (hallowed : allowed channel chaincode) :
    Answers keeps ((collaborators config).chaincode channel chaincode) fun _ => True := by
  rintro ⟨stores, world, ⟨⟩⟩ hs
  refine ⟨trivial, ?_⟩
  cases hfind : stores.chaincodes.find? (channel, chaincode) with
  | some data => rwa [run_chaincode_kept hfind]
  | none =>
    rw [run_chaincode_fetched hfind]
    exact h _ _ (.fetch stores world channel chaincode hallowed hfind) hs

theorem membership (h : Stable config allowed keeps) (channel : String) :
    Answers keeps ((collaborators config).membership channel) fun _ => True := by
  rintro ⟨stores, world, ⟨⟩⟩ hs
  rw [run_membership]
  exact ⟨trivial, h _ _ (.of_snapshot config stores world (.channel channel)) hs⟩

theorem draw (h : Stable config allowed keeps) :
    Answers keeps (collaborators config).draw fun _ => True := by
  rintro ⟨stores, world, ⟨⟩⟩ hs
  rw [run_draw]
  exact ⟨trivial, h _ _ (.draw stores world) hs⟩

theorem choose (h : Stable config allowed keeps) (found : List Candidate) (chooser : Position) :
    Answers keeps ((config.balance.balancer (collaborators config).draw).choose found chooser)
      fun _ => True :=
  ((Balance.chooses_balancer h.draw config.balance).choose found chooser).mono fun _ _ => trivial

theorem onMembership (h : Stable config allowed keeps) {α : Type} (cell : Cell)
    {action : Setup (Act World) → StateT MembershipCache (Act World) α}
    (haction : ∀ setup cache s, (Runs.run (action setup) (cache, s)).2 =
      (Runs.run (MembershipCache.snapshot setup cell) (cache, s)).2) :
    Answers keeps (Stores.onMembership World.surroundings config action) fun _ => True := by
  rintro ⟨stores, world, ⟨⟩⟩ hs
  simp only [run_onMembership, haction]
  exact ⟨trivial, h _ _ (.of_snapshot config stores world cell) hs⟩

end Stable

end Moves

/-! ## What can be done with a context -/

/-- What a context is asked. -/
inductive Request where
  | endorsers (channel : String) (chaincodes : List String)
  | eventSource (channel : String)
  | membership (channel : String)
  | peersOfChannel (channel : String)
  | allPeers

/-- What a context answers. -/
inductive Outcome where
  | endorsers (answer : Except Failure (List Peer))
  | eventSource (answer : Except Failure EventSource)
  | membership (answer : Membership)
  | peers (answer : Except Failure (List Peer))
  deriving DecidableEq

/-- What changes a context or its surroundings without asking them. -/
inductive Edit where
  /-- The surroundings know something else from now on. -/
  | change (outside : Outside)
  | invalidateMembership
  | invalidateChaincode (channel chaincode : String)
  | clearChaincodes
  | clearResolvers
  /-- The register is fed with messages. -/
  | feed (f : Identity.Feed)
  /-- An organisation is set in the register. -/
  | upsert (pkiId : Gossip.PkiId) (mspId : String)
  | listen
  | send (i : Nat) (message : Gossip.Message)
  | closeQueue (i : Nat)
  | drive
  | shutDown

/-- What happens to a context in use. -/
inductive Op where
  | request (r : Request)
  | edit (e : Edit)

/-- Makes a request. -/
def Request.act (config : Config) : Request → StateT Context (Act World) Outcome
  | .endorsers channel chaincodes =>
    return .endorsers (← Context.endorsers World.surroundings config channel chaincodes)
  | .eventSource channel =>
    return .eventSource (← Context.eventSource World.surroundings config channel)
  | .membership channel =>
    return .membership (← Context.membership World.surroundings config channel)
  | .peersOfChannel channel =>
    return .peers (← Context.peersOfChannel World.surroundings config channel)
  | .allPeers => return .peers (← Context.allPeers World.surroundings config)

theorem run_onService {m : Type → Type} [Monad m] [MonadLiftT Logged m] {σ α : Type} [Runs m σ]
    (action : StateT (Service Position) (StateT Stores m) α) (context : Context) (s : σ) :
    Runs.run (Context.onService action) (context, s) =
      let r := Runs.run action (context.service, context.stores, s)
      (r.1, { context with service := r.2.1, stores := r.2.2.1 }, r.2.2.2) := by
  refine Runs.run_stateT ?_
  rw [Context.onService, Runs.run_bind, Runs.run_pure]
  rfl

/-- The chaincodes that a request names. -/
def Request.Names : Request → String → String → Prop
  | endorsers channel chaincodes, channel', chaincode => channel' = channel ∧ chaincode ∈ chaincodes
  | _, _, _ => False

/-- A request keeps what every single question keeps, about the chaincodes that it
    names. -/
theorem Stable.request {config : Config} {keeps : Scene → Prop} {r : Request}
    (h : Stable config r.Names keeps) {context : Context} {world : World}
    (hs : keeps (context.stores, world, ())) :
    let left := (Runs.run (r.act config) (context, world, ())).2
    keeps (left.1.stores, left.2) := by
  have hstores : ∀ {α : Type} {action : StateT Stores (Act World) α} {f : α → Outcome},
      Answers keeps action (fun _ => True) →
      let left := (Runs.run (do return f (← Context.storesPart.act action) :
        StateT Context (Act World) Outcome) (context, world, ())).2
      keeps (left.1.stores, left.2) := by
    intro α action f haction
    simp only [Runs.run_bind, run_part, Runs.run_pure]
    exact (haction _ hs).2
  cases r with
  | endorsers channel chaincodes =>
    simp only [Request.act, Context.endorsers, Runs.run_bind, run_onService, Runs.run_pure]
    exact (Service.endorsers_keeps h.membership h.choose (fun c hc => h.chaincode ⟨rfl, hc⟩)
      (.pure trivial) (context.service, context.stores, world, ()) ⟨trivial, hs⟩).2.2
  | eventSource channel =>
    exact hstores (Service.eventSource_keeps h.membership h.draw config channel)
  | membership channel =>
    refine hstores (h.onMembership (.channel channel) fun setup cache s => ?_)
    rw [MembershipCache.run_membership]
  | peersOfChannel channel =>
    refine hstores (h.onMembership (.channel channel) fun setup cache s => ?_)
    rw [run_peersOfChannel]
  | allPeers =>
    refine hstores (h.onMembership .all fun setup cache s => ?_)
    rw [run_allPeers]

namespace Edit

/-- Makes a change to a context. -/
def act : Edit → Act Context Unit
  | change _ => return
  | invalidateMembership => modify Context.invalidateMembership
  | invalidateChaincode channel chaincode =>
    modify (Context.invalidateChaincode channel chaincode)
  | clearChaincodes => modify Context.clearChaincodes
  | clearResolvers => Context.clearResolvers
  | feed f => Context.onRegister f.apply
  | upsert pkiId mspId => Context.onRegister (Identity.Register.upsert pkiId mspId)
  | listen => modify Context.listen
  | send i message => modify (Context.send i message)
  | closeQueue i => modify (Context.closeQueue i)
  | drive => Context.drive
  | shutDown => modify Context.shutDown

/-- The context afterwards. -/
def left (e : Edit) (context : Context) : Context :=
  (Runs.run e.act (context, ())).2.1

/-- What the surroundings know afterwards. -/
def outside : Edit → Outside → Outside
  | change outside, _ => outside
  | _, outside => outside

/-- The membership cache afterwards. -/
def membership : Edit → MembershipCache → MembershipCache
  | invalidateMembership, cache => cache.invalidate
  | _, cache => cache

/-- The chaincode cache afterwards. -/
def chaincodes : Edit → ChaincodeCache → ChaincodeCache
  | invalidateChaincode channel chaincode, cache => cache.invalidate channel chaincode
  | clearChaincodes, cache => cache.clear
  | _, cache => cache

/-- The service afterwards. -/
def service : Edit → Service Position → Service Position
  | clearResolvers, _ => {}
  | _, service => service

theorem membership_left (e : Edit) (context : Context) :
    (e.left context).stores.membership = e.membership context.stores.membership := by
  cases e <;> rfl

theorem chaincodes_left (e : Edit) (context : Context) :
    (e.left context).stores.chaincodes = e.chaincodes context.stores.chaincodes := by
  cases e <;> rfl

theorem service_left (e : Edit) (context : Context) :
    (e.left context).service = e.service context.service := by
  cases e <;> rfl

end Edit

/-! ## Contexts with their past -/

/-- Something that happened. -/
inductive Record where
  /-- A request was made: the register and what the surroundings knew at the time,
      and what they were asked in its course, newest first. -/
  | request (r : Request) (register : Identity.Register) (outside : Outside) (asked : List Asked)
  /-- A change was made. -/
  | edit (e : Edit)

/-- A context in use. -/
structure System where
  context : Context := {}
  world : World
  /-- What happened so far, newest first. -/
  past : List Record := []

namespace System

/-- What is remembered, and the surroundings before they are asked anything. -/
def scene (x : System) : Scene :=
  (x.context.stores, { x.world with asked := [] }, ())

/-- What is answered to a request, and what it leaves. -/
def run (config : Config) (x : System) (r : Request) : Outcome × Context × World × Unit :=
  Runs.run (r.act config) (x.context, x.scene.2)

/-- What is left when something has happened. -/
def step (config : Config) (x : System) : Op → System
  | .request r =>
    let left := (x.run config r).2
    ⟨left.1, left.2.1,
      .request r x.context.stores.register x.world.outside left.2.1.asked :: x.past⟩
  | .edit e =>
    ⟨e.left x.context, { x.world with outside := e.outside x.world.outside }, .edit e :: x.past⟩

/-- A new context after all this happened. -/
def after (config : Config) (world : World) (ops : List Op) : System :=
  ops.foldl (step config) { world }

variable {config : Config}

theorem after_append (world : World) (ops : List Op) (op : Op) :
    after config world (ops ++ [op]) = (after config world ops).step config op :=
  List.foldl_concat _ _ _ _

/-- What everything that happens in the end keeps, holds in the end. -/
theorem after_of_forall {world : World} (holds : System → Prop) {first rest : List Op}
    (h : holds (after config world first))
    (hstep : ∀ op ∈ rest, ∀ x : System, holds x → holds (x.step config op)) :
    holds (after config world (first ++ rest)) := by
  induction rest using List.reverseRecOn with
  | nil => rwa [List.append_nil]
  | append_singleton rest op ih =>
    rw [← List.append_assoc, after_append]
    exact hstep op (by simp) _ (ih fun op hop => hstep op (List.mem_append_left _ hop))

/-- Only requests for endorsers change the service. -/
theorem service_run (x : System) {r : Request} (h : ∀ channel chaincodes,
    r ≠ .endorsers channel chaincodes) : (x.run config r).2.1.service = x.context.service := by
  cases r with
  | endorsers channel chaincodes => exact absurd rfl (h channel chaincodes)
  | _ =>
    simp only [run, Request.act, Context.eventSource, Context.membership, Context.peersOfChannel,
      Context.allPeers, Runs.run_bind, run_part, Runs.run_pure]
    rfl

theorem run_endorsers (x : System) (channel : String) (chaincodes : List String) :
    x.run config (.endorsers channel chaincodes) =
      let r := Runs.run (Service.endorsers (collaborators config)
        (config.balance.balancer (collaborators config).draw) channel chaincodes)
        (x.context.service, x.scene)
      (.endorsers r.1, { x.context with service := r.2.1, stores := r.2.2.1 }, r.2.2.2) := by
  simp only [run, Request.act, Context.endorsers, Runs.run_bind, run_onService, Runs.run_pure]
  rfl

theorem run_endorsers_nil (x : System) (channel : String) :
    x.run config (.endorsers channel []) =
      (.endorsers (.error .noChaincodes), x.context, x.scene.2) := by
  rw [run_endorsers, Service.run_endorsers_nil]
  rfl

theorem run_eventSource (x : System) (channel : String) :
    x.run config (.eventSource channel) =
      let r := Runs.run (Service.eventSource (collaborators config) config channel) x.scene
      (.eventSource r.1, { x.context with stores := r.2.1 }, r.2.2) := by
  simp only [run, Request.act, Context.eventSource, Runs.run_bind, run_part, Runs.run_pure]
  rfl

theorem run_membership (x : System) (channel : String) :
    x.run config (.membership channel) =
      let r := Runs.run ((collaborators config).membership channel) x.scene
      (.membership r.1, { x.context with stores := r.2.1 }, r.2.2) := by
  simp only [run, Request.act, Context.membership, Runs.run_bind, run_part, Runs.run_pure]
  rfl

end System

end Endorsement.Selection
