import Endorsement.Proofs.Selection.Governing

/-!
# Which organisations peers are attributed to

Gossip names the members of a channel, the register their organisations, and
both change while a context remembers the peers that it made of them. It never
makes up a peer: as long as the lifetime of memberships does not run out, what
is remembered for a channel, and whatever is chosen from it, are members that
gossip listed when the channel was last loaded with success, with what was known
of them, of the organisations that the register had for them then.

* `listed?`: the last load of a channel that succeeded, read off the past;
* `attributed`: the peers that such a load tells of;
* `Attributed`, `System.Attributes`, `System.attributes_after`: what is
  remembered of the channels, in the course of a request and between requests;
* `Steady`: what a channel is like from its first question in a request on;
* `System.peers_attributed`: what requests answer.
-/

namespace Endorsement.Selection

open MembershipCache

/-! ## Loads of channels -/

/-- The members that gossip listed for a channel, if it was asked and did. -/
def Asked.listed? (channel : String) : Asked → Option (List Member)
  | .membersOfChannel channel' (.ok found) => if channel' = channel then some found else none
  | _ => none

/-- The members listed last in the course of something, if they were. -/
def lastListed? (channel : String) (asked : List Asked) : Option (List Member) :=
  asked.findSome? (Asked.listed? channel)

/-- The last load of a channel that succeeded: the register at the time, and the
    members that were listed. -/
def listed? (channel : String) : List Record → Option (Identity.Register × List Member)
  | [] => none
  | .edit _ :: past => listed? channel past
  | .request _ register _ asked :: past =>
    ((lastListed? channel asked).map (register, ·)).or (listed? channel past)

/-- The peer that a member is, if the register has an organisation for it. -/
def known (register : Identity.Register) (member : Member) : Option Peer :=
  match register.find? member.pkiId with
  | some mspId => if mspId = "" then none else some (member.peer mspId)
  | none => none

/-- The peers that a load tells of, in the order of the members; none before there
    was one. -/
def attributed : Option (Identity.Register × List Member) → List Peer
  | some (register, members) => members.filterMap (known register)
  | none => []

/-- A peer is a member, with what was known of it, of the organisation that the
    register had for it. -/
structure Names (register : Identity.Register) (member : Member) (p : Peer) : Prop where
  url : p.url = member.endpoint
  ledgerHeight : p.ledgerHeight = member.properties.map MemberProperties.ledgerHeight
  roles : p.roles = (member.properties.map MemberProperties.roles).getD []
  mspId_ne : p.mspId ≠ ""
  find? : register.find? member.pkiId = some p.mspId

theorem exists_names_of_mem_attributed {load : Option (Identity.Register × List Member)} {p : Peer}
    (h : p ∈ attributed load) :
    ∃ register members member, load = some (register, members) ∧ member ∈ members ∧
      Names register member p := by
  cases load with
  | none => cases h
  | some load =>
    obtain ⟨register, members⟩ := load
    obtain ⟨member, hmember, hknown⟩ := List.mem_filterMap.1 h
    refine ⟨register, members, member, rfl, hmember, ?_⟩
    rw [known] at hknown
    split at hknown
    · rename_i mspId hfind
      split at hknown
      · cases hknown
      · rename_i hne
        obtain rfl := Option.some.inj hknown
        exact ⟨rfl, rfl, rfl, hne, hfind⟩
    · cases hknown

/-- The members that a source makes peers of are those with an organisation. -/
theorem value_peers (register : Identity.Register) (members : List Member) :
    (Member.peers register members).value = members.filterMap (known register) := by
  induction members with
  | nil => rfl
  | cons member rest ih =>
    rw [Member.peers, Logged.value_bind, Identity.Register.value_mspId, List.filterMap_cons, known]
    cases register.find? member.pkiId with
    | none =>
      rw [Option.getD_none, if_pos rfl]
      exact ih
    | some mspId =>
      by_cases hempty : mspId = ""
      · simp only [Option.getD_some, hempty, if_true]
        exact ih
      · simp only [Option.getD_some, hempty, if_false, Logged.value_bind, Logged.value_pure, ih]

/-! ## In the course of requests -/

/-- The peers in a cell. -/
def peersIn (e : Expiring Snapshot) : List Peer :=
  (e.previous.map Snapshot.peers).getD []

theorem peersIn_store_reload (previous : Option Snapshot) (answer : Except Failure (List Peer))
    (now : Moment) : peersIn (.store (.reload previous answer) now) =
      match answer with
      | .ok peers => peers
      | .error _ => (previous.map Snapshot.peers).getD [] := by
  rw [peersIn, Expiring.previous_store]
  cases answer <;> rfl

theorem listed?_answer (world : World) (cell : Cell) (channel : String) :
    (world.answer cell).listed? channel =
      if cell = .channel channel then (world.outside.membersOfChannel channel).toOption
      else none := by
  cases cell with
  | all => rfl
  | channel name =>
    by_cases h : name = channel
    · subst h
      simp only [World.answer, if_true]
      cases world.outside.membersOfChannel name <;> simp [Asked.listed?, Except.toOption]
    · simp only [World.answer, Cell.channel.injEq, h, if_false]
      cases world.outside.membersOfChannel name <;> simp [Asked.listed?, h]

/-- What is remembered of the channels in the course of a request: the peers that
    the last loads tell of, in the past and in its course. Nothing was loaded
    before the start, and the lifetime does not run out from there. -/
structure Attributed (config : Config) (start : Moment) (register : Identity.Register)
    (past : List Record) (s : Scene) : Prop where
  register_eq : s.1.register = register
  peers (channel : String) : peersIn (s.1.membership.stored (.channel channel)) =
    attributed (((lastListed? channel s.2.1.asked).map (register, ·)).or (listed? channel past))
  since (cell : Cell) : (s.1.membership.stored cell).Since start
  lasts : s.2.1.readings.Within start config.lifetime

variable {config : Config} {start : Moment} {register : Identity.Register} {past : List Record}
  {allowed : String → String → Prop}

/-- Whatever happens in the course of a request, what is remembered are the peers that
    the last loads tell of. A load that succeeds puts its peers into the cell and is
    written down; one that fails leaves the peers that were there. -/
theorem stable_attributed :
    Stable config allowed (Attributed config start register past) := by
  intro s t hmove hs
  cases hmove with
  | look stores world cell snapshot h =>
    refine ⟨hs.register_eq, fun channel => ?_, fun k => ?_, hs.lasts.drop 1⟩
    · exact (congrArg peersIn (stored_store_stored ..)).trans (hs.peers channel)
    · change ((stores.membership.store cell _).stored k).Since start
      rw [stored_store_stored]
      exact hs.since k
  | load stores world cell h =>
    refine ⟨hs.register_eq, fun channel => ?_, fun k => ?_, (hs.lasts.drop 1).drop 1⟩
    · have hpeers := hs.peers channel
      change peersIn ((stores.membership.store cell _).stored (.channel channel)) =
        attributed (((List.findSome? _ (world.answer cell :: world.asked)).map _).or _)
      rw [stored_store, List.findSome?_cons, listed?_answer]
      split
      · rename_i hcell
        subst hcell
        rw [peersIn_store_reload, World.peers]
        cases world.outside.membersOfChannel channel with
        | error failure => exact hpeers
        | ok members =>
          change (Member.peers stores.register members).value = members.filterMap (known register)
          rw [value_peers, ← hs.register_eq]
      · exact hpeers
    · change ((stores.membership.store cell _).stored k).Since start
      rw [stored_store]
      split
      · exact Expiring.since_store _ (hs.lasts 1).1
      · exact hs.since k
  | fetch stores world channel chaincode hallowed h =>
    refine ⟨hs.register_eq, fun channel' => ?_, hs.since, hs.lasts⟩
    exact hs.peers channel'
  | draw stores world => exact ⟨hs.register_eq, hs.peers, hs.since, hs.lasts⟩

/-! ## From the first question on -/

/-- A channel has a snapshot that need not be loaded again. -/
structure Steady (config : Config) (start : Moment) (channel : String) (snapshot : Snapshot)
    (s : Scene) : Prop where
  previous : (s.1.membership.stored (.channel channel)).previous = some snapshot
  not_isDue : ¬(s.1.membership.stored (.channel channel)).IsDue
  since : (s.1.membership.stored (.channel channel)).Since start
  lasts : s.2.1.readings.Within start config.lifetime

namespace Steady

variable {channel : String} {snapshot : Snapshot}

/-- Putting back what is in its cell leaves a channel steady. -/
theorem look {stores : Stores} {world : World}
    (h : Steady config start channel snapshot (stores, world, ())) :
    Steady config start channel snapshot
      ({ stores with
        membership := stores.membership.store (.channel channel)
          (stores.membership.stored (.channel channel)) },
        world.tick, ()) := by
  have hstored := stored_store_stored (.channel channel) (.channel channel) stores.membership
  exact ⟨hstored.symm ▸ h.previous, hstored.symm ▸ h.not_isDue, hstored.symm ▸ h.since,
    h.lasts.drop 1⟩

/-- A steady channel is answered from its snapshot, and stays steady. -/
theorem membership : Answers (Steady config start channel snapshot)
    ((collaborators config).membership channel)
    (· = ⟨snapshot.peers, snapshot.failure, config.pollingEnabled⟩) := by
  rintro ⟨stores, world, ⟨⟩⟩ hs
  obtain ⟨value, hprevious, hfresh⟩ :=
    Expiring.fresh?_of_since hs.since hs.not_isDue (hs.lasts 0)
  obtain rfl : value = snapshot := Option.some.inj (hprevious.symm.trans hs.previous)
  rw [run_membership_fresh hfresh]
  exact ⟨rfl, hs.look⟩

theorem draw : Answers (Steady config start channel snapshot) (collaborators config).draw
    fun _ => True := by
  rintro ⟨stores, world, ⟨⟩⟩ hs
  rw [run_draw]
  exact ⟨trivial, hs.previous, hs.not_isDue, hs.since, hs.lasts⟩

theorem peersIn_eq {s : Scene} (h : Steady config start channel snapshot s) :
    peersIn (s.1.membership.stored (.channel channel)) = snapshot.peers := by
  rw [peersIn, h.previous]
  rfl

/-- A resolver whose leaves are organisations chooses peers of the channel. -/
theorem resolve {resolver : Resolver Position}
    (hmsp : ∀ a ∈ resolver.alternatives, ∀ l ∈ a.legs, ∃ mspId, l = .msp mspId) :
    Answers (Steady config start channel snapshot)
      (resolver.resolve (m := StateT Stores (Act World))
        (Service.peersOfMsp (collaborators config) channel)
        (config.balance.balancer (collaborators config).draw))
      fun r => r.1 ⊆ snapshot.peers := by
  refine (Service.answers_candidates membership resolver.alternatives).bind fun found hfound => ?_
  refine (Answers.log _).bind fun _ _ => ?_
  refine ((Balance.chooses_balancer draw config.balance).choose found _).bind
    fun choice hchoice => .pure ?_
  rcases hchoice with hmem | ⟨-, hnil⟩
  · intro p hp
    rw [hfound] at hmem
    obtain ⟨a, ha, l, hl, hp⟩ := Resolver.exists_current_of_mem_offered hmem hp
    obtain ⟨mspId, rfl⟩ := hmsp a ha l hl
    exact (List.mem_filter.1 hp).1
  · change choice.1 ⊆ _
    rw [hnil]
    exact List.nil_subset _

end Steady

/-- The first question about a channel leaves it steady. -/
theorem exists_steady {s : Scene} {channel : String}
    (hsince : (s.1.membership.stored (.channel channel)).Since start)
    (hlasts : s.2.1.readings.Within start config.lifetime) :
    ∃ snapshot : Snapshot, (Runs.run ((collaborators config).membership channel) s).1 =
        ⟨snapshot.peers, snapshot.failure, config.pollingEnabled⟩ ∧
      Steady config start channel snapshot
        (Runs.run ((collaborators config).membership channel) s).2 := by
  obtain ⟨stores, world, ⟨⟩⟩ := s
  cases hfresh : (stores.membership.stored (.channel channel)).fresh? config.lifetime
      (world.readings 0) with
  | some snapshot =>
    obtain ⟨hprevious, hdue⟩ := Expiring.of_fresh?_eq_some hfresh
    rw [run_membership_fresh hfresh]
    exact ⟨snapshot, rfl, Steady.look ⟨hprevious, hdue, hsince, hlasts⟩⟩
  | none =>
    rw [run_membership_load hfresh]
    refine ⟨_, rfl, ?_, ?_, ?_, (hlasts.drop 1).drop 1⟩
    · rw [stored_store, if_pos rfl, Expiring.previous_store]
    · rw [stored_store, if_pos rfl]
      exact Expiring.not_isDue_store _ _
    · rw [stored_store, if_pos rfl]
      exact Expiring.since_store _ (hlasts 1).1

section Requests

variable {s : Scene} {channel : String}
  (hsince : (s.1.membership.stored (.channel channel)).Since start)
  (hlasts : s.2.1.readings.Within start config.lifetime)

include hsince hlasts

/-- What is answered for a channel are the peers remembered then. -/
theorem peers_membership :
    let r := Runs.run ((collaborators config).membership channel) s
    r.1.peers = peersIn (r.2.1.membership.stored (.channel channel)) := by
  obtain ⟨snapshot, hmembership, hsteady⟩ := exists_steady hsince hlasts
  intro r
  rw [hsteady.peersIn_eq, hmembership]

/-- What a resolver chooses are peers remembered then. -/
theorem subset_of_use {key : Key} {resolver : Resolver Position} (hchannel : key.channel = channel)
    (hmsp : ∀ a ∈ resolver.alternatives, ∀ l ∈ a.legs, ∃ mspId, l = .msp mspId) :
    let r := Runs.run (Service.use (collaborators config)
      (config.balance.balancer (collaborators config).draw) key resolver) s
    ∀ peers, r.1.1 = .ok peers → peers ⊆ peersIn (r.2.1.membership.stored (.channel channel)) := by
  subst hchannel
  obtain ⟨snapshot, hmembership, hsteady⟩ := exists_steady hsince hlasts
  intro r
  have huse : (∀ peers, r.1.1 = .ok peers → peers ⊆ snapshot.peers) ∧
      Steady config start key.channel snapshot r.2 := by
    refine Answers.after (fun r : Except Failure (List Peer) × Resolver Position =>
      ∀ peers, r.1 = .ok peers → peers ⊆ snapshot.peers) hsteady ?_
    rw [hmembership]
    dsimp only
    split
    · exact .pure fun peers hok => by cases hok
    · refine (Steady.resolve hmsp).bind fun choice hchoice => .pure fun peers hok => ?_
      obtain rfl := Except.ok.inj hok
      exact hchoice
  rw [huse.2.peersIn_eq]
  exact huse.1

/-- A source of events is a peer remembered then. -/
theorem mem_of_eventSource :
    let r := Runs.run (Service.eventSource (collaborators config) config channel) s
    ∀ source, r.1 = .ok source →
      source.peer ∈ peersIn (r.2.1.membership.stored (.channel channel)) := by
  obtain ⟨snapshot, hmembership, hsteady⟩ := exists_steady hsince hlasts
  intro r
  have hsource : (∀ source, r.1 = .ok source → source.peer ∈ snapshot.peers) ∧
      Steady config start channel snapshot r.2 := by
    refine Answers.after (fun r : Except Failure EventSource =>
      ∀ source, r = .ok source → source.peer ∈ snapshot.peers) hsteady ?_
    rw [hmembership]
    dsimp only
    split
    · exact .pure fun source hok => by cases hok
    · split
      · exact .pure fun source hok => by cases hok
      · refine Steady.draw.bind fun drawn _ => ?_
        split
        · exact .pure fun source hok => by cases hok
        · rename_i peer hpeer
          refine (Answers.log _).bind fun _ _ => .pure fun source hok => ?_
          obtain rfl := Except.ok.inj hok
          exact List.mem_of_getElem? hpeer
  rw [hsource.2.peersIn_eq]
  exact hsource.1

end Requests

namespace System

/-! ## Between requests -/

/-- What is remembered of the channels between requests. -/
def Attributes (config : Config) (start : Moment) (x : System) : Prop :=
  Attributed config start x.context.stores.register x.past x.scene

/-- Between requests, cells stay as they are or are invalidated, which leaves their
    peers. -/
theorem Attributes.edit {x : System} (h : x.Attributes config start) (e : Edit) :
    (x.step config (.edit e)).Attributes config start := by
  have hstored : ∀ cell, (x.step config (.edit e)).context.stores.membership.stored cell =
        x.context.stores.membership.stored cell ∨
      (x.step config (.edit e)).context.stores.membership.stored cell =
        (x.context.stores.membership.stored cell).invalidate := by
    intro cell
    change (e.left x.context).stores.membership.stored cell = _ ∨
      (e.left x.context).stores.membership.stored cell = _
    rw [e.membership_left]
    cases e with
    | invalidateMembership => exact .inr (stored_invalidate _ cell)
    | _ => exact .inl rfl
  refine ⟨rfl, fun channel => ?_, fun cell => ?_, h.lasts⟩
  · refine Eq.trans ?_ (h.peers channel)
    change peersIn ((x.step config (.edit e)).context.stores.membership.stored _) = _
    rcases hstored (.channel channel) with hsame | hinvalidated
    · rw [hsame]
      rfl
    · rw [hinvalidated, peersIn, Expiring.previous_invalidate]
      rfl
  · change ((x.step config (.edit e)).context.stores.membership.stored cell).Since start
    rcases hstored cell with hsame | hinvalidated
    · rw [hsame]
      exact h.since cell
    · rw [hinvalidated]
      exact Expiring.since_invalidate _

theorem Attributes.request {x : System} (h : x.Attributes config start) (r : Request) :
    (x.step config (.request r)).Attributes config start := by
  have hrequest := stable_attributed.request (r := r) h
  exact ⟨rfl, hrequest.peers, hrequest.since, hrequest.lasts⟩

theorem attributes_after {world : World} (hclock : world.readings.Lasts config.lifetime) :
    ∃ start, ∀ ops, (after config world ops).Attributes config start := by
  obtain ⟨start, hwithin⟩ := hclock.exists_within
  refine ⟨start, fun ops => ?_⟩
  induction ops using List.reverseRecOn with
  | nil => exact ⟨rfl, fun _ => rfl, fun cell => stored_empty cell ▸ Expiring.since_empty, hwithin⟩
  | append_singleton ops op ih =>
    rw [after_append]
    cases op with
    | request r => exact ih.request r
    | edit e => exact ih.edit e

/-- What a request for endorsers chooses are peers remembered then. -/
theorem subset_of_endorsers {x : System} (hgoverned : x.Governed) (h : x.Attributes config start)
    {channel : String} {chaincodes : List String} {peers : List Peer}
    (hok : (x.run config (.endorsers channel chaincodes)).1 = .endorsers (.ok peers)) :
    peers ⊆ peersIn ((x.run config (.endorsers channel chaincodes)).2.1.stores.membership.stored
      (.channel channel)) := by
  by_cases hne : chaincodes = []
  · rw [hne, run_endorsers_nil] at hok
    cases hok
  · rcases run_endorsers_cases config hgoverned hne with
      ⟨failure, s, -, -, hrun⟩ | ⟨resolver, s, hbuilt, -, hseen, hrun⟩
    · rw [hrun] at hok
      cases hok
    · -- Building changed neither the memberships nor the clock.
      have hmembership : s.1.membership = x.context.stores.membership :=
        congrArg (fun seen => seen.1.membership) hseen
      have hreadings : s.2.1.readings = x.world.readings :=
        congrArg (fun seen => seen.2.readings) hseen
      rw [hrun] at hok ⊢
      refine subset_of_use (hmembership ▸ h.since _) (hreadings ▸ h.lasts) rfl
        (fun a ha l hl => exists_msp_of_builtFrom hbuilt ha hl) peers ?_
      exact Outcome.endorsers.inj hok

variable {world : World}

/-- As long as the lifetime does not run out, what is remembered for a channel,
    whatever was done to a context, are the peers that the last load of the channel
    tells of: the members that gossip listed, in their order, apart from those
    whose organisation the register did not have. They are what the membership of
    the channel is answered with, and the peers that requests choose are among
    them: each is a member that was listed, of the organisation that the register
    had for it. -/
theorem peers_attributed (hclock : world.readings.Lasts config.lifetime) (ops : List Op) :
    let x := after config world ops
    (∀ channel, peersIn (x.context.stores.membership.stored (.channel channel)) =
        attributed (listed? channel x.past)) ∧
      (∀ channel m, (x.run config (.membership channel)).1 = .membership m →
        m.peers =
          attributed (listed? channel (x.step config (.request (.membership channel))).past)) ∧
      (∀ channel chaincodes peers,
        (x.run config (.endorsers channel chaincodes)).1 = .endorsers (.ok peers) → ∀ p ∈ peers,
          ∃ register members member,
            listed? channel (x.step config (.request (.endorsers channel chaincodes))).past =
              some (register, members) ∧ member ∈ members ∧ Names register member p) ∧
      ∀ channel source, (x.run config (.eventSource channel)).1 = .eventSource (.ok source) →
        ∃ register members member,
          listed? channel (x.step config (.request (.eventSource channel))).past =
            some (register, members) ∧ member ∈ members ∧ Names register member source.peer := by
  intro x
  obtain ⟨start, hattributes⟩ := attributes_after hclock
  have hx : x.Attributes config start := hattributes ops
  have hpeers : ∀ r channel,
      peersIn ((x.run config r).2.1.stores.membership.stored (.channel channel)) =
        attributed (listed? channel (x.step config (.request r)).past) :=
    fun r channel => (hx.request r).peers channel
  refine ⟨hx.peers, fun channel m hm => ?_, fun channel chaincodes peers hok p hp => ?_,
    fun channel source hok => ?_⟩
  · rw [← hpeers]
    rw [run_membership] at hm ⊢
    obtain rfl := Outcome.membership.inj hm
    exact peers_membership (hx.since _) hx.lasts
  · refine exists_names_of_mem_attributed ?_
    rw [← hpeers]
    exact subset_of_endorsers (governed_after config world ops) hx hok hp
  · refine exists_names_of_mem_attributed ?_
    rw [← hpeers]
    rw [run_eventSource] at hok ⊢
    exact mem_of_eventSource (hx.since _) hx.lasts source (Outcome.eventSource.inj hok)

/-- Two members on every channel. -/
def twoMembers : Outside where
  members := []
  membersOfChannel _ :=
    .ok [{ endpoint := "a:1", pkiId := ⟨[1]⟩ }, { endpoint := "b:1", pkiId := ⟨[2]⟩ }]
  chaincode _ _ := .error .noChaincodes

/-- The organisation of a peer is that of the time of the load. -/
theorem renamed_peer_keeps_organisation :
    let x := after {} ⟨twoMembers, fun _ => 0, fun _ => 0, []⟩
      [.edit (.upsert ⟨[2]⟩ "B"), .request (.membership "channel"), .edit (.upsert ⟨[2]⟩ "C"),
        .edit (.upsert ⟨[1]⟩ "A")]
    ∃ register members member,
      listed? "channel" (x.step {} (.request (.eventSource "channel"))).past =
        some (register, members) ∧ member ∈ members ∧
      Names register member { url := "b:1", mspId := "B" } := by
  let world : World := ⟨twoMembers, fun _ => 0, fun _ => 0, []⟩
  have hclock : world.readings.Lasts (Config.lifetime {}) := by
    intro i j
    change 0 - 0 < 500 * 1000000
    decide
  obtain ⟨-, -, -, hsource⟩ := peers_attributed hclock [.edit (.upsert ⟨[2]⟩ "B"),
    .request (.membership "channel"), .edit (.upsert ⟨[2]⟩ "C"), .edit (.upsert ⟨[1]⟩ "A")]
  exact hsource "channel" ⟨{ url := "b:1", mspId := "B" }, "b:7053"⟩ (by decide +kernel)

end System

end Endorsement.Selection
