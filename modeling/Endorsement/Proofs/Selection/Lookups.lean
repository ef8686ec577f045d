import Endorsement.Proofs.Selection.Builds

/-!
# Which snapshot a peer is from

A request asks for the membership of its channel once to see whether it is of any
use, and then again for every leg of every alternative. The answers may all be
different, so what a request is answered is told by what was answered to its
lookups.

* `Lookup`, `gathered`: a leg with the snapshot answered to its lookup, and the
  candidates of alternatives whose legs were looked up;
* `Used`, `asks_used`: what is asked when a resolver is used, and what it answers;
* `Rooted`, `rooted_after`: the alternatives of every resolver kept come from
  policies;
* `torn_selections`: peers of one answer may be from different snapshots, and
  no peers may be found where all snapshots of the legs are failures;
* `peers_from_own_lookups`: the peers answered are of one alternative, each from
  the snapshot that its own leg was looked up in.
-/

namespace Endorsement.Selection.Service

variable {m : Type → Type} [Monad m] [MonadLiftT Logged m] {σ ρ : Type} [Runs m σ]
  (ask : Collaborators m) (balancer : Balancer m ρ)

/-! ## Lookups of legs -/

/-- A leg of an alternative, with the snapshot that was answered to its lookup. -/
structure Lookup where
  leg : PeerGroup
  snapshot : Membership

/-- The peers found for a leg. -/
def Lookup.peers (lookup : Lookup) : List Peer :=
  lookup.leg.current (peersOf lookup.snapshot.peers)

/-- What was asked for a leg. -/
def Lookup.question (channel : String) (lookup : Lookup) : Question :=
  .membership channel lookup.snapshot

/-- The candidates of alternatives whose legs were looked up. -/
def gathered (lookups : List (List Lookup)) : List Candidate :=
  lookups.flatMap fun legs => Product.tuples (legs.map Lookup.peers)

/-- What stands for each of some items can be listed in their order. -/
theorem exists_list_of_forall₂ {α β γ δ : Type} {as : List α} {bs : List β} {f : α → δ}
    {key : γ → δ} {g : γ → β} (h : List.Forall₂ (fun a b => ∃ c, key c = f a ∧ b = g c) as bs) :
    ∃ cs : List γ, cs.map key = as.map f ∧ bs = cs.map g := by
  induction h with
  | nil => exact ⟨[], rfl, rfl⟩
  | cons hc _ ih =>
    obtain ⟨c, hkey, rfl⟩ := hc
    obtain ⟨cs, hkeys, rfl⟩ := ih
    exact ⟨c :: cs, by rw [List.map_cons, List.map_cons, hkey, hkeys], rfl⟩

theorem asks_leg (channel : String) {leg : PeerGroup} (hleg : ∃ mspId, leg = .msp mspId) :
    Asks (leg.peers (peersOfMsp ask.transcribed channel)) fun asked peers =>
      ∃ lookup : Lookup, lookup.leg = leg ∧ (asked, peers) =
        ([lookup.question channel], lookup.peers) := by
  obtain ⟨mspId, rfl⟩ := hleg
  refine (asks_membership ask channel).bind fun asked snapshot hasked => .pure ?_
  exact ⟨⟨.msp mspId, snapshot⟩, rfl, by rw [hasked]; rfl⟩

theorem asks_candidatesOf (channel : String) {alternative : Group}
    (hlegs : ∀ l ∈ alternative.legs, ∃ mspId, l = .msp mspId) :
    Asks (Resolver.candidatesOf (peersOfMsp ask.transcribed channel) alternative)
      fun asked found => ∃ legs : List Lookup, legs.map Lookup.leg = alternative.legs ∧
        (asked, found) = (legs.map (Lookup.question channel),
          Product.tuples (legs.map Lookup.peers)) := by
  refine (Asks.mapM alternative.legs fun l hl => asks_leg ask channel (hlegs l hl)).bind
    fun asked lists hlists => .pure ?_
  obtain ⟨parts, rfl, rfl, hparts⟩ := hlists
  have hchosen : List.Forall₂ (fun l part => ∃ lookup : Lookup, lookup.leg = id l ∧
      part = ([lookup.question channel], lookup.peers)) alternative.legs parts := hparts
  obtain ⟨legs, hlegs, rfl⟩ := exists_list_of_forall₂ hchosen
  refine ⟨legs, by rw [hlegs, List.map_id], ?_⟩
  rw [List.append_nil, List.flatMap_map, List.map_map]
  exact congrArg₂ Prod.mk (List.flatMap_pure_eq_map _ legs) rfl

/-- The candidates are gathered from one lookup for each leg, in order. -/
theorem asks_candidates (channel : String) {alternatives : List Group}
    (hlegs : ∀ a ∈ alternatives, ∀ l ∈ a.legs, ∃ mspId, l = .msp mspId) :
    Asks (Resolver.candidates (peersOfMsp ask.transcribed channel) alternatives)
      fun asked found => ∃ lookups : List (List Lookup),
        lookups.map (List.map Lookup.leg) = alternatives.map Group.legs ∧
        asked = lookups.flatten.map (Lookup.question channel) ∧ found = gathered lookups := by
  refine (Asks.mapM alternatives fun a ha => asks_candidatesOf ask channel (hlegs a ha)).bind
    fun asked lists hlists => .pure ?_
  obtain ⟨parts, rfl, rfl, hparts⟩ := hlists
  obtain ⟨lookups, hlookups, rfl⟩ := exists_list_of_forall₂ hparts
  refine ⟨lookups, hlookups, ?_, ?_⟩
  · rw [List.append_nil, List.flatMap_map, List.map_flatten, List.flatMap_def]
  · rw [List.map_map, gathered, List.flatMap_def]
    rfl

/-! ## Using a resolver -/

/-- What is asked when a resolver is used for its key, what it answers, and the
    resolver afterwards. -/
inductive Used (key : Key) (resolver : Resolver ρ) :
    Transcript → Except Failure (List Peer) × Resolver ρ → Prop
  | unusable {first : Membership} {failure : Failure} (h : hardFailure? first = some failure) :
      Used key resolver [.membership key.channel first]
        (.error (unavailable key failure), resolver)
  | chosen {first : Membership} {lookups : List (List Lookup)} {choice : Candidate × ρ} {s : σ}
      (h : hardFailure? first = none)
      (hlegs : lookups.map (List.map Lookup.leg) = resolver.alternatives.map Group.legs)
      (hchoice : choice =
        (Runs.run (balancer.choose (gathered lookups) resolver.chooser) s).1) :
      Used key resolver
        (.membership key.channel first :: lookups.flatten.map (Lookup.question key.channel))
        (.ok choice.1, { resolver with chooser := choice.2 })

/-- Using a resolver asks for a snapshot for the check and, if that is of use, for one
    for each leg; the choice is made among the candidates gathered from these. -/
theorem asks_used (key : Key) {resolver : Resolver ρ}
    (hlegs : ∀ a ∈ resolver.alternatives, ∀ l ∈ a.legs, ∃ mspId, l = .msp mspId) :
    Asks (use ask.transcribed balancer.transcribed key resolver) (Used balancer key resolver) := by
  refine (asks_membership ask key.channel).bind fun asked first hfirst => ?_
  subst hfirst
  split
  · rename_i failure h
    exact .pure (.unusable h)
  · rename_i h
    have hresolve : Asks (resolver.resolve (m := StateT Transcript m)
          (peersOfMsp ask.transcribed key.channel) balancer.transcribed) fun asked r =>
        Used balancer key resolver (.membership key.channel first :: asked) (.ok r.1, r.2) := by
      refine (asks_candidates ask key.channel hlegs).bind fun asked found hfound => ?_
      obtain ⟨lookups, hlookups, rfl, rfl⟩ := hfound
      refine (Asks.log _).bind fun none _ hnone => ?_
      obtain ⟨rfl, -⟩ := hnone
      refine (asks_choose balancer _ resolver.chooser).bind fun none choice hchoice => .pure ?_
      obtain ⟨rfl, s, hchoice⟩ := hchoice
      simp only [List.append_nil]
      exact .chosen h hlookups hchoice
    refine hresolve.bind fun asked r hr => .pure ?_
    rw [List.append_nil]
    exact hr

/-! ## Resolvers kept -/

/-- The alternatives of every resolver kept come from policies. -/
def Rooted (service : Service ρ) : Prop :=
  ∀ key resolver, service.resolvers.find? key = some resolver →
    ∃ held, builtFrom held = .ok resolver.alternatives

theorem rooted_empty : Rooted ({} : Service ρ) := by
  intro key resolver h
  rw [Table.find?_empty] at h
  cases h

variable {balancer}

theorem Rooted.keep {service : Service ρ} (h : service.Rooted) {key : Key} {resolver : Resolver ρ}
    (hresolver : ∃ held, builtFrom held = .ok resolver.alternatives) :
    (service.keep key resolver).Rooted := by
  intro k r hk
  rw [find?_keep] at hk
  split at hk
  · obtain rfl := Option.some.inj hk
    exact hresolver
  · exact h k r hk

/-- Groups that were found are those of the policies that were answered. -/
theorem Found.exists_held {channel : String} {chaincodes : List String} {asked : Transcript}
    {groups : List Group} (h : Found channel chaincodes asked groups) :
    ∃ held : List (Except Failure (List UInt8)),
      held.mapM (fun policy => policy >>= Policy.groupOfBytes) = .ok groups := by
  induction h with
  | nil => exact ⟨[], rfl⟩
  | @cons _ answer group _ _ groups hcompiled _ ih =>
    obtain ⟨held, hheld⟩ := ih
    obtain ⟨data, -, hgroup⟩ := exists_ok_of_bind hcompiled
    refine ⟨.ok data.policy :: held, ?_⟩
    rw [List.mapM_cons, hheld]
    change (Policy.groupOfBytes data.policy >>= fun g => .ok (g :: groups)) = _
    rw [hgroup]
    rfl

theorem Attempt.exists_builtFrom {key : Key} {asked : Transcript} {resolver : Resolver ρ}
    (h : Attempt key asked (.ok resolver)) : ∃ held, builtFrom held = .ok resolver.alternatives := by
  cases h with
  | @built looked groups combined chooser hshort h hall =>
    obtain ⟨held, hheld⟩ := h.exists_held
    refine ⟨held, ?_⟩
    rw [builtFrom, hheld]
    change (allOf groups >>= fun combined => (Resolver.alternativesOf combined).run.value) = _
    rw [hall]
    change (Resolver.alternativesOf combined).run.value = _
    rw [Resolver.value_alternativesOf, if_neg (reduce_ne_nil_of_allOf hall h.holds_always)]

theorem Effect.rooted {service after : Service ρ} {done : Done} (h : Effect service done after)
    (hrooted : service.Rooted) : after.Rooted := by
  cases h with
  | kept _ h _ hsame => exact hrooted.keep (hsame ▸ hrooted _ _ h)
  | built _ _ hattempt _ hsame => exact hrooted.keep (hsame ▸ hattempt.exists_builtFrom)
  | clear => exact rooted_empty
  | unnamed _ | failed _ _ _ | eventSource _ | change => exact hrooted

variable [LawfulMonad m]

theorem rooted_after (x : Setting m ρ) (s : σ) (calls : List (Call σ)) :
    (x.after ⟨{}, s⟩ calls).service.Rooted := by
  induction calls using List.reverseRecOn with
  | nil => exact rooted_empty
  | append_singleton calls call ih =>
    rw [Setting.after_concat]
    exact (effect_perform x _ call).rooted ih

/-! ## Answers -/

theorem Lookup.peers_of_isHardFailure {lookup : Lookup} {mspId : String}
    (hleg : lookup.leg = .msp mspId) (h : lookup.snapshot.isHardFailure = true) :
    lookup.peers = [] := by
  rw [Membership.isHardFailure, Bool.and_eq_true, List.isEmpty_iff] at h
  rw [Lookup.peers, hleg, PeerGroup.current_msp, peersOf, h.2, List.filter_nil]

theorem Lookup.mem_peers {lookup : Lookup} {mspId : String} (hleg : lookup.leg = .msp mspId)
    {p : Peer} (hp : p ∈ lookup.peers) :
    lookup.leg = .msp p.mspId ∧ p ∈ lookup.snapshot.peers := by
  rw [Lookup.peers, hleg, PeerGroup.current_msp, peersOf, List.mem_filter] at hp
  obtain ⟨hmem, hmspId⟩ := hp
  rw [beq_iff_eq] at hmspId
  exact ⟨by rw [hleg, hmspId], hmem⟩

variable {lookups : List (List Lookup)} {candidate : Candidate}

/-- A candidate is of one alternative, each peer from the lookup of its own leg. -/
theorem exists_of_mem_gathered (h : candidate ∈ gathered lookups) :
    ∃ legs ∈ lookups, legs ≠ [] ∧
      List.Forall₂ (fun p (lookup : Lookup) => p ∈ lookup.peers) candidate legs := by
  obtain ⟨legs, hlegs, htuple⟩ := List.mem_flatMap.1 h
  obtain ⟨hne, hitems⟩ := Product.mem_tuples.1 htuple
  exact ⟨legs, hlegs, by simpa using hne, List.forall₂_map_right_iff.1 hitems⟩

/-- The peers of a candidate are in the snapshots that their legs were looked up in. -/
theorem forall₂_mem_snapshot {legs : List Lookup}
    (hlegs : ∀ lookup ∈ legs, ∃ mspId, lookup.leg = .msp mspId)
    (h : List.Forall₂ (fun p (lookup : Lookup) => p ∈ lookup.peers) candidate legs) :
    List.Forall₂ (fun p (lookup : Lookup) =>
      lookup.leg = .msp p.mspId ∧ p ∈ lookup.snapshot.peers) candidate legs := by
  induction h with
  | nil => exact .nil
  | cons hp _ ih =>
    rw [List.forall_mem_cons] at hlegs
    obtain ⟨mspId, hleg⟩ := hlegs.1
    exact .cons (Lookup.mem_peers hleg hp) (ih hlegs.2)

theorem gathered_eq_nil (hlegs : ∀ lookup ∈ lookups.flatten, ∃ mspId, lookup.leg = .msp mspId)
    (hhard : ∀ lookup ∈ lookups.flatten, lookup.snapshot.isHardFailure = true) :
    gathered lookups = [] := by
  refine List.eq_nil_iff_forall_not_mem.2 fun candidate hmem => ?_
  obtain ⟨legs, hmem, hne, hitems⟩ := exists_of_mem_gathered hmem
  cases hitems with
  | nil => exact hne rfl
  | @cons p lookup _ _ hp _ =>
    have hflat : lookup ∈ lookups.flatten := List.mem_flatten.2 ⟨_, hmem, List.mem_cons_self⟩
    obtain ⟨mspId, hleg⟩ := hlegs lookup hflat
    rw [Lookup.peers_of_isHardFailure hleg (hhard lookup hflat)] at hp
    exact List.not_mem_nil hp

theorem exists_msp_of_mem_flatten {alternatives : List Group}
    (hlegs : ∀ a ∈ alternatives, ∀ l ∈ a.legs, ∃ mspId, l = .msp mspId)
    (hmap : lookups.map (List.map Lookup.leg) = alternatives.map Group.legs) :
    ∀ lookup ∈ lookups.flatten, ∃ mspId, lookup.leg = .msp mspId := by
  intro lookup hlookup
  obtain ⟨legs, hmem, hlookup⟩ := List.mem_flatten.1 hlookup
  have halternative := List.mem_map_of_mem (f := List.map Lookup.leg) hmem
  rw [hmap] at halternative
  obtain ⟨a, ha, hlegsOf⟩ := List.mem_map.1 halternative
  exact hlegs a ha _ (hlegsOf ▸ List.mem_map_of_mem hlookup)

/-- A request whose resolver is kept first asks whether the channel is of any use,
    and fails iff it is not. Then it asks for every leg of every alternative. The
    peers that it is answered are of the legs of one alternative, each from the
    snapshot that was answered to its own leg; if all of these are failures, there
    are no peers, but there is no failure either. -/
theorem peers_from_own_lookups (x : Setting m ρ) (hchooses : x.balancer.Chooses fun _ => True)
    (s : σ) (before : List (Call σ)) {channel : String} {chaincodes : List String}
    {resolver : Resolver ρ} (hne : chaincodes ≠ [])
    (hkept : (x.after ⟨{}, s⟩ before).service.resolvers.find? (.ofRequest channel chaincodes) =
      some resolver) :
    ∃ (first : Membership) (lookups : List (List Lookup)) (answer : Except Failure (List Peer)),
      (x.perform (x.after ⟨{}, s⟩ before) (.endorsers channel chaincodes)).1 =
        .endorsers channel chaincodes
          (.membership channel first :: lookups.flatten.map (Lookup.question channel)) answer ∧
      ((∃ failure, answer = .error failure) ↔ first.isHardFailure = true) ∧
      (first.isHardFailure = true → lookups = []) ∧
      (first.isHardFailure = false →
        lookups.map (List.map Lookup.leg) = resolver.alternatives.map Group.legs) ∧
      ∀ peers, answer = .ok peers →
        (peers ≠ [] → ∃ legs ∈ lookups, List.Forall₂ (fun p lookup =>
          lookup.leg = .msp p.mspId ∧ p ∈ lookup.snapshot.peers) peers legs) ∧
        ((∀ lookup ∈ lookups.flatten, lookup.snapshot.isHardFailure = true) → peers = []) := by
  obtain ⟨held, hheld⟩ := rooted_after x s before _ _ hkept
  have hlegs : ∀ a ∈ resolver.alternatives, ∀ l ∈ a.legs, ∃ mspId, l = .msp mspId :=
    fun a ha l hl => exists_msp_of_builtFrom hheld ha hl
  have hused := (asks_used x.ask x.balancer (.ofRequest channel chaincodes) hlegs).from_nil
    (x.after ⟨{}, s⟩ before).surroundings
  simp only [Setting.perform, run_endorsers_kept hne hkept]
  generalize Runs.run (use x.ask.transcribed x.balancer.transcribed _ resolver) _ = r at hused ⊢
  obtain ⟨⟨answer, resolver'⟩, t, s'⟩ := r
  cases hused with
  | @unusable first failure h =>
    have hhard := isHardFailure_of_hardFailure? h
    refine ⟨first, [], _, rfl, iff_of_true ⟨_, rfl⟩ hhard, fun _ => rfl, fun hsoft => ?_,
      fun peers hpeers => by cases hpeers⟩
    rw [hhard] at hsoft
    cases hsoft
  | @chosen first lookups choice s h hmap hchoice =>
    have hsoft := hardFailure?_eq_none_iff.1 h
    have hleg := exists_msp_of_mem_flatten hlegs hmap
    have hmem := (hchooses.choose (gathered lookups) resolver.chooser s trivial).1
    rw [← hchoice] at hmem
    refine ⟨first, lookups, _, rfl, iff_of_false (by simp) (by simp [hsoft]), fun hhard => ?_,
      fun _ => hmap, fun peers hpeers => ?_⟩
    · rw [hsoft] at hhard
      cases hhard
    · obtain rfl := Except.ok.inj hpeers
      refine ⟨fun hne => ?_, fun hhard => ?_⟩
      · obtain ⟨legs, hlegs, -, hitems⟩ :=
          exists_of_mem_gathered (hmem.resolve_right fun hnone => hne hnone.2)
        exact ⟨legs, hlegs, forall₂_mem_snapshot
          (fun lookup hlookup => hleg lookup (List.mem_flatten.2 ⟨legs, hlegs, hlookup⟩)) hitems⟩
      · rw [gathered_eq_nil hleg hhard] at hmem
        exact (hmem.resolve_left List.not_mem_nil).2

/-- Collaborators with one policy for all chaincodes, which answer a membership
    after the other from a list, and an empty one when there are none left. -/
def listing : Collaborators (StateT (List Membership) Logged) where
  chaincode _ chaincode := return .ok ⟨chaincode, "1", Wire.encode bothSign⟩
  membership _ := do
    match ← get with
    | [] => return { peers := [] }
    | snapshot :: rest =>
      set rest
      return snapshot
  draw := return 0

/-- A round robin among what these collaborators lead to. -/
def listed : Setting (StateT (List Membership) Logged) Position :=
  ⟨listing, Balance.roundRobin.balancer (pure 0), {}⟩

/-- A chaincode is asked for, and then some snapshots are there to be answered. -/
def listing.calls (snapshots : List Membership) : List (Call (List Membership × Unit)) :=
  [.endorsers "channel" ["chaincode"], .change fun _ => (snapshots, ())]

/-- What is left of a new service. -/
def about (snapshots : List Membership) : InUse (List Membership × Unit) Position :=
  listed.after ⟨{}, ([], ())⟩ (listing.calls snapshots)

/-- A peer of each of two organisations, known at different times. -/
def earlier : Membership := { peers := [{ url := "a:1", mspId := "A" }] }
def later : Membership := { peers := [{ url := "b:1", mspId := "B" }] }

/-- A snapshot of no use. -/
def failed : Membership := { peers := [], queryFailure := some (.membershipQuery "channel" "down") }

theorem perform_earlier_later :
    (listed.perform (about [earlier, earlier, later]) (.endorsers "channel" ["chaincode"])).1 =
      .endorsers "channel" ["chaincode"]
        [.membership "channel" earlier, .membership "channel" earlier, .membership "channel" later]
        (.ok (earlier.peers ++ later.peers)) := by
  cbv

set_option maxRecDepth 1024 in
/-- Both organisations are found, each in a snapshot of its own. -/
theorem earlier_and_later_found :
    (about [earlier, earlier, later]).service.resolvers.find?
        (.ofRequest "channel" ["chaincode"]) =
          some ⟨[.all [.leaf (.msp "A"), .leaf (.msp "B")]], none⟩ ∧
      ∃ legs : List Lookup, List.Forall₂ (fun p lookup =>
        lookup.leg = .msp p.mspId ∧ p ∈ lookup.snapshot.peers) (earlier.peers ++ later.peers)
          legs := by
  have hkept : (about [earlier, earlier, later]).service.resolvers.find?
      (.ofRequest "channel" ["chaincode"]) =
        some ⟨[.all [.leaf (.msp "A"), .leaf (.msp "B")]], none⟩ := by
    cbv
  obtain ⟨first, lookups, answer, hdone, -, -, -, hpeers⟩ := peers_from_own_lookups listed
    (Balance.chooses_balancer (.pure trivial) .roundRobin) ([], ())
    (listing.calls [earlier, earlier, later]) (by decide) hkept
  obtain ⟨-, -, -, rfl⟩ := Done.endorsers.inj (perform_earlier_later.symm.trans hdone)
  obtain ⟨legs, -, hlegs⟩ := (hpeers _ rfl).1 (by decide)
  exact ⟨hkept, legs, hlegs⟩

/-- The peers of one answer may be in no snapshot together; and where all
    snapshots of the legs are of no use, there may be no peers, and no failure. -/
theorem torn_selections :
    (∃ peers, (listed.perform (about [earlier, earlier, later])
        (.endorsers "channel" ["chaincode"])).1 =
          .endorsers "channel" ["chaincode"]
            [.membership "channel" earlier, .membership "channel" earlier,
              .membership "channel" later] (.ok peers) ∧
        peers ≠ [] ∧ ¬peers ⊆ earlier.peers ∧ ¬peers ⊆ later.peers) ∧
      failed.isHardFailure = true ∧
      (listed.perform (about [earlier, failed, failed]) (.endorsers "channel" ["chaincode"])).1 =
        .endorsers "channel" ["chaincode"]
          [.membership "channel" earlier, .membership "channel" failed,
            .membership "channel" failed] (.ok []) := by
  refine ⟨⟨_, perform_earlier_later, ?_, ?_, ?_⟩, rfl, ?_⟩
  · decide
  · decide
  · decide
  · cbv

end Endorsement.Selection.Service
