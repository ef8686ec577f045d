import Endorsement.Proofs.Balance
import Endorsement.Proofs.Selection.Joint

/-!
# What requests for endorsers are answered

A request is answered out of the candidates that represent the policies of its
chaincodes on the peers of its channel. The resolver with their alternatives is
built, or found among those kept.

* `Service.Faithful`: every resolver kept for one of some keys has the
  alternatives of the policies of that key;
* `endorsers_faithful`, `clear_faithful`, `requests_faithful`: requests of any
  kind keep a service faithful, and so is every service that was new once;
* `Available`: what a request relies on while it is answered;
* `endorsers_satisfy_policies`: the answer satisfies the policies of all the
  chaincodes if any peers do, and no way to satisfy them is missed.
-/

namespace Endorsement.Selection

variable {m : Type → Type} [Monad m] [MonadLiftT Logged m] {σ ρ : Type} [Runs m σ]
  {keeps : σ → Prop} {ask : Collaborators m} {balancer : Balancer m ρ}
  {committed : String → String → List UInt8} {fails : Failure → Prop}

/-- The encoded policies of the chaincodes of a key. -/
def Key.policies (committed : String → String → List UInt8) (key : Key) : List (List UInt8) :=
  key.chaincodes.map (committed key.channel)

namespace Service

/-! ## Building resolvers -/

section Resolvers

variable [LawfulMonad m]

/-- The provider answers the data of a chaincode, with the policy committed for
    it, or fails as `fails`. -/
def Provides (keeps : σ → Prop) (fails : Failure → Prop) (ask : Collaborators m)
    (committed : String → String → List UInt8) (channel chaincode : String) : Prop :=
  Follows keeps fails (fun data bytes => data.policy = bytes)
    (ExceptT.mk (ask.chaincode channel chaincode)) (.ok (committed channel chaincode))

theorem follows_policyGroup {channel chaincode : String} {held : Except Failure (List UInt8)}
    (hdata : Follows keeps fails (fun data bytes => data.policy = bytes)
      (ExceptT.mk (ask.chaincode channel chaincode)) held) :
    Follows keeps fails Eq (policyGroup ask channel chaincode) (held >>= Policy.groupOfBytes) := by
  refine hdata.bind fun data bytes hpolicy => ?_
  subst hpolicy
  refine (Follows.log _).bind fun groups _ h => Follows.bind_lift (Answers.log _) fun _ _ => ?_
  subst h
  exact .pure rfl

/-- The groups of chaincodes are those of the policies that are held for them. -/
theorem follows_policyGroups {channel : String} {chaincodes : List String}
    {held : String → Except Failure (List UInt8)}
    (hdata : ∀ c ∈ chaincodes, Follows keeps fails (fun data bytes => data.policy = bytes)
      (ExceptT.mk (ask.chaincode channel c)) (held c)) :
    Follows keeps fails Eq (policyGroups ask channel chaincodes)
      ((chaincodes.map held).mapM fun policy => policy >>= Policy.groupOfBytes) := by
  induction chaincodes with
  | nil => exact .pure rfl
  | cons c rest ih =>
    rw [List.forall_mem_cons] at hdata
    rw [List.map_cons, List.mapM_cons]
    refine (follows_policyGroup hdata.1).bind fun group _ h => ?_
    subst h
    refine (ih hdata.2).bind fun groups _ h => ?_
    subst h
    exact .pure rfl

/-- A resolver is built with the alternatives of the policies that are held for
    the chaincodes, or not at all. -/
theorem follows_build {key : Key} {held : String → Except Failure (List UInt8)} {new : ρ → Prop}
    (hdata : ∀ c ∈ key.chaincodes, Follows keeps fails (fun data bytes => data.policy = bytes)
      (ExceptT.mk (ask.chaincode key.channel c)) (held c))
    (hfresh : Answers keeps balancer.fresh new) :
    Follows keeps fails
      (fun resolver alternatives => resolver.alternatives = alternatives ∧ new resolver.chooser)
      (build ask balancer key) (builtFrom (key.chaincodes.map held)) := by
  refine (follows_policyGroups hdata).bind fun groups _ h => ?_
  subst h
  refine (Follows.ofExcept (allOf groups)).bind fun combined _ h => ?_
  subst h
  refine Follows.bind_lift hfresh fun chooser hchooser => ?_
  rw [← bind_pure (Resolver.alternativesOf combined).run.value]
  exact (Follows.log _).bind fun alternatives _ h => .pure ⟨h, hchooser⟩

/-! ## Resolvers kept -/

/-- Every resolver kept for one of some keys has the alternatives of the policies
    of that key. -/
def Faithful (committed : String → String → List UInt8) (among : Set Key) (service : Service ρ) :
    Prop :=
  ∀ key ∈ among, ∀ resolver, service.resolvers.find? key = some resolver →
    jointAlternatives (key.policies committed) = .ok resolver.alternatives

variable {among : Set Key}

theorem faithful_empty : Faithful committed among ({} : Service ρ) := by
  intro key _ resolver h
  rw [Table.find?_empty] at h
  cases h

theorem Faithful.insert {service : Service ρ} (h : service.Faithful committed among) {key : Key}
    {resolver : Resolver ρ}
    (hkey : key ∈ among → jointAlternatives (key.policies committed) =
      .ok resolver.alternatives) :
    Faithful committed among
      { service with resolvers := service.resolvers.insert key resolver } := by
  intro k hk r hfind
  rw [Table.find?_insert] at hfind
  split at hfind
  · subst k
    obtain rfl := Option.some.inj hfind
    exact hkey hk
  · exact h k hk r hfind

/-- The resolver of one of the keys has the alternatives of its policies, whether
    it is kept or new. -/
theorem answers_resolver {key : Key}
    (hdata : ∀ c ∈ key.chaincodes, Provides keeps fails ask committed key.channel c)
    (hfresh : Answers keeps balancer.fresh fun _ => True) :
    Answers (Both (Faithful committed among) keeps) (resolver ask balancer key) fun r =>
      key ∈ among → EndedAs fails
        (fun resolver alternatives => resolver.alternatives = alternatives)
        (jointAlternatives (key.policies committed)) r := by
  have hbuild : Follows keeps fails
      (fun resolver alternatives => resolver.alternatives = alternatives)
      (build ask balancer key) (jointAlternatives (key.policies committed)) := by
    rw [← builtFrom_map_ok, Key.policies, List.map_map]
    exact (follows_build hdata hfresh).mono fun _ _ => And.left
  refine Answers.get.bind fun service hservice => ?_
  split
  · -- A resolver that is kept was built for the same policies.
    rename_i resolver hfind
    exact .pure fun hkey => ⟨_, hservice key hkey resolver hfind, rfl⟩
  · refine (Answers.log _).bind fun _ _ => ?_
    refine (Answers.lift hbuild).bind fun r hr => ?_
    cases r with
    | error failure => exact .pure fun _ => hr
    | ok resolver =>
      obtain ⟨alternatives, halternatives, rfl⟩ := hr
      refine (Answers.modify fun service hservice => ?_).bind fun _ _ =>
        .pure fun _ => ⟨_, halternatives, rfl⟩
      exact hservice.insert fun _ => halternatives

end Resolvers

/-! ## Choosing -/

/-- What is chosen for a request is what the balancer chooses among the candidates
    of its resolver. If that has the alternatives of its policies, it is kept so. -/
theorem answers_resolve {among : Set Key} {key : Key} {resolver : Resolver ρ}
    {these : List Candidate → Prop} {post : List Peer → Prop}
    (hkey : key ∈ among →
      jointAlternatives (key.policies committed) = .ok resolver.alternatives)
    (hcandidates : Answers keeps
      (Resolver.candidates (peersOfMsp ask key.channel) resolver.alternatives) these)
    (hchoose : ∀ found, these found →
      Answers keeps (balancer.choose found resolver.chooser) fun choice => post choice.1) :
    Answers (Both (Faithful committed among) keeps) (resolve ask balancer key resolver) post := by
  -- A chooser may change as it chooses, but the alternatives stay.
  have hresolve : Answers keeps
      (resolver.resolve (m := m) (peersOfMsp ask key.channel) balancer)
      fun r => post r.1 ∧ r.2.alternatives = resolver.alternatives :=
    hcandidates.bind fun found hfound => (Answers.log _).bind fun _ _ =>
      (hchoose found hfound).bind fun _ hpost => .pure ⟨hpost, rfl⟩
  refine (Answers.lift hresolve).bind fun r hr => ?_
  refine (Answers.modify fun service hservice => ?_).bind fun _ _ => ?_
  · exact hservice.insert fun hmem => (hkey hmem).trans (by rw [hr.2])
  · exact (Answers.log _).bind fun _ _ => .pure hr.1

/-- The candidates found are those that the snapshot offers. -/
theorem answers_candidates {channel : String} {snapshot : Membership}
    (hsnapshot : Answers keeps (ask.membership channel) (· = snapshot))
    (alternatives : List Group) :
    Answers keeps (Resolver.candidates (peersOfMsp ask channel) alternatives)
      (· = Resolver.offered (peersOf snapshot.peers) alternatives) := by
  -- The snapshot is asked for again for every leaf, and does not change.
  have hleaf : ∀ l : PeerGroup, Answers keeps (l.peers (peersOfMsp ask channel))
      (· = l.current (peersOf snapshot.peers)) := by
    intro l
    cases l with
    | fixed peers => exact .pure rfl
    | msp mspId =>
      refine hsnapshot.bind fun r hr => .pure ?_
      rw [hr]
      rfl
  have halternative : ∀ a : Group, Answers keeps (Resolver.candidatesOf (peersOfMsp ask channel) a)
      (· = Product.tuples (a.legs.map (·.current (peersOf snapshot.peers)))) := by
    intro a
    refine (Answers.mapM_eq a.legs hleaf).bind fun lists hlists => .pure ?_
    rw [hlists]
  refine (Answers.mapM_eq alternatives halternative).bind fun found hfound => .pure ?_
  rw [hfound, Resolver.offered_eq_flatMap, List.flatMap_def]

/-! ## What services keep to -/

section Keeping

variable [LawfulMonad m] {among : Set Key}
  (hdata : ∀ channel c, Provides keeps (fun _ => True) ask committed channel c)
  (hmembership : ∀ channel, Answers keeps (ask.membership channel) fun _ => True)
  (hfresh : Answers keeps balancer.fresh fun _ => True)
  (hchoose : ∀ found chooser, Answers keeps (balancer.choose found chooser) fun _ => True)

include hmembership in
omit [LawfulMonad m] in
theorem candidates_keeps (channel : String) (alternatives : List Group) :
    Answers keeps (Resolver.candidates (peersOfMsp ask channel) alternatives) fun _ => True := by
  refine (Answers.mapM (R := fun _ _ => True) alternatives fun a _ => ?_).bind
    fun _ _ => .pure trivial
  refine (Answers.mapM (R := fun _ _ => True) a.legs fun l _ => ?_).bind fun _ _ => .pure trivial
  cases l with
  | fixed peers => exact .pure trivial
  | msp mspId => exact (hmembership channel).bind fun _ _ => .pure trivial

include hdata hmembership hfresh hchoose

/-- Whatever is asked for, and whatever becomes of it, a service stays faithful
    to the committed policies. -/
theorem endorsers_faithful (channel : String) (chaincodes : List String) :
    Answers (Both (Faithful committed among) keeps) (endorsers ask balancer channel chaincodes)
      fun _ => True := by
  rw [endorsers]
  split
  · exact .pure trivial
  · refine Answers.bind (answers_resolver (fun c _ => hdata _ c) hfresh) fun r hr => ?_
    cases r with
    | error failure => exact .pure trivial
    | ok resolver =>
      have hkey : Key.ofRequest channel chaincodes ∈ among → jointAlternatives
          ((Key.ofRequest channel chaincodes).policies committed) = .ok resolver.alternatives := by
        intro hmem
        obtain ⟨_, hresolver, rfl⟩ := hr hmem
        exact hresolver
      refine (Answers.lift (hmembership _)).bind fun membership _ => ?_
      split
      · exact .pure trivial
      · have hresolve : Answers (Both (Faithful committed among) keeps)
            (resolve ask balancer (Key.ofRequest channel chaincodes) resolver) fun _ => True :=
          answers_resolve hkey (candidates_keeps hmembership channel _) fun found _ =>
            hchoose found _
        exact hresolve.bind fun _ _ => .pure trivial

/-- A new service is faithful after any number of requests. -/
theorem requests_faithful (requests : List (String × List String)) {s : σ} (hs : keeps s) :
    (Runs.run (requests.mapM fun r => endorsers ask balancer r.1 r.2)
      (({} : Service ρ), s)).2.1.Faithful committed among := by
  have hrequest : ∀ r ∈ requests, Answers (Both (Faithful committed among) keeps)
      (endorsers ask balancer r.1 r.2) fun _ => True :=
    fun r _ => endorsers_faithful hdata hmembership hfresh hchoose r.1 r.2
  exact (Answers.mapM requests hrequest ({}, s) ⟨faithful_empty, hs⟩).2.1

end Keeping

theorem clear_faithful {among : Set Key} :
    Answers (Both (Faithful committed among) keeps) (clear : StateT (Service ρ) m Unit)
      fun _ => True :=
  Answers.get.bind fun _ _ => (Answers.log _).bind fun _ _ => .set faithful_empty

end Service

/-! ## Requests -/

/-- What a request relies on while it is answered: the chaincodes have data, with
    the policies committed for them, and the snapshot of the channel stays as it
    is. -/
structure Available (keeps : σ → Prop) (ask : Collaborators m)
    (committed : String → String → List UInt8) (channel : String) (chaincodes : List String)
    (snapshot : Membership) : Prop where
  chaincode : ∀ c ∈ chaincodes, Service.Provides keeps (fun _ => False) ask committed channel c
  membership : Answers keeps (ask.membership channel) (· = snapshot)

namespace Service

variable [LawfulMonad m] {channel : String} {chaincodes : List String} {snapshot : Membership}

theorem hardFailure?_eq_some_iff {failure : Failure} : hardFailure? snapshot = some failure ↔
    snapshot.queryFailure = some failure ∧ snapshot.peers = [] := by
  rw [hardFailure?, Membership.isHardFailure]
  cases snapshot.queryFailure <;> cases snapshot.peers <;> simp

theorem hardFailure?_eq_none_iff :
    hardFailure? snapshot = none ↔ snapshot.isHardFailure = false := by
  rw [hardFailure?, Membership.isHardFailure]
  cases snapshot.queryFailure <;> cases snapshot.peers <;> simp

theorem isHardFailure_of_hardFailure? {failure : Failure}
    (h : hardFailure? snapshot = some failure) : snapshot.isHardFailure = true := by
  obtain ⟨hfailure, hpeers⟩ := hardFailure?_eq_some_iff.1 h
  rw [Membership.isHardFailure, hfailure, hpeers]
  rfl

/-- The candidates of a request represent the policies of its chaincodes. -/
theorem exists_represents {policy : String → Policy}
    (hpolicy : ∀ c ∈ chaincodes, Policy.ofBytes (committed channel c) = .ok (policy c) ∧
      (policy c).Compiles) (hne : chaincodes ≠ []) (hlen : chaincodes.length < 2 ^ 31)
    (peers : List Peer) :
    ∃ alternatives, jointAlternatives ((Key.ofRequest channel chaincodes).policies committed) =
        .ok alternatives ∧
      Represents (Resolver.offered (peersOf peers) alternatives) (chaincodes.map policy) peers := by
  rw [Key.policies, Key.ofRequest]
  have hmem : ∀ c, c ∈ chaincodes.mergeSort (fun a b => decide (a ≤ b)) ↔ c ∈ chaincodes :=
    fun c => List.mem_mergeSort
  have hlength : (chaincodes.mergeSort fun a b => decide (a ≤ b)).length = chaincodes.length :=
    List.length_mergeSort chaincodes
  -- Sorting changes neither which chaincodes there are nor how many.
  generalize chaincodes.mergeSort (fun a b => decide (a ≤ b)) = sorted at *
  have hencoded : Encoded (sorted.map (committed channel)) (sorted.map policy) := by
    rw [Encoded, List.forall₂_map_left_iff, List.forall₂_map_right_iff, List.forall₂_same]
    exact fun c hc => hpolicy c ((hmem c).1 hc)
  have hsorted : sorted.map policy ≠ [] := by
    rw [Ne, List.map_eq_nil_iff, ← List.length_eq_zero_iff, hlength, List.length_eq_zero_iff]
    exact hne
  obtain ⟨alternatives, halternatives, hrep⟩ :=
    hencoded.represents_offered hsorted (by rwa [List.length_map, hlength]) peers
  refine ⟨alternatives, halternatives, hrep.congr fun p => ?_⟩
  simp only [List.mem_map, hmem]

/-- A request is answered soundly and completely. For whatever balancer, the
    answer is its choice among the candidates found: peers of the channel whose
    organisations satisfy the policies of all the chaincodes, or no peers if the
    channel as a whole does not. A candidate lies in every set of peers of the
    channel that does. A resolver that is kept for the key of the request has to
    have the alternatives of these policies; those of other keys need not. -/
theorem endorsers_satisfy_policies (policy : String → Policy)
    (hask : Available keeps ask committed channel chaincodes snapshot)
    (hpolicy : ∀ c ∈ chaincodes, Policy.ofBytes (committed channel c) = .ok (policy c) ∧
      (policy c).Compiles)
    (hne : chaincodes ≠ []) (hlen : chaincodes.length < 2 ^ 31)
    (hsnapshot : snapshot.isHardFailure = false) :
    ∃ found : List Candidate,
      (∀ S ⊆ snapshot.peers, AllSatisfied (chaincodes.map policy) S →
        ∃ candidate ∈ found, candidate ⊆ S) ∧
      ∀ {ρ : Type} (balancer : Balancer m ρ) (among : Set Key), balancer.Chooses keeps →
        Key.ofRequest channel chaincodes ∈ among →
        Answers (Both (Faithful committed among) keeps) (endorsers ask balancer channel chaincodes)
          fun answer => ∃ peers, answer = .ok peers ∧
            (∃ chooser s, keeps s ∧ peers = (Runs.run (balancer.choose found chooser) s).1.1) ∧
            peers ⊆ snapshot.peers ∧
            (peers ≠ [] → AllSatisfied (chaincodes.map policy) peers) ∧
            (peers = [] ↔ ¬AllSatisfied (chaincodes.map policy) snapshot.peers) := by
  obtain ⟨alternatives, halternatives, hrep⟩ := exists_represents hpolicy hne hlen snapshot.peers
  refine ⟨_, fun S hS hsat => (hrep.exists_iff S hS).2 hsat,
    fun {ρ} balancer among hbalancer hkey => ?_⟩
  have hdata : ∀ c ∈ (Key.ofRequest channel chaincodes).chaincodes,
      Provides keeps (fun _ => False) ask committed channel c :=
    fun c hc => hask.chaincode c (List.mem_mergeSort.1 hc)
  rw [endorsers, if_neg (by simpa using hne)]
  refine Answers.bind (answers_resolver hdata hbalancer.fresh) fun r hr => ?_
  replace hr := hr hkey
  cases r with
  | error failure =>
    -- Neither the provider fails nor the policies together.
    simp [EndedAs, halternatives] at hr
  | ok resolver =>
    obtain ⟨_, hresolver, rfl⟩ := hr
    -- Kept or new, the resolver has the alternatives of the policies.
    obtain rfl := Except.ok.inj (halternatives.symm.trans hresolver)
    refine (Answers.lift hask.membership).bind fun r hr => ?_
    rw [hr, hardFailure?_eq_none_iff.2 hsnapshot]
    refine (answers_resolve (fun _ => hresolver) (answers_candidates hask.membership _)
      fun found hfound => (hbalancer.choose found resolver.chooser).exists_run.mono
        fun choice hchoice => ?_).bind fun peers hpeers => .pure ⟨peers, rfl, hpeers⟩
    obtain ⟨hmem, s, hs, hrun⟩ := hchoice
    rw [hfound] at hmem hrun
    exact ⟨⟨resolver.chooser, s, hs, by rw [hrun]⟩, hrep.of_choice hmem⟩

/-- Two peers, one of each of two organisations. -/
def twoPeers : Membership where
  peers := [{ url := "a:1", mspId := "A" }, { url := "b:1", mspId := "B" }]

/-- The policy that asks for both organisations. -/
def bothSign : Policy where
  rule := some (.outOf 2 [.signedBy 0, .signedBy 1])
  identities := [.member "A", .member "B"]

/-- Collaborators that know these peers, and that policy for all chaincodes. -/
def fixedCollaborators : Collaborators Logged where
  chaincode _ chaincode := return .ok ⟨chaincode, "1", Wire.encode bothSign⟩
  membership _ := return twoPeers
  draw := return 0

/-- A resolver for another chaincode that fits no policy. -/
def unfit : Resolver Position := ⟨[.all []], none⟩

/-- What is kept for another chaincode has no part in the answer. -/
theorem endorsers_bothSign :
    let service : Service Position :=
      { resolvers := Table.empty.insert (Key.ofRequest "channel" ["other"]) unfit }
    ∃ peers, (Runs.run (endorsers fixedCollaborators (Balance.roundRobin.balancer (pure 0))
      "channel" ["chaincode"]) (service, ())).1 = .ok peers ∧ peers ≠ [] ∧
      AllSatisfied [bothSign] peers := by
  intro service
  have hask : Available (fun _ => True) fixedCollaborators (fun _ _ => Wire.encode bothSign)
      "channel" ["chaincode"] twoPeers :=
    ⟨fun _ _ => Answers.pure ⟨_, rfl, rfl⟩, .pure rfl⟩
  have hpolicy : Policy.ofBytes (Wire.encode bothSign) = .ok bothSign ∧ bothSign.Compiles :=
    ⟨rfl, _, rfl⟩
  obtain ⟨_, -, hanswers⟩ := endorsers_satisfy_policies (fun _ => bothSign) hask
    (fun _ _ => hpolicy) (by simp) (by decide) rfl
  have hkeys : Key.ofRequest "channel" ["other"] ≠ Key.ofRequest "channel" ["chaincode"] := by
    simp [Key.ofRequest]
  have hfaithful : service.Faithful (fun _ _ => Wire.encode bothSign)
      {Key.ofRequest "channel" ["chaincode"]} := by
    rintro _ rfl resolver hfind
    rw [Table.find?_insert, if_neg hkeys, Table.find?_empty] at hfind
    cases hfind
  obtain ⟨⟨peers, hok, -, -, hsat, hnil⟩, -⟩ :=
    hanswers _ {Key.ofRequest "channel" ["chaincode"]}
      (Balance.chooses_balancer (.pure trivial) .roundRobin) rfl (service, ())
      ⟨hfaithful, trivial⟩
  have hall : AllSatisfied [bothSign] twoPeers.peers := by
    intro p hp
    obtain rfl := List.mem_singleton.1 hp
    rfl
  have hne : peers ≠ [] := fun h => hnil.1 h hall
  exact ⟨peers, hok, hne, hsat hne⟩

end Service

end Endorsement.Selection
