import Endorsement.Proofs.Selection.Builds

/-!
# Requests and their keys

A request for endorsers counts for its key: the channel, and the chaincodes in
whatever order they are named. Requests with one key are one and the same; those
with different keys have nothing to do with each other's resolvers.

* `Key.ofRequest_eq_iff`: two requests have one key iff they name one channel, and
  the same chaincodes as often;
* `Service.endorsers_congr`: requests with one key are one action;
* `Service.answerAlone`, `Service.run_endorsers`: of all the resolvers kept, a
  request has to do with that of its key alone;
* `Service.requests_count_by_key`: all of this together.
-/

namespace Endorsement.Selection

/-! ## Keys -/

namespace Key

variable {channel channel' : String} {chaincodes chaincodes' : List String}

/-- A key has the chaincodes of its request, in another order. -/
theorem perm_ofRequest (channel : String) (chaincodes : List String) :
    (ofRequest channel chaincodes).chaincodes.Perm chaincodes :=
  List.mergeSort_perm _ _

/-- Lists of the same texts are the same once they are sorted. -/
theorem ofRequest_congr (h : chaincodes.Perm chaincodes') :
    ofRequest channel chaincodes = ofRequest channel chaincodes' := by
  have hperm : (ofRequest channel chaincodes).chaincodes.Perm
      (ofRequest channel chaincodes').chaincodes :=
    (perm_ofRequest channel chaincodes).trans (h.trans (perm_ofRequest channel chaincodes').symm)
  have hsorted := hperm.eq_of_pairwise (fun _ _ _ _ => String.le_antisymm)
    (Service.pairwise_ofRequest channel chaincodes) (Service.pairwise_ofRequest channel chaincodes')
  exact congrArg (Key.mk channel) hsorted

theorem ofRequest_eq_iff : ofRequest channel chaincodes = ofRequest channel' chaincodes' ↔
    channel = channel' ∧ chaincodes.Perm chaincodes' := by
  constructor
  · intro h
    have hperm := perm_ofRequest channel chaincodes
    rw [h] at hperm
    exact ⟨congrArg Key.channel h, hperm.symm.trans (perm_ofRequest channel' chaincodes')⟩
  · rintro ⟨rfl, hperm⟩
    exact ofRequest_congr hperm

end Key

/-! ## Requests -/

namespace Service

variable {m : Type → Type} [Monad m] [MonadLiftT Logged m] {ρ : Type} (ask : Collaborators m)
  (balancer : Balancer m ρ)

/-- Where only the order of the chaincodes is another, the request is the same: the
    resolver is looked for, built and used in the same way. -/
theorem endorsers_congr (channel : String) {chaincodes chaincodes' : List String}
    (h : chaincodes.Perm chaincodes') :
    endorsers ask balancer channel chaincodes = endorsers ask balancer channel chaincodes' := by
  have hempty : chaincodes.isEmpty = chaincodes'.isEmpty := by
    rw [Bool.eq_iff_iff, List.isEmpty_iff_length_eq_zero, List.isEmpty_iff_length_eq_zero,
      h.length_eq]
  rw [endorsers, endorsers, Key.ofRequest_congr h, hempty]

/-- What a key is answered, given the resolver that is kept for it, and the resolver
    that is kept afterwards. -/
def answerAlone (key : Key) : Option (Resolver ρ) →
    m (Except Failure (List Peer) × Option (Resolver ρ))
  | some resolver => do
    let (answer, resolver) ← use ask balancer key resolver
    return (answer, some resolver)
  | none => do
    match ← (build ask balancer key).run with
    | .error failure => return (.error (unavailable key failure), none)
    | .ok resolver =>
      let (answer, resolver) ← use ask balancer key resolver
      return (answer, some resolver)

/-- The service with a resolver kept for a key, if there is one. -/
def keepSome (key : Key) (resolver? : Option (Resolver ρ)) (service : Service ρ) : Service ρ :=
  match resolver? with
  | some resolver => service.keep key resolver
  | none => service

theorem find?_keepSome_of_ne {key k : Key} (h : key ≠ k) (resolver? : Option (Resolver ρ))
    (service : Service ρ) :
    (service.keepSome key resolver?).resolvers.find? k = service.resolvers.find? k := by
  cases resolver? with
  | none => rfl
  | some resolver => rw [keepSome, find?_keep, if_neg h]

variable {ask balancer} {σ : Type} [Runs m σ] {channel : String} {chaincodes : List String}

/-- Of all the resolvers, a request has to do with that of its key alone. -/
theorem run_endorsers (hne : chaincodes ≠ []) (service : Service ρ) (s : σ) :
    Runs.run (endorsers ask balancer channel chaincodes) (service, s) =
      let key := Key.ofRequest channel chaincodes
      let r := Runs.run (answerAlone ask balancer key (service.resolvers.find? key)) s
      (r.1.1, service.keepSome key r.1.2, r.2) := by
  cases hfind : service.resolvers.find? (Key.ofRequest channel chaincodes) with
  | some resolver =>
    rw [run_endorsers_kept hne hfind]
    simp only [hfind, answerAlone, Runs.run_bind, Runs.run_pure, keepSome]
  | none =>
    rcases hbuild : Runs.run (build ask balancer (Key.ofRequest channel chaincodes)).run s with
      ⟨failure | resolver, s'⟩
    · rw [run_endorsers_failed hne hfind hbuild]
      simp only [hfind, answerAlone, Runs.run_bind, hbuild, Runs.run_pure, keepSome]
    · rw [run_endorsers_built hne hfind hbuild]
      simp only [hfind, answerAlone, Runs.run_bind, hbuild, Runs.run_pure, keepSome]

theorem find?_keepSome_self (key : Key) {service service' : Service ρ}
    (h : service.resolvers.find? key = service'.resolvers.find? key)
    (resolver? : Option (Resolver ρ)) :
    (service.keepSome key resolver?).resolvers.find? key =
      (service'.keepSome key resolver?).resolvers.find? key := by
  cases resolver? with
  | none => exact h
  | some resolver => rw [keepSome, keepSome, find?_keep, find?_keep, if_pos rfl, if_pos rfl]

/-- Requests count by their keys. Two of them have the same key iff they name the
    same channel and, in any order, the same chaincodes as often. Then they are the
    same request, whoever is asked and whatever is drawn: they are answered the same
    from every state, reasons of failures included, and leave the same state.
    Requests with other keys have no part in it: a request leaves their resolvers as
    they are, and what it is answered and what it leaves does not depend on them. -/
theorem requests_count_by_key (ask : Collaborators m) (balancer : Balancer m ρ) (channel : String)
    (chaincodes : List String) :
    (∀ channel' chaincodes',
      Key.ofRequest channel chaincodes = Key.ofRequest channel' chaincodes' ↔
        channel = channel' ∧ chaincodes.Perm chaincodes') ∧
      (∀ chaincodes', chaincodes.Perm chaincodes' →
        endorsers ask balancer channel chaincodes = endorsers ask balancer channel chaincodes') ∧
      ∀ (service : Service ρ) (s : σ),
        let key := Key.ofRequest channel chaincodes
        let r := Runs.run (endorsers ask balancer channel chaincodes) (service, s)
        (∀ k, key ≠ k → r.2.1.resolvers.find? k = service.resolvers.find? k) ∧
          ∀ service' : Service ρ, service.resolvers.find? key = service'.resolvers.find? key →
            let r' := Runs.run (endorsers ask balancer channel chaincodes) (service', s)
            r.1 = r'.1 ∧ r.2.1.resolvers.find? key = r'.2.1.resolvers.find? key ∧
              r.2.2 = r'.2.2 := by
  refine ⟨fun _ _ => Key.ofRequest_eq_iff, fun _ => endorsers_congr ask balancer channel,
    fun service s => ?_⟩
  by_cases hne : chaincodes = []
  · subst hne
    simp only [run_endorsers_nil]
    exact ⟨fun _ _ => trivial, fun _ hsame => ⟨trivial, hsame, trivial⟩⟩
  · simp only [run_endorsers hne]
    refine ⟨fun k hk => find?_keepSome_of_ne hk _ service, fun service' hsame => ?_⟩
    rw [hsame]
    exact ⟨rfl, find?_keepSome_self _ hsame _, rfl⟩

/-- A chaincode that is named twice counts twice, wherever it is named: what is kept
    for the same chaincodes named once has no part in the answer, and stays. -/
theorem repeated_chaincode_counts :
    let once := Key.ofRequest "channel" ["a", "b"]
    let service : Service Position := { resolvers := Table.empty.insert once unfit }
    let request (chaincodes : List String) (service : Service Position) :=
      Runs.run (endorsers fixedCollaborators (Balance.roundRobin.balancer (pure 0)) "channel"
        chaincodes) (service, ())
    ["b", "a", "b"].Perm ["b", "b", "a"] ∧ Key.ofRequest "channel" ["b", "b", "a"] ≠ once ∧
      (request ["b", "a", "b"] {}).1 = .ok twoPeers.peers ∧
      (request ["b", "b", "a"] service).1 = .ok twoPeers.peers ∧
      (request ["b", "b", "a"] service).2.1.resolvers.find? once = some unfit := by
  intro once service request
  obtain ⟨hkeys, hsame, hstates⟩ := requests_count_by_key fixedCollaborators
    (Balance.roundRobin.balancer (pure 0)) "channel" ["b", "b", "a"]
  have hperm : ["b", "b", "a"].Perm ["b", "a", "b"] := by decide
  have hne : Key.ofRequest "channel" ["b", "b", "a"] ≠ once := by
    intro h
    have hlength := ((hkeys _ _).1 h).2.length_eq
    exact absurd hlength (by decide)
  have hanswer : (request ["b", "a", "b"] {}).1 = .ok twoPeers.peers := by cbv
  -- Neither service keeps a resolver for the chaincodes as they are named.
  have hnone : service.resolvers.find? (Key.ofRequest "channel" ["b", "b", "a"]) =
      ({} : Service Position).resolvers.find? (Key.ofRequest "channel" ["b", "b", "a"]) := by
    rw [Table.find?_insert, if_neg hne.symm]
  obtain ⟨hleft, hothers⟩ := hstates service ()
  obtain ⟨hsame', -, -⟩ := hothers {} hnone
  refine ⟨hperm.symm, hne, hanswer, ?_, ?_⟩
  · calc (request ["b", "b", "a"] service).1
        = (request ["b", "b", "a"] {}).1 := hsame'
      _ = (request ["b", "a", "b"] {}).1 := by
        simp only [request, hsame _ hperm]
      _ = .ok twoPeers.peers := hanswer
  · exact (hleft once hne).trans (by rw [Table.find?_insert, if_pos rfl])

end Service

end Endorsement.Selection
