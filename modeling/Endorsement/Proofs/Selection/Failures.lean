import Endorsement.Proofs.Policy.WellFormed
import Endorsement.Proofs.Selection.Lookups

/-!
# When requests fail

A request fails if it names no chaincode; if its resolver is not kept and cannot
be built; or if there are no peers because the membership could not be asked
for. The first of these that is so decides, and nothing else makes it fail.

* `Unusable`, `compiled_eq_error_iff`: why the answer to the lookup of a chaincode
  is of no use;
* `FirstUnusable`: the first of some chaincodes that is of no use, and what was
  asked until then;
* `Ready`, `Outcome`: the resolver that a request is answered with, and how it ends;
* `Served.outcome`, `requests_fail_with_first_cause`: every request that names a
  chaincode ends so, whatever was done with the service before.
-/

namespace Endorsement.Selection.Service

/-! ## Chaincodes of no use -/

/-- Why the answer to the lookup of a chaincode is of no use: there is no data, or
    its policy cannot be read, or the policy is not well formed. -/
inductive Unusable : Except Failure Chaincode → Failure → Prop
  | missing {failure : Failure} : Unusable (.error failure) failure
  | garbled {data : Chaincode} {fault : Wire.Fault}
      (h : Wire.read Policy data.policy = .error fault) :
      Unusable (.ok data) (.undecodable fault.message)
  | malformed {data : Chaincode} {policy : Policy} {failure : Failure}
      (hread : Wire.read Policy data.policy = .ok policy) (h : policy.FirstFault failure) :
      Unusable (.ok data) failure

/-- An answer does not compile iff it is unusable, and fails for that reason. -/
theorem compiled_eq_error_iff {answer : Except Failure Chaincode} {failure : Failure} :
    compiled answer = .error failure ↔ Unusable answer failure := by
  rw [compiled]
  simp only [Policy.groupOfBytes_eq_bind, bind_eq_error_iff, Policy.group_eq_error_iff,
    Policy.ofBytes, Failure.mapError_ofWire_eq_ok_iff, Failure.mapError_ofWire_eq_error_iff]
  constructor
  · rintro (rfl | ⟨data, rfl, ⟨fault, h, rfl⟩ | ⟨policy, hread, h⟩⟩)
    · exact .missing
    · exact .garbled h
    · exact .malformed hread h
  · rintro (_ | h | ⟨hread, h⟩)
    · exact .inl rfl
    · exact .inr ⟨_, rfl, .inl ⟨_, h, rfl⟩⟩
    · exact .inr ⟨_, rfl, .inr ⟨_, hread, h⟩⟩

variable {channel : String} {chaincodes : List String} {asked : Transcript} {groups : List Group}
  {cause : Failure}

/-- One of some chaincodes is of no use, the ones before it being of use, and
    nothing but these was asked for. -/
inductive FirstUnusable (channel : String) (chaincodes : List String) :
    Transcript → Failure → Prop
  | mk {before rest : List String} {chaincode : String} {looked : Transcript} {groups : List Group}
      {answer : Except Failure Chaincode} {cause : Failure}
      (hchaincodes : chaincodes = before ++ chaincode :: rest)
      (hbefore : Found channel before looked groups) (h : Unusable answer cause) :
      FirstUnusable channel chaincodes (looked ++ [.chaincode channel chaincode answer]) cause

theorem Stopped.firstUnusable (h : Stopped channel chaincodes asked cause) :
    FirstUnusable channel chaincodes asked cause := by
  induction h with
  | here h => exact .mk (List.nil_append _).symm .nil (compiled_eq_error_iff.1 h)
  | later h _ ih =>
    cases ih with
    | mk hchaincodes hbefore hanswer =>
      rw [hchaincodes]
      exact .mk (List.cons_append ..).symm (.cons h hbefore) hanswer

theorem Found.exists_of_mem (h : Found channel chaincodes asked groups) {q : Question}
    (hq : q ∈ asked) : ∃ chaincode answer, q = .chaincode channel chaincode answer := by
  induction h with
  | nil => cases hq
  | cons _ _ ih =>
    rcases List.mem_cons.1 hq with rfl | hq
    · exact ⟨_, _, rfl⟩
    · exact ih hq

/-- No membership is asked for on the way to a chaincode of no use. -/
theorem FirstUnusable.exists_of_mem (h : FirstUnusable channel chaincodes asked cause)
    {q : Question} (hq : q ∈ asked) :
    ∃ chaincode answer, q = .chaincode channel chaincode answer := by
  cases h with
  | mk _ hbefore _ =>
    rcases List.mem_append.1 hq with hq | hq
    · exact hbefore.exists_of_mem hq
    · exact ⟨_, _, List.mem_singleton.1 hq⟩

/-! ## How requests end -/

variable {σ ρ : Type}

/-- There is a resolver for a key, after what was asked for it: one that was kept,
    or a new one. -/
inductive Ready (service : Service ρ) (key : Key) : Transcript → Resolver ρ → Prop
  | kept {resolver : Resolver ρ} (h : service.resolvers.find? key = some resolver) :
      Ready service key [] resolver
  | built {looked : Transcript} {resolver : Resolver ρ} (h : service.resolvers.find? key = none)
      (hattempt : Attempt key looked (.ok resolver)) : Ready service key looked resolver

/-- How a request that names chaincodes ends, by what is asked. -/
inductive Outcome (service after : Service ρ) (key : Key) :
    Transcript → Except Failure (List Peer) → Prop
  /-- The resolver cannot be built; no membership is asked for. -/
  | unbuilt {asked : Transcript} {cause : Failure} (h : service.resolvers.find? key = none)
      (hfirst : FirstUnusable key.channel key.chaincodes asked cause)
      (hasked : ∀ q ∈ asked, ∃ chaincode answer, q = .chaincode key.channel chaincode answer)
      (hafter : after = service) :
      Outcome service after key asked (.error (unavailable key cause))
  /-- The membership could not be asked for, and no peers are known; the resolver
      is kept. -/
  | unreachable {looked : Transcript} {resolver : Resolver ρ} {snapshot : Membership}
      {cause : Failure} (h : Ready service key looked resolver)
      (hcause : snapshot.queryFailure = some cause) (hempty : snapshot.peers = [])
      (hafter : after.resolvers.find? key = some resolver) :
      Outcome service after key (looked ++ [.membership key.channel snapshot])
        (.error (unavailable key cause))
  /-- Peers are chosen, also of an outdated snapshot. -/
  | chosen {looked rest : Transcript} {resolver : Resolver ρ} {snapshot : Membership}
      {peers : List Peer} (h : Ready service key looked resolver)
      (husable : snapshot.queryFailure = none ∨ snapshot.peers ≠ []) :
      Outcome service after key (looked ++ .membership key.channel snapshot :: rest) (.ok peers)

variable {m : Type → Type} [Monad m] [MonadLiftT Logged m] [Runs m σ]

/-- With a resolver, it is the first snapshot that decides. -/
theorem Used.outcome {balancer : Balancer m ρ} {service : Service ρ} {key : Key}
    {looked : Transcript} {resolver resolver' : Resolver ρ} {answer : Except Failure (List Peer)}
    (h : Used balancer key resolver asked (answer, resolver'))
    (hready : Ready service key looked resolver) :
    Outcome service (service.keep key resolver') key (looked ++ asked) answer := by
  cases h with
  | unusable h =>
    obtain ⟨hcause, hempty⟩ := hardFailure?_eq_some_iff.1 h
    exact .unreachable hready hcause hempty (by rw [find?_keep, if_pos rfl])
  | @chosen first _ _ _ h _ _ =>
    have husable : first.queryFailure = none ∨ first.peers ≠ [] := by
      have hsoft := hardFailure?_eq_none_iff.1 h
      rw [Membership.isHardFailure, Bool.and_eq_false_iff] at hsoft
      simpa using hsoft
    exact .chosen hready husable

/-- With resolvers kept that come from policies, every request ends so. -/
theorem Served.outcome {x : Setting m ρ} {service after : Service ρ}
    {answer : Except Failure (List Peer)} (h : Served x service channel chaincodes asked answer after)
    (hrooted : service.Rooted) (hne : chaincodes ≠ []) (hlen : chaincodes.length < 2 ^ 31) :
    Outcome service after (.ofRequest channel chaincodes) asked answer := by
  have hlegs : ∀ {resolver : Resolver ρ}, (∃ held, builtFrom held = .ok resolver.alternatives) →
      ∀ a ∈ resolver.alternatives, ∀ l ∈ a.legs, ∃ mspId, l = .msp mspId :=
    fun ⟨_, hheld⟩ a ha l hl => exists_msp_of_builtFrom hheld ha hl
  cases h with
  | unnamed h => exact absurd h hne
  | failed _ h hattempt =>
    cases hattempt with
    | stopped hstopped =>
      have hfirst := hstopped.firstUnusable
      exact .unbuilt h hfirst (fun q hq => hfirst.exists_of_mem hq) rfl
    | tooMany hlong _ =>
      rw [Key.ofRequest, List.length_mergeSort, Policy.maxThreshold] at hlong
      omega
  | kept _ h huse =>
    exact ((asks_used x.ask x.balancer _ (hlegs (hrooted _ _ h))).of_run huse).outcome (.kept h)
  | built _ h hattempt huse =>
    exact ((asks_used x.ask x.balancer _ (hlegs hattempt.exists_builtFrom)).of_run huse).outcome
      (.built h hattempt)

theorem Served.answer_of_nil {x : Setting m ρ} {service after : Service ρ}
    {answer : Except Failure (List Peer)} (h : Served x service channel [] asked answer after) :
    answer = .error .noChaincodes := by
  cases h with
  | unnamed _ => rfl
  | failed hne | kept hne | built hne => exact absurd rfl hne

theorem Outcome.exists_cause {service after : Service ρ} {key : Key} {failure : Failure}
    (h : Outcome service after key asked (.error failure)) :
    ∃ cause, failure = unavailable key cause := by
  cases h with
  | unbuilt | unreachable => exact ⟨_, rfl⟩

variable [LawfulMonad m]

/-- Whatever was done with a service before, a request for endorsers fails without
    further details iff it names no chaincode. Any other failure is the first
    cause that there is, with the channel and the sorted chaincodes around it. -/
theorem requests_fail_with_first_cause (x : Setting m ρ) (s : σ) (before : List (Call σ))
    (channel : String) (hlen : chaincodes.length < 2 ^ 31) :
    let u := x.after ⟨{}, s⟩ before
    let u' := (x.perform u (.endorsers channel chaincodes)).2
    let key := Key.ofRequest channel chaincodes
    key.chaincodes.Perm chaincodes ∧ key.chaincodes.Pairwise (· ≤ ·) ∧
      ∃ asked answer, (x.perform u (.endorsers channel chaincodes)).1 =
          .endorsers channel chaincodes asked answer ∧
        (answer = .error .noChaincodes ↔ chaincodes = []) ∧
        (chaincodes ≠ [] → Outcome u.service u'.service key asked answer) ∧
        ∀ failure, answer = .error failure → failure ≠ .noChaincodes →
          ∃ cause, failure.kind = cause.kind ∧ failure =
            .endorsersUnavailable channel (String.intercalate "," key.chaincodes) cause := by
  intro u u' key
  refine ⟨List.mergeSort_perm _ _, pairwise_ofRequest channel chaincodes, ?_⟩
  obtain ⟨asked, answer, hdone, hserved⟩ := served_endorsers x u channel chaincodes
  refine ⟨asked, answer, hdone, ?_⟩
  by_cases hne : chaincodes = []
  · subst hne
    obtain rfl := hserved.answer_of_nil
    refine ⟨iff_of_true rfl rfl, fun hnot => absurd rfl hnot, fun failure hfailure hnot => ?_⟩
    exact absurd (Except.error.inj hfailure).symm hnot
  · have houtcome := hserved.outcome (rooted_after x s before) hne hlen
    refine ⟨iff_of_false (fun h => ?_) hne, fun _ => houtcome, fun failure hfailure _ => ?_⟩
    · subst h
      obtain ⟨cause, hcause⟩ := houtcome.exists_cause
      cases hcause
    · subst hfailure
      obtain ⟨cause, rfl⟩ := houtcome.exists_cause
      exact ⟨cause, rfl, rfl⟩

/-- The membership of the channel could not be asked for, and no peers are known. -/
theorem unknown_membership_fails :
    ["chaincode"].length < 2 ^ 31 ∧ ∃ failure cause,
      (listed.perform (about [failed]) (.endorsers "channel" ["chaincode"])).1 =
          .endorsers "channel" ["chaincode"] [.membership "channel" failed] (.error failure) ∧
        failure = .endorsersUnavailable "channel" "chaincode" cause ∧
        failure.kind = .collaborator ∧ cause.kind = .collaborator := by
  have hlen : ["chaincode"].length < 2 ^ 31 := by decide
  have hperform : (listed.perform (about [failed]) (.endorsers "channel" ["chaincode"])).1 =
      .endorsers "channel" ["chaincode"] [.membership "channel" failed]
        (.error (.endorsersUnavailable "channel" "chaincode" (.membershipQuery "channel" "down"))) := by
    cbv
  obtain ⟨-, -, asked, answer, hdone, -, -, hfailure⟩ := requests_fail_with_first_cause listed
    ([], ()) (listing.calls [failed]) "channel" hlen
  obtain ⟨-, -, -, rfl⟩ := Done.endorsers.inj (hperform.symm.trans hdone)
  obtain ⟨cause, hkind, hcause⟩ := hfailure _ rfl (by decide)
  have hkeys : String.intercalate "," (Key.ofRequest "channel" ["chaincode"]).chaincodes =
      "chaincode" := by
    rw [Key.ofRequest, List.mergeSort_singleton]
    rfl
  rw [hkeys] at hcause
  exact ⟨hlen, _, cause, hperform, hcause, rfl, hkind.symm⟩

end Endorsement.Selection.Service
