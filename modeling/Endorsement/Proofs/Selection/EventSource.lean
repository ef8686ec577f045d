import Endorsement.Proofs.Peer
import Endorsement.Proofs.Selection.Endorsers

/-!
# Where events come from

Whoever wants to receive the events of a channel is given one of its peers, and the
address of its host at the port for events. Which way this ends is decided by the
snapshot of the channel alone.

* `Ended`: the three ways in which it can end, given a snapshot;
* `ended_eventSource`: it ends in one of them;
* `eventSource_of_snapshot`: in which it ends, and at which host events are served.
-/

namespace Endorsement.Selection.Service

/-- The address of a peer for events. -/
def eventAddress (peer : Peer) (port : UInt16) : String :=
  peer.host ++ ":" ++ toString port.toNat

/-- The ways in which a source of events is chosen out of a snapshot: the snapshot is of
    no use and says why, there are no peers, or one of the peers was drawn. -/
inductive Ended (channel : String) (port : UInt16) (snapshot : Membership) (drawn : Nat) :
    Except Failure EventSource → Prop where
  | unusable {failure : Failure} (hfailure : snapshot.queryFailure = some failure)
      (hpeers : snapshot.peers = []) : Ended channel port snapshot drawn (.error failure)
  | empty (hfailure : snapshot.queryFailure = none) (hpeers : snapshot.peers = []) :
      Ended channel port snapshot drawn (.error (.noPeers channel))
  | chosen {peer : Peer} (hpeer : snapshot.peers[drawn % snapshot.peers.length]? = some peer) :
      Ended channel port snapshot drawn (.ok ⟨peer, eventAddress peer port⟩)

section

variable {channel : String} {port : UInt16} {snapshot : Membership} {drawn : Nat}
  {answer : Except Failure EventSource}

theorem ne_nil_of_getElem? {i : Nat} {peer : Peer} (h : snapshot.peers[i]? = some peer) :
    snapshot.peers ≠ [] :=
  List.ne_nil_of_mem (List.mem_of_getElem? h)

theorem Ended.own_failure_iff (h : Ended channel port snapshot drawn answer) :
    (∃ failure, snapshot.queryFailure = some failure ∧ answer = .error failure) ↔
      snapshot.isHardFailure = true := by
  rw [Membership.isHardFailure]
  cases h with
  | unusable hfailure hpeers => simp [hfailure, hpeers]
  | empty hfailure hpeers => simp [hfailure]
  | chosen hpeer => simp [ne_nil_of_getElem? hpeer]

/-- A query may itself have failed because it found no peers. That is no failure of the
    choice, but of the snapshot. -/
theorem Ended.no_peers_iff (h : Ended channel port snapshot drawn answer) :
    (answer = .error (.noPeers channel) ∧ snapshot.queryFailure ≠ some (.noPeers channel)) ↔
      snapshot.queryFailure = none ∧ snapshot.peers = [] := by
  cases h with
  | unusable hfailure hpeers => simp [hfailure]
  | empty hfailure hpeers => simp [hfailure, hpeers]
  | chosen hpeer => simp [ne_nil_of_getElem? hpeer]

theorem Ended.chosen_iff (h : Ended channel port snapshot drawn answer) :
    (∃ peer ∈ snapshot.peers, answer = .ok ⟨peer, eventAddress peer port⟩) ↔
      snapshot.isHardFailure = false ∧ ¬(snapshot.queryFailure = none ∧ snapshot.peers = []) := by
  rw [Membership.isHardFailure]
  cases h with
  | unusable hfailure hpeers => simp [hfailure, hpeers]
  | empty hfailure hpeers => simp [hfailure, hpeers]
  | chosen hpeer => simp [ne_nil_of_getElem? hpeer, List.mem_of_getElem? hpeer]

end

variable {m : Type → Type} [Monad m] [MonadLiftT Logged m] {σ : Type} [Runs m σ]

variable {ask : Collaborators m} {config : Config} {channel : String}

/-- A choice ends as the snapshot lets it, with the number drawn after the snapshot was
    taken. -/
theorem ended_eventSource {s s' : σ} {snapshot : Membership}
    (hasked : Runs.run (ask.membership channel) s = (snapshot, s')) :
    Ended channel config.eventPort snapshot (Runs.run ask.draw s').1
      (Runs.run (eventSource ask config channel) s).1 := by
  rw [eventSource, Runs.run_bind, hasked]
  cases hhard : hardFailure? snapshot with
  | some failure =>
    obtain ⟨hfailure, hpeers⟩ := hardFailure?_eq_some_iff.1 hhard
    simp only [Runs.run_pure]
    exact .unusable hfailure hpeers
  | none =>
    by_cases hpeers : snapshot.peers = []
    · have hfailure : snapshot.queryFailure = none := by
        rw [hardFailure?_eq_none_iff, Membership.isHardFailure, hpeers] at hhard
        simpa using hhard
      simp only [hpeers, List.isEmpty_nil, if_true, Runs.run_pure]
      exact .empty hfailure hpeers
    · have hlt : (Runs.run ask.draw s').1 % snapshot.peers.length < snapshot.peers.length :=
        Nat.mod_lt _ (List.length_pos_iff.2 hpeers)
      have hpeer := List.getElem?_eq_getElem hlt
      simp only [List.isEmpty_iff, hpeers, if_false, Runs.run_bind, hpeer, Runs.run_pure]
      exact .chosen hpeer

/-- Where events of a channel come from. A snapshot of no use fails with its own failure,
    as it is; one that has neither a failure nor peers fails because it has no peers; out
    of any other, a peer is chosen, which is addressed at its host and the port for
    events. A snapshot of no use may have failed for want of peers itself: the same
    answer is then the snapshot's own failure, and counts as that in the first
    equivalence, not in the second. The host of an endpoint with a scheme or a port or
    neither or both is what is between them, and it is the host of that address, too. -/
theorem eventSource_of_snapshot (ask : Collaborators m) (config : Config) (channel : String)
    (s : σ) :
    let snapshot := (Runs.run (ask.membership channel) s).1
    let answer := (Runs.run (eventSource ask config channel) s).1
    ((∃ failure, snapshot.queryFailure = some failure ∧ answer = .error failure) ↔
        snapshot.isHardFailure = true) ∧
      ((answer = .error (.noPeers channel) ∧ snapshot.queryFailure ≠ some (.noPeers channel)) ↔
        snapshot.queryFailure = none ∧ snapshot.peers = []) ∧
      ((∃ peer ∈ snapshot.peers, answer = .ok ⟨peer, eventAddress peer config.eventPort⟩) ↔
        snapshot.isHardFailure = false ∧ ¬(snapshot.queryFailure = none ∧ snapshot.peers = [])) ∧
      ∀ (peer : Peer) (host : String), Peer.Endpoint host peer.url →
        peer.host = host ∧
          ({ peer with url := eventAddress peer config.eventPort } : Peer).host = host := by
  intro snapshot answer
  have hended : Ended channel config.eventPort snapshot _ answer := ended_eventSource rfl
  refine ⟨hended.own_failure_iff, hended.no_peers_iff, hended.chosen_iff, fun peer host hhost => ?_⟩
  have hpeer := hhost.host_eq
  refine ⟨hpeer, Peer.Endpoint.host_eq ?_⟩
  rw [eventAddress, hpeer]
  exact hhost.address _

/-- A peer whose host has colons of its own. -/
def colonPeer : Peer where
  url := "grpcs://[::1]:7051"
  mspId := "A"

/-- Collaborators that know only that peer. -/
def colonCollaborators : Collaborators Logged where
  chaincode channel chaincode := return .error (.chaincodeQuery channel chaincode "none")
  membership _ := return { peers := [colonPeer] }
  draw := return 3

/-- Its events are served at its host, colons included. -/
theorem colonPeer_serves_events :
    (Runs.run (eventSource colonCollaborators { eventPort := 9053 } "channel") ()).1 =
        .ok ⟨colonPeer, "[::1]:9053"⟩ ∧
      ({ colonPeer with url := "[::1]:9053" } : Peer).host = "[::1]" := by
  obtain ⟨-, -, hchosen, hhosts⟩ :=
    eventSource_of_snapshot colonCollaborators { eventPort := 9053 } "channel" ()
  have hurl : colonPeer.url = "grpcs" ++ "://" ++ "[::1]" ++ ":" ++ "7051" := by decide
  have hendpoint : Peer.Endpoint "[::1]" colonPeer.url := by
    rw [hurl]
    exact .schemeAndPort (by decide) (by decide) (by decide) (by decide)
  obtain ⟨hhost, haddress⟩ := hhosts colonPeer "[::1]" hendpoint
  have hserved : eventAddress colonPeer 9053 = "[::1]:9053" := by
    rw [eventAddress, hhost]
    decide
  obtain ⟨peer, hpeer, hanswer⟩ := hchosen.2 ⟨rfl, fun h => nomatch h.2⟩
  obtain rfl := List.mem_singleton.1 hpeer
  rw [hserved] at hanswer haddress
  exact ⟨hanswer, haddress⟩

end Endorsement.Selection.Service
