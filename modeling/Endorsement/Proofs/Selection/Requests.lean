import Endorsement.Proofs.Selection.Endorsers
import Endorsement.Proofs.Table

/-!
# How requests run

A request first gets a resolver, which is kept or built, and then uses it. Using
it neither depends on how it came about, nor on anything that building changes.

* `Service.use`: what a resolver answers for its key;
* `Service.run_endorsers_kept`, `Service.run_endorsers_failed`,
  `Service.run_endorsers_built`: a request with a resolver kept, with one that
  cannot be built, and with a new one;
* `Sees`: an action that depends on what is seen of a state alone.
-/

namespace Endorsement.Selection

variable {m : Type → Type} [Monad m] [MonadLiftT Logged m] {σ ρ : Type} [Runs m σ]
  {ask : Collaborators m} {balancer : Balancer m ρ}

namespace Service

/-- What a resolver answers for its key, and the resolver afterwards. -/
def use (ask : Collaborators m) (balancer : Balancer m ρ) (key : Key) (resolver : Resolver ρ) :
    m (Except Failure (List Peer) × Resolver ρ) := do
  match hardFailure? (← ask.membership key.channel) with
  | some failure => return (.error (unavailable key failure), resolver)
  | none =>
    let (peers, resolver) ← resolver.resolve (peersOfMsp ask key.channel) balancer
    return (.ok peers, resolver)

/-- A resolver answers what the balancer chooses among its candidates, unless the
    channel is of no use. -/
theorem value_use (key : Key) (alternatives : List Group) (chooser : ρ) (s : σ) :
    (Runs.run (use ask balancer key ⟨alternatives, chooser⟩) s).1.1 =
      let asked := Runs.run (ask.membership key.channel) s
      let found := Runs.run (Resolver.candidates (peersOfMsp ask key.channel) alternatives) asked.2
      match hardFailure? asked.1 with
      | some failure => .error (unavailable key failure)
      | none => .ok (Runs.run (balancer.choose found.1 chooser) found.2).1.1 := by
  simp only [use, Runs.run_bind]
  cases hardFailure? (Runs.run (ask.membership key.channel) s).1 with
  | none => simp only [Resolver.resolve, Runs.run_bind, Runs.run_log, Runs.run_pure]
  | some failure => rw [Runs.run_pure]

/-- Using a resolver moves its chooser at most. -/
theorem alternatives_use (key : Key) (resolver : Resolver ρ) (s : σ) :
    (Runs.run (use ask balancer key resolver) s).1.2.alternatives = resolver.alternatives := by
  simp only [use, Runs.run_bind]
  cases hardFailure? (Runs.run (ask.membership key.channel) s).1 with
  | none => simp only [Resolver.resolve, Runs.run_bind, Runs.run_pure]
  | some failure => rw [Runs.run_pure]

/-- The service with a resolver kept for a key. -/
def keep (key : Key) (resolver : Resolver ρ) (service : Service ρ) : Service ρ :=
  { service with resolvers := service.resolvers.insert key resolver }

variable {service : Service ρ} {channel : String} {chaincodes : List String} {s : σ}

theorem find?_keep (key k : Key) (resolver : Resolver ρ) :
    (service.keep key resolver).resolvers.find? k =
      if key = k then some resolver else service.resolvers.find? k :=
  Table.find?_insert service.resolvers key k resolver

theorem keep_keep (key : Key) (resolver resolver' : Resolver ρ) :
    (service.keep key resolver).keep key resolver' = service.keep key resolver' := by
  rw [keep, keep, keep, Table.insert_insert]

/-- What remains of a request once there is a resolver. -/
def answer (ask : Collaborators m) (balancer : Balancer m ρ) (key : Key) (resolver : Resolver ρ) :
    StateT (Service ρ) m (Except Failure (List Peer)) := do
  match hardFailure? (← ask.membership key.channel) with
  | some failure => return .error (unavailable key failure)
  | none => return .ok (← resolve ask balancer key resolver)

/-- The resolver is kept as it is afterwards. -/
theorem run_answer {key : Key} {resolver : Resolver ρ}
    (h : service.resolvers.find? key = some resolver) :
    Runs.run (answer ask balancer key resolver) (service, s) =
      let r := Runs.run (use ask balancer key resolver) s
      (r.1.1, service.keep key r.1.2, r.2) := by
  simp only [answer, use, Runs.run_bind, Runs.run_lift]
  cases hardFailure? (Runs.run (ask.membership key.channel) s).1 with
  | none =>
    simp only [resolve, Runs.run_bind, Runs.run_lift, Runs.run_modify, Runs.run_log, Runs.run_pure]
    rfl
  | some failure =>
    simp only [Runs.run_pure, keep, Table.insert_eq_self h]

theorem endorsers_eq (hne : chaincodes ≠ []) :
    endorsers ask balancer channel chaincodes = (do
      let key := Key.ofRequest channel chaincodes
      match ← resolver ask balancer key with
      | .error failure => return .error (unavailable key failure)
      | .ok resolver => answer ask balancer key resolver) := by
  rw [endorsers, if_neg (by simpa using hne)]
  rfl

theorem run_endorsers_nil : Runs.run (endorsers ask balancer channel []) (service, s) =
    (.error .noChaincodes, service, s) := by
  rw [endorsers, if_pos List.isEmpty_nil, Runs.run_pure]

/-- A request with a resolver kept uses it. -/
theorem run_endorsers_kept {resolver : Resolver ρ} (hne : chaincodes ≠ [])
    (h : service.resolvers.find? (Key.ofRequest channel chaincodes) = some resolver) :
    Runs.run (endorsers ask balancer channel chaincodes) (service, s) =
      let r := Runs.run (use ask balancer (Key.ofRequest channel chaincodes) resolver) s
      (r.1.1, service.keep (Key.ofRequest channel chaincodes) r.1.2, r.2) := by
  have hresolver : Runs.run (Service.resolver ask balancer (Key.ofRequest channel chaincodes))
      (service, s) = (.ok resolver, service, s) := by
    simp only [Service.resolver, Runs.run_bind, Runs.run_get, h, Runs.run_pure]
  rw [endorsers_eq hne, Runs.run_bind, hresolver]
  exact run_answer h

/-- A request whose resolver cannot be built fails with that failure. -/
theorem run_endorsers_failed {failure : Failure} {s' : σ} (hne : chaincodes ≠ [])
    (h : service.resolvers.find? (Key.ofRequest channel chaincodes) = none)
    (hbuild : Runs.run (build ask balancer (Key.ofRequest channel chaincodes)).run s =
      (.error failure, s')) :
    Runs.run (endorsers ask balancer channel chaincodes) (service, s) =
      (.error (unavailable (Key.ofRequest channel chaincodes) failure), service, s') := by
  rw [endorsers_eq hne]
  simp only [Service.resolver, Runs.run_bind, Runs.run_get, h, Runs.run_log, Runs.run_lift, hbuild,
    Runs.run_pure]

/-- A request with a new resolver uses that. -/
theorem run_endorsers_built {resolver : Resolver ρ} {s' : σ} (hne : chaincodes ≠ [])
    (h : service.resolvers.find? (Key.ofRequest channel chaincodes) = none)
    (hbuild : Runs.run (build ask balancer (Key.ofRequest channel chaincodes)).run s =
      (.ok resolver, s')) :
    Runs.run (endorsers ask balancer channel chaincodes) (service, s) =
      let r := Runs.run (use ask balancer (Key.ofRequest channel chaincodes) resolver) s'
      (r.1.1, service.keep (Key.ofRequest channel chaincodes) r.1.2, r.2) := by
  have hresolver : Runs.run (Service.resolver ask balancer (Key.ofRequest channel chaincodes))
      (service, s) =
        (.ok resolver, service.keep (Key.ofRequest channel chaincodes) resolver, s') := by
    simp only [Service.resolver, Runs.run_bind, Runs.run_get, h, Runs.run_log, Runs.run_lift,
      hbuild, Runs.run_modify, Runs.run_pure]
    rfl
  rw [endorsers_eq hne, Runs.run_bind, hresolver]
  refine (run_answer ?_).trans ?_
  · rw [find?_keep, if_pos rfl]
  · simp only [keep_keep]

/-! ## What requests keep -/

section Keeping

variable {keeps : σ → Prop} [LawfulMonad m]

theorem policyGroup_keeps {channel chaincode : String}
    (hdata : Answers keeps (ask.chaincode channel chaincode) fun _ => True) :
    Answers keeps (policyGroup ask channel chaincode).run fun _ => True :=
  .attempt hdata fun _ => .attempt (.mono (.log _) fun _ _ => trivial) fun _ =>
    .attempt (.lifted (.mono (.log _) fun _ _ => trivial)) fun _ => .pure trivial

theorem policyGroups_keeps {channel : String} {chaincodes : List String}
    (hdata : ∀ c ∈ chaincodes, Answers keeps (ask.chaincode channel c) fun _ => True) :
    Answers keeps (policyGroups ask channel chaincodes).run fun _ => True := by
  induction chaincodes with
  | nil => exact .pure trivial
  | cons c rest ih =>
    rw [List.forall_mem_cons] at hdata
    exact .attempt (policyGroup_keeps hdata.1) fun _ => .attempt (ih hdata.2) fun _ =>
      .pure trivial

theorem build_keeps {key : Key}
    (hdata : ∀ c ∈ key.chaincodes, Answers keeps (ask.chaincode key.channel c) fun _ => True)
    (hfresh : Answers keeps balancer.fresh fun _ => True) :
    Answers keeps (build ask balancer key).run fun _ => True :=
  .attempt (policyGroups_keeps hdata) fun groups =>
    .attempt (by cases allOf groups <;> exact .pure trivial) fun _ =>
      .attempt (.lifted hfresh) fun _ =>
        .attempt (.mono (.log _) fun _ _ => trivial) fun _ => .pure trivial

variable (hmembership : ∀ channel, Answers keeps (ask.membership channel) fun _ => True)
  (hchoose : ∀ found chooser, Answers keeps (balancer.choose found chooser) fun _ => True)

include hmembership hchoose in
omit [LawfulMonad m] in
theorem use_keeps (key : Key) (resolver : Resolver ρ) :
    Answers keeps (use ask balancer key resolver) fun _ => True := by
  refine (hmembership _).bind fun membership _ => ?_
  split
  · exact .pure trivial
  · have hresolve : Answers keeps
        (resolver.resolve (m := m) (peersOfMsp ask key.channel) balancer) fun _ => True :=
      (candidates_keeps hmembership _ _).bind fun found _ => (Answers.log _).bind fun _ _ =>
        (hchoose found _).bind fun _ _ => .pure trivial
    exact hresolve.bind fun _ _ => .pure trivial

include hmembership hchoose in
/-- A request keeps what the collaborators and the balancer keep. -/
theorem endorsers_keeps
    (hdata : ∀ c ∈ chaincodes, Answers keeps (ask.chaincode channel c) fun _ => True)
    (hfresh : Answers keeps balancer.fresh fun _ => True) :
    Answers (Both (fun _ => True) keeps) (endorsers ask balancer channel chaincodes)
      fun _ => True := by
  by_cases hne : chaincodes = []
  · rw [hne]
    exact .pure trivial
  · rintro ⟨service, s⟩ ⟨-, hs⟩
    refine ⟨trivial, trivial, ?_⟩
    cases hfind : service.resolvers.find? (Key.ofRequest channel chaincodes) with
    | some resolver =>
      rw [run_endorsers_kept hne hfind]
      exact (use_keeps hmembership hchoose _ _ s hs).2
    | none =>
      have hsorted : ∀ c ∈ (Key.ofRequest channel chaincodes).chaincodes,
          Answers keeps (ask.chaincode channel c) fun _ => True :=
        fun c hc => hdata c (List.mem_mergeSort.1 hc)
      have hkeeps := (build_keeps hsorted hfresh s hs).2
      rcases hbuild : Runs.run (build ask balancer (Key.ofRequest channel chaincodes)).run s with
        ⟨failure | resolver, s'⟩
      · rw [run_endorsers_failed hne hfind hbuild]
        rwa [hbuild] at hkeeps
      · rw [run_endorsers_built hne hfind hbuild]
        rw [hbuild] at hkeeps
        exact (use_keeps hmembership hchoose _ _ s' hkeeps).2

include hmembership in
omit [LawfulMonad m] in
theorem eventSource_keeps (hdraw : Answers keeps ask.draw fun _ => True) (config : Config)
    (channel : String) : Answers keeps (eventSource ask config channel) fun _ => True := by
  refine (hmembership channel).bind fun membership _ => ?_
  split
  · exact .pure trivial
  · dsimp only
    split
    · exact .pure trivial
    · refine hdraw.bind fun drawn _ => ?_
      split
      · exact .pure trivial
      · exact (Answers.log _).bind fun _ _ => .pure trivial

end Keeping

end Service

/-! ## What requests depend on -/

/-- What an action answers depends on what is seen of a state alone, and so does
    what is seen of the state that it leaves. -/
def Sees {τ α : Type} (seen : σ → τ) (x : m α) : Prop :=
  ∀ s t, seen s = seen t → (Runs.run x s).1 = (Runs.run x t).1 ∧
    seen (Runs.run x s).2 = seen (Runs.run x t).2

namespace Sees

variable {τ α β : Type} {seen : σ → τ}

theorem pure (a : α) : Sees seen (pure a : m α) := by
  intro s t h
  rw [Runs.run_pure, Runs.run_pure]
  exact ⟨rfl, h⟩

theorem log (x : Logged α) : Sees seen (liftM x : m α) := by
  intro s t h
  rw [Runs.run_log, Runs.run_log]
  exact ⟨rfl, h⟩

theorem bind {x : m α} {f : α → m β} (hx : Sees seen x) (hf : ∀ a, Sees seen (f a)) :
    Sees seen (x >>= f) := by
  intro s t h
  obtain ⟨hvalue, hseen⟩ := hx s t h
  rw [Runs.run_bind, Runs.run_bind, hvalue]
  exact hf _ _ _ hseen

theorem mapM {f : α → m β} (items : List α) (h : ∀ a, Sees seen (f a)) :
    Sees seen (items.mapM f) := by
  have hloop : ∀ bs : List β, Sees seen (List.mapM.loop f items bs) := by
    induction items with
    | nil => exact fun bs => pure _
    | cons a items ih => exact fun bs => (h a).bind fun b => ih _
  exact hloop []

theorem choose {draw : m Nat} (hdraw : Sees seen draw) (balance : Balance)
    (found : List Candidate) (last : Position) : Sees seen (balance.choose draw found last) := by
  by_cases hnil : found.length = 0
  · rw [Balance.choose_of_nil hnil]
    exact pure _
  · cases balance with
    | random =>
      simp only [Balance.choose, if_neg hnil]
      exact hdraw.bind fun _ => pure _
    | roundRobin =>
      cases last with
      | none =>
        simp only [Balance.choose, if_neg hnil]
        exact hdraw.bind fun _ => pure _
      | some last =>
        simp only [Balance.choose, if_neg hnil]
        exact pure _

variable (hmembership : ∀ channel, Sees seen (ask.membership channel))

include hmembership

theorem candidates (channel : String) (alternatives : List Group) :
    Sees seen (Resolver.candidates (Service.peersOfMsp ask channel) alternatives) := by
  refine (mapM alternatives fun a => ?_).bind fun _ => pure _
  refine (mapM a.legs fun l => ?_).bind fun _ => pure _
  cases l with
  | fixed peers => exact pure _
  | msp mspId => exact (hmembership channel).bind fun _ => pure _

/-- Using a resolver depends on what is seen alone if the collaborators and the
    balancer do. -/
theorem use (hchoose : ∀ found chooser, Sees seen (balancer.choose found chooser)) (key : Key)
    (resolver : Resolver ρ) : Sees seen (Service.use ask balancer key resolver) := by
  refine (hmembership _).bind fun membership => ?_
  split
  · exact pure _
  · have hresolve : Sees seen
        (resolver.resolve (m := m) (Service.peersOfMsp ask key.channel) balancer) :=
      (candidates hmembership _ _).bind fun found => (log _).bind fun _ =>
        (hchoose found _).bind fun _ => pure _
    exact hresolve.bind fun _ => pure _

end Sees

end Endorsement.Selection
