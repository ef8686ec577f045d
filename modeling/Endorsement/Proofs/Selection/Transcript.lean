import Endorsement.Proofs.Selection.Requests

/-!
# Services in use, with what they ask

A service asks a provider for the data of chaincodes and for memberships, and a
balancer for new choosers. All of these may answer anything, and each time
something else. What a service asked in the course of a call is written down,
with the answers, by the collaborators themselves.

* `Service.Question`, `Service.Transcript`: what was asked, and answered;
* `Asks`: from every state, an action asks some questions, and its answer is
  related to them; with the rules for actions in sequence (`Asks.bind`), for
  those that may fail (`Asks.attempt`) and for items (`Asks.mapM`);
* `Mirrors`, `run_endorsers_transcribed`: a request is answered the same whether or
  not it is written down what is asked;
* `Service.Call`, `Service.Done`: what can be done with a service, and what it
  comes to;
* `Service.Setting.perform`, `Service.Setting.after`, `Service.Setting.trail`:
  a service in use, one call after the other.
-/

namespace Endorsement

namespace Selection.Service

/-- Something that a service asked, with the answer. -/
inductive Question where
  | chaincode (channel chaincode : String) (answer : Except Failure Chaincode)
  | membership (channel : String) (answer : Membership)
  /-- A new chooser was asked for. -/
  | chooser

/-- What was asked, oldest first. -/
abbrev Transcript := List Question

end Selection.Service

open Selection.Service

/-! ## Writing down -/

section Transcribed

variable {m : Type → Type} [Monad m] {ρ : Type}

/-- Collaborators that write down what they answer. -/
def Selection.Collaborators.transcribed (ask : Selection.Collaborators m) :
    Selection.Collaborators (StateT Transcript m) where
  chaincode channel chaincode := do
    let answer ← ask.chaincode channel chaincode
    modify (· ++ [.chaincode channel chaincode answer])
    return answer
  membership channel := do
    let answer ← ask.membership channel
    modify (· ++ [.membership channel answer])
    return answer
  draw := ask.draw

/-- A balancer that writes down the choosers that it makes. -/
def Balancer.transcribed (balancer : Balancer m ρ) : Balancer (StateT Transcript m) ρ where
  fresh := do
    modify (· ++ [.chooser])
    balancer.fresh
  choose found chooser := balancer.choose found chooser

end Transcribed

namespace Selection.Service

variable {m : Type → Type} [Monad m] [MonadLiftT Logged m] {σ ρ : Type} [Runs m σ]
  {α β ε : Type}

/-- From every state an action asks some questions, and its answer is related to
    them. -/
def Asks (x : StateT Transcript m α) (post : Transcript → α → Prop) : Prop :=
  ∀ t s, ∃ asked, (Runs.run x (t, s)).2.1 = t ++ asked ∧ post asked (Runs.run x (t, s)).1

namespace Asks

variable {x : StateT Transcript m α} {f : α → StateT Transcript m β}
  {mid : Transcript → α → Prop}

theorem pure {a : α} {post : Transcript → α → Prop} (h : post [] a) :
    Asks (pure a : StateT Transcript m α) post := by
  intro t s
  rw [Runs.run_pure]
  exact ⟨[], (List.append_nil t).symm, h⟩

theorem bind {post : Transcript → β → Prop} (hx : Asks x mid)
    (hf : ∀ asked a, mid asked a → Asks (f a) fun more b => post (asked ++ more) b) :
    Asks (x >>= f) post := by
  intro t s
  obtain ⟨asked, hasked, hmid⟩ := hx t s
  obtain ⟨more, hmore, hpost⟩ := hf asked _ hmid (t ++ asked) (Runs.run x (t, s)).2.2
  have hleft : (Runs.run x (t, s)).2 = (t ++ asked, (Runs.run x (t, s)).2.2) :=
    Prod.ext hasked rfl
  rw [Runs.run_bind, hleft]
  exact ⟨asked ++ more, by rw [hmore, List.append_assoc], hpost⟩

theorem mono {post : Transcript → α → Prop} (hx : Asks x mid)
    (h : ∀ asked a, mid asked a → post asked a) : Asks x post := by
  intro t s
  obtain ⟨asked, hasked, hmid⟩ := hx t s
  exact ⟨asked, hasked, h _ _ hmid⟩

/-- What is done without the collaborators asks nothing. -/
theorem lift (x : m α) : Asks (liftM x : StateT Transcript m α) fun asked a =>
    asked = [] ∧ ∃ s, a = (Runs.run x s).1 := by
  intro t s
  rw [Runs.run_lift]
  exact ⟨[], (List.append_nil t).symm, rfl, s, rfl⟩

theorem log (x : Logged α) :
    Asks (liftM x : StateT Transcript m α) fun asked a => asked = [] ∧ a = x.value := by
  intro t s
  rw [Runs.run_log]
  exact ⟨[], (List.append_nil t).symm, rfl, rfl⟩

theorem note (q : Question) :
    Asks (modify (· ++ [q]) : StateT Transcript m PUnit) fun asked _ => asked = [q] := by
  intro t s
  rw [Runs.run_modify]
  exact ⟨[q], rfl, rfl⟩

/-- What an action asks from an empty transcript is the transcript that it
    leaves. -/
theorem from_nil {post : Transcript → α → Prop} (hx : Asks x post) (s : σ) :
    post (Runs.run x ([], s)).2.1 (Runs.run x ([], s)).1 := by
  obtain ⟨asked, hasked, hpost⟩ := hx [] s
  rwa [hasked]

/-- What an action adds to a transcript is what it asks. -/
theorem of_run {post : Transcript → α → Prop} (hx : Asks x post) {t asked : Transcript} {s s' : σ}
    {a : α} (h : Runs.run x (t, s) = (a, t ++ asked, s')) : post asked a := by
  obtain ⟨asked', hasked, hpost⟩ := hx t s
  rw [h] at hasked hpost
  rwa [List.append_cancel_left hasked]

/-- How an action runs, by what it asks. -/
theorem exists_run {post : Transcript → α → Prop} (hx : Asks x post) (t : Transcript) (s : σ) :
    ∃ asked a s', Runs.run x (t, s) = (a, t ++ asked, s') ∧ post asked a := by
  obtain ⟨asked, hasked, hpost⟩ := hx t s
  exact ⟨asked, _, (Runs.run x (t, s)).2.2, Prod.ext rfl (Prod.ext hasked rfl), hpost⟩

/-! ### Actions that may fail -/

/-- An action that may fail goes on with its value only. -/
theorem attempt {x : ExceptT ε (StateT Transcript m) α}
    {f : α → ExceptT ε (StateT Transcript m) β} {mid : Transcript → Except ε α → Prop}
    {post : Transcript → Except ε β → Prop} (hx : Asks x.run mid)
    (hok : ∀ asked a, mid asked (.ok a) → Asks (f a).run fun more r => post (asked ++ more) r)
    (herror : ∀ asked failure, mid asked (.error failure) → post asked (.error failure)) :
    Asks (x >>= f).run post := by
  refine Asks.bind hx fun asked r hr => ?_
  cases r with
  | ok a => exact hok asked a hr
  | error failure =>
    refine Asks.pure ?_
    rw [List.append_nil]
    exact herror asked failure hr

theorem lifted [LawfulMonad m] (hx : Asks x mid) :
    Asks (liftM x : ExceptT ε (StateT Transcript m) α).run fun asked r =>
      ∃ a, r = .ok a ∧ mid asked a := by
  intro t s
  change ∃ asked, (Runs.run (Except.ok <$> x) (t, s)).2.1 = _ ∧
    ∃ a, (Runs.run (Except.ok <$> x) (t, s)).1 = _ ∧ _
  rw [Runs.run_map]
  obtain ⟨asked, hasked, hmid⟩ := hx t s
  exact ⟨asked, hasked, _, rfl, hmid⟩

theorem ofExcept (r : Except ε α) :
    Asks (MonadExcept.ofExcept r : ExceptT ε (StateT Transcript m) α).run fun asked r' =>
      asked = [] ∧ r' = r := by
  cases r <;> exact Asks.pure ⟨rfl, rfl⟩

/-! ### Items -/

/-- Acting on each of some items asks, item by item, what the action asks. -/
theorem mapM {f : α → StateT Transcript m β} {R : α → Transcript → β → Prop} (items : List α)
    (h : ∀ a ∈ items, Asks (f a) (R a)) :
    Asks (items.mapM f) fun asked bs => ∃ parts : List (Transcript × β),
      asked = parts.flatMap Prod.fst ∧ bs = parts.map Prod.snd ∧
        List.Forall₂ (fun a part => R a part.1 part.2) items parts := by
  -- The accumulator holds what the items done so far were answered, last first.
  have hloop : ∀ done : List β, Asks (List.mapM.loop f items done)
      fun asked bs => ∃ parts : List (Transcript × β), asked = parts.flatMap Prod.fst ∧
        bs = done.reverse ++ parts.map Prod.snd ∧
          List.Forall₂ (fun a part => R a part.1 part.2) items parts := by
    induction items with
    | nil =>
      intro done
      exact pure ⟨[], rfl, (List.append_nil _).symm, .nil⟩
    | cons a items ih =>
      intro done
      rw [List.forall_mem_cons] at h
      refine (h.1).bind fun asked b hb => (ih h.2 (b :: done)).mono fun more bs hbs => ?_
      obtain ⟨parts, rfl, rfl, hparts⟩ := hbs
      exact ⟨(asked, b) :: parts, rfl, by simp, .cons hb hparts⟩
  refine (hloop []).mono fun asked bs hbs => ?_
  obtain ⟨parts, hasked, hbs, hparts⟩ := hbs
  exact ⟨parts, hasked, by simpa using hbs, hparts⟩

end Asks

/-! ## What the collaborators are asked -/

variable (ask : Collaborators m) (balancer : Balancer m ρ)

theorem asks_chaincode (channel chaincode : String) :
    Asks (ask.transcribed.chaincode channel chaincode) fun asked answer =>
      asked = [.chaincode channel chaincode answer] := by
  refine (Asks.lift (ask.chaincode channel chaincode)).bind fun asked answer hasked => ?_
  obtain ⟨rfl, -⟩ := hasked
  exact (Asks.note _).bind fun asked _ hasked => .pure (by simpa using hasked)

theorem asks_membership (channel : String) :
    Asks (ask.transcribed.membership channel) fun asked answer =>
      asked = [.membership channel answer] := by
  refine (Asks.lift (ask.membership channel)).bind fun asked answer hasked => ?_
  obtain ⟨rfl, -⟩ := hasked
  exact (Asks.note _).bind fun asked _ hasked => .pure (by simpa using hasked)

theorem asks_fresh : Asks balancer.transcribed.fresh fun asked _ => asked = [.chooser] := by
  refine (Asks.note .chooser).bind fun asked _ hasked => ?_
  exact (Asks.lift balancer.fresh).mono fun more _ hmore => by simp [hasked, hmore.1]

theorem asks_choose (found : List Candidate) (chooser : ρ) :
    Asks (balancer.transcribed.choose found chooser) fun asked choice =>
      asked = [] ∧ ∃ s, choice = (Runs.run (balancer.choose found chooser) s).1 :=
  Asks.lift _

/-! ## Writing down changes nothing -/

/-- An action answers what another does that has no transcript, and leaves the
    surroundings as that does. -/
def Mirrors (x : StateT Transcript m α) (y : m α) : Prop :=
  ∀ t s, ∃ t', Runs.run x (t, s) = ((Runs.run y s).1, t', (Runs.run y s).2)

namespace Mirrors

variable {x : StateT Transcript m α} {y : m α} {f : α → StateT Transcript m β} {g : α → m β}

theorem pure (a : α) : Mirrors (pure a : StateT Transcript m α) (pure a : m α) := by
  intro t s
  rw [Runs.run_pure, Runs.run_pure]
  exact ⟨t, rfl⟩

theorem bind (hx : Mirrors x y) (hf : ∀ a, Mirrors (f a) (g a)) : Mirrors (x >>= f) (y >>= g) := by
  intro t s
  obtain ⟨t', hx⟩ := hx t s
  rw [Runs.run_bind, Runs.run_bind, hx]
  exact hf _ t' _

theorem lift (y : m α) : Mirrors (liftM y : StateT Transcript m α) y := by
  intro t s
  rw [Runs.run_lift]
  exact ⟨t, rfl⟩

theorem log (x : Logged α) : Mirrors (liftM x : StateT Transcript m α) (liftM x : m α) := by
  intro t s
  rw [Runs.run_log, Runs.run_log]
  exact ⟨t, rfl⟩

/-- What is noted is not seen. -/
theorem noting (y : m α) (q : α → Question) :
    Mirrors (do let a ← (liftM y : StateT Transcript m α); modify (· ++ [q a]); return a) y := by
  intro t s
  simp only [Runs.run_bind, Runs.run_lift, Runs.run_modify, Runs.run_pure]
  exact ⟨_, rfl⟩

theorem mapM (items : List α) (h : ∀ a, Mirrors (f a) (g a)) :
    Mirrors (items.mapM f) (items.mapM g) := by
  have hloop : ∀ done : List β, Mirrors (List.mapM.loop f items done)
      (List.mapM.loop g items done) := by
    induction items with
    | nil => exact fun _ => pure _
    | cons a items ih => exact fun _ => (h a).bind fun _ => ih _
  exact hloop []

theorem attempt {x : ExceptT ε (StateT Transcript m) α} {y : ExceptT ε m α}
    {f : α → ExceptT ε (StateT Transcript m) β} {g : α → ExceptT ε m β}
    (hx : Mirrors x.run y.run) (hf : ∀ a, Mirrors (f a).run (g a).run) :
    Mirrors (x >>= f).run (y >>= g).run := by
  refine Mirrors.bind hx fun r => ?_
  cases r with
  | ok a => exact hf a
  | error failure => exact pure _

theorem lifted [LawfulMonad m] (hx : Mirrors x y) :
    Mirrors (liftM x : ExceptT ε (StateT Transcript m) α).run (liftM y : ExceptT ε m α).run := by
  intro t s
  obtain ⟨t', hx⟩ := hx t s
  change ∃ t', Runs.run (Except.ok <$> x) (t, s) = ((Runs.run (Except.ok <$> y) s).1, t',
    (Runs.run (Except.ok <$> y) s).2)
  rw [Runs.run_map, Runs.run_map, hx]
  exact ⟨t', rfl⟩

end Mirrors

section Mirroring

theorem mirrors_membership (channel : String) :
    Mirrors (ask.transcribed.membership channel) (ask.membership channel) :=
  .noting _ _

theorem mirrors_candidates (channel : String) (alternatives : List Group) :
    Mirrors (Resolver.candidates (peersOfMsp ask.transcribed channel) alternatives)
      (Resolver.candidates (peersOfMsp ask channel) alternatives) := by
  refine (Mirrors.mapM alternatives fun a => ?_).bind fun _ => .pure _
  refine (Mirrors.mapM a.legs fun l => ?_).bind fun _ => .pure _
  cases l with
  | fixed peers => exact .pure _
  | msp mspId => exact (mirrors_membership ask channel).bind fun _ => .pure _

theorem mirrors_use (key : Key) (resolver : Resolver ρ) :
    Mirrors (use ask.transcribed balancer.transcribed key resolver)
      (use ask balancer key resolver) := by
  refine (mirrors_membership ask _).bind fun membership => ?_
  split
  · exact .pure _
  · have hresolve : Mirrors
        (resolver.resolve (m := StateT Transcript m) (peersOfMsp ask.transcribed key.channel)
          balancer.transcribed)
        (resolver.resolve (m := m) (peersOfMsp ask key.channel) balancer) :=
      (mirrors_candidates ask _ _).bind fun found => (Mirrors.log _).bind fun _ =>
        (Mirrors.lift _).bind fun _ => .pure _
    exact hresolve.bind fun _ => .pure _

variable [LawfulMonad m]

theorem mirrors_policyGroup (channel chaincode : String) :
    Mirrors (policyGroup ask.transcribed channel chaincode).run
      (policyGroup ask channel chaincode).run :=
  .attempt (.noting _ _) fun _ => .attempt (.log _) fun _ => .attempt (.lifted (.log _)) fun _ =>
    .pure _

theorem mirrors_policyGroups (channel : String) (chaincodes : List String) :
    Mirrors (policyGroups ask.transcribed channel chaincodes).run
      (policyGroups ask channel chaincodes).run := by
  induction chaincodes with
  | nil => exact .pure _
  | cons c rest ih =>
    exact .attempt (mirrors_policyGroup ask channel c) fun _ => .attempt ih fun _ => .pure _

theorem mirrors_build (key : Key) :
    Mirrors (build ask.transcribed balancer.transcribed key).run (build ask balancer key).run := by
  have hfresh : Mirrors balancer.transcribed.fresh balancer.fresh := by
    intro t s
    simp only [Balancer.transcribed, Runs.run_bind, Runs.run_lift, Runs.run_modify]
    exact ⟨_, rfl⟩
  refine .attempt (mirrors_policyGroups ask _ _) fun groups => .attempt ?_ fun _ =>
    .attempt (.lifted hfresh) fun _ => .attempt (.log _) fun _ => .pure _
  cases allOf groups <;> exact .pure _

/-- A request is answered the same, and leaves the same, whether or not it is
    written down what is asked. -/
theorem run_endorsers_transcribed (service : Service ρ) (channel : String)
    (chaincodes : List String) (t : Transcript) (s : σ) :
    let r := Runs.run (endorsers ask balancer channel chaincodes) (service, s)
    ∃ t', Runs.run (endorsers ask.transcribed balancer.transcribed channel chaincodes)
      (service, t, s) = (r.1, r.2.1, t', r.2.2) := by
  by_cases hne : chaincodes = []
  · subst hne
    simp only [run_endorsers_nil]
    exact ⟨t, rfl⟩
  · cases hfind : service.resolvers.find? (.ofRequest channel chaincodes) with
    | some resolver =>
      simp only [run_endorsers_kept hne hfind]
      obtain ⟨t', huse⟩ := mirrors_use ask balancer (.ofRequest channel chaincodes) resolver t s
      rw [huse]
      exact ⟨t', rfl⟩
    | none =>
      obtain ⟨t', hbuild⟩ := mirrors_build ask balancer (.ofRequest channel chaincodes) t s
      rcases hrun : Runs.run (build ask balancer (.ofRequest channel chaincodes)).run s with
        ⟨failure | resolver, s'⟩
      · rw [hrun] at hbuild
        simp only [run_endorsers_failed hne hfind hrun, run_endorsers_failed hne hfind hbuild]
        exact ⟨t', rfl⟩
      · rw [hrun] at hbuild
        simp only [run_endorsers_built hne hfind hrun, run_endorsers_built hne hfind hbuild]
        obtain ⟨t'', huse⟩ := mirrors_use ask balancer (.ofRequest channel chaincodes) resolver t' s'
        rw [huse]
        exact ⟨t'', rfl⟩
end Mirroring

/-! ## Services in use -/

/-- Whom a service asks and how it chooses, and its configuration. -/
structure Setting (m : Type → Type) (ρ : Type) where
  ask : Collaborators m
  balancer : Balancer m ρ
  config : Config

/-- Something that is done with a service, or happens around it. -/
inductive Call (σ : Type) where
  | endorsers (channel : String) (chaincodes : List String)
  | eventSource (channel : String)
  | clear
  /-- The surroundings are no longer what they were. -/
  | change (surroundings : σ → σ)

/-- What a call came to: what was asked in its course, and what it answered. -/
inductive Done where
  | endorsers (channel : String) (chaincodes : List String) (asked : Transcript)
      (answer : Except Failure (List Peer))
  | eventSource (channel : String) (asked : Transcript) (answer : Except Failure EventSource)
  | clear
  | change

/-- A service, and the state of its surroundings. -/
structure InUse (σ ρ : Type) where
  service : Service ρ := {}
  surroundings : σ

namespace Setting

variable (x : Setting m ρ)

/-- What a call comes to, and what it leaves. -/
def perform (u : InUse σ ρ) : Call σ → Done × InUse σ ρ
  | .endorsers channel chaincodes =>
    let r := Runs.run (endorsers x.ask.transcribed x.balancer.transcribed channel chaincodes)
      (u.service, [], u.surroundings)
    (.endorsers channel chaincodes r.2.2.1 r.1, ⟨r.2.1, r.2.2.2⟩)
  | .eventSource channel =>
    let r := Runs.run (Service.eventSource x.ask.transcribed x.config channel)
      ([], u.surroundings)
    (.eventSource channel r.2.1 r.1, ⟨u.service, r.2.2⟩)
  | .clear =>
    let r := Runs.run (Service.clear : StateT (Service ρ) m Unit) (u.service, u.surroundings)
    (.clear, ⟨r.2.1, r.2.2⟩)
  | .change surroundings => (.change, ⟨u.service, surroundings u.surroundings⟩)

/-- What some calls leave. -/
def after (u : InUse σ ρ) (calls : List (Call σ)) : InUse σ ρ :=
  calls.foldl (fun u call => (x.perform u call).2) u

/-- What some calls come to, one after the other. -/
def trail (u : InUse σ ρ) : List (Call σ) → List Done
  | [] => []
  | call :: rest => (x.perform u call).1 :: trail (x.perform u call).2 rest

variable {x} {u : InUse σ ρ}

theorem after_append (first rest : List (Call σ)) :
    x.after u (first ++ rest) = x.after (x.after u first) rest :=
  List.foldl_append

theorem after_concat (calls : List (Call σ)) (call : Call σ) :
    x.after u (calls ++ [call]) = (x.perform (x.after u calls) call).2 :=
  after_append calls [call]

theorem trail_append (first rest : List (Call σ)) :
    x.trail u (first ++ rest) = x.trail u first ++ x.trail (x.after u first) rest := by
  induction first generalizing u with
  | nil => rfl
  | cons call first ih =>
    rw [List.cons_append, trail, ih, trail, List.cons_append]
    rfl

theorem trail_concat (calls : List (Call σ)) (call : Call σ) :
    x.trail u (calls ++ [call]) = x.trail u calls ++ [(x.perform (x.after u calls) call).1] :=
  trail_append calls [call]

/-- Clearing leaves a new service in the same surroundings. -/
theorem perform_clear : x.perform u .clear = (.clear, ⟨{}, u.surroundings⟩) := by
  simp only [perform, Service.clear, Runs.run_bind, Runs.run_get, Runs.run_log, Runs.run_set]

end Setting

end Selection.Service

end Endorsement
