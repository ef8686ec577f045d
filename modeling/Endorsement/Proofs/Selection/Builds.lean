import Endorsement.Proofs.Selection.Transcript
import Mathlib

/-!
# When resolvers are built

A service builds the resolver of a key when a request needs it and it is not
kept. The chaincodes of the key are looked up one after the other, and the first
that cannot be looked up, or whose policy does not compile, ends it.

* `Found`, `Stopped`: the lookups of chaincodes in order, all of them or up to the
  first that fails;
* `asks_build`: what building asks, and that it cannot fail after the lookups
  unless there are more chaincodes than a threshold can count;
* `Effect`, `effect_perform`: what a call does to the resolvers kept, by the keys
  that they are kept for;
* `builds`, `builtSince`: whether a key was built in the course of a call, as
  told by what was asked, and the keys built since all were dropped;
* `resolvers_built_once`: the resolvers kept are those built since all
  were dropped, each of them once and with one chooser.
-/

namespace Endorsement.Selection.Service

variable {m : Type → Type} [Monad m] [MonadLiftT Logged m] {σ ρ : Type} [Runs m σ]
  (ask : Collaborators m) (balancer : Balancer m ρ)

/-! ## Lookups -/

/-- The policy in the data of a chaincode, as a group. -/
def compiled (answer : Except Failure Chaincode) : Except Failure Group := do
  Policy.groupOfBytes (← answer).policy

/-- Chaincodes are looked up in order, and all of their policies compile. -/
inductive Found (channel : String) : List String → Transcript → List Group → Prop
  | nil : Found channel [] [] []
  | cons {chaincode : String} {answer : Except Failure Chaincode} {group : Group}
      {chaincodes : List String} {asked : Transcript} {groups : List Group}
      (h : compiled answer = .ok group) (hrest : Found channel chaincodes asked groups) :
      Found channel (chaincode :: chaincodes) (.chaincode channel chaincode answer :: asked)
        (group :: groups)

/-- Chaincodes are looked up in order, up to the first that has no data or whose
    policy does not compile. -/
inductive Stopped (channel : String) : List String → Transcript → Failure → Prop
  | here {chaincode : String} {answer : Except Failure Chaincode} {failure : Failure}
      {chaincodes : List String} (h : compiled answer = .error failure) :
      Stopped channel (chaincode :: chaincodes) [.chaincode channel chaincode answer] failure
  | later {chaincode : String} {answer : Except Failure Chaincode} {group : Group}
      {chaincodes : List String} {asked : Transcript} {failure : Failure}
      (h : compiled answer = .ok group) (hrest : Stopped channel chaincodes asked failure) :
      Stopped channel (chaincode :: chaincodes) (.chaincode channel chaincode answer :: asked)
        failure

/-- A question that is asked for a new resolver. -/
def Question.isBuilding : Question → Bool
  | .membership _ _ => false
  | _ => true

/-- Whether a new chooser was asked for. -/
def Question.isChooser : Question → Bool
  | .chooser => true
  | _ => false

/-- The chaincode that was looked up, and its policy. -/
def Question.lookup? : Question → Option (String × Except Failure Group)
  | .chaincode _ name answer => some (name, compiled answer)
  | _ => none

/-- The chaincodes that were looked up, and their policies. -/
def Transcript.lookups (asked : Transcript) : List (String × Except Failure Group) :=
  asked.filterMap Question.lookup?

variable {channel : String} {chaincodes : List String} {asked : Transcript} {groups : List Group}
  {failure : Failure}

theorem Found.lookups_eq (h : Found channel chaincodes asked groups) :
    asked.lookups = chaincodes.zip (groups.map .ok) := by
  induction h with
  | nil => rfl
  | cons hcompiled _ ih =>
    rw [Transcript.lookups] at ih
    rw [Transcript.lookups, List.filterMap_cons, Question.lookup?, hcompiled, ih, List.map_cons,
      List.zip_cons_cons]

theorem Found.length_eq (h : Found channel chaincodes asked groups) :
    groups.length = chaincodes.length := by
  induction h with
  | nil => rfl
  | cons _ _ ih => rw [List.length_cons, List.length_cons, ih]

theorem Found.countP_isChooser (h : Found channel chaincodes asked groups) :
    asked.countP Question.isChooser = 0 := by
  induction h with
  | nil => rfl
  | cons _ _ ih => rw [List.countP_cons_of_neg (by simp [Question.isChooser]), ih]

/-- The policies that were found hold if all organisations sign. -/
theorem Found.holds_always (h : Found channel chaincodes asked groups) :
    ∀ g ∈ groups, g.Holds .always := by
  induction h with
  | nil => exact fun _ hg => absurd hg List.not_mem_nil
  | cons hcompiled _ ih =>
    obtain ⟨data, -, hgroup⟩ := exists_ok_of_bind hcompiled
    exact List.forall_mem_cons.2 ⟨Policy.holds_always_of_groupOfBytes hgroup, ih⟩

theorem Stopped.mem_lookups (h : Stopped channel chaincodes asked failure) :
    ∃ chaincode, (chaincode, .error failure) ∈ asked.lookups := by
  induction h with
  | @here chaincode _ _ _ hcompiled =>
    refine ⟨chaincode, ?_⟩
    rw [Transcript.lookups, List.filterMap_cons, Question.lookup?, hcompiled]
    exact List.mem_cons_self
  | later _ _ ih =>
    obtain ⟨chaincode, hmem⟩ := ih
    refine ⟨chaincode, ?_⟩
    rw [Transcript.lookups, List.filterMap_cons, Question.lookup?]
    exact List.mem_cons_of_mem _ hmem

theorem Stopped.countP_isChooser (h : Stopped channel chaincodes asked failure) :
    asked.countP Question.isChooser = 0 := by
  induction h with
  | here _ => rfl
  | later _ _ ih => rw [List.countP_cons_of_neg (by simp [Question.isChooser]), ih]

/-! ## Building -/

section Building

variable [LawfulMonad m]

/-- A chaincode is looked up with one question, and its group is what the answer
    compiles to. -/
theorem asks_policyGroup (channel chaincode : String) :
    Asks (policyGroup ask.transcribed channel chaincode).run fun asked r =>
      ∃ answer, asked = [.chaincode channel chaincode answer] ∧ r = compiled answer := by
  refine Asks.attempt (asks_chaincode ask channel chaincode) (fun asked data hasked => ?_)
    fun asked failure hasked => ⟨_, hasked, rfl⟩
  refine Asks.attempt (Asks.log _) (fun more groups hmore => ?_) fun more failure hmore => ?_
  · refine Asks.attempt (Asks.lifted (Asks.log _)) (fun last _ hlast => .pure ?_)
      fun last failure hlast => ?_
    · obtain ⟨_, -, rfl, -⟩ := hlast
      refine ⟨.ok data, by simp [hasked, hmore.1], ?_⟩
      change _ = Policy.groupOfBytes data.policy
      rw [Policy.groupOfBytes, ← hmore.2]
      rfl
    · obtain ⟨_, hfail, -⟩ := hlast
      cases hfail
  · refine ⟨.ok data, by simp [hasked, hmore.1], ?_⟩
    change _ = Policy.groupOfBytes data.policy
    rw [Policy.groupOfBytes, ← hmore.2]
    rfl

/-- How the lookups of some chaincodes ended. -/
def Looked (channel : String) (chaincodes : List String) (asked : Transcript) :
    Except Failure (List Group) → Prop
  | .ok groups => Found channel chaincodes asked groups
  | .error failure => Stopped channel chaincodes asked failure

/-- Chaincodes are looked up in order, up to the first one that fails. -/
theorem asks_policyGroups (channel : String) (chaincodes : List String) :
    Asks (policyGroups ask.transcribed channel chaincodes).run
      (Looked channel chaincodes) := by
  induction chaincodes with
  | nil => exact .pure .nil
  | cons chaincode rest ih =>
    refine Asks.attempt (asks_policyGroup ask channel chaincode) (fun asked group hasked => ?_)
      fun asked failure hasked => ?_
    · obtain ⟨answer, rfl, hcompiled⟩ := hasked
      refine Asks.attempt ih (fun more groups hmore => .pure ?_) fun more failure hmore => ?_
      · rw [List.append_nil]
        exact .cons hcompiled.symm hmore
      · exact .later hcompiled.symm hmore
    · obtain ⟨answer, rfl, hcompiled⟩ := hasked
      exact .here hcompiled.symm

omit [LawfulMonad m] in
theorem asks_alternativesOf {combined : List Group} (hne : (Group.any combined).reduce ≠ []) :
    Asks (ExceptT.mk (liftM (Resolver.alternativesOf combined).run) :
        ExceptT Failure (StateT Transcript m) (List Group)).run fun asked r =>
      asked = [] ∧ r = .ok (Group.any combined).reduce := by
  refine (Asks.log _).mono fun asked r hr => ?_
  rw [Resolver.value_alternativesOf, if_neg hne] at hr
  exact hr

/-- What building the resolver of a key asks, and how it ends: it stops at the
    first lookup that fails, or has more policies than can be asked for together,
    or has a resolver with a new chooser. -/
inductive Attempt (key : Key) : Transcript → Except Failure (Resolver ρ) → Prop
  | stopped {asked : Transcript} {failure : Failure}
      (h : Stopped key.channel key.chaincodes asked failure) : Attempt key asked (.error failure)
  | tooMany {asked : Transcript} {groups : List Group}
      (hlong : Policy.maxThreshold < key.chaincodes.length)
      (h : Found key.channel key.chaincodes asked groups) :
      Attempt key asked
        (.error (.badThreshold (Int32.ofNat Policy.maxThreshold) key.chaincodes.length))
  | built {looked : Transcript} {groups combined : List Group} {chooser : ρ}
      (hshort : key.chaincodes.length ≤ Policy.maxThreshold)
      (h : Found key.channel key.chaincodes looked groups) (hall : allOf groups = .ok combined) :
      Attempt key (looked ++ [.chooser]) (.ok ⟨(Group.any combined).reduce, chooser⟩)

/-- The policies that were found always have alternatives, so that nothing but
    their number can fail after the lookups. -/
theorem asks_build (key : Key) (hne : key.chaincodes ≠ []) :
    Asks (build ask.transcribed balancer.transcribed key).run (Attempt key) := by
  refine Asks.attempt (asks_policyGroups ask key.channel key.chaincodes)
    (fun looked groups hlooked => ?_) fun looked failure hstopped => .stopped hstopped
  have hfound : Found key.channel key.chaincodes looked groups := hlooked
  have hlength := hfound.length_eq
  refine Asks.attempt (Asks.ofExcept (allOf groups)) (fun none combined hall => ?_)
    fun none failure hall => ?_
  · obtain ⟨rfl, hall⟩ := hall
    have hcombined := reduce_ne_nil_of_allOf hall.symm hfound.holds_always
    refine Asks.attempt (Asks.lifted (asks_fresh balancer)) (fun fresh chooser hfresh => ?_)
      fun fresh failure hfresh => ?_
    · obtain ⟨_, -, rfl⟩ := hfresh
      refine Asks.attempt (asks_alternativesOf hcombined) (fun none _ halternatives => .pure ?_)
        fun none failure hfail => by cases hfail.2
      obtain ⟨rfl, halternatives⟩ := halternatives
      obtain rfl := Except.ok.inj halternatives
      exact .built (hlength ▸ (atLeast_of_allOf hall.symm).1) hfound hall.symm
    · obtain ⟨_, hfail, -⟩ := hfresh
      cases hfail
  · obtain ⟨rfl, hall⟩ := hall
    have hgroups : groups ≠ [] := by
      rwa [Ne, ← List.length_eq_zero_iff, hlength, List.length_eq_zero_iff]
    obtain ⟨hlong, rfl⟩ := allOf_eq_error hgroups hall.symm
    rw [List.append_nil, hlength]
    exact .tooMany (hlength ▸ hlong) hfound

end Building

/-! ## What calls do to the resolvers kept -/

/-- Nothing was asked for a new resolver. -/
def Transcript.Quiet (asked : Transcript) : Prop :=
  ∀ q ∈ asked, q.isBuilding = false

/-- The keys that resolvers are kept for. -/
def keys (service : Service ρ) : List Key := service.resolvers.keys

theorem mem_keys_iff {service : Service ρ} {key : Key} :
    key ∈ service.keys ↔ (service.resolvers.find? key).isSome = true :=
  Table.mem_keys_iff

theorem keys_keep_of_mem {service : Service ρ} {key : Key} (h : key ∈ service.keys)
    (resolver : Resolver ρ) : (service.keep key resolver).keys = service.keys :=
  Table.keys_insert_of_mem h resolver

theorem keys_keep_of_not_mem {service : Service ρ} {key : Key} (h : key ∉ service.keys)
    (resolver : Resolver ρ) : (service.keep key resolver).keys = service.keys ++ [key] :=
  Table.keys_insert_of_not_mem h resolver

theorem chaincodes_ofRequest_ne_nil (channel : String) (hne : chaincodes ≠ []) :
    (Key.ofRequest channel chaincodes).chaincodes ≠ [] := by
  rw [Ne, ← List.length_eq_zero_iff, Key.ofRequest, List.length_mergeSort, List.length_eq_zero_iff]
  exact hne

/-- The chaincodes of a key are sorted. -/
theorem pairwise_ofRequest (channel : String) (chaincodes : List String) :
    (Key.ofRequest channel chaincodes).chaincodes.Pairwise (· ≤ ·) := by
  have htrans : ∀ a b c : String, decide (a ≤ b) = true → decide (b ≤ c) = true →
      decide (a ≤ c) = true := by
    simp only [decide_eq_true_eq]
    exact fun a b c => String.le_trans
  have htotal : ∀ a b : String, (decide (a ≤ b) || decide (b ≤ a)) = true := by
    simpa using String.le_total
  exact (List.pairwise_mergeSort htrans htotal chaincodes).imp fun h => of_decide_eq_true h

/-- What every action adds to the transcript it asks. -/
theorem Asks.of_answers {α : Type} {x : StateT Transcript m α} {these : Transcript → Prop}
    (hnil : these []) (h : ∀ t, Answers (fun s => ∃ asked, s.1 = t ++ asked ∧ these asked) x
      fun _ => True) : Asks x fun asked _ => these asked :=
  fun t s => (h t (t, s) ⟨[], (List.append_nil t).symm, hnil⟩).2

theorem quiet_membership (t : Transcript) (channel : String) :
    Answers (fun s => ∃ asked : Transcript, s.1 = t ++ asked ∧ asked.Quiet)
      (ask.transcribed.membership channel) fun _ => True := by
  rintro ⟨_, s⟩ ⟨asked, rfl, hasked⟩
  obtain ⟨more, hmore, hquestion⟩ := asks_membership ask channel (t ++ asked) s
  refine ⟨trivial, asked ++ more, by rw [hmore, List.append_assoc], ?_⟩
  rw [hquestion]
  exact List.forall_mem_append.2 ⟨hasked, List.forall_mem_singleton.2 rfl⟩

theorem quiet_lift {α : Type} (t : Transcript) (x : m α) :
    Answers (fun s => ∃ asked : Transcript, s.1 = t ++ asked ∧ asked.Quiet)
      (liftM x : StateT Transcript m α) fun _ => True := by
  rintro ⟨_, s⟩ hs
  rw [Runs.run_lift]
  exact ⟨trivial, hs⟩

theorem asks_use (key : Key) (resolver : Resolver ρ) :
    Asks (use ask.transcribed balancer.transcribed key resolver) fun asked _ => asked.Quiet :=
  .of_answers (fun _ hq => absurd hq List.not_mem_nil) fun t =>
    use_keeps (quiet_membership ask t) (fun _ _ => quiet_lift t _) key resolver

theorem asks_eventSource (config : Config) (channel : String) :
    Asks (eventSource ask.transcribed config channel) fun asked _ => asked.Quiet :=
  .of_answers (fun _ hq => absurd hq List.not_mem_nil) fun t =>
    eventSource_keeps (quiet_membership ask t) (quiet_lift t _) config channel

/-- How a request for endorsers is served: by a resolver that is kept, by a new
    one, or not at all. -/
inductive Served (x : Setting m ρ) (service : Service ρ) (channel : String)
    (chaincodes : List String) : Transcript → Except Failure (List Peer) → Service ρ → Prop
  | unnamed (h : chaincodes = []) :
      Served x service channel chaincodes [] (.error .noChaincodes) service
  | failed {asked : Transcript} {failure : Failure} (hne : chaincodes ≠ [])
      (h : service.resolvers.find? (.ofRequest channel chaincodes) = none)
      (hattempt : Attempt (ρ := ρ) (.ofRequest channel chaincodes) asked (.error failure)) :
      Served x service channel chaincodes asked
        (.error (unavailable (.ofRequest channel chaincodes) failure)) service
  | kept {t asked : Transcript} {answer : Except Failure (List Peer)}
      {resolver resolver' : Resolver ρ} {s s' : σ} (hne : chaincodes ≠ [])
      (h : service.resolvers.find? (.ofRequest channel chaincodes) = some resolver)
      (huse : Runs.run (use x.ask.transcribed x.balancer.transcribed
        (.ofRequest channel chaincodes) resolver) (t, s) = ((answer, resolver'), t ++ asked, s')) :
      Served x service channel chaincodes asked answer
        (service.keep (.ofRequest channel chaincodes) resolver')
  | built {looked t asked : Transcript} {answer : Except Failure (List Peer)}
      {resolver resolver' : Resolver ρ} {s s' : σ} (hne : chaincodes ≠ [])
      (h : service.resolvers.find? (.ofRequest channel chaincodes) = none)
      (hattempt : Attempt (.ofRequest channel chaincodes) looked (.ok resolver))
      (huse : Runs.run (use x.ask.transcribed x.balancer.transcribed
        (.ofRequest channel chaincodes) resolver) (t, s) = ((answer, resolver'), t ++ asked, s')) :
      Served x service channel chaincodes (looked ++ asked) answer
        (service.keep (.ofRequest channel chaincodes) resolver')

/-- Every request for endorsers is served in one of these ways. -/
theorem served_endorsers [LawfulMonad m] (x : Setting m ρ) (u : InUse σ ρ) (channel : String)
    (chaincodes : List String) :
    ∃ asked answer, (x.perform u (.endorsers channel chaincodes)).1 =
        .endorsers channel chaincodes asked answer ∧
      Served x u.service channel chaincodes asked answer
        (x.perform u (.endorsers channel chaincodes)).2.service := by
  by_cases hne : chaincodes = []
  · subst hne
    simp only [Setting.perform, run_endorsers_nil]
    exact ⟨_, _, rfl, .unnamed rfl⟩
  · cases hfind : u.service.resolvers.find? (.ofRequest channel chaincodes) with
    | some resolver =>
      simp only [Setting.perform, run_endorsers_kept hne hfind]
      exact ⟨_, _, rfl, .kept hne hfind rfl⟩
    | none =>
      have hattempt := (asks_build x.ask x.balancer _
        (chaincodes_ofRequest_ne_nil channel hne)).from_nil u.surroundings
      rcases hbuild : Runs.run (build x.ask.transcribed x.balancer.transcribed
        (.ofRequest channel chaincodes)).run ([], u.surroundings) with ⟨failure | resolver, t, s⟩
      · rw [hbuild] at hattempt
        simp only [Setting.perform, run_endorsers_failed hne hfind hbuild]
        exact ⟨_, _, rfl, .failed hne hfind hattempt⟩
      · rw [hbuild] at hattempt
        simp only [Setting.perform, run_endorsers_built hne hfind hbuild]
        -- The resolver is used with the transcript that building it left.
        obtain ⟨asked, r, s', huse, -⟩ := (asks_use x.ask x.balancer
          (.ofRequest channel chaincodes) resolver).exists_run t s
        rw [huse]
        exact ⟨_, _, rfl, .built hne hfind hattempt huse⟩

/-- What a call does to the resolvers kept. A resolver that is kept changes its
    chooser at most; one that is not kept is built, and if that fails the service
    is as it was. -/
inductive Effect (service : Service ρ) : Done → Service ρ → Prop
  | unnamed (channel : String) :
      Effect service (.endorsers channel [] [] (.error .noChaincodes)) service
  | kept {channel : String} {chaincodes : List String} {asked : Transcript}
      {answer : Except Failure (List Peer)} {resolver resolver' : Resolver ρ}
      (hne : chaincodes ≠ [])
      (h : service.resolvers.find? (.ofRequest channel chaincodes) = some resolver)
      (hasked : asked.Quiet) (hsame : resolver'.alternatives = resolver.alternatives) :
      Effect service (.endorsers channel chaincodes asked answer)
        (service.keep (.ofRequest channel chaincodes) resolver')
  | failed {channel : String} {chaincodes : List String} {asked : Transcript} {failure : Failure}
      (hne : chaincodes ≠ []) (h : Key.ofRequest channel chaincodes ∉ service.keys)
      (hattempt : Attempt (ρ := ρ) (.ofRequest channel chaincodes) asked (.error failure)) :
      Effect service (.endorsers channel chaincodes asked
        (.error (unavailable (.ofRequest channel chaincodes) failure))) service
  | built {channel : String} {chaincodes : List String} {asked rest : Transcript}
      {answer : Except Failure (List Peer)} {resolver resolver' : Resolver ρ}
      (hne : chaincodes ≠ []) (h : Key.ofRequest channel chaincodes ∉ service.keys)
      (hattempt : Attempt (.ofRequest channel chaincodes) asked (.ok resolver))
      (hrest : rest.Quiet) (hsame : resolver'.alternatives = resolver.alternatives) :
      Effect service (.endorsers channel chaincodes (asked ++ rest) answer)
        (service.keep (.ofRequest channel chaincodes) resolver')
  | eventSource {channel : String} {asked : Transcript} {answer : Except Failure EventSource}
      (hasked : asked.Quiet) : Effect service (.eventSource channel asked answer) service
  | clear : Effect service .clear {}
  | change : Effect service .change service

theorem not_mem_keys {service : Service ρ} {key : Key} (h : service.resolvers.find? key = none) :
    key ∉ service.keys := by
  rw [mem_keys_iff, h]
  exact Bool.false_ne_true

/-- How a request is served decides its effect. Whoever uses a resolver, kept or new,
    asks for snapshots only and leaves its alternatives as they are. -/
theorem Served.effect {x : Setting m ρ} {service after : Service ρ} {channel : String}
    {chaincodes : List String} {asked : Transcript} {answer : Except Failure (List Peer)}
    (h : Served x service channel chaincodes asked answer after) :
    Effect service (.endorsers channel chaincodes asked answer) after := by
  have hsame : ∀ {key : Key} {resolver resolver' : Resolver ρ} {s s' : Transcript × σ}
      {answer : Except Failure (List Peer)},
      Runs.run (use x.ask.transcribed x.balancer.transcribed key resolver) s =
        ((answer, resolver'), s') → resolver'.alternatives = resolver.alternatives := by
    intro key resolver resolver' s s' answer huse
    have halternatives : (Runs.run (use x.ask.transcribed x.balancer.transcribed key resolver)
        s).1.2.alternatives = resolver.alternatives := alternatives_use key resolver s
    rwa [huse] at halternatives
  cases h with
  | unnamed h =>
    subst h
    exact .unnamed channel
  | failed hne h hattempt => exact .failed hne (not_mem_keys h) hattempt
  | kept hne h huse =>
    exact .kept hne h ((asks_use x.ask x.balancer _ _).of_run huse) (hsame huse)
  | built hne h hattempt huse =>
    exact .built hne (not_mem_keys h) hattempt ((asks_use x.ask x.balancer _ _).of_run huse)
      (hsame huse)

/-- Every call has the effect on the resolvers kept. -/
theorem effect_perform [LawfulMonad m] (x : Setting m ρ) (u : InUse σ ρ) (call : Call σ) :
    Effect u.service (x.perform u call).1 (x.perform u call).2.service := by
  cases call with
  | endorsers channel chaincodes =>
    obtain ⟨asked, answer, hdone, hserved⟩ := served_endorsers x u channel chaincodes
    rw [hdone]
    exact hserved.effect
  | eventSource channel => exact .eventSource ((asks_eventSource x.ask x.config channel).from_nil _)
  | clear =>
    rw [Setting.perform_clear]
    exact .clear
  | change surroundings => exact .change

/-! ## Keys that were built -/

/-- Whether the resolver of a key was built in the course of a call, as told by
    what was asked: all chaincodes of the key were looked up, in order, and their
    policies compiled. -/
def builds (key : Key) (asked : Transcript) : Bool :=
  key.chaincodes ≠ [] && decide (key.chaincodes.length ≤ Policy.maxThreshold) &&
    asked.lookups.map Prod.fst == key.chaincodes && asked.lookups.all fun lookup => lookup.2.isOk

namespace Done

/-- The key whose resolver was built in the course of a call, if there is one. -/
def built? : Done → Option Key
  | endorsers channel chaincodes asked _ =>
    if builds (.ofRequest channel chaincodes) asked then some (.ofRequest channel chaincodes)
    else none
  | _ => none

/-- What was asked in the course of a call. -/
def transcript : Done → Transcript
  | endorsers _ _ asked _ | eventSource _ asked _ => asked
  | _ => []

/-- Whether all resolvers were dropped. -/
def isClear : Done → Bool
  | clear => true
  | _ => false

end Done

/-- The keys whose resolvers were built since all were dropped, one for each time
    that it was. -/
def builtSince (trail : List Done) : List Key :=
  trail.foldl (fun keys done => if done.isClear then [] else keys ++ done.built?.toList) []

theorem builtSince_concat (trail : List Done) (done : Done) :
    builtSince (trail ++ [done]) =
      if done.isClear then [] else builtSince trail ++ done.built?.toList :=
  List.foldl_concat _ _ _ _

theorem lookups_of_quiet (h : asked.Quiet) : asked.lookups = [] := by
  refine List.filterMap_eq_nil_iff.2 fun q hq => ?_
  have hquiet := h q hq
  cases q with
  | membership _ _ => rfl
  | chaincode _ _ _ => cases hquiet
  | chooser => cases hquiet

theorem countP_isChooser_of_quiet (h : asked.Quiet) : asked.countP Question.isChooser = 0 := by
  refine List.countP_eq_zero.2 fun q hq => ?_
  have hquiet := h q hq
  cases q with
  | membership _ _ => exact Bool.false_ne_true
  | chaincode _ _ _ => cases hquiet
  | chooser => cases hquiet

theorem lookups_append (first rest : Transcript) :
    Transcript.lookups (first ++ rest) = first.lookups ++ rest.lookups :=
  List.filterMap_append

theorem builds_append_of_quiet {key : Key} {rest : Transcript} (h : rest.Quiet) :
    builds key (asked ++ rest) = builds key asked := by
  rw [builds, lookups_append, lookups_of_quiet h, List.append_nil, builds]

theorem not_builds_of_quiet {key : Key} (h : asked.Quiet) : builds key asked = false := by
  rw [builds, lookups_of_quiet h]
  cases key.chaincodes <;> simp

/-- Whether an attempt built a resolver can be told from what it asked: one that was
    stopped has an answer that does not compile, and one that had too many chaincodes
    stands out by their number. -/
theorem Attempt.builds_eq {key : Key} (hne : key.chaincodes ≠ []) {r : Except Failure (Resolver ρ)}
    (h : Attempt key asked r) : builds key asked = r.isOk := by
  cases h with
  | stopped h =>
    obtain ⟨name, hmem⟩ := h.mem_lookups
    have hall : asked.lookups.all (fun lookup => lookup.2.isOk) = false := by
      rw [List.all_eq_false]
      exact ⟨_, hmem, Bool.false_ne_true⟩
    rw [builds, hall, Bool.and_false]
    rfl
  | tooMany hlong h =>
    rw [builds, decide_eq_false (Nat.not_le.2 hlong), Bool.and_false, Bool.false_and,
      Bool.false_and]
    rfl
  | @built looked groups combined chooser hshort h hall =>
    have hlookups : Transcript.lookups (looked ++ [.chooser]) =
        key.chaincodes.zip (groups.map .ok) := by
      rw [lookups_append, h.lookups_eq]
      exact List.append_nil _
    have hnames : (key.chaincodes.zip (groups.map (Except.ok (ε := Failure)))).map Prod.fst =
        key.chaincodes :=
      List.map_fst_zip (by rw [List.length_map, h.length_eq])
    have hall : (key.chaincodes.zip (groups.map .ok)).all
        (fun lookup : String × Except Failure Group => lookup.2.isOk) = true := by
      rw [List.all_eq_true]
      intro lookup hlookup
      obtain ⟨group, -, hgroup⟩ := List.mem_map.1 (List.of_mem_zip hlookup).2
      rw [← hgroup]
      rfl
    rw [builds, hlookups, hnames, hall]
    simp [hne, hshort, Except.isOk, Except.toBool]

theorem Attempt.countP_isChooser {key : Key} {r : Except Failure (Resolver ρ)}
    (h : Attempt key asked r) : asked.countP Question.isChooser = if r.isOk then 1 else 0 := by
  cases h with
  | stopped h => exact h.countP_isChooser
  | tooMany _ h => exact h.countP_isChooser
  | built _ h _ =>
    rw [List.countP_append, h.countP_isChooser]
    rfl

theorem quiet_nil : Transcript.Quiet [] :=
  fun _ hq => absurd hq List.not_mem_nil

theorem built?_of_quiet {answer : Except Failure (List Peer)} (h : asked.Quiet) :
    (Done.endorsers channel chaincodes asked answer).built? = none := by
  rw [Done.built?, not_builds_of_quiet h]
  rfl

theorem built?_of_attempt {answer : Except Failure (List Peer)} {rest all : Transcript}
    {r : Except Failure (Resolver ρ)} (hne : chaincodes ≠ [])
    (h : Attempt (.ofRequest channel chaincodes) asked r) (hrest : rest.Quiet)
    (hall : all = asked ++ rest) :
    (Done.endorsers channel chaincodes all answer).built? =
      if r.isOk then some (.ofRequest channel chaincodes) else none := by
  rw [Done.built?, hall, builds_append_of_quiet hrest,
    h.builds_eq (chaincodes_ofRequest_ne_nil channel hne)]

namespace Effect

variable {service after : Service ρ} {done : Done}

/-- The keys that resolvers are kept for, after a call. -/
theorem keys_eq (h : Effect service done after) :
    after.keys = if done.isClear then [] else service.keys ++ done.built?.toList := by
  cases h with
  | unnamed channel =>
    rw [built?_of_quiet quiet_nil]
    exact (List.append_nil _).symm
  | kept hne h hasked _ =>
    rw [keys_keep_of_mem (mem_keys_iff.2 (Option.isSome_of_eq_some h)), built?_of_quiet hasked]
    exact (List.append_nil _).symm
  | failed hne _ hattempt =>
    rw [built?_of_attempt hne hattempt quiet_nil (List.append_nil _).symm]
    exact (List.append_nil _).symm
  | built hne h hattempt hrest _ =>
    rw [keys_keep_of_not_mem h, built?_of_attempt hne hattempt hrest rfl]
    rfl
  | eventSource _ => exact (List.append_nil _).symm
  | clear => rfl
  | change => exact (List.append_nil _).symm

/-- A chooser is asked for with every resolver that is built, and only then. -/
theorem choosers_eq (h : Effect service done after) :
    done.transcript.countP Question.isChooser = done.built?.toList.length := by
  cases h with
  | unnamed channel =>
    rw [built?_of_quiet quiet_nil]
    rfl
  | kept hne _ hasked _ =>
    rw [built?_of_quiet hasked]
    exact countP_isChooser_of_quiet hasked
  | failed hne _ hattempt =>
    rw [built?_of_attempt hne hattempt quiet_nil (List.append_nil _).symm]
    exact hattempt.countP_isChooser
  | built hne h hattempt hrest _ =>
    rw [built?_of_attempt hne hattempt hrest rfl, Done.transcript, List.countP_append,
      hattempt.countP_isChooser, countP_isChooser_of_quiet hrest]
    rfl
  | eventSource hasked => exact countP_isChooser_of_quiet hasked
  | clear => rfl
  | change => rfl

end Effect

/-! ## Runs -/

variable [LawfulMonad m] (x : Setting m ρ) (s : σ)

theorem keys_after (calls : List (Call σ)) :
    (x.after ⟨{}, s⟩ calls).service.keys = builtSince (x.trail ⟨{}, s⟩ calls) := by
  induction calls using List.reverseRecOn with
  | nil => rfl
  | append_singleton calls call ih =>
    rw [Setting.after_concat, Setting.trail_concat, builtSince_concat, ← ih]
    exact (effect_perform x _ call).keys_eq

theorem choosers_trail (u : InUse σ ρ) (calls : List (Call σ)) :
    ((x.trail u calls).flatMap Done.transcript).countP Question.isChooser =
      ((x.trail u calls).filterMap Done.built?).length := by
  induction calls generalizing u with
  | nil => rfl
  | cons call rest ih =>
    rw [Setting.trail, List.flatMap_cons, List.countP_append, ih,
      (effect_perform x u call).choosers_eq, List.filterMap_cons]
    cases (x.perform u call).1.built? with
    | none => exact Nat.zero_add _
    | some key => exact Nat.add_comm _ _

/-- Of a new service, after any calls, the resolvers kept are those that were
    built since all were dropped, each once, and choosers were asked for as often
    as resolvers were built. From there on a key that is kept is not built again;
    any other is looked up in order, up to the first failure, and kept if there
    is none. -/
theorem resolvers_built_once (calls : List (Call σ)) :
    let u := x.after ⟨{}, s⟩ calls
    let trail := x.trail ⟨{}, s⟩ calls
    u.service.keys = builtSince trail ∧ (builtSince trail).Nodup ∧
      u.service.resolverCount = (builtSince trail).length ∧
      (trail.flatMap Done.transcript).countP Question.isChooser =
        (trail.filterMap Done.built?).length ∧
      (∀ call, Effect u.service (x.perform u call).1 (x.perform u call).2.service) ∧
      ∀ channel chaincodes, (Key.ofRequest channel chaincodes).chaincodes.Perm chaincodes ∧
        (Key.ofRequest channel chaincodes).chaincodes.Pairwise (· ≤ ·) := by
  have hkeys := keys_after x s calls
  refine ⟨hkeys, hkeys ▸ Table.nodup _, ?_, choosers_trail x _ calls, effect_perform x _,
    fun channel chaincodes => ⟨List.mergeSort_perm _ _, pairwise_ofRequest channel chaincodes⟩⟩
  rw [← hkeys, keys, Table.keys, List.length_map]
  rfl

/-- Collaborators that have the data of chaincodes only while they are up. -/
def switched : Collaborators (StateT Bool Logged) where
  chaincode channel chaincode := do
    if ← get then return .ok ⟨chaincode, "1", Wire.encode bothSign⟩
    else return .error (.chaincodeQuery channel chaincode "down")
  membership _ := return twoPeers
  draw := return 0

set_option maxRecDepth 1024 in
/-- Once they are up, one resolver is built for two requests that name its chaincodes in
    different orders. -/
theorem built_once_up :
    let x : Setting (StateT Bool Logged) Position :=
      ⟨switched, Balance.roundRobin.balancer (pure 0), {}⟩
    let calls := [.endorsers "channel" ["b", "a"], .change fun _ => (true, ()),
      .endorsers "channel" ["b", "a"], .endorsers "channel" ["a", "b"]]
    (x.after ⟨{}, (false, ())⟩ calls).service.resolverCount = 1 ∧
      ((x.trail ⟨{}, (false, ())⟩ calls).flatMap Done.transcript).countP Question.isChooser = 1 := by
  intro x calls
  obtain ⟨-, -, hcount, hchoosers, -⟩ := resolvers_built_once x (false, ()) calls
  have hsince : builtSince (x.trail ⟨{}, (false, ())⟩ calls) = [⟨"channel", ["a", "b"]⟩] := by
    cbv
  have hbuilt : (x.trail ⟨{}, (false, ())⟩ calls).filterMap Done.built? =
      [⟨"channel", ["a", "b"]⟩] := by
    cbv
  exact ⟨hcount.trans (congrArg List.length hsince), hchoosers.trans (congrArg List.length hbuilt)⟩

end Endorsement.Selection.Service
