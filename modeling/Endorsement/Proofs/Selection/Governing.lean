import Endorsement.Proofs.Selection.Run
import Mathlib

/-!
# Which policies govern a selection

Two caches stand between a request and the chaincode provider: the policies that
were fetched, and the resolvers that were built from them. What was done to a
context in the past says which policies govern a request. For a key whose
resolver was built since all were dropped they are those it was built from. For
any other key they are the current ones: what was fetched for a chaincode since
it was last forgotten, and what the provider answers now where nothing was.

To forget the chaincodes of a key and then drop the resolvers is thus not always
enough for it to be governed by what the provider answers now: a request for
another key may have fetched one of them again in between.

* `fetched?`, `currentPolicies`, `built?`, `governing`: the policies, read off
  the past;
* `UpToDate`, `currentPolicies_eq_iff`: when the current ones are the provider's;
* `System.selection`: what a resolver built from scratch chooses;
* `System.Governed`, `System.governed_after`: what the caches hold, at any time;
* `System.policies_govern`: requests are answered as from scratch;
* `System.refetched_policy_outlives_invalidation`: a replaced policy that still
  governs.
-/

namespace Endorsement.Selection

/-! ## Policies read off the past -/

/-- The policy that an answer of the provider brought, if it did. -/
def Asked.policy? (channel chaincode : String) : Asked → Option (List UInt8)
  | .chaincode channel' chaincode' (.ok data) =>
    if (channel', chaincode') = (channel, chaincode) then some data.policy else none
  | _ => none

/-- Whether an edit makes a chaincode forgotten. -/
def Edit.forgets (channel chaincode : String) : Edit → Bool
  | .invalidateChaincode channel' chaincode' => (channel', chaincode') = (channel, chaincode)
  | .clearChaincodes => true
  | _ => false

/-- Whether an edit drops all resolvers. -/
def Edit.drops : Edit → Bool
  | .clearResolvers => true
  | _ => false

/-- The key of a request for endorsers. -/
def Request.key? : Request → Option Key
  | .endorsers channel chaincodes => some (Key.ofRequest channel chaincodes)
  | _ => none

/-- The policy of a chaincode as the provider answers it. -/
def Outside.policy (outside : Outside) (channel chaincode : String) :
    Except Failure (List UInt8) :=
  (outside.chaincode channel chaincode).map Chaincode.policy

/-- The policy fetched last in the course of something, if there is one. -/
def lastFetched? (channel chaincode : String) (asked : List Asked) : Option (List UInt8) :=
  asked.findSome? (Asked.policy? channel chaincode)

/-- The policy of a chaincode that was fetched since it was last forgotten. -/
def fetched? (channel chaincode : String) : List Record → Option (List UInt8)
  | [] => none
  | .edit e :: past =>
    if e.forgets channel chaincode then none else fetched? channel chaincode past
  | .request _ _ _ asked :: past =>
    (lastFetched? channel chaincode asked).or (fetched? channel chaincode past)

/-- What was fetched for a chaincode, or else what the provider answers now. -/
def currentPolicy (past : List Record) (outside : Outside) (channel chaincode : String) :
    Except Failure (List UInt8) :=
  match fetched? channel chaincode past with
  | some policy => .ok policy
  | none => outside.policy channel chaincode

/-- The same for all chaincodes of a key. -/
def currentPolicies (past : List Record) (outside : Outside) (key : Key) :
    List (Except Failure (List UInt8)) :=
  key.chaincodes.map (currentPolicy past outside key.channel)

/-- What was fetched for a chaincode, if anything, is what the provider answers now. -/
def UpToDate (past : List Record) (outside : Outside) (channel chaincode : String) : Prop :=
  ∀ policy, fetched? channel chaincode past = some policy →
    outside.policy channel chaincode = .ok policy

/-- The policies that the resolver of a key was built from, if it was built since
    all were dropped: the current ones at the first request of which a resolver
    can be built. -/
def built? (key : Key) : List Record → Option (List (Except Failure (List UInt8)))
  | [] => none
  | .edit e :: past => if e.drops then none else built? key past
  | .request r _ outside _ :: past =>
    (built? key past).or
      (if r.key? = some key ∧ (builtFrom (currentPolicies past outside key)).isOk then
        some (currentPolicies past outside key)
      else none)

/-- The policies that govern a request. -/
def governing (past : List Record) (outside : Outside) (key : Key) :
    List (Except Failure (List UInt8)) :=
  (built? key past).getD (currentPolicies past outside key)

theorem currentPolicy_eq_iff {past : List Record} {outside : Outside} {channel chaincode : String} :
    currentPolicy past outside channel chaincode = outside.policy channel chaincode ↔
      UpToDate past outside channel chaincode := by
  rw [currentPolicy, UpToDate]
  cases fetched? channel chaincode past with
  | none => exact ⟨fun _ _ hnone => absurd hnone (Option.some_ne_none _).symm, fun _ => rfl⟩
  | some policy =>
    refine ⟨fun h _ hsome => ?_, fun h => (h policy rfl).symm⟩
    rw [← Option.some.inj hsome]
    exact h.symm

/-- The current policies are those of the provider iff nothing else was fetched. -/
theorem currentPolicies_eq_iff {past : List Record} {outside : Outside} {key : Key} :
    currentPolicies past outside key = key.chaincodes.map (outside.policy key.channel) ↔
      ∀ c ∈ key.chaincodes, UpToDate past outside key.channel c := by
  rw [currentPolicies, List.map_inj_left]
  exact forall₂_congr fun _ _ => currentPolicy_eq_iff

/-- Only policies of which a resolver can be built were built from. -/
theorem isOk_of_built? {key : Key} {past : List Record}
    {policies : List (Except Failure (List UInt8))} (h : built? key past = some policies) :
    ∃ alternatives, builtFrom policies = .ok alternatives := by
  induction past with
  | nil => cases h
  | cons r past ih =>
    obtain ⟨r, register, outside, asked⟩ | e := r
    · rw [built?, Option.or_eq_some_iff] at h
      rcases h with h | ⟨-, h⟩
      · exact ih h
      · split at h
        · rename_i hbuilt
          obtain rfl := Option.some.inj h
          cases hok : builtFrom (currentPolicies past outside key) with
          | ok alternatives => exact ⟨alternatives, rfl⟩
          | error failure =>
            rw [hok] at hbuilt
            cases hbuilt.2
        · cases h
    · rw [built?] at h
      split at h
      · cases h
      · exact ih h

/-! ## What the caches hold -/

/-- The policy that is held for a chaincode: the remembered one, or else the one
    that the provider answers. -/
def held (s : Scene) (channel chaincode : String) : Except Failure (List UInt8) :=
  match s.1.chaincodes.find? (channel, chaincode) with
  | some data => .ok data.policy
  | none => s.2.1.outside.policy channel chaincode

/-- The chaincodes remembered are those fetched, in the past and in the course of
    a request. -/
def FetchedIn (past : List Record) (s : Scene) : Prop :=
  ∀ channel chaincode,
    (s.1.chaincodes.find? (channel, chaincode)).map Chaincode.policy =
      (lastFetched? channel chaincode s.2.1.asked).or (fetched? channel chaincode past)

theorem policy?_answer (world : World) (cell : MembershipCache.Cell) (channel chaincode : String) :
    (world.answer cell).policy? channel chaincode = none := by
  cases cell <;> rfl

variable {config : Config} {allowed : String → String → Prop}

theorem map_find?_remember (channel chaincode channel' chaincode' : String)
    (answer : Except Failure Chaincode) (cache : ChaincodeCache) :
    ((remember channel chaincode answer cache).find? (channel', chaincode')).map Chaincode.policy =
      ((Asked.chaincode channel chaincode answer).policy? channel' chaincode').or
        ((cache.find? (channel', chaincode')).map Chaincode.policy) := by
  cases answer with
  | error failure => rfl
  | ok data =>
    rw [remember, Table.find?_insert, Asked.policy?]
    split <;> rfl

/-- Whatever happens in the course of a request, what is remembered is what was
    fetched: an answer is remembered as it is written down, and a failure is not. -/
theorem stable_fetchedIn (past : List Record) : Stable config allowed (FetchedIn past) := by
  intro s t hmove hs channel' chaincode'
  cases hmove with
  | look stores world cell snapshot h => exact hs channel' chaincode'
  | load stores world cell h =>
    change _ = ((List.findSome? _ (world.answer cell :: world.asked))).or _
    rw [List.findSome?_cons, policy?_answer]
    exact hs channel' chaincode'
  | fetch stores world channel chaincode hallowed h =>
    have hasked := hs channel' chaincode'
    change _ = ((List.findSome? _ (_ :: world.asked))).or _
    rw [map_find?_remember, hasked, List.findSome?_cons]
    cases (Asked.chaincode channel chaincode (world.outside.chaincode channel chaincode)).policy?
      channel' chaincode' <;> rfl
  | draw stores world => exact hs channel' chaincode'

/-! ## Building resolvers -/

/-- What is seen of a scene apart from chaincodes and from what was asked. -/
def seen (s : Scene) : Stores × World :=
  ({ s.1 with chaincodes := .empty }, { s.2.1 with asked := [] })

/-- To remember what the provider answers makes no difference to what is held. -/
theorem held_remember {stores : Stores} {world : World} {channel chaincode : String}
    (h : stores.chaincodes.find? (channel, chaincode) = none) (channel' chaincode' : String) :
    held ({ stores with
        chaincodes := remember channel chaincode (world.outside.chaincode channel chaincode)
          stores.chaincodes },
        world.note (.chaincode channel chaincode (world.outside.chaincode channel chaincode)), ())
        channel' chaincode' =
      held (stores, world, ()) channel' chaincode' := by
  cases hdata : world.outside.chaincode channel chaincode with
  | error failure => rfl
  | ok data =>
    by_cases hkey : (channel, chaincode) = (channel', chaincode')
    · obtain ⟨rfl, rfl⟩ := Prod.mk.inj hkey
      simp only [held, remember, Table.find?_insert, if_pos, h, Outside.policy, hdata]
      rfl
    · simp only [held, remember, Table.find?_insert, if_neg hkey]
      rfl

/-- The same policies are held, and nothing else changed but what was asked. -/
def Alike (s t : Scene) : Prop :=
  held t = held s ∧ seen t = seen s

/-- Looking up a chaincode answers the policy that is held for it. -/
theorem follows_chaincode (config : Config) (s : Scene) (channel chaincode : String) :
    Follows (Alike s) (fun _ => False) (fun data bytes => data.policy = bytes)
      (ExceptT.mk ((collaborators config).chaincode channel chaincode))
      (held s channel chaincode) := by
  change Answers _ ((collaborators config).chaincode channel chaincode) _
  rintro ⟨stores, world, ⟨⟩⟩ ⟨hheld, hseen⟩
  cases hfind : stores.chaincodes.find? (channel, chaincode) with
  | some data =>
    rw [run_chaincode_kept hfind]
    refine ⟨⟨data.policy, ?_, rfl⟩, hheld, hseen⟩
    rw [← hheld]
    simp only [held, hfind]
  | none =>
    rw [run_chaincode_fetched hfind]
    refine ⟨?_, ?_, hseen⟩
    · rw [← hheld]
      simp only [held, hfind, Outside.policy]
      cases world.outside.chaincode channel chaincode with
      | ok data => exact ⟨data.policy, rfl, rfl⟩
      | error failure => exact .inr rfl
    · funext channel' chaincode'
      rw [held_remember hfind, hheld]

/-- A resolver is built from the policies that are held. -/
theorem run_build (config : Config) (key : Key) (s : Scene) :
    ∃ s', seen s' = seen s ∧
      Runs.run (Service.build (collaborators config)
        (config.balance.balancer (collaborators config).draw) key).run s =
        (match builtFrom (key.chaincodes.map (held s key.channel)) with
          | .ok alternatives => .ok ⟨alternatives, none⟩
          | .error failure => .error failure, s') := by
  have hfresh : Answers (Alike s) (config.balance.balancer (collaborators config).draw).fresh
      (· = none) := .pure rfl
  have hfollows := Service.follows_build
    (fun c (_ : c ∈ key.chaincodes) => follows_chaincode config s key.channel c) hfresh
  obtain ⟨hended, -, hseen⟩ := hfollows s ⟨rfl, rfl⟩
  refine ⟨_, hseen, Prod.ext ?_ rfl⟩
  cases hresult : (Runs.run (Service.build (collaborators config)
      (config.balance.balancer (collaborators config).draw) key).run s).1 with
  | ok resolver =>
    rw [hresult] at hended
    obtain ⟨_, hbuilt, rfl, hchooser⟩ := hended
    rw [hbuilt, ← hchooser]
  | error failure =>
    rw [hresult] at hended
    rw [hended.resolve_left id]

/-! ## Using resolvers -/

theorem sees_membership (channel : String) :
    Sees seen ((collaborators config).membership channel) := by
  rintro ⟨⟨register, membership, chaincodes⟩, ⟨outside, readings, draws, asked⟩, ⟨⟩⟩
    ⟨⟨register', membership', chaincodes'⟩, ⟨outside', readings', draws', asked'⟩, ⟨⟩⟩ h
  simp only [seen, Prod.mk.injEq, Stores.mk.injEq, World.mk.injEq, and_true] at h
  obtain ⟨⟨rfl, rfl⟩, rfl, rfl, rfl⟩ := h
  cases hfresh : (membership.stored (.channel channel)).fresh? config.lifetime (readings 0) with
  | some snapshot =>
    rw [run_membership_fresh hfresh, run_membership_fresh hfresh]
    exact ⟨rfl, rfl⟩
  | none =>
    rw [run_membership_load hfresh, run_membership_load hfresh]
    exact ⟨rfl, rfl⟩

theorem sees_draw : Sees seen (collaborators config).draw := by
  rintro ⟨stores, ⟨outside, readings, draws, asked⟩, ⟨⟩⟩
    ⟨stores', ⟨outside', readings', draws', asked'⟩, ⟨⟩⟩ h
  rw [run_draw, run_draw]
  simp only [seen, Prod.mk.injEq, World.mk.injEq, and_true] at h
  obtain ⟨hstores, rfl, rfl, rfl⟩ := h
  exact ⟨rfl, Prod.ext hstores rfl⟩

/-- Using a resolver depends neither on the chaincodes remembered, nor on what was
    asked. -/
theorem sees_use (key : Key) (resolver : Resolver Position) :
    Sees seen (Service.use (collaborators config)
      (config.balance.balancer (collaborators config).draw) key resolver) :=
  .use sees_membership (fun found last => .choose sees_draw config.balance found last) key resolver

namespace System

/-! ## Requests -/

/-- The policies that govern the next request for a key. -/
def governing (x : System) (key : Key) : List (Except Failure (List UInt8)) :=
  Selection.governing x.past x.world.outside key

/-- The state of the chooser for a key; a new one if there is none. -/
def chooser (x : System) (key : Key) : Position :=
  (x.context.service.resolvers.find? key).bind Resolver.chooser

/-- What the caches hold is what the past says. -/
structure Governed (x : System) : Prop where
  chaincodes (channel chaincode : String) :
    (x.context.stores.chaincodes.find? (channel, chaincode)).map Chaincode.policy =
      fetched? channel chaincode x.past
  resolvers (key : Key) :
    (x.context.service.resolvers.find? key).map Resolver.alternatives =
      (built? key x.past).bind fun policies => (builtFrom policies).toOption

namespace Governed

variable {x : System} {key : Key}

theorem held_scene (h : x.Governed) (channel chaincode : String) :
    held x.scene channel chaincode = currentPolicy x.past x.world.outside channel chaincode := by
  rw [currentPolicy, ← h.chaincodes, held]
  change (match x.context.stores.chaincodes.find? (channel, chaincode) with
    | some data => _ | none => _) = _
  cases x.context.stores.chaincodes.find? (channel, chaincode) <;> rfl

/-- A resolver that is kept was built from the policies that govern. -/
theorem builtFrom_kept (h : x.Governed) {resolver : Resolver Position}
    (hfind : x.context.service.resolvers.find? key = some resolver) :
    built? key x.past = some (x.governing key) ∧
      builtFrom (x.governing key) = .ok resolver.alternatives := by
  have hresolver := h.resolvers key
  rw [hfind] at hresolver
  obtain ⟨policies, hbuilt, hok⟩ := Option.bind_eq_some_iff.1 hresolver.symm
  have hgoverning : x.governing key = policies := by
    rw [System.governing, Selection.governing, hbuilt, Option.getD_some]
  rw [hgoverning]
  refine ⟨hbuilt, ?_⟩
  cases hpolicies : builtFrom policies with
  | ok alternatives =>
    rw [hpolicies] at hok
    rw [Option.some.inj hok]
  | error failure =>
    rw [hpolicies] at hok
    cases hok

/-- Where no resolver is kept, the current policies govern, which are held. -/
theorem governing_of_none (h : x.Governed)
    (hfind : x.context.service.resolvers.find? key = none) :
    built? key x.past = none ∧
      x.governing key = currentPolicies x.past x.world.outside key ∧
      x.governing key = key.chaincodes.map (held x.scene key.channel) := by
  have hbuilt : built? key x.past = none := by
    have hresolver := h.resolvers key
    rw [hfind] at hresolver
    cases hbuilt : built? key x.past with
    | none => rfl
    | some policies =>
      obtain ⟨alternatives, hok⟩ := isOk_of_built? hbuilt
      rw [hbuilt, Option.bind_some, hok] at hresolver
      cases hresolver
  have hgoverning : x.governing key = currentPolicies x.past x.world.outside key := by
    rw [System.governing, Selection.governing, hbuilt, Option.getD_none]
  refine ⟨hbuilt, hgoverning, ?_⟩
  rw [hgoverning, currentPolicies]
  exact List.map_congr_left fun c _ => (h.held_scene key.channel c).symm

end Governed

/-- What a request for endorsers leads to: no resolver can be built from the
    policies that govern, or one that is is used. -/
theorem run_endorsers_cases (config : Config) {x : System} (h : x.Governed) {channel : String}
    {chaincodes : List String} (hne : chaincodes ≠ []) :
    let key := Key.ofRequest channel chaincodes
    (∃ (failure : Failure) (s : Scene), builtFrom (x.governing key) = .error failure ∧
      x.context.service.resolvers.find? key = none ∧
      x.run config (.endorsers channel chaincodes) =
        (.endorsers (.error (unavailable key failure)), { x.context with stores := s.1 }, s.2)) ∨
    ∃ (resolver : Resolver Position) (s : Scene),
      builtFrom (x.governing key) = .ok resolver.alternatives ∧
      resolver.chooser = x.chooser key ∧ seen s = seen x.scene ∧
      x.run config (.endorsers channel chaincodes) =
        let r := Runs.run (Service.use (collaborators config)
          (config.balance.balancer (collaborators config).draw) key resolver) s
        (.endorsers r.1.1,
          { x.context with service := x.context.service.keep key r.1.2, stores := r.2.1 },
          r.2.2) := by
  intro key
  rw [run_endorsers]
  cases hfind : x.context.service.resolvers.find? key with
  | some resolver =>
    refine .inr ⟨resolver, x.scene, (h.builtFrom_kept hfind).2, ?_, rfl, ?_⟩
    · rw [chooser, hfind, Option.bind_some]
    · rw [Service.run_endorsers_kept hne hfind]
  | none =>
    obtain ⟨-, -, hgoverning⟩ := h.governing_of_none hfind
    obtain ⟨s, hseen, hbuild⟩ := run_build config key x.scene
    rw [← hgoverning] at hbuild
    cases hbuilt : builtFrom (x.governing key) with
    | error failure =>
      rw [hbuilt] at hbuild
      refine .inl ⟨failure, s, rfl, rfl, ?_⟩
      rw [Service.run_endorsers_failed hne hfind hbuild]
    | ok alternatives =>
      rw [hbuilt] at hbuild
      refine .inr ⟨⟨alternatives, none⟩, s, rfl, ?_, hseen, ?_⟩
      · rw [chooser, hfind, Option.bind_none]
      · rw [Service.run_endorsers_built hne hfind hbuild]

/-- The candidates that a resolver with the given alternatives offers, built from
    scratch and asked now, after the channel was found to be of use; and what is
    left then. -/
def offered (config : Config) (x : System) (channel : String) (alternatives : List Group) :
    List Candidate × Scene :=
  Runs.run (Resolver.candidates (Service.peersOfMsp (collaborators config) channel) alternatives)
    (Runs.run ((collaborators config).membership channel) x.scene).2

/-- What is chosen for a key by a resolver built from scratch from the policies
    that govern. -/
def selection (config : Config) (x : System) (key : Key) : Except Failure (List Peer) :=
  match builtFrom (x.governing key) with
  | .error failure => .error (unavailable key failure)
  | .ok alternatives =>
    let found := x.offered config key.channel alternatives
    match Service.hardFailure? (Runs.run ((collaborators config).membership key.channel) x.scene).1
      with
    | some failure => .error (unavailable key failure)
    | none =>
      .ok (Runs.run ((config.balance.balancer (collaborators config).draw).choose found.1
        (x.chooser key)) found.2).1.1

/-- A request is answered with what a resolver built from scratch chooses, whether one
    is kept or not. -/
theorem outcome_endorsers (config : Config) {x : System} (h : x.Governed) (channel : String)
    (chaincodes : List String) : (x.run config (.endorsers channel chaincodes)).1 =
      .endorsers (if chaincodes = [] then .error .noChaincodes
        else x.selection config (Key.ofRequest channel chaincodes)) := by
  by_cases hne : chaincodes = []
  · subst hne
    rw [run_endorsers_nil, if_pos rfl]
  · rw [if_neg hne, selection]
    rcases run_endorsers_cases config h hne with
      ⟨failure, s, hbuilt, -, hrun⟩ | ⟨⟨alternatives, chooser⟩, s, hbuilt, hchooser, hseen, hrun⟩
    · rw [hrun, hbuilt]
    · rw [hrun, hbuilt]
      change Outcome.endorsers (Runs.run (Service.use _ _ _ _) s).1.1 = _
      rw [(sees_use _ _ s x.scene hseen).1, Service.value_use, ← hchooser]
      rfl

/-! ## What the past says -/

theorem find?_chaincodes (e : Edit) (cache : ChaincodeCache) (channel chaincode : String) :
    (e.chaincodes cache).find? (channel, chaincode) =
      if e.forgets channel chaincode then none else cache.find? (channel, chaincode) := by
  cases e with
  | invalidateChaincode channel' chaincode' =>
    simp [Edit.chaincodes, ChaincodeCache.invalidate, Table.find?_erase, Edit.forgets]
  | _ => rfl

theorem service_eq (e : Edit) (service : Service Position) :
    e.service service = if e.drops then {} else service := by
  cases e <;> rfl

/-- Nothing can be built for no chaincodes. -/
theorem not_isOk_of_nil {past : List Record} {outside : Outside} {channel : String} :
    ¬(builtFrom (currentPolicies past outside (Key.ofRequest channel []))).isOk = true := by
  have hnil : currentPolicies past outside (Key.ofRequest channel []) = [] := by
    simp [currentPolicies, Key.ofRequest]
  rw [hnil]
  exact Bool.false_ne_true

section Built

variable {x : System} {key : Key} {r : Request} {register : Identity.Register} {asked : List Asked}

/-- A request for a key whose resolver can be built leaves it built from the
    policies that governed it. -/
theorem built?_of_ok {alternatives : List Group} (hkey : r.key? = some key)
    (hok : builtFrom (x.governing key) = .ok alternatives) :
    built? key (.request r register x.world.outside asked :: x.past) = some (x.governing key) := by
  rw [built?]
  cases hbuilt : built? key x.past with
  | some policies => rw [governing, Selection.governing, hbuilt]; rfl
  | none =>
    have hgoverning : x.governing key = currentPolicies x.past x.world.outside key := by
      rw [governing, Selection.governing, hbuilt, Option.getD_none]
    rw [hgoverning] at hok ⊢
    rw [Option.none_or, if_pos ⟨hkey, by rw [hok]; rfl⟩]

/-- Otherwise none is built. -/
theorem built?_of_error {failure : Failure}
    (hpolicies : x.governing key = currentPolicies x.past x.world.outside key)
    (herror : builtFrom (x.governing key) = .error failure) :
    built? key (.request r register x.world.outside asked :: x.past) = built? key x.past := by
  rw [built?, if_neg, Option.or_none]
  rw [← hpolicies, herror]
  exact fun h => Bool.false_ne_true h.2

theorem built?_of_ne (hkey : r.key? ≠ some key) :
    built? key (.request r register x.world.outside asked :: x.past) = built? key x.past := by
  rw [built?, if_neg fun h => hkey h.1, Option.or_none]

end Built

/-! ## What the caches hold, at any time -/

namespace Governed

variable {x : System}

/-- What an edit makes forgotten or drops is also taken from what the past says. -/
theorem edit (h : x.Governed) (e : Edit) : (x.step config (.edit e)).Governed where
  chaincodes channel chaincode := by
    change ((e.left x.context).stores.chaincodes.find? _).map _ = _
    rw [e.chaincodes_left, find?_chaincodes, System.step, fetched?, ← h.chaincodes]
    split <;> rfl
  resolvers key := by
    change ((e.left x.context).service.resolvers.find? key).map _ = _
    rw [e.service_left, service_eq, System.step, built?]
    split
    · rfl
    · exact h.resolvers key

theorem chaincodes_request (h : x.Governed) (r : Request) (channel chaincode : String) :
    ((x.step config (.request r)).context.stores.chaincodes.find? (channel, chaincode)).map
        Chaincode.policy =
      fetched? channel chaincode (x.step config (.request r)).past := by
  have hscene : FetchedIn x.past x.scene := h.chaincodes
  exact (stable_fetchedIn x.past).request hscene channel chaincode

/-- A request leaves the resolvers of other keys alone. -/
theorem find?_run (h : x.Governed) {r : Request} {key : Key} (hkey : r.key? ≠ some key) :
    (x.run config r).2.1.service.resolvers.find? key = x.context.service.resolvers.find? key := by
  by_cases hr : ∃ channel chaincodes, r = .endorsers channel chaincodes
  · obtain ⟨channel, chaincodes, rfl⟩ := hr
    by_cases hne : chaincodes = []
    · rw [hne, run_endorsers_nil]
    · rcases run_endorsers_cases config h hne with
        ⟨failure, s, -, -, hrun⟩ | ⟨resolver, s, -, -, -, hrun⟩
      · rw [hrun]
      · rw [hrun]
        exact (Service.find?_keep _ _ _).trans (if_neg fun heq => hkey (congrArg some heq))
  · rw [service_run x fun channel chaincodes heq => hr ⟨channel, chaincodes, heq⟩]

/-- For its own key, a request leaves a resolver iff one can be built from the
    policies that govern. -/
theorem resolvers_endorsers (h : x.Governed) {channel : String} {chaincodes : List String}
    (hne : chaincodes ≠ []) :
    let key := Key.ofRequest channel chaincodes
    ((x.step config (.request (.endorsers channel chaincodes))).context.service.resolvers.find?
        key).map Resolver.alternatives =
      (built? key (x.step config (.request (.endorsers channel chaincodes))).past).bind
        fun policies => (builtFrom policies).toOption := by
  intro key
  change ((x.run config _).2.1.service.resolvers.find? key).map _ =
    (built? key (.request _ _ x.world.outside _ :: x.past)).bind _
  rcases run_endorsers_cases config h hne with
    ⟨failure, s, herror, hfind, hrun⟩ | ⟨resolver, s, hok, -, -, hrun⟩
  · obtain ⟨-, hpolicies, -⟩ := h.governing_of_none hfind
    rw [hrun, built?_of_error hpolicies herror]
    exact h.resolvers key
  · rw [hrun, built?_of_ok rfl hok, Option.bind_some, hok]
    change ((Service.keep _ _ _).resolvers.find? key).map _ = _
    rw [Service.find?_keep, if_pos rfl, Option.map_some, Service.alternatives_use]
    rfl

/-- A request leaves the caches as the past says, for its own key and for any other. -/
theorem request (h : x.Governed) (r : Request) : (x.step config (.request r)).Governed where
  chaincodes := h.chaincodes_request r
  resolvers key := by
    by_cases hkey : r.key? = some key
    · cases r with
      | endorsers channel chaincodes =>
        obtain rfl : Key.ofRequest channel chaincodes = key := Option.some.inj hkey
        by_cases hne : chaincodes = []
        · -- No resolver is built for no chaincodes.
          subst hne
          change ((x.run config _).2.1.service.resolvers.find? _).map _ =
            (built? _ (.request _ _ x.world.outside _ :: x.past)).bind _
          rw [run_endorsers_nil, built?, if_neg fun hok => not_isOk_of_nil hok.2, Option.or_none]
          exact h.resolvers _
        · exact h.resolvers_endorsers hne
      | _ => cases hkey
    · change ((x.run config r).2.1.service.resolvers.find? key).map _ =
        (built? key (.request r _ x.world.outside _ :: x.past)).bind _
      rw [h.find?_run hkey, built?_of_ne hkey]
      exact h.resolvers key

end Governed

/-- The caches hold what the past says after any operations. -/
theorem governed_after (config : Config) (world : World) (ops : List Op) :
    (after config world ops).Governed := by
  induction ops using List.reverseRecOn with
  | nil => exact ⟨fun _ _ => rfl, fun _ => rfl⟩
  | append_singleton ops op ih =>
    rw [after_append]
    cases op with
    | request r => exact ih.request r
    | edit e => exact ih.edit e

/-! ## Policies of the moment -/

/-- The policy held for a chaincode is the one given, and so is the one that the
    provider answers. -/
def Obeys (channel chaincode : String) (policy : Except Failure (List UInt8)) (x : System) : Prop :=
  held x.scene channel chaincode = policy ∧ x.world.outside.policy channel chaincode = policy

section Obeys

variable {x : System} {channel chaincode : String} {policy : Except Failure (List UInt8)}

theorem obeys_of_find? (hpolicy : x.world.outside.policy channel chaincode = policy)
    (hfind : ∀ data, x.context.stores.chaincodes.find? (channel, chaincode) = some data →
      .ok data.policy = policy) : x.Obeys channel chaincode policy := by
  refine ⟨?_, hpolicy⟩
  rw [held]
  split
  · rename_i data hdata
    exact hfind data hdata
  · exact hpolicy

theorem Obeys.of_find? (h : x.Obeys channel chaincode policy) {data : Chaincode}
    (hfind : x.context.stores.chaincodes.find? (channel, chaincode) = some data) :
    .ok data.policy = policy := by
  rw [← h.1, held]
  change _ = match x.context.stores.chaincodes.find? _ with | some data => _ | none => _
  rw [hfind]

theorem Obeys.request (h : x.Obeys channel chaincode policy) (r : Request) :
    (x.step config (.request r)).Obeys channel chaincode policy := by
  have hstable : Stable config r.Names fun s =>
      held s channel chaincode = policy ∧ s.2.1.outside.policy channel chaincode = policy := by
    intro s t hmove hs
    cases hmove with
    | fetch stores world channel' chaincode' hallowed hfind =>
      exact ⟨(held_remember hfind channel chaincode).trans hs.1, hs.2⟩
    | _ => exact hs
  exact hstable.request h

theorem Obeys.edit (h : x.Obeys channel chaincode policy) {e : Edit}
    (hchange : ∀ outside, e = .change outside → outside.policy channel chaincode = policy) :
    (x.step config (.edit e)).Obeys channel chaincode policy := by
  have houtside : (e.outside x.world.outside).policy channel chaincode = policy := by
    cases e with
    | change outside => exact hchange outside rfl
    | _ => exact h.2
  refine obeys_of_find? houtside fun data hfind => ?_
  change (e.left x.context).stores.chaincodes.find? _ = _ at hfind
  rw [e.chaincodes_left, find?_chaincodes] at hfind
  split at hfind
  · cases hfind
  · exact h.of_find? hfind

/-- A chaincode that is not named stays forgotten. -/
theorem find?_step_eq_none (h : x.context.stores.chaincodes.find? (channel, chaincode) = none)
    {op : Op} (hop : ∀ r, op = .request r → ¬r.Names channel chaincode) :
    (x.step config op).context.stores.chaincodes.find? (channel, chaincode) = none := by
  cases op with
  | edit e =>
    change (e.left x.context).stores.chaincodes.find? _ = _
    rw [e.chaincodes_left, find?_chaincodes, h, ite_self]
  | request r =>
    have hstable : Stable config r.Names fun s =>
        s.1.chaincodes.find? (channel, chaincode) = none := by
      intro s t hmove hs
      cases hmove with
      | fetch stores world channel' chaincode' hallowed hfind =>
        change (remember _ _ _ stores.chaincodes).find? _ = _
        cases world.outside.chaincode channel' chaincode' with
        | error failure => exact hs
        | ok data =>
          rw [remember, Table.find?_insert, if_neg]
          · exact hs
          · intro heq
            obtain ⟨rfl, rfl⟩ := Prod.mk.inj heq
            exact hop r rfl hallowed
      | _ => exact hs
    exact hstable.request h

end Obeys

/-! ## What governs after a while -/

section After

variable {world : World} {ops : List Op} {key : Key} {channel chaincode : String}

/-- A chaincode was forgotten, and since then it was not named by a request, or its
    policy stayed the same at the provider. -/
def Renewed (config : Config) (world : World) (ops : List Op) (channel chaincode : String) : Prop :=
  ∃ first e rest, ops = first ++ .edit e :: rest ∧ e.forgets channel chaincode = true ∧
    ((∀ r, .request r ∈ rest → ¬r.Names channel chaincode) ∨
      ∀ outside, .edit (.change outside) ∈ rest → outside.policy channel chaincode =
        (after config world first).world.outside.policy channel chaincode)

/-- The resolvers were dropped, and no request was made for a key since. -/
def Dropped (key : Key) (ops : List Op) : Prop :=
  ∃ first rest, ops = first ++ .edit .clearResolvers :: rest ∧
    ∀ r, .request r ∈ rest → r.key? ≠ some key

theorem find?_forgotten {x : System} {e : Edit} (h : e.forgets channel chaincode = true) :
    (x.step config (.edit e)).context.stores.chaincodes.find? (channel, chaincode) = none := by
  change (e.left x.context).stores.chaincodes.find? _ = _
  rw [e.chaincodes_left, find?_chaincodes, if_pos h]

/-- For a chaincode that was renewed, the provider's policy is held. -/
theorem Renewed.obeys (h : Renewed config world ops channel chaincode) :
    (after config world ops).Obeys channel chaincode
      ((after config world ops).world.outside.policy channel chaincode) := by
  obtain ⟨first, e, rest, rfl, hforgets, hrest⟩ := h
  have hforgotten : (after config world (first ++ [.edit e])).context.stores.chaincodes.find?
      (channel, chaincode) = none := by
    rw [after_append]
    exact find?_forgotten hforgets
  rw [List.append_cons]
  rcases hrest with hnames | hchange
  · -- It was not fetched since.
    have hnone := after_of_forall
      (fun x => x.context.stores.chaincodes.find? (channel, chaincode) = none) hforgotten
      fun op hop x hx => find?_step_eq_none hx fun r hr => hnames r (hr ▸ hop)
    refine obeys_of_find? rfl fun data hfind => ?_
    rw [hnone] at hfind
    cases hfind
  · -- What was fetched since is what the provider still answers.
    have hedit : (after config world (first ++ [.edit e])).Obeys channel chaincode
        ((after config world first).world.outside.policy channel chaincode) := by
      refine obeys_of_find? ?_ fun data hfind => ?_
      · rw [after_append]
        cases e with
        | change outside => cases hforgets
        | _ => rfl
      · rw [hforgotten] at hfind
        cases hfind
    have hobeys := after_of_forall _ hedit fun op hop x hx => by
      cases op with
      | request r => exact hx.request r
      | edit e => exact hx.edit fun outside he => hchange outside (he ▸ hop)
    rw [hobeys.2]
    exact hobeys

theorem Dropped.built? (h : Dropped key ops) : built? key (after config world ops).past = none := by
  obtain ⟨first, rest, rfl, hrest⟩ := h
  rw [List.append_cons]
  refine after_of_forall (fun x => Selection.built? key x.past = none) ?_ fun op hop x hx => ?_
  · rw [after_append]
    rfl
  · cases op with
    | request r => exact (built?_of_ne (hrest r hop)).trans hx
    | edit e =>
      change (if e.drops then none else Selection.built? key x.past) = none
      rw [hx, ite_self]

/-- Nothing is held and nothing was built but from the policies given. -/
structure Constant (policy : String → String → Except Failure (List UInt8)) (x : System) :
    Prop where
  governed : x.Governed
  obeys (channel chaincode : String) : x.Obeys channel chaincode (policy channel chaincode)
  built (key : Key) (policies : List (Except Failure (List UInt8))) :
    Selection.built? key x.past = some policies → policies = key.chaincodes.map (policy key.channel)

namespace Constant

variable {x : System} {policy : String → String → Except Failure (List UInt8)}

theorem currentPolicies_eq (h : x.Constant policy) (key : Key) :
    currentPolicies x.past x.world.outside key = key.chaincodes.map (policy key.channel) := by
  refine List.map_congr_left fun c _ => ?_
  rw [← h.governed.held_scene]
  exact (h.obeys key.channel c).1

theorem governing_eq (h : x.Constant policy) (key : Key) :
    x.governing key = key.chaincodes.map (policy key.channel) := by
  rw [System.governing, Selection.governing]
  cases hbuilt : Selection.built? key x.past with
  | some policies => exact h.built key policies hbuilt
  | none => exact h.currentPolicies_eq key

theorem request (h : x.Constant policy) (r : Request) :
    (x.step config (.request r)).Constant policy where
  governed := h.governed.request r
  obeys channel chaincode := (h.obeys channel chaincode).request r
  built key policies hbuilt := by
    change Selection.built? key (.request r _ x.world.outside _ :: x.past) = _ at hbuilt
    rw [Selection.built?, Option.or_eq_some_iff] at hbuilt
    rcases hbuilt with hbuilt | ⟨-, hbuilt⟩
    · exact h.built key policies hbuilt
    · split at hbuilt
      · rw [← Option.some.inj hbuilt, h.currentPolicies_eq]
      · cases hbuilt

theorem edit (h : x.Constant policy) {e : Edit}
    (hchange : ∀ outside, e = .change outside → outside.policy = policy) :
    (x.step config (.edit e)).Constant policy where
  governed := h.governed.edit e
  obeys channel chaincode := (h.obeys channel chaincode).edit fun outside he => by
    rw [hchange outside he]
  built key policies hbuilt := by
    change (if e.drops then none else Selection.built? key x.past) = _ at hbuilt
    split at hbuilt
    · cases hbuilt
    · exact h.built key policies hbuilt

end Constant

/-- While the provider's answers stay the same, nothing else is held or built. -/
theorem constant_after
    (h : ∀ outside, .edit (.change outside) ∈ ops → outside.chaincode = world.outside.chaincode) :
    (after config world ops).Constant world.outside.policy := by
  have hempty : (after config world []).Constant world.outside.policy :=
    ⟨governed_after config world [], fun _ _ => ⟨rfl, rfl⟩, fun _ _ hbuilt => by cases hbuilt⟩
  refine after_of_forall _ hempty fun op hop x hx => ?_
  cases op with
  | request r => exact hx.request r
  | edit e =>
    refine hx.edit fun outside he => ?_
    funext channel chaincode
    rw [Outside.policy, h outside (he ▸ hop), Outside.policy]

/-- Whatever was done to a context, its caches hold what the past says, and a
    request is answered with what a resolver built from scratch chooses, from the
    policies that govern and against the same membership cache. After the
    resolvers were dropped, the policies that govern a key are those of the provider
    iff whatever was fetched for its chaincodes since they were last forgotten is up
    to date, as it is for chaincodes that were renewed. While the provider's answers
    stay the same, nothing else ever governs. -/
theorem policies_govern (config : Config) (world : World) (ops : List Op) :
    let x := after config world ops
    x.Governed ∧
      (∀ channel chaincodes, (x.run config (.endorsers channel chaincodes)).1 =
        .endorsers (if chaincodes = [] then .error .noChaincodes
          else x.selection config (Key.ofRequest channel chaincodes))) ∧
      (∀ key, Dropped key ops →
        (x.governing key = key.chaincodes.map (x.world.outside.policy key.channel) ↔
          ∀ c ∈ key.chaincodes, UpToDate x.past x.world.outside key.channel c)) ∧
      (∀ channel chaincode, Renewed config world ops channel chaincode →
        UpToDate x.past x.world.outside channel chaincode) ∧
      ((∀ outside, .edit (.change outside) ∈ ops → outside.chaincode = world.outside.chaincode) →
        ∀ key, x.governing key = key.chaincodes.map (world.outside.policy key.channel)) := by
  intro x
  have hgoverned : x.Governed := governed_after config world ops
  refine ⟨hgoverned, outcome_endorsers config hgoverned, fun key hdropped => ?_,
    fun channel chaincode hrenewed => ?_,
    fun hconstant key => (constant_after hconstant).governing_eq key⟩
  · rw [governing, Selection.governing, hdropped.built?, Option.getD_none]
    exact currentPolicies_eq_iff
  · rw [← currentPolicy_eq_iff, ← hgoverned.held_scene]
    exact hrenewed.obeys.1

end After

/-! ## A policy that is replaced -/

/-- A provider that answers the same policy for all chaincodes, and a member of
    each of two organisations on every channel. -/
def uniform (policy : Policy) : Outside where
  members := []
  membersOfChannel _ :=
    .ok [{ endpoint := "a:1", pkiId := ⟨[1]⟩ }, { endpoint := "b:1", pkiId := ⟨[2]⟩ }]
  chaincode _ chaincode := .ok ⟨chaincode, "1", Wire.encode policy⟩

/-- Surroundings in which both organisations have to sign. -/
def bothSigning : World where
  outside := uniform Service.bothSign
  readings _ := 0
  draws _ := 0

/-- The identities of the members arrive. -/
def arrivals : List Op := [.edit (.upsert ⟨[1]⟩ "A"), .edit (.upsert ⟨[2]⟩ "B")]

/-- A policy that the first organisation satisfies alone. -/
def onlyA : Policy where
  rule := some (.signedBy 0)
  identities := [.member "A"]

def memberA : Peer := { url := "a:1", mspId := "A" }
def memberB : Peer := { url := "b:1", mspId := "B" }

/-- The policy of two chaincodes governs a request for both. It is replaced, they
    are forgotten and the resolvers dropped: the next request obeys the new one. -/
theorem replaced_policy_governs :
    let first := arrivals ++ [.request (.endorsers "channel" ["a", "b"])]
    let ops := first ++ [.edit (.change (uniform onlyA)),
      .edit (.invalidateChaincode "channel" "b"), .edit (.invalidateChaincode "channel" "a"),
      .edit .clearResolvers]
    let request : Request := .endorsers "channel" ["b", "a"]
    (after {} bothSigning first).governing ⟨"channel", ["a", "b"]⟩ =
        [.ok (Wire.encode Service.bothSign), .ok (Wire.encode Service.bothSign)] ∧
      ((after {} bothSigning first).run {} request).1 = .endorsers (.ok [memberA, memberB]) ∧
      (after {} bothSigning ops).governing ⟨"channel", ["a", "b"]⟩ =
        [.ok (Wire.encode onlyA), .ok (Wire.encode onlyA)] ∧
      ((after {} bothSigning ops).run {} request).1 = .endorsers (.ok [memberA]) := by
  intro first ops request
  obtain ⟨-, -, -, -, hconstant⟩ := policies_govern {} bothSigning first
  obtain ⟨-, -, hdropped, hrenewed, -⟩ := policies_govern {} bothSigning ops
  refine ⟨hconstant (by simp [first, arrivals]) _, ?_,
    (hdropped ⟨"channel", ["a", "b"]⟩ ⟨first ++ [_, _, _], [], rfl, by simp⟩).2 fun c hc => ?_, ?_⟩
  · cbv
  · rcases List.mem_cons.1 hc with rfl | hc
    · exact hrenewed _ _ ⟨first ++ [_, _], _, [_], rfl, rfl, .inl (by simp)⟩
    · obtain rfl := List.mem_singleton.1 hc
      exact hrenewed _ _ ⟨first ++ [_], _, [_, _], rfl, rfl, .inl (by simp)⟩
  · cbv

/-- A replaced policy can govern although the only chaincode of a key was forgotten
    and then the resolvers were dropped: before it was replaced, a request for another
    key fetched it again. What is answered is no candidate of the policy that the
    provider has by then. -/
theorem refetched_policy_outlives_invalidation :
    let x := after {} bothSigning (arrivals ++ [.request (.endorsers "channel" ["a"]),
      .edit (.invalidateChaincode "channel" "a"), .request (.endorsers "channel" ["a", "b"]),
      .edit (.change (uniform onlyA)), .edit .clearResolvers])
    x.governing ⟨"channel", ["a"]⟩ = [.ok (Wire.encode Service.bothSign)] ∧
      x.world.outside.policy "channel" "a" = .ok (Wire.encode onlyA) ∧
      (x.run {} (.endorsers "channel" ["a"])).1 = .endorsers (.ok [memberA, memberB]) ∧
      ∃ alternatives, builtFrom [x.world.outside.policy "channel" "a"] = .ok alternatives ∧
        (x.offered {} "channel" alternatives).1 = [[memberA]] := by
  intro x
  refine ⟨?_, rfl, ?_, [.all [.leaf (.msp "A")]], ?_, ?_⟩
  · cbv
  · cbv
  · cbv
  · cbv

end System

end Endorsement.Selection
