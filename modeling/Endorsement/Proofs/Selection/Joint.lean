import Endorsement.Proofs.Policy.Meaning
import Endorsement.Proofs.Resolver
import Endorsement.Selection.Service
import Mathlib.Algebra.Order.Group.Nat

/-!
# Policies together

A request asks for peers that satisfy the policies of several chaincodes at
once. The alternatives that its resolver is built with depend on the encoded
policies alone.

* `Policy.exists_msp_of_mem_legs`: the leaves of a policy are organisations;
* `jointAlternatives`, `builtFrom`: the alternatives of several encoded policies
  together, also where some of them may be missing;
* `Encoded.exists_jointAlternatives`: policies that compile have alternatives, and
  these mean that all of the policies are satisfied;
* `nodup_offered`, `conjunctions_of_builtFrom`: no candidate of alternatives that
  are different conjunctions comes twice, and those that are built from policies
  are;
* `organisations`: the organisations of some peers;
* `Represents`, `Encoded.represents_offered`: on the peers of a snapshot, each
  candidate satisfies all policies, every set of peers that does holds a
  candidate, and there is none iff the snapshot as a whole does not.
-/

namespace Endorsement

/-! ## Outcomes one after the other -/

section Outcomes

variable {ε α β : Type} {x : Except ε α} {f : α → Except ε β}

theorem exists_ok_of_bind {b : β} (h : x >>= f = .ok b) : ∃ a, x = .ok a ∧ f a = .ok b := by
  cases x with
  | error failure => cases h
  | ok a => exact ⟨a, rfl, h⟩

theorem bind_eq_error_iff {e : ε} :
    x >>= f = .error e ↔ x = .error e ∨ ∃ a, x = .ok a ∧ f a = .error e := by
  cases x with
  | error failure => simp [bind, Except.bind]
  | ok a => simp [bind, Except.bind]

end Outcomes

/-! ## The leaves of policies -/

theorem Group.exists_of_mem_legs_atLeast {threshold : Int32} {groups chosen : List Group}
    (h : atLeast threshold groups = .ok chosen) {g : Group} (hg : g ∈ chosen) {l : PeerGroup}
    (hl : l ∈ g.legs) : ∃ x ∈ groups, l ∈ x.legs := by
  obtain ⟨-, rfl⟩ := atLeast_eq_ok_iff.1 h
  obtain ⟨choice, hchoice, rfl⟩ := List.mem_map.1 hg
  obtain ⟨x, hx, hl⟩ := mem_legs_all.1 hl
  exact ⟨x, Product.mem_of_mem_choices hchoice hx, hl⟩

theorem Rule.exists_msp_of_mem_legs {identities : List Principal} {rule : Rule}
    {groups : List Group} (h : (rule.compile identities).run.value = .ok groups) {g : Group}
    (hg : g ∈ groups) {l : PeerGroup} (hl : l ∈ g.legs) : ∃ mspId, l = .msp mspId := by
  induction rule generalizing groups g l with
  | signedBy index =>
    obtain ⟨mspId, -, rfl⟩ := compile_signedBy_eq_ok_iff.1 h
    obtain rfl := List.mem_singleton.1 hg
    exact ⟨mspId, List.mem_singleton.1 hl⟩
  | outOf n rules ih =>
    obtain ⟨compiled, hcompiled, h⟩ := compile_outOf_eq_ok_iff.1 h
    have hrules : List.Forall₂ (fun g _ => (∀ l ∈ g.legs, ∃ mspId, l = .msp mspId) ∧ True)
        compiled rules := by
      refine forall₂_of_compileEach hcompiled fun r hr groups hgroups => ⟨fun l hl => ?_, trivial⟩
      obtain ⟨g, hg, hl⟩ := Group.mem_legs_any.1 hl
      exact ih r hr hgroups hg hl
    obtain ⟨x, hx, hl⟩ := Group.exists_of_mem_legs_atLeast h hg hl
    exact ((List.forall₂_and_left _ _).1 hrules).1 x hx l hl

/-- The leaves of a policy are organisations. -/
theorem Policy.exists_msp_of_mem_legs {p : Policy} {g : Group} (h : p.group = .ok g)
    {l : PeerGroup} (hl : l ∈ g.legs) : ∃ mspId, l = .msp mspId := by
  obtain ⟨rule, groups, -, hgroups, rfl⟩ := group_eq_ok_iff.1 h
  obtain ⟨g, hg, hl⟩ := Group.mem_legs_any.1 hl
  exact Rule.exists_msp_of_mem_legs hgroups hg hl

namespace Policy

/-! ## The policies of several chaincodes -/

/-- The policy held by bytes, as one group. -/
def groupOfBytes (bytes : List UInt8) : Except Failure Group := do
  let groups ← (compileBytes bytes).run.value
  return .any groups

theorem groupOfBytes_eq_bind (bytes : List UInt8) :
    groupOfBytes bytes = ofBytes bytes >>= Policy.group := by
  rw [groupOfBytes, compileBytes]
  cases ofBytes bytes with
  | error failure => rfl
  | ok p =>
    change (p.compile.run.value >>= fun groups => .ok (.any groups)) = p.group
    rw [group]
    cases p.compile.run.value <;> rfl

theorem groupOfBytes_of_ofBytes {bytes : List UInt8} {p : Policy} (h : ofBytes bytes = .ok p) :
    groupOfBytes bytes = p.group := by
  rw [groupOfBytes_eq_bind, h]
  rfl

/-- What bytes are compiled to is what the policy that they hold is compiled to. -/
theorem exists_group_of_groupOfBytes {bytes : List UInt8} {g : Group}
    (h : groupOfBytes bytes = .ok g) : ∃ p : Policy, p.group = .ok g := by
  rw [groupOfBytes_eq_bind] at h
  obtain ⟨p, -, hp⟩ := exists_ok_of_bind h
  exact ⟨p, hp⟩

theorem exists_msp_of_groupOfBytes {bytes : List UInt8} {g : Group}
    (h : groupOfBytes bytes = .ok g) {l : PeerGroup} (hl : l ∈ g.legs) :
    ∃ mspId, l = .msp mspId := by
  obtain ⟨p, hp⟩ := exists_group_of_groupOfBytes h
  exact p.exists_msp_of_mem_legs hp hl

/-- The policy held by bytes holds if all organisations sign. -/
theorem holds_always_of_groupOfBytes {bytes : List UInt8} {g : Group}
    (h : groupOfBytes bytes = .ok g) : g.Holds .always := by
  obtain ⟨p, hp⟩ := exists_group_of_groupOfBytes h
  exact holds_always_of_group hp

end Policy

namespace Selection

/-- Bytes and the policies that they hold, which are well formed. -/
def Encoded : List (List UInt8) → List Policy → Prop :=
  List.Forall₂ fun bytes p => Policy.ofBytes bytes = .ok p ∧ p.Compiles

/-- The alternatives of several encoded policies together. -/
def jointAlternatives (encoded : List (List UInt8)) : Except Failure (List Group) := do
  let groups ← encoded.mapM Policy.groupOfBytes
  let combined ← Service.allOf groups
  (Resolver.alternativesOf combined).run.value

/-- The same for encoded policies each of which may be missing. -/
def builtFrom (held : List (Except Failure (List UInt8))) : Except Failure (List Group) := do
  let groups ← held.mapM fun policy => policy >>= Policy.groupOfBytes
  let combined ← Service.allOf groups
  (Resolver.alternativesOf combined).run.value

theorem exists_of_mem_mapM {ε α β : Type} {f : α → Except ε β} {as : List α} {bs : List β}
    (h : as.mapM f = .ok bs) {b : β} (hb : b ∈ bs) : ∃ a ∈ as, f a = .ok b := by
  induction as generalizing bs with
  | nil =>
    obtain rfl : [] = bs := Except.ok.inj h
    cases hb
  | cons a as ih =>
    rw [List.mapM_cons] at h
    obtain ⟨b', hb', h⟩ := exists_ok_of_bind h
    obtain ⟨bs', hbs', h⟩ := exists_ok_of_bind h
    obtain rfl : b' :: bs' = bs := Except.ok.inj h
    rcases List.mem_cons.1 hb with rfl | hb
    · exact ⟨a, .head _, hb'⟩
    · obtain ⟨a', ha', hf⟩ := ih hbs' hb
      exact ⟨a', .tail _ ha', hf⟩

theorem builtFrom_map_ok (encoded : List (List UInt8)) :
    builtFrom (encoded.map .ok) = jointAlternatives encoded := by
  have hgroups : (encoded.map Except.ok).mapM (fun policy => policy >>= Policy.groupOfBytes) =
      encoded.mapM Policy.groupOfBytes := by
    induction encoded with
    | nil => rfl
    | cons bytes rest ih =>
      rw [List.map_cons, List.mapM_cons, List.mapM_cons, ih]
      rfl
  rw [builtFrom, hgroups]
  rfl

variable {encoded : List (List UInt8)} {policies : List Policy} {groups combined : List Group}
  {v : Valuation} {orgs : String → Bool}

theorem Encoded.exists_groups (h : Encoded encoded policies) :
    ∃ groups, encoded.mapM Policy.groupOfBytes = .ok groups ∧
      List.Forall₂ (fun g p => p.group = .ok g) groups policies := by
  induction h with
  | nil => exact ⟨[], rfl, .nil⟩
  | @cons bytes p _ _ hp _ ih =>
    obtain ⟨groups, hgroups, hrel⟩ := ih
    obtain ⟨g, hg⟩ := hp.2.group
    have hbytes : Policy.groupOfBytes bytes = .ok g := by
      rw [Policy.groupOfBytes_of_ofBytes hp.1, hg]
    refine ⟨g :: groups, ?_, .cons hg hrel⟩
    rw [List.mapM_cons, hbytes, hgroups]
    rfl

/-- The groups of policies all hold iff all policies are satisfied. -/
theorem forall_holds_iff (h : List.Forall₂ (fun g p => p.group = .ok g) groups policies)
    (hv : ∀ mspId, v.leaf (.msp mspId) ↔ orgs mspId = true) :
    (∀ g ∈ groups, g.Holds v) ↔ ∀ p ∈ policies, p.satisfiedBy orgs = true := by
  induction h with
  | nil => simp
  | cons hg _ ih => rw [List.forall_mem_cons, List.forall_mem_cons, Policy.holds_group hv hg, ih]

/-- The groups of policies can all hold at once. -/
theorem forall_holds_always (h : List.Forall₂ (fun g p => p.group = .ok g) groups policies) :
    ∀ g ∈ groups, g.Holds .always := by
  induction h with
  | nil => simp
  | cons hg _ ih => exact List.forall_mem_cons.2 ⟨Policy.holds_always_of_group hg, ih⟩

namespace Service

/-- All of the groups are as many as there are. -/
theorem atLeast_of_allOf (h : allOf groups = .ok combined) :
    groups.length ≤ Policy.maxThreshold ∧
      Group.atLeast (Int32.ofNat groups.length) groups = .ok combined := by
  rw [allOf] at h
  split at h
  · cases h
  · exact ⟨by omega, h⟩

theorem exists_of_mem_legs_allOf (h : allOf groups = .ok combined) {g : Group}
    (hg : g ∈ combined) {l : PeerGroup} (hl : l ∈ g.legs) : ∃ x ∈ groups, l ∈ x.legs :=
  Group.exists_of_mem_legs_atLeast (atLeast_of_allOf h).2 hg hl

theorem exists_allOf (hne : groups ≠ []) (hlen : groups.length < 2 ^ 31) :
    ∃ combined, allOf groups = .ok combined := by
  have hpos := List.length_pos_of_ne_nil hne
  have hmax : ¬Policy.maxThreshold < groups.length := by
    rw [Policy.maxThreshold]
    omega
  rw [allOf, if_neg hmax]
  refine ⟨_, Group.atLeast_eq_ok_iff.2 ⟨?_, rfl⟩⟩
  rw [Int32.toInt_ofNat_of_lt hlen]
  omega

theorem exists_allOf_iff (hne : groups ≠ []) :
    (∃ combined, allOf groups = .ok combined) ↔ groups.length < 2 ^ 31 := by
  constructor
  · rintro ⟨combined, h⟩
    obtain ⟨hmax, -⟩ := atLeast_of_allOf h
    rw [Policy.maxThreshold] at hmax
    omega
  · exact exists_allOf hne

/-- Groups can be asked for together unless a threshold cannot count them. -/
theorem allOf_eq_error {failure : Failure} (hne : groups ≠ []) (h : allOf groups = .error failure) :
    Policy.maxThreshold < groups.length ∧
      failure = .badThreshold (Int32.ofNat Policy.maxThreshold) groups.length := by
  by_cases hlong : Policy.maxThreshold < groups.length
  · rw [allOf, if_pos hlong] at h
    exact ⟨hlong, (Except.error.inj h).symm⟩
  · rw [Policy.maxThreshold] at hlong
    obtain ⟨combined, hall⟩ := exists_allOf hne (by omega)
    rw [hall] at h
    cases h

/-- All of the groups: a choice among them holds iff each of them does. -/
theorem exists_allOf_holds (h : allOf groups = .ok combined) :
    (∃ g ∈ combined, g.Holds v) ↔ ∀ g ∈ groups, g.Holds v := by
  classical
  obtain ⟨hmax, h⟩ := atLeast_of_allOf h
  rw [Policy.maxThreshold] at hmax
  -- At least as many groups as there are hold iff each of them does.
  have hcount := List.countP_le_length (p := (decide <| ·.Holds v)) (l := groups)
  rw [Group.exists_atLeast_holds h, Int32.toInt_ofNat_of_lt (by omega), Int.ofNat_le,
    ← Nat.eq_iff_le_and_ge.trans (and_iff_right hcount), List.countP_eq_length]
  simp

/-- All of some groups that hold if all organisations sign: together they have
    alternatives. -/
theorem reduce_ne_nil_of_allOf (h : allOf groups = .ok combined)
    (hholds : ∀ g ∈ groups, g.Holds .always) : (Group.any combined).reduce ≠ [] := by
  rw [Ne, Resolver.reduce_eq_nil_iff, not_not, Group.holds_any, exists_allOf_holds h]
  exact hholds

end Service

/-- The leaves of alternatives are leaves of the groups that are asked for. -/
theorem exists_msp_of_mem_reduce (hgroups : ∀ g ∈ groups, ∀ l ∈ g.legs, ∃ mspId, l = .msp mspId)
    (h : Service.allOf groups = .ok combined) {a : Group} (ha : a ∈ (Group.any combined).reduce)
    {l : PeerGroup} (hl : l ∈ a.legs) : ∃ mspId, l = .msp mspId := by
  obtain ⟨g, hg, hl⟩ := Group.mem_legs_any.1 (Group.mem_legs_of_mem_reduce ha hl)
  obtain ⟨x, hx, hl⟩ := Service.exists_of_mem_legs_allOf h hg hl
  exact hgroups x hx l hl

/-- Groups are asked for together by conjunctions, so that their alternatives are
    conjunctions. -/
theorem exists_all_of_mem_reduce (h : Service.allOf groups = .ok combined) {a : Group}
    (ha : a ∈ (Group.any combined).reduce) : ∃ items, a = .all items := by
  obtain ⟨g, hg, ha⟩ := Group.exists_of_mem_reduce_any ha
  obtain ⟨-, rfl⟩ := Group.atLeast_eq_ok_iff.1 (Service.atLeast_of_allOf h).2
  obtain ⟨choice, -, rfl⟩ := List.mem_map.1 hg
  exact Group.exists_all_of_mem_reduce_all ha

/-- The groups of policies that alternatives are built from. -/
theorem exists_groups_of_builtFrom {held : List (Except Failure (List UInt8))}
    {alternatives : List Group} (h : builtFrom held = .ok alternatives) :
    ∃ groups combined, held.mapM (fun policy => policy >>= Policy.groupOfBytes) = .ok groups ∧
      Service.allOf groups = .ok combined ∧ alternatives = (Group.any combined).reduce := by
  obtain ⟨groups, hgroups, h⟩ := exists_ok_of_bind h
  obtain ⟨combined, hcombined, h⟩ := exists_ok_of_bind h
  rw [Resolver.value_alternativesOf] at h
  split at h
  · cases h
  · exact ⟨groups, combined, hgroups, hcombined, (Except.ok.inj h).symm⟩

/-- The leaves of alternatives are organisations, from whatever policies they are
    built. -/
theorem exists_msp_of_builtFrom {held : List (Except Failure (List UInt8))}
    {alternatives : List Group} (h : builtFrom held = .ok alternatives) {a : Group}
    (ha : a ∈ alternatives) {l : PeerGroup} (hl : l ∈ a.legs) : ∃ mspId, l = .msp mspId := by
  obtain ⟨groups, combined, hgroups, hcombined, rfl⟩ := exists_groups_of_builtFrom h
  refine exists_msp_of_mem_reduce (fun g hg l hl => ?_) hcombined ha hl
  obtain ⟨policy, -, hg⟩ := exists_of_mem_mapM hgroups hg
  obtain ⟨bytes, -, hg⟩ := exists_ok_of_bind hg
  exact Policy.exists_msp_of_groupOfBytes hg hl

/-- From whatever policies they are built, alternatives are different
    conjunctions. -/
theorem conjunctions_of_builtFrom {held : List (Except Failure (List UInt8))}
    {alternatives : List Group} (h : builtFrom held = .ok alternatives) :
    alternatives.Nodup ∧ ∀ a ∈ alternatives, a.IsAlternative ∧ ∃ items, a = .all items := by
  obtain ⟨groups, combined, -, hcombined, rfl⟩ := exists_groups_of_builtFrom h
  exact ⟨Group.nodup_reduce _, fun a ha =>
    ⟨Group.isAlternative_of_mem_reduce ha, exists_all_of_mem_reduce hcombined ha⟩⟩

/-- Well-formed policies have alternatives together. Their leaves are
    organisations, and some alternative holds iff all policies are satisfied. -/
theorem Encoded.exists_jointAlternatives (h : Encoded encoded policies) (hne : policies ≠ [])
    (hlen : policies.length < 2 ^ 31) :
    ∃ alternatives, jointAlternatives encoded = .ok alternatives ∧
      (∀ a ∈ alternatives, a.IsAlternative ∧ ∀ l ∈ a.legs, ∃ mspId, l = .msp mspId) ∧
      ∀ (v : Valuation) (orgs : String → Bool), (∀ mspId, v.leaf (.msp mspId) ↔ orgs mspId = true) →
        ((∃ a ∈ alternatives, a.Holds v) ↔ ∀ p ∈ policies, p.satisfiedBy orgs = true) := by
  obtain ⟨groups, hgroups, hrel⟩ := h.exists_groups
  have hlength := hrel.length_eq
  obtain ⟨combined, hcombined⟩ : ∃ combined, Service.allOf groups = .ok combined := by
    refine Service.exists_allOf ?_ (hlength ▸ hlen)
    rw [← List.length_pos_iff, hlength, List.length_pos_iff]
    exact hne
  have hmeans : ∀ (v : Valuation) (orgs : String → Bool),
      (∀ mspId, v.leaf (.msp mspId) ↔ orgs mspId = true) →
      ((Group.any combined).Holds v ↔ ∀ p ∈ policies, p.satisfiedBy orgs = true) := by
    intro v orgs hv
    rw [Group.holds_any, Service.exists_allOf_holds hcombined, forall_holds_iff hrel hv]
  have halternatives := Service.reduce_ne_nil_of_allOf hcombined (forall_holds_always hrel)
  have hjoint : jointAlternatives encoded = .ok (Group.any combined).reduce := by
    rw [jointAlternatives, hgroups]
    change (Service.allOf groups >>= fun combined => _) = _
    rw [hcombined]
    change (Resolver.alternativesOf combined).run.value = _
    rw [Resolver.value_alternativesOf, if_neg halternatives]
  refine ⟨(Group.any combined).reduce, hjoint, fun a ha => ?_,
    fun v orgs hv => by rw [Group.exists_reduce_holds, hmeans v orgs hv]⟩
  have hbuilt := (builtFrom_map_ok encoded).trans hjoint
  exact ⟨Group.isAlternative_of_mem_reduce ha, fun l hl => exists_msp_of_builtFrom hbuilt ha hl⟩

/-! ## Candidates of a snapshot -/

/-- The organisations of some peers. -/
def organisations (peers : List Peer) (mspId : String) : Bool :=
  peers.any (·.mspId == mspId)

/-- Some peers satisfy all policies by the organisations they are from. -/
def AllSatisfied (policies : List Policy) (peers : List Peer) : Prop :=
  ∀ p ∈ policies, p.satisfiedBy (organisations peers) = true

/-- The peers of an organisation. -/
def peersOf (peers : List Peer) (mspId : String) : List Peer :=
  peers.filter fun p => p.mspId == mspId

/-- The legs that a candidate was made for, if all of them are organisations. -/
theorem legs_eq_of_mem_tuples {snapshot : List Peer} {legs : List PeerGroup}
    (hlegs : ∀ l ∈ legs, ∃ mspId, l = .msp mspId) {candidate : Candidate}
    (h : candidate ∈ Product.tuples (legs.map (·.current (peersOf snapshot)))) :
    legs = candidate.map fun p => .msp p.mspId := by
  have hitems := List.forall₂_map_right_iff.1 (Product.mem_tuples.1 h).2
  clear h
  induction hitems with
  | nil => rfl
  | @cons p l _ _ hp _ ih =>
    rw [List.forall_mem_cons] at hlegs
    obtain ⟨mspId, rfl⟩ := hlegs.1
    rw [PeerGroup.current_msp, peersOf, List.mem_filter, beq_iff_eq] at hp
    rw [List.map_cons, ← ih hlegs.2, hp.2]

/-- Alternatives that are different conjunctions of organisations, on peers
    without repetition, never have a candidate twice. -/
theorem nodup_offered {snapshot : List Peer} {alternatives : List Group}
    (hsnapshot : snapshot.Nodup) (hnodup : alternatives.Nodup)
    (hall : ∀ a ∈ alternatives, a.IsAlternative ∧ ∃ items, a = .all items)
    (hlegs : ∀ a ∈ alternatives, ∀ l ∈ a.legs, ∃ mspId, l = .msp mspId) :
    (Resolver.offered (peersOf snapshot) alternatives).Nodup := by
  rw [Resolver.offered_eq_flatMap, List.nodup_flatMap]
  constructor
  · intro a ha
    refine Product.nodup_tuples (List.forall_mem_map.2 fun l hl => ?_)
    obtain ⟨mspId, rfl⟩ := hlegs a ha l hl
    rw [PeerGroup.current_msp]
    exact hsnapshot.filter _
  · -- A candidate tells the legs that it was made for, and these the alternative.
    refine hnodup.pairwise_of_forall_ne fun a ha b hb hne => ?_
    refine List.disjoint_left.2 fun candidate hca hcb => ?_
    refine hne ?_
    obtain ⟨ha', items, rfl⟩ := hall a ha
    obtain ⟨hb', items', rfl⟩ := hall b hb
    rw [ha'.items_eq, hb'.items_eq, legs_eq_of_mem_tuples (hlegs _ ha) hca,
      legs_eq_of_mem_tuples (hlegs _ hb) hcb]

/-- Candidates that represent policies on the peers of a snapshot: a set of
    these peers satisfies the policies iff one of the candidates lies in it. -/
structure Represents (found : List Candidate) (policies : List Policy) (snapshot : List Peer) :
    Prop where
  ne_nil : ∀ candidate ∈ found, candidate ≠ []
  subset : ∀ candidate ∈ found, candidate ⊆ snapshot
  exists_iff : ∀ S ⊆ snapshot, (∃ candidate ∈ found, candidate ⊆ S) ↔ AllSatisfied policies S

namespace Represents

variable {found : List Candidate} {snapshot : List Peer}

theorem satisfied (h : Represents found policies snapshot) {candidate : Candidate}
    (hmem : candidate ∈ found) : AllSatisfied policies candidate :=
  (h.exists_iff candidate (h.subset candidate hmem)).1 ⟨candidate, hmem, List.Subset.refl _⟩

theorem eq_nil_iff (h : Represents found policies snapshot) :
    found = [] ↔ ¬AllSatisfied policies snapshot := by
  rw [← h.exists_iff snapshot (List.Subset.refl _), List.eq_nil_iff_forall_not_mem]
  constructor
  · rintro hnil ⟨candidate, hmem, -⟩
    exact hnil candidate hmem
  · intro hnone candidate hmem
    exact hnone ⟨candidate, hmem, h.subset candidate hmem⟩

/-- A choice among the candidates satisfies the policies unless no peers do. -/
theorem of_choice (h : Represents found policies snapshot) {peers : Candidate}
    (hchoice : peers ∈ found ∨ found = [] ∧ peers = []) :
    peers ⊆ snapshot ∧ (peers ≠ [] → AllSatisfied policies peers) ∧
      (peers = [] ↔ ¬AllSatisfied policies snapshot) := by
  rw [← h.eq_nil_iff]
  rcases hchoice with hmem | ⟨rfl, rfl⟩
  · refine ⟨h.subset peers hmem, fun _ => h.satisfied hmem, ?_⟩
    exact iff_of_false (h.ne_nil peers hmem) (List.ne_nil_of_mem hmem)
  · exact ⟨List.nil_subset _, fun hne => absurd rfl hne, by simp⟩

/-- The order of the policies does not matter. -/
theorem congr (h : Represents found policies snapshot) {policies' : List Policy}
    (hmem : ∀ p, p ∈ policies ↔ p ∈ policies') : Represents found policies' snapshot where
  ne_nil := h.ne_nil
  subset := h.subset
  exists_iff S hS := by
    rw [h.exists_iff S hS]
    exact forall_congr' fun p => imp_congr_left (hmem p)

end Represents

theorem leaf_under_iff {snapshot S : List Peer} (hS : S ⊆ snapshot) (mspId : String) :
    (Valuation.under (peersOf snapshot) {p | p ∈ S}).leaf (.msp mspId) ↔
      organisations S mspId = true := by
  simp only [Valuation.under, PeerGroup.current_msp, peersOf, List.mem_filter, organisations,
    List.any_eq_true, Set.mem_ofPred_eq]
  constructor
  · rintro ⟨p, ⟨-, hp⟩, hmem⟩
    exact ⟨p, hmem, hp⟩
  · rintro ⟨p, hmem, hp⟩
    exact ⟨p, ⟨hS hmem, hp⟩, hmem⟩

/-- The candidates of well-formed policies represent them on a snapshot. -/
theorem Encoded.represents_offered (h : Encoded encoded policies) (hne : policies ≠ [])
    (hlen : policies.length < 2 ^ 31) (snapshot : List Peer) :
    ∃ alternatives, jointAlternatives encoded = .ok alternatives ∧
      Represents (Resolver.offered (peersOf snapshot) alternatives) policies snapshot := by
  obtain ⟨alternatives, halternatives, hform, hmeans⟩ := h.exists_jointAlternatives hne hlen
  refine ⟨alternatives, halternatives, ⟨fun _ => Resolver.ne_nil_of_mem_offered, ?_, ?_⟩⟩
  -- Peers of organisations are looked up in the snapshot.
  · intro candidate hmem p hp
    obtain ⟨a, ha, l, hl, hp⟩ := Resolver.exists_current_of_mem_offered hmem hp
    obtain ⟨mspId, rfl⟩ := (hform a ha).2 l hl
    exact (List.mem_filter.1 hp).1
  · intro S hS
    -- Under the peers in `S`, the leaves are the organisations that `S` has.
    rw [AllSatisfied, ← hmeans _ _ (leaf_under_iff hS)]
    exact Resolver.exists_offered_iff (fun a ha => (hform a ha).1) {p | p ∈ S}

end Selection

end Endorsement
