import Endorsement.Proofs.Group.Offers
import Endorsement.Proofs.Policy.Meaning
import Mathlib.Algebra.Group.Nat.Defs

/-!
# Ways of writing a policy down

One policy can be written down in many ways: rules may stand in another order
within their node, principals in another order or among others, and a principal
may name its organisation in another way. None of that matters to the
alternatives of the policy.

* `Rule.Reordered`, `Rule.renumber`, `Principal.Interchangeable`: the differences,
  and `Policy.Rewritten`: policies that differ in nothing else;
* `Rule.Offers`, `Rule.offers_outOf`: what a rule offers once it is compiled, by
  what its rules offer;
* `Rule.Reordered.offers_iff`, `Rule.compile_renumber`: the order of rules and the
  numbers of principals do not matter;
* `Policy.alternatives_of_rewritten`: policies that differ in nothing else
  compile alike, to equal alternatives.
-/

namespace Endorsement

/-! ## Principals -/

namespace Principal

/-- The principal at an index, if there is one. -/
def at? (identities : List Principal) (index : Int32) : Option Principal :=
  if index.toInt < 0 then none else identities[index.toInt.toNat]?

/-- The same principal, or two that name the same organisation. -/
def Interchangeable (p q : Principal) : Prop :=
  p = q ∨ ∃ mspId, p.mspId = .ok mspId ∧ q.mspId = .ok mspId

theorem Interchangeable.mspId_iff {p q : Principal} (h : Interchangeable p q) {mspId : String} :
    p.mspId = .ok mspId ↔ q.mspId = .ok mspId := by
  obtain rfl | ⟨m, hp, hq⟩ := h
  · rfl
  · rw [hp, hq]

theorem at?_eq_some_iff {identities : List Principal} {index : Int32} {p : Principal} :
    at? identities index = some p ↔
      0 ≤ index.toInt ∧ identities[index.toInt.toNat]? = some p := by
  rw [at?]
  split
  · rename_i h
    exact iff_of_false (by simp) fun ⟨h', _⟩ => by omega
  · rw [and_iff_right (by omega)]

/-- Whatever the order of the principals and whichever are added, there are
    numbers for those that were there. -/
theorem exists_renumbering {ids ids' : List Principal} (h : ids ⊆ ids')
    (hlen : ids'.length ≤ 2 ^ 31) :
    ∃ f : Int32 → Int32, ∀ index, at? ids' (f index) = at? ids index := by
  refine ⟨fun index => (at? ids index).elim (-1) fun p => .ofNat (ids'.idxOf p), fun index => ?_⟩
  simp only
  cases hat : at? ids index with
  | none => rfl
  | some p =>
    have hmem : p ∈ ids' := h (List.mem_of_getElem? (at?_eq_some_iff.1 hat).2)
    have hidx : ids'.idxOf p < ids'.length := List.idxOf_lt_length_iff.2 hmem
    rw [Option.elim_some, at?_eq_some_iff, Int32.toInt_ofNat_of_lt (by omega), Int.toNat_natCast]
    exact ⟨by omega, by rw [List.getElem?_eq_getElem hidx, List.getElem_idxOf]⟩

theorem mspIdAt_eq_ok_iff_at? {identities : List Principal} {index : Int32} {mspId : String} :
    mspIdAt identities index = .ok mspId ↔
      ∃ p, at? identities index = some p ∧ p.mspId = .ok mspId := by
  rw [mspIdAt, at?]
  split
  · simp
  · cases identities[index.toInt.toNat]? <;> simp

theorem mspIdAt_congr {ids ids' : List Principal} (h : List.Forall₂ Interchangeable ids ids')
    (index : Int32) (mspId : String) :
    mspIdAt ids index = .ok mspId ↔ mspIdAt ids' index = .ok mspId := by
  simp only [mspIdAt_eq_ok_iff_at?, at?]
  split
  · rfl
  · generalize index.toInt.toNat = i
    induction h generalizing i with
    | nil => rfl
    | cons hpq _ ih =>
      cases i with
      | zero => simpa using hpq.mspId_iff
      | succ i => simpa using ih i

end Principal

/-! ## Rules -/

namespace Rule

/-- Rules that differ in the order of the rules within nodes, at any depth. -/
inductive Reordered : Rule → Rule → Prop
  | refl (rule : Rule) : Reordered rule rule
  | trans {r s t : Rule} : Reordered r s → Reordered s t → Reordered r t
  /-- The rules of a node stand in another order. -/
  | node (n : Int32) {rules rules' : List Rule} (h : rules.Perm rules') :
      Reordered (.outOf n rules) (.outOf n rules')
  /-- A rule of a node is reordered. -/
  | within (n : Int32) (before after : List Rule) {rule rule' : Rule} (h : Reordered rule rule') :
      Reordered (.outOf n (before ++ rule :: after)) (.outOf n (before ++ rule' :: after))

mutual

/-- A rule with other numbers for its principals. -/
def renumber (f : Int32 → Int32) : Rule → Rule
  | .signedBy index => .signedBy (f index)
  | .outOf n rules => .outOf n (renumberEach f rules)

/-- Rules with other numbers for their principals. -/
def renumberEach (f : Int32 → Int32) : List Rule → List Rule
  | [] => []
  | rule :: rules => renumber f rule :: renumberEach f rules

end

theorem renumberEach_eq_map (f : Int32 → Int32) (rules : List Rule) :
    renumberEach f rules = rules.map (renumber f) := by
  induction rules with
  | nil => rfl
  | cons rule rules ih => rw [renumberEach, ih, List.map_cons]

theorem renumber_id (rule : Rule) : rule.renumber id = rule := by
  induction rule with
  | signedBy index => rfl
  | outOf n rules ih => rw [renumber, renumberEach_eq_map, List.map_congr_left ih, List.map_id']

theorem forall₂_congr_left {α β : Type} {R R' : α → β → Prop} {as as' : List α} {bs : List β}
    (h : List.Forall₂ (fun a a' => ∀ b, R a b ↔ R' a' b) as as') :
    List.Forall₂ R as bs ↔ List.Forall₂ R' as' bs := by
  induction h generalizing bs with
  | nil => simp
  | cons ha _ ih => simp only [List.forall₂_cons_left_iff, ha, ih]

variable {ids ids' : List Principal}

/-! ### The numbers of principals -/

/-- Renumbered rules compile to the same groups if the numbers lead to the same
    organisations as before. -/
theorem compile_renumber {f : Int32 → Int32}
    (h : ∀ index mspId, Principal.mspIdAt ids' (f index) = .ok mspId ↔
      Principal.mspIdAt ids index = .ok mspId) (rule : Rule) {groups : List Group} :
    (compile ids' (rule.renumber f)).run.value = .ok groups ↔
      (compile ids rule).run.value = .ok groups := by
  induction rule generalizing groups with
  | signedBy index => simp only [renumber, compile_signedBy_eq_ok_iff, h]
  | outOf n rules ih =>
    simp only [renumber, compile_outOf_eq_ok_iff, compileEach_eq_ok_iff, renumberEach_eq_map,
      List.forall₂_map_left_iff]
    refine exists_congr fun compiled => and_congr_left' (forall₂_congr_left ?_)
    exact List.forall₂_same.2 fun rule hrule g => by simp only [ih rule hrule]

/-! ### The order of rules -/

/-- What a rule offers once it is compiled: the groups that equal an alternative
    of it. -/
def Offers (ids : List Principal) (rule : Rule) (S : Set Group) : Prop :=
  ∃ groups, (compile ids rule).run.value = .ok groups ∧ (Group.any groups).offers = S

theorem exists_compileEach_iff {rules : List Rule} {parts : List (Set Group)} :
    List.Forall₂ (Offers ids) rules parts ↔ ∃ compiled,
      (compileEach ids rules).run.value = .ok compiled ∧ compiled.map Group.offers = parts := by
  simp only [compileEach_eq_ok_iff]
  induction rules generalizing parts with
  | nil => simp [eq_comm]
  | cons rule rules ih =>
    simp only [List.forall₂_cons_left_iff, ih]
    constructor
    · rintro ⟨_, _, ⟨groups, hgroups, rfl⟩, ⟨compiled, hcompiled, rfl⟩, rfl⟩
      exact ⟨_, ⟨_, compiled, ⟨groups, hgroups, rfl⟩, hcompiled, rfl⟩, rfl⟩
    · rintro ⟨_, ⟨_, compiled, ⟨groups, hgroups, rfl⟩, hcompiled, rfl⟩, rfl⟩
      exact ⟨_, _, ⟨groups, hgroups, rfl⟩, ⟨compiled, hcompiled, rfl⟩, rfl⟩

/-- What a rule that asks for a number of rules offers depends on what these
    offer alone. -/
theorem offers_outOf {n : Int32} {rules : List Rule} {S : Set Group} :
    Offers ids (.outOf n rules) S ↔ ∃ parts, List.Forall₂ (Offers ids) rules parts ∧
      (0 < n.toInt ∧ n.toInt ≤ parts.length) ∧ Group.joint n.toInt.toNat parts = S := by
  simp only [exists_compileEach_iff]
  constructor
  · rintro ⟨groups, hgroups, rfl⟩
    obtain ⟨compiled, hcompiled, h⟩ := compile_outOf_eq_ok_iff.1 hgroups
    refine ⟨_, ⟨compiled, hcompiled, rfl⟩, ?_, (Group.offers_atLeast h).symm⟩
    rw [List.length_map]
    exact (Group.atLeast_eq_ok_iff.1 h).1
  · rintro ⟨_, ⟨compiled, hcompiled, rfl⟩, hrange, rfl⟩
    rw [List.length_map] at hrange
    have h := Group.atLeast_eq_ok_iff.2 ⟨hrange, rfl⟩
    exact ⟨_, compile_outOf_eq_ok_iff.2 ⟨compiled, hcompiled, h⟩, Group.offers_atLeast h⟩

theorem offers_outOf_of_perm {n : Int32} {rules rules' : List Rule} (h : rules.Perm rules')
    {S : Set Group} (hS : Offers ids (.outOf n rules) S) : Offers ids (.outOf n rules') S := by
  obtain ⟨parts, hparts, hrange, rfl⟩ := offers_outOf.1 hS
  obtain ⟨parts', hparts', hperm⟩ := List.perm_comp_forall₂ h.symm hparts
  exact offers_outOf.2 ⟨parts', hparts', by rwa [hperm.length_eq], Group.joint_perm hperm⟩

/-- The order of rules does not matter to what a rule offers. -/
theorem Reordered.offers_iff {rule rule' : Rule} (h : Reordered rule rule') {S : Set Group} :
    Offers ids rule S ↔ Offers ids rule' S := by
  induction h generalizing S with
  | refl => rfl
  | trans _ _ ih ih' => exact ih.trans ih'
  | node n h => exact ⟨offers_outOf_of_perm h, offers_outOf_of_perm h.symm⟩
  | within n before after _ ih =>
    rw [offers_outOf, offers_outOf]
    refine exists_congr fun parts => and_congr_left' (forall₂_congr_left ?_)
    exact List.rel_append (List.forall₂_same.2 fun _ _ _ => Iff.rfl)
      (.cons (fun _ => ih) (List.forall₂_same.2 fun _ _ _ => Iff.rfl))

end Rule

/-! ## Policies -/

namespace Policy

/-- Policies that differ only in how they are written down. -/
inductive Rewritten : Policy → Policy → Prop
  | refl (p : Policy) : Rewritten p p
  | symm {p q : Policy} : Rewritten p q → Rewritten q p
  | trans {p q r : Policy} : Rewritten p q → Rewritten q r → Rewritten p r
  /-- Rules stand in another order within their nodes. -/
  | reorder (version : Int32) (identities : List Principal) {rule rule' : Rule}
      (h : rule.Reordered rule') :
      Rewritten { version, rule := some rule, identities }
        { version, rule := some rule', identities }
  /-- Principals have other numbers. Those that were there are still there, and a
      number that led to no principal still leads to none. -/
  | renumber (version : Int32) (rule : Option Rule) {ids ids' : List Principal} (f : Int32 → Int32)
      (h : ∀ index, Principal.at? ids' (f index) = Principal.at? ids index) :
      Rewritten { version, rule, identities := ids }
        { version, rule := rule.map (·.renumber f), identities := ids' }
  /-- Principals are replaced by others that name the same organisation. -/
  | replace (version : Int32) (rule : Option Rule) {ids ids' : List Principal}
      (h : List.Forall₂ Principal.Interchangeable ids ids') :
      Rewritten { version, rule, identities := ids } { version, rule, identities := ids' }

/-- What a policy offers once it is compiled. -/
def Offers (p : Policy) (S : Set Group) : Prop :=
  ∃ rule, p.rule = some rule ∧ rule.Offers p.identities S

theorem offers_iff {p : Policy} {S : Set Group} : p.Offers S ↔
    ∃ groups, p.compile.run.value = .ok groups ∧ (Group.any groups).offers = S := by
  rw [Offers, compile]
  cases p.rule with
  | none => simp
  | some rule => simp [Rule.Offers]

/-- Policies that are written down differently offer the same. One difference leaves
    what is offered as it is, and so do more of them, one after the other. -/
theorem Rewritten.offers_iff {p q : Policy} (h : Rewritten p q) {S : Set Group} :
    p.Offers S ↔ q.Offers S := by
  induction h with
  | refl => rfl
  | symm _ ih => exact ih.symm
  | trans _ _ ih ih' => exact ih.trans ih'
  | reorder version identities h => simp [Offers, h.offers_iff]
  | @renumber version rule ids ids' f h =>
    have hmsp : ∀ index mspId, Principal.mspIdAt ids' (f index) = .ok mspId ↔
        Principal.mspIdAt ids index = .ok mspId := fun index mspId => by
      simp only [Principal.mspIdAt_eq_ok_iff_at?, h]
    cases rule with
    | none => simp [Offers]
    | some rule => simp [Offers, Rule.Offers, Rule.compile_renumber hmsp]
  | @replace version rule ids ids' h =>
    cases rule with
    | none => simp [Offers]
    | some rule =>
      -- The numbers stay as they are.
      have hrule : ∀ groups, (Rule.compile ids rule).run.value = .ok groups ↔
          (Rule.compile ids' rule).run.value = .ok groups := fun groups => by
        rw [← Rule.compile_renumber (f := id)
          (fun index mspId => (Principal.mspIdAt_congr h index mspId).symm), Rule.renumber_id]
      simp [Offers, Rule.Offers, hrule]

/-- How a policy is written down does not matter to whether it compiles, to how
    many alternatives it has, and, up to equality of groups, to which ones. -/
theorem alternatives_of_rewritten {p q : Policy} (h : Rewritten p q) :
    (p.Compiles ↔ q.Compiles) ∧
      ∀ groups groups', p.compile.run.value = .ok groups → q.compile.run.value = .ok groups' →
        (Group.any groups).reduce.length = (Group.any groups').reduce.length ∧
          (∀ a ∈ (Group.any groups).reduce, ∃ b ∈ (Group.any groups').reduce, a.same b = true) ∧
          ∀ b ∈ (Group.any groups').reduce, ∃ a ∈ (Group.any groups).reduce, a.same b = true := by
  have hcompiles : ∀ r : Policy, r.Compiles ↔ ∃ S, r.Offers S := fun r => by
    simp only [Policy.offers_iff]
    exact ⟨fun ⟨groups, h⟩ => ⟨_, groups, h, rfl⟩, fun ⟨_, groups, h, _⟩ => ⟨groups, h⟩⟩
  constructor
  · rw [hcompiles, hcompiles]
    exact exists_congr fun S => h.offers_iff
  · intro groups groups' hp hq
    obtain ⟨groups'', hq', hoffers⟩ :=
      Policy.offers_iff.1 (h.offers_iff.1 (Policy.offers_iff.2 ⟨groups, hp, rfl⟩))
    obtain rfl := Except.ok.inj (hq.symm.trans hq')
    exact Group.sameAll_iff.1 (Group.sameAll_reduce hoffers.symm)

/-- The policy that asks for one organisation together with one of two others. -/
def oneWithEither : Policy where
  rule := some (.outOf 2 [.signedBy 0, .outOf 1 [.signedBy 1, .signedBy 2]])
  identities := [.member "A", .member "B", .member "C"]

/-- The same policy with its rules and its principals in another order, and one
    of the organisations named by a unit of it. -/
def eitherWithOne : Policy where
  rule := some (.outOf 2 [.outOf 1 [.signedBy 0, .signedBy 1], .signedBy 2])
  identities := [.member "C", .ofUnit "B" "unit", .member "A"]

/-- One comes from the other in three steps: rules are reordered, principals are
    renumbered, and one of them is replaced. -/
theorem rewritten_oneWithEither : Rewritten oneWithEither eitherWithOne := by
  let f (i : Int32) : Int32 := if i = 0 then 2 else if i = 1 then 1 else if i = 2 then 0 else -1
  have hf : ∀ index, Principal.at? [.member "C", .member "B", .member "A"] (f index) =
      Principal.at? [.member "A", .member "B", .member "C"] index := by
    intro index
    by_cases h0 : index = 0
    · subst h0
      rfl
    by_cases h1 : index = 1
    · subst h1
      rfl
    by_cases h2 : index = 2
    · subst h2
      rfl
    -- No other number leads to a principal.
    have hnone : Principal.at? [.member "A", .member "B", .member "C"] index = none := by
      rw [← Int32.toInt_inj] at h0 h1 h2
      change index.toInt ≠ 0 at h0
      change index.toInt ≠ 1 at h1
      change index.toInt ≠ 2 at h2
      rw [Principal.at?]
      split
      · rfl
      · exact List.getElem?_eq_none (by simp only [List.length_cons, List.length_nil]; omega)
    rw [hnone, show f index = -1 by simp [f, h0, h1, h2]]
    rfl
  have hreplace : List.Forall₂ Principal.Interchangeable
      [.member "C", .member "B", .member "A"] [.member "C", .ofUnit "B" "unit", .member "A"] :=
    .cons (.inl rfl) (.cons (.inr ⟨"B", rfl, rfl⟩) (.cons (.inl rfl) .nil))
  have hreordered : Rule.Reordered (.outOf 2 [.signedBy 0, .outOf 1 [.signedBy 1, .signedBy 2]])
      (.outOf 2 [.outOf 1 [.signedBy 2, .signedBy 1], .signedBy 0]) :=
    .trans (.within 2 [.signedBy 0] [] (.node 1 (.swap ..))) (.node 2 (.swap ..))
  exact .trans (.reorder 0 _ hreordered) (.trans (.renumber 0 _ f hf) (.replace 0 _ hreplace))

/-- What a signature of an organisation compiles to. -/
def signatureOf (mspId : String) : Group := .any [.leaf (.msp mspId)]

/-- An organisation together with another. -/
def pairOf (first second : String) : Group := .all [.leaf (.msp first), .leaf (.msp second)]

/-- Both compile to the same two alternatives, in another order. -/
theorem alternatives_oneWithEither : Rewritten oneWithEither eitherWithOne ∧
    ∃ groups groups', oneWithEither.compile.run.value = .ok groups ∧
      eitherWithOne.compile.run.value = .ok groups' ∧
      (Group.any groups).reduce = [pairOf "A" "B", pairOf "A" "C"] ∧
      (Group.any groups').reduce = [pairOf "A" "C", pairOf "A" "B"] ∧
      Group.sameAll (Group.any groups).reduce (Group.any groups').reduce = true := by
  have hfirst : oneWithEither.compile.run.value = .ok [.all [signatureOf "A",
      .any [.all [signatureOf "B"], .all [signatureOf "C"]]]] := rfl
  have hsecond : eitherWithOne.compile.run.value = .ok [.all [
      .any [.all [signatureOf "C"], .all [signatureOf "B"]], signatureOf "A"]] := rfl
  refine ⟨rewritten_oneWithEither, _, _, hfirst, hsecond, ?_, ?_, ?_⟩
  · cbv
  · cbv
  · exact Group.sameAll_iff.2
      ((alternatives_of_rewritten rewritten_oneWithEither).2 _ _ hfirst hsecond)

end Policy

end Endorsement
