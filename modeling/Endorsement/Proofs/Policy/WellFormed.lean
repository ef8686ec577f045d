import Endorsement.Proofs.Policy.Rewriting
import Endorsement.Proofs.Selection.Joint

/-!
# Well-formed policies

A policy is well formed if it has a rule, and if of every rule in it what it
asks for is there: the principal that it refers to, naming an organisation, or
as many rules as it wants satisfied. It does not matter whether a rule is needed
to satisfy the policy, and principals that no rule refers to do not matter
either.

* `Rule.parts`: the rules within a rule, in the order in which they are compiled;
* `Principal.Unnamed`, `Rule.Fault`: what may be wrong with a principal, and with
  a rule on its own;
* `Rule.FirstFault`, `Rule.compile_decides`: a rule compiles if there is no fault
  among its parts, and fails with the first of them if there is;
* `Policy.compiles_or_first_fault`: the same for policies, which have alternatives
  if they compile, each on its own and all of them together.
-/

namespace Endorsement

/-! ## Bytes that are read -/

namespace Failure

variable {α : Type} {x : Except Wire.Fault α}

theorem mapError_ofWire_eq_ok_iff {a : α} : x.mapError ofWire = .ok a ↔ x = .ok a := by
  cases x <;> simp [Except.mapError]

theorem mapError_ofWire_eq_error_iff {failure : Failure} : x.mapError ofWire = .error failure ↔
    ∃ fault, x = .error fault ∧ .undecodable fault.message = failure := by
  cases x <;> simp [Except.mapError, ofWire]

end Failure

/-! ## Principals -/

namespace Principal

/-- A role or a unit whose bytes can be read. -/
def Named (p : Principal) : Prop :=
  (p.kind = .role ∧ ∃ role, Wire.read MspRole p.bytes = .ok role) ∨
    (p.kind = .organizationUnit ∧ ∃ unit, Wire.read OrganizationUnit p.bytes = .ok unit)

/-- Why a principal names no organisation. -/
inductive Unnamed (p : Principal) : Failure → Prop
  | identity (h : p.kind = .identity) : Unnamed p (.unsupportedPrincipal "IDENTITY")
  | role {fault : Wire.Fault} (h : p.kind = .role) (hread : Wire.read MspRole p.bytes = .error fault) :
      Unnamed p (.undecodable fault.message)
  | unit {fault : Wire.Fault} (h : p.kind = .organizationUnit)
      (hread : Wire.read OrganizationUnit p.bytes = .error fault) :
      Unnamed p (.undecodable fault.message)

/-- What is read for a name fails only where the bytes do. -/
theorem name_eq_error_iff {α : Type} {x : Except Wire.Fault α} {name : α → String}
    {failure : Failure} : (x.map name).mapError Failure.ofWire = .error failure ↔
      ∃ fault, x = .error fault ∧ .undecodable fault.message = failure := by
  rw [Failure.mapError_ofWire_eq_error_iff]
  cases x <;> simp [Except.map]

theorem exists_name_iff {α : Type} {x : Except Wire.Fault α} {name : α → String} :
    (∃ mspId, (x.map name).mapError Failure.ofWire = .ok mspId) ↔ ∃ a, x = .ok a := by
  simp only [Failure.mapError_ofWire_eq_ok_iff]
  cases x <;> simp [Except.map]

theorem exists_mspId_iff {p : Principal} : (∃ mspId, p.mspId = .ok mspId) ↔ p.Named := by
  rw [mspId, Named]
  cases p.kind with
  | role => simp only [exists_name_iff, reduceCtorEq, false_and, or_false, true_and]
  | organizationUnit => simp only [exists_name_iff, reduceCtorEq, false_and, false_or, true_and]
  | identity => simp

/-- A principal is unnamed iff its organisation cannot be read, with the same failure. -/
theorem mspId_eq_error_iff {p : Principal} {failure : Failure} :
    p.mspId = .error failure ↔ p.Unnamed failure := by
  constructor
  · intro h
    rw [mspId] at h
    split at h
    · rename_i hkind
      obtain ⟨fault, hread, rfl⟩ := name_eq_error_iff.1 h
      exact .role hkind hread
    · rename_i hkind
      obtain ⟨fault, hread, rfl⟩ := name_eq_error_iff.1 h
      exact .unit hkind hread
    · rename_i hkind
      obtain rfl := Except.error.inj h
      rw [hkind]
      exact .identity hkind
  · intro h
    cases h with
    | identity h => rw [mspId, h]; rfl
    | role h hread => rw [mspId, h]; exact name_eq_error_iff.2 ⟨_, hread, rfl⟩
    | unit h hread => rw [mspId, h]; exact name_eq_error_iff.2 ⟨_, hread, rfl⟩

end Principal

/-! ## Rules -/

namespace Rule

mutual

/-- The rules within a rule, from left to right and the rule itself last. -/
def parts : Rule → List Rule
  | .signedBy index => [.signedBy index]
  | .outOf n rules => partsOfEach rules ++ [.outOf n rules]

/-- The rules within each of some rules. -/
def partsOfEach : List Rule → List Rule
  | [] => []
  | rule :: rules => parts rule ++ partsOfEach rules

end

variable (identities : List Principal)

/-- What a rule asks for is there, whatever the rules within it: the principal
    that it refers to, which names an organisation, or as many rules as it wants
    satisfied, and at least one. -/
def Sound : Rule → Prop
  | .signedBy index =>
    0 ≤ index.toInt ∧ ∃ p, identities[index.toInt.toNat]? = some p ∧ p.Named
  | .outOf n rules => 1 ≤ n.toInt ∧ n.toInt ≤ rules.length

/-- What is wrong with a rule, whatever the rules within it. -/
inductive Fault : Rule → Failure → Prop
  | outOfRange {index : Int32} (h : index.toInt < 0 ∨ identities.length ≤ index.toInt) :
      Fault (.signedBy index) (.noSuchPrincipal index identities.length)
  | unnamed {index : Int32} {p : Principal} {failure : Failure} (hindex : 0 ≤ index.toInt)
      (hp : identities[index.toInt.toNat]? = some p) (h : p.Unnamed failure) :
      Fault (.signedBy index) failure
  | threshold {n : Int32} {rules : List Rule} (h : n.toInt < 1 ∨ rules.length < n.toInt) :
      Fault (.outOf n rules) (.badThreshold n rules.length)

/-- The first fault among some rules. -/
inductive FirstFault : List Rule → Failure → Prop
  | here {rule : Rule} {rules : List Rule} {failure : Failure} (h : rule.Fault identities failure) :
      FirstFault (rule :: rules) failure
  | later {rule : Rule} {rules : List Rule} {failure : Failure} (h : rule.Sound identities)
      (hrest : FirstFault rules failure) : FirstFault (rule :: rules) failure

variable {identities}

/-! ### A rule on its own -/

theorem sound_signedBy_iff {index : Int32} : (signedBy index).Sound identities ↔
    ∃ mspId, Principal.mspIdAt identities index = .ok mspId := by
  simp only [Sound, Principal.mspIdAt_eq_ok_iff_at?, Principal.at?_eq_some_iff,
    ← Principal.exists_mspId_iff]
  constructor
  · rintro ⟨hindex, p, hp, mspId, h⟩
    exact ⟨mspId, p, ⟨hindex, hp⟩, h⟩
  · rintro ⟨mspId, p, ⟨hindex, hp⟩, h⟩
    exact ⟨hindex, p, hp, mspId, h⟩

/-- A signature is at fault iff no organisation is found for its index. -/
theorem fault_signedBy_iff {index : Int32} {failure : Failure} :
    Fault identities (.signedBy index) failure ↔
      Principal.mspIdAt identities index = .error failure := by
  rw [Principal.mspIdAt]
  constructor
  · intro h
    cases h with
    | outOfRange h =>
      split
      · rfl
      · rw [List.getElem?_eq_none (by omega)]
    | unnamed hindex hp h =>
      rw [if_neg (by omega), hp]
      exact Principal.mspId_eq_error_iff.2 h
  · intro h
    split at h
    · rename_i hneg
      cases h
      exact .outOfRange (.inl hneg)
    · split at h
      · rename_i p hp
        exact .unnamed (by omega) hp (Principal.mspId_eq_error_iff.1 h)
      · rename_i hnone
        cases h
        have := List.getElem?_eq_none_iff.1 hnone
        exact .outOfRange (.inr (by omega))

theorem Fault.not_sound {rule : Rule} {failure : Failure} (h : rule.Fault identities failure) :
    ¬rule.Sound identities := by
  intro hsound
  cases rule with
  | signedBy index =>
    obtain ⟨mspId, hmsp⟩ := sound_signedBy_iff.1 hsound
    rw [fault_signedBy_iff, hmsp] at h
    cases h
  | outOf n rules =>
    obtain ⟨hpos, hle⟩ := hsound
    cases h with
    | threshold h => omega

/-- Nothing has two faults. -/
theorem Fault.unique {rule : Rule} {failure failure' : Failure} (h : rule.Fault identities failure)
    (h' : rule.Fault identities failure') : failure = failure' := by
  cases rule with
  | signedBy index =>
    rw [fault_signedBy_iff] at h h'
    exact Except.error.inj (h.symm.trans h')
  | outOf n rules =>
    cases h with
    | threshold _ => cases h' with | threshold _ => rfl

/-! ### Faults among rules -/

namespace FirstFault

variable {rules : List Rule} {failure failure' : Failure}

theorem not_sound (h : FirstFault identities rules failure) :
    ¬∀ rule ∈ rules, rule.Sound identities := by
  induction h with
  | here h => exact fun hsound => h.not_sound (hsound _ (.head _))
  | later _ _ ih => exact fun hsound => ih fun rule hrule => hsound rule (.tail _ hrule)

theorem unique (h : FirstFault identities rules failure)
    (h' : FirstFault identities rules failure') : failure = failure' := by
  induction h with
  | here h =>
    cases h' with
    | here h' => exact h.unique h'
    | later hsound _ => exact absurd hsound h.not_sound
  | later hsound _ ih =>
    cases h' with
    | here h' => exact absurd hsound h'.not_sound
    | later _ hrest => exact ih hrest

theorem append_right (h : FirstFault identities rules failure) (rest : List Rule) :
    FirstFault identities (rules ++ rest) failure := by
  induction h with
  | here h => exact .here h
  | later hsound _ ih => exact .later hsound ih

theorem append_left {before : List Rule} (hbefore : ∀ rule ∈ before, rule.Sound identities)
    (h : FirstFault identities rules failure) :
    FirstFault identities (before ++ rules) failure := by
  induction before with
  | nil => exact h
  | cons rule before ih =>
    rw [List.forall_mem_cons] at hbefore
    exact .later hbefore.1 (ih hbefore.2)

end FirstFault

/-- An outcome that is decided by some rules: there is a result if nothing is
    wrong with any of them, else the first fault. -/
inductive Decides (identities : List Principal) (rules : List Rule) {α : Type} :
    Except Failure α → Prop
  | ok {a : α} (h : ∀ rule ∈ rules, rule.Sound identities) : Decides identities rules (.ok a)
  | error {failure : Failure} (h : FirstFault identities rules failure) :
      Decides identities rules (.error failure)

namespace Decides

variable {α β : Type} {rules before : List Rule}

theorem exists_ok_iff {x : Except Failure α} (h : Decides identities rules x) :
    (∃ a, x = .ok a) ↔ ∀ rule ∈ rules, rule.Sound identities := by
  cases h with
  | ok h => exact iff_of_true ⟨_, rfl⟩ h
  | error h => exact iff_of_false (by simp) h.not_sound

theorem eq_error_iff {x : Except Failure α} (h : Decides identities rules x) {failure : Failure} :
    x = .error failure ↔ FirstFault identities rules failure := by
  cases h with
  | ok h => exact iff_of_false (by simp) fun hfault => hfault.not_sound h
  | error h =>
    constructor
    · rintro ⟨⟩
      exact h
    · intro h'
      rw [h.unique h']

/-- What goes on after rules have decided is decided by them and then by what
    decides the rest. -/
theorem bind {x : ExceptT Failure Logged α} {f : α → ExceptT Failure Logged β}
    (hx : Decides identities before x.run.value)
    (hf : ∀ a, x.run.value = .ok a → Decides identities rules (f a).run.value) :
    Decides identities (before ++ rules) (x >>= f).run.value := by
  rw [ExceptT.run_bind, Logged.value_bind]
  cases hvalue : x.run.value with
  | error failure => exact .error ((hx.eq_error_iff.1 hvalue).append_right rules)
  | ok a =>
    have hbefore := hx.exists_ok_iff.1 ⟨a, hvalue⟩
    cases hrest : (f a).run.value with
    | error failure =>
      exact .error (((hf a hvalue).eq_error_iff.1 hrest).append_left hbefore)
    | ok b =>
      exact .ok (List.forall_mem_append.2 ⟨hbefore, (hf a hvalue).exists_ok_iff.1 ⟨b, hrest⟩⟩)

end Decides

/-! ### Compiling -/

/-- A reference is followed iff it leads to a principal that names an
    organisation. -/
theorem decides_mspIdAt (index : Int32) :
    Decides identities [.signedBy index] (Principal.mspIdAt identities index) := by
  cases h : Principal.mspIdAt identities index with
  | ok mspId => exact .ok (List.forall_mem_singleton.2 (sound_signedBy_iff.2 ⟨mspId, h⟩))
  | error failure => exact .error (.here (fault_signedBy_iff.2 h))

/-- As many groups as there are rules: their threshold decides. -/
theorem decides_atLeast (n : Int32) {rules : List Rule} {compiled : List Group}
    (hlen : compiled.length = rules.length) :
    Decides identities [.outOf n rules] (Group.atLeast n compiled) := by
  cases h : Group.atLeast n compiled with
  | ok chosen =>
    refine .ok (List.forall_mem_singleton.2 ?_)
    have hrange := (Group.atLeast_eq_ok_iff.1 h).1
    rw [Sound]
    omega
  | error failure =>
    obtain ⟨hrange, rfl⟩ := Group.atLeast_eq_error_iff.1 h
    rw [hlen] at hrange ⊢
    exact .error (.here (.threshold (by omega)))

theorem decides_compileEach {rules : List Rule}
    (h : ∀ rule ∈ rules, Decides identities rule.parts (compile identities rule).run.value) :
    Decides identities (partsOfEach rules) (compileEach identities rules).run.value := by
  induction rules with
  | nil => exact .ok (by simp [partsOfEach])
  | cons rule rules ih =>
    rw [List.forall_mem_cons] at h
    rw [compileEach, partsOfEach]
    refine h.1.bind fun groups _ => ?_
    rw [← List.append_nil (partsOfEach rules)]
    exact (ih h.2).bind fun _ _ => .ok (by simp)

/-- A rule compiles if there is no fault in it, and fails with the first one
    otherwise: whatever a threshold would need, all rules of a node are looked
    at, and then the threshold. -/
theorem compile_decides (identities : List Principal) (rule : Rule) :
    Decides identities rule.parts (compile identities rule).run.value := by
  induction rule with
  | signedBy index =>
    have hprincipal : Decides identities [.signedBy index]
        (MonadExcept.ofExcept (Principal.mspIdAt identities index) :
          ExceptT Failure Logged String).run.value := by
      rw [Logged.value_ofExcept]
      exact decides_mspIdAt index
    rw [compile, parts, ← List.append_nil [signedBy index]]
    exact hprincipal.bind fun _ _ => .ok (by simp)
  | outOf n rules ih =>
    rw [compile, parts]
    refine (decides_compileEach ih).bind fun compiled hcompiled => ?_
    rw [Logged.value_ofExcept]
    exact decides_atLeast n (compileEach_eq_ok_iff.1 hcompiled).length_eq.symm

/-- Whether a rule on its own is sound depends on the principal it refers to and
    on no other. -/
theorem sound_congr {ids ids' : List Principal} {rule : Rule}
    (h : ∀ index, rule = .signedBy index → Principal.at? ids index = Principal.at? ids' index) :
    rule.Sound ids ↔ rule.Sound ids' := by
  cases rule with
  | signedBy index =>
    simp only [sound_signedBy_iff, Principal.mspIdAt_eq_ok_iff_at?, h index rfl]
  | outOf n rules => rfl

end Rule

/-! ## Policies -/

namespace Policy

/-- A policy with a rule that nothing is wrong with. -/
def WellFormed (p : Policy) : Prop :=
  ∃ rule, p.rule = some rule ∧ ∀ r ∈ rule.parts, r.Sound p.identities

/-- The first thing that is wrong with a policy. -/
inductive FirstFault (p : Policy) : Failure → Prop
  | missing (h : p.rule = none) : FirstFault p .missingRule
  | within {rule : Rule} {failure : Failure} (h : p.rule = some rule)
      (hfault : Rule.FirstFault p.identities rule.parts failure) : FirstFault p failure

/-- A policy compiles iff it is well formed. -/
theorem compiles_iff {p : Policy} : p.Compiles ↔ p.WellFormed := by
  rw [Compiles, WellFormed, compile]
  cases p.rule with
  | none => simp
  | some rule =>
    rw [(Rule.compile_decides p.identities rule).exists_ok_iff]
    simp

/-- A policy fails to compile with its first fault. -/
theorem compile_eq_error_iff {p : Policy} {failure : Failure} :
    p.compile.run.value = .error failure ↔ p.FirstFault failure := by
  rw [compile]
  split
  · rename_i hrule
    constructor
    · rintro ⟨⟩
      exact .missing hrule
    · rintro (_ | ⟨h, _⟩)
      · rfl
      · rw [hrule] at h
        cases h
  · rename_i rule hrule
    rw [(Rule.compile_decides p.identities rule).eq_error_iff]
    constructor
    · exact .within hrule
    · rintro (h | ⟨h, hfault⟩)
      · rw [hrule] at h
        cases h
      · obtain rfl := Option.some.inj (hrule.symm.trans h)
        exact hfault

theorem group_eq_error_iff {p : Policy} {failure : Failure} :
    p.group = .error failure ↔ p.FirstFault failure := by
  rw [← compile_eq_error_iff, group]
  cases p.compile.run.value <;> simp [Except.map]

/-- Principals that no rule refers to do not matter. -/
theorem wellFormed_congr {version version' : Int32} {rule : Rule} {ids ids' : List Principal}
    (h : ∀ index, .signedBy index ∈ rule.parts →
      Principal.at? ids index = Principal.at? ids' index) :
    WellFormed ⟨version, some rule, ids⟩ ↔ WellFormed ⟨version', some rule, ids'⟩ := by
  simp only [WellFormed, Option.some.injEq, exists_eq_left']
  refine forall₂_congr fun r hr => Rule.sound_congr fun index hindex => ?_
  subst hindex
  exact h index hr

/-- A policy that compiles has alternatives. -/
theorem reduce_ne_nil_of_compile {p : Policy} {groups : List Group}
    (h : p.compile.run.value = .ok groups) : (Group.any groups).reduce ≠ [] := by
  have hgroup : p.group = .ok (.any groups) := by
    rw [group, h]
    rfl
  rw [Ne, Resolver.reduce_eq_nil_iff, not_not]
  exact holds_always_of_group hgroup

end Policy

namespace Resolver

/-- Groups that can be reduced to something have alternatives. -/
theorem exists_alternativesOf {groups : List Group} (h : (Group.any groups).reduce ≠ []) :
    ∃ alternatives, (alternativesOf groups).run.value = .ok alternatives ∧ alternatives ≠ [] :=
  ⟨_, by rw [value_alternativesOf, if_neg h], h⟩

end Resolver

namespace Policy

/-- Exactly the well-formed policies compile, for which principals that no rule
    refers to do not matter, and the others fail with the first fault. What
    compiles has alternatives, each policy on its own and any number of them
    together. -/
theorem compiles_or_first_fault :
    (∀ p : Policy, p.Compiles ↔ p.WellFormed) ∧
      (∀ (p : Policy) (failure : Failure),
        p.compile.run.value = .error failure ↔ p.FirstFault failure) ∧
      (∀ (p q : Policy) (rule : Rule), p.rule = some rule → q.rule = some rule →
        (∀ index, .signedBy index ∈ rule.parts →
          Principal.at? p.identities index = Principal.at? q.identities index) →
        (p.Compiles ↔ q.Compiles)) ∧
      (∀ (p : Policy) (groups : List Group), p.compile.run.value = .ok groups →
        ∃ alternatives, (Resolver.alternativesOf groups).run.value = .ok alternatives ∧
          alternatives ≠ []) ∧
      ∀ (policies : List Policy) (groups combined : List Group),
        List.Forall₂ (fun g p => p.group = .ok g) groups policies →
        Selection.Service.allOf groups = .ok combined →
        ∃ alternatives, (Resolver.alternativesOf combined).run.value = .ok alternatives ∧
          alternatives ≠ [] := by
  refine ⟨fun p => compiles_iff, fun p failure => compile_eq_error_iff, ?_, ?_, ?_⟩
  · rintro ⟨version, _, ids⟩ ⟨version', _, ids'⟩ rule ⟨⟩ ⟨⟩ h
    rw [compiles_iff, compiles_iff]
    exact wellFormed_congr h
  · intro p groups h
    exact Resolver.exists_alternativesOf (reduce_ne_nil_of_compile h)
  · intro policies groups combined hgroups hcombined
    exact Resolver.exists_alternativesOf
      (Selection.Service.reduce_ne_nil_of_allOf hcombined (Selection.forall_holds_always hgroups))

/-- A policy with two faults: a rule refers to no principal, and more rules are
    wanted than there are. -/
def twiceFaulty : Policy where
  rule := some (.outOf 3 [.signedBy 0, .outOf 1 [.signedBy 7]])
  identities := [.member "A"]

/-- `oneWithEither` with a principal that is a single identity, which no rule
    refers to. -/
def withStranger : Policy :=
  { oneWithEither with identities := oneWithEither.identities ++ [⟨.identity, []⟩] }

/-- The fault that comes first is reported, and a principal that no rule refers to does
    no harm. -/
theorem first_fault_of_two :
    twiceFaulty.compile.run.value = .error (.noSuchPrincipal 7 1) ∧ withStranger.Compiles ∧
      ∃ groups combined alternatives, oneWithEither.group = .ok (.any groups) ∧
        Selection.Service.allOf [.any groups, .any groups] = .ok combined ∧
        (Resolver.alternativesOf combined).run.value = .ok alternatives ∧ alternatives ≠ [] := by
  obtain ⟨-, hfault, hcongr, -, hjoint⟩ := compiles_or_first_fault
  have hmember : (Principal.member "A").Named := Principal.exists_mspId_iff.1 ⟨"A", rfl⟩
  refine ⟨?_, ?_, ?_⟩
  · refine (hfault _ _).2 (.within rfl (.later ?_ (.here (.outOfRange (.inr (by decide))))))
    exact ⟨by decide, _, rfl, hmember⟩
  · refine (hcongr oneWithEither withStranger _ rfl rfl fun index hindex => ?_).1 ⟨_, rfl⟩
    -- The rules refer to the principals numbered 0, 1 and 2.
    have hcases : index = 0 ∨ index = 1 ∨ index = 2 := by
      simpa [Rule.parts, Rule.partsOfEach] using hindex
    rcases hcases with rfl | rfl | rfl <;> rfl
  · obtain ⟨groups, hgroups⟩ : ∃ groups, oneWithEither.group = .ok (.any groups) := ⟨_, rfl⟩
    obtain ⟨combined, hcombined⟩ :=
      Selection.Service.exists_allOf (List.cons_ne_nil (.any groups) [.any groups]) (by simp)
    obtain ⟨alternatives, h⟩ := hjoint [oneWithEither, oneWithEither] _ combined
      (.cons hgroups (.cons hgroups .nil)) hcombined
    exact ⟨groups, combined, alternatives, hgroups, hcombined, h⟩

end Policy

end Endorsement
