import Endorsement.Policy.Compile
import Endorsement.Proofs.Group.Alternatives

/-!
# What policies mean

A policy says which organisations have to sign: a rule that names a principal
is satisfied by a signature of its organisation, a rule that asks for a number
of rules if that many of them are satisfied, each position counted on its own.

* `Rule.satisfiedBy`, `Policy.satisfiedBy`: whether the signatures of
  organisations satisfy a rule or a policy;
* `Rule.compile_signedBy_eq_ok_iff`, `Rule.compile_outOf_eq_ok_iff`: what rules
  compile to;
* `Rule.exists_compile_holds`: the groups compiled from a rule mean the rule;
* `Policy.Compiles`, `Policy.group`: a policy as one group;
* `Policy.holds_group`: that group means the policy.
-/

namespace Endorsement

/-! ## Rules and policies -/

namespace Rule

mutual

/-- Whether the signatures of the organisations `orgs` satisfy a rule. -/
def satisfiedBy (identities : List Principal) (orgs : String → Bool) : Rule → Bool
  | .signedBy index =>
    decide (0 ≤ index.toInt) &&
      (identities[index.toInt.toNat]?.bind fun principal => principal.mspId.toOption).any orgs
  | .outOf n rules => decide (n.toInt ≤ satisfiedCount identities orgs rules)

/-- How many of the rules are satisfied. -/
def satisfiedCount (identities : List Principal) (orgs : String → Bool) : List Rule → Nat
  | [] => 0
  | rule :: rules =>
    (satisfiedBy identities orgs rule).toNat + satisfiedCount identities orgs rules

end

end Rule

/-- Whether the signatures of the organisations `orgs` satisfy a policy. -/
def Policy.satisfiedBy (orgs : String → Bool) (p : Policy) : Bool :=
  p.rule.any (·.satisfiedBy p.identities orgs)

/-! ## Compiled rules -/

namespace Logged

variable {ε α β : Type}

/-- What a computation that goes on after another succeeds with. -/
theorem value_bind_eq_ok {x : ExceptT ε Logged α} {f : α → ExceptT ε Logged β} {b : β} :
    (x >>= f).run.value = .ok b ↔ ∃ a, x.run.value = .ok a ∧ (f a).run.value = .ok b := by
  rw [ExceptT.run_bind, value_bind]
  cases x.run.value <;> simp

theorem value_ofExcept (e : Except ε α) :
    (MonadExcept.ofExcept e : ExceptT ε Logged α).run.value = e := by
  cases e <;> rfl

end Logged

theorem Principal.mspIdAt_eq_ok_iff {identities : List Principal} {index : Int32}
    {mspId : String} : mspIdAt identities index = .ok mspId ↔
      0 ≤ index.toInt ∧ (identities[index.toInt.toNat]?.bind fun principal =>
        principal.mspId.toOption) = some mspId := by
  rw [mspIdAt]
  split
  · simp [show ¬0 ≤ index.toInt by omega]
  · rw [and_iff_right (by omega)]
    cases identities[index.toInt.toNat]? with
    | none => simp
    | some principal => cases h : principal.mspId <;> simp [h, Except.toOption]

namespace Rule

variable {identities : List Principal}

theorem compile_signedBy_eq_ok_iff {index : Int32} {groups : List Group} :
    (compile identities (.signedBy index)).run.value = .ok groups ↔
      ∃ mspId, Principal.mspIdAt identities index = .ok mspId ∧ groups = [.leaf (.msp mspId)] := by
  rw [compile, Logged.value_bind_eq_ok]
  refine exists_congr fun mspId => ?_
  rw [Logged.value_ofExcept]
  refine and_congr_right fun _ => ?_
  change Except.ok [Group.leaf (.msp mspId)] = .ok groups ↔ _
  rw [Except.ok.injEq, eq_comm]

/-- Compiled rules are the disjunctions of what each rule is compiled to. -/
theorem compileEach_eq_ok_iff {rules : List Rule} {compiled : List Group} :
    (compileEach identities rules).run.value = .ok compiled ↔
      List.Forall₂ (fun r g => ∃ groups, (compile identities r).run.value = .ok groups ∧
        g = .any groups) rules compiled := by
  induction rules generalizing compiled with
  | nil =>
    rw [compileEach, List.forall₂_nil_left_iff]
    change Except.ok [] = .ok compiled ↔ _
    rw [Except.ok.injEq, eq_comm]
  | cons rule rules ih =>
    rw [compileEach, Logged.value_bind_eq_ok, List.forall₂_cons_left_iff]
    simp only [Logged.value_bind_eq_ok, ih]
    constructor
    · rintro ⟨groups, hgroups, rest, hrest, h⟩
      obtain rfl := Except.ok.inj h
      exact ⟨_, rest, ⟨groups, hgroups, rfl⟩, hrest, rfl⟩
    · rintro ⟨_, rest, ⟨groups, hgroups, rfl⟩, hrest, rfl⟩
      exact ⟨groups, hgroups, rest, hrest, rfl⟩

theorem compile_outOf_eq_ok_iff {n : Int32} {rules : List Rule} {groups : List Group} :
    (compile identities (.outOf n rules)).run.value = .ok groups ↔
      ∃ compiled, (compileEach identities rules).run.value = .ok compiled ∧
        Group.atLeast n compiled = .ok groups := by
  rw [compile, Logged.value_bind_eq_ok]
  simp only [Logged.value_ofExcept]

/-- A property of the disjunctions that rules are compiled to, rule by rule. -/
theorem forall₂_of_compileEach {R : Group → Rule → Prop} {rules : List Rule}
    {compiled : List Group} (h : (compileEach identities rules).run.value = .ok compiled)
    (hR : ∀ r ∈ rules, ∀ groups, (compile identities r).run.value = .ok groups →
      R (.any groups) r) : List.Forall₂ R compiled rules := by
  have hcompiled := compileEach_eq_ok_iff.1 h
  clear h
  induction hcompiled with
  | nil => exact .nil
  | cons hg _ ih =>
    obtain ⟨groups, hgroups, rfl⟩ := hg
    rw [List.forall_mem_cons] at hR
    exact .cons (hR.1 groups hgroups) (ih hR.2)

theorem satisfiedCount_eq_length {α : Type} {compiled : List α} {rules : List Rule}
    {orgs : String → Bool}
    (h : List.Forall₂ (fun _ r => r.satisfiedBy identities orgs = true) compiled rules) :
    satisfiedCount identities orgs rules = compiled.length := by
  induction h with
  | nil => rfl
  | cons hr _ ih => rw [satisfiedCount, hr, ih, Bool.toNat_true, List.length_cons, Nat.add_comm]

open Classical in
/-- Rules are satisfied position by position as the groups compiled from them
    hold. -/
theorem countP_holds {v : Valuation} {orgs : String → Bool} {compiled : List Group}
    {rules : List Rule}
    (h : List.Forall₂ (fun g r => g.Holds v ↔ r.satisfiedBy identities orgs = true)
      compiled rules) :
    compiled.countP (·.Holds v) = satisfiedCount identities orgs rules := by
  induction h with
  | nil => rfl
  | @cons g r compiled rules hgr _ ih =>
    rw [List.countP_cons, satisfiedCount, ih, Nat.add_comm]
    congr 1
    by_cases hr : r.satisfiedBy identities orgs = true
    · simp [hr, hgr.2 hr]
    · simp [hr, mt hgr.1 hr]

/-- The groups compiled from a rule hold iff the rule is satisfied. -/
theorem exists_compile_holds {v : Valuation} {orgs : String → Bool}
    (hv : ∀ mspId, v.leaf (.msp mspId) ↔ orgs mspId = true) {rule : Rule} {groups : List Group}
    (h : (rule.compile identities).run.value = .ok groups) :
    (∃ g ∈ groups, g.Holds v) ↔ rule.satisfiedBy identities orgs = true := by
  induction rule generalizing groups with
  | signedBy index =>
    obtain ⟨mspId, hmsp, rfl⟩ := compile_signedBy_eq_ok_iff.1 h
    obtain ⟨hindex, hprincipal⟩ := Principal.mspIdAt_eq_ok_iff.1 hmsp
    rw [satisfiedBy, hprincipal]
    simp [hindex, hv]
  | outOf n rules ih =>
    obtain ⟨compiled, hcompiled, h⟩ := compile_outOf_eq_ok_iff.1 h
    -- The compiled groups mean the rules one by one, so as many of them hold.
    have hrules : List.Forall₂ (fun g r => g.Holds v ↔ r.satisfiedBy identities orgs = true)
        compiled rules :=
      forall₂_of_compileEach hcompiled fun r hr groups hgroups =>
        Group.holds_any.trans (ih r hr hgroups)
    rw [Group.exists_atLeast_holds h, countP_holds hrules, satisfiedBy, decide_eq_true_iff]

/-- A rule that compiles is satisfied if all organisations sign. -/
theorem satisfiedBy_of_compile {rule : Rule} {groups : List Group}
    (h : (rule.compile identities).run.value = .ok groups) :
    rule.satisfiedBy identities (fun _ => true) = true := by
  induction rule generalizing groups with
  | signedBy index =>
    obtain ⟨mspId, hmsp, -⟩ := compile_signedBy_eq_ok_iff.1 h
    obtain ⟨hindex, hprincipal⟩ := Principal.mspIdAt_eq_ok_iff.1 hmsp
    rw [satisfiedBy, hprincipal]
    simp [hindex]
  | outOf n rules ih =>
    obtain ⟨compiled, hcompiled, h⟩ := compile_outOf_eq_ok_iff.1 h
    -- All rules are satisfied, and a threshold is no more than there are.
    have hrules : List.Forall₂ (fun _ r => r.satisfiedBy identities (fun _ => true) = true)
        compiled rules := forall₂_of_compileEach hcompiled fun r hr _ => ih r hr
    rw [satisfiedBy, decide_eq_true_iff, satisfiedCount_eq_length hrules]
    exact (Group.atLeast_eq_ok_iff.1 h).1.2

end Rule

/-! ## Compiled policies -/

namespace Policy

/-- A policy that is well formed. -/
def Compiles (p : Policy) : Prop :=
  ∃ groups, p.compile.run.value = .ok groups

/-- A policy as one group. -/
def group (p : Policy) : Except Failure Group :=
  p.compile.run.value.map .any

theorem Compiles.group {p : Policy} (h : p.Compiles) : ∃ g, p.group = .ok g := by
  obtain ⟨groups, hgroups⟩ := h
  exact ⟨.any groups, by rw [Policy.group, hgroups]; rfl⟩

theorem group_eq_ok_iff {p : Policy} {g : Group} :
    p.group = .ok g ↔ ∃ rule groups, p.rule = some rule ∧
      (rule.compile p.identities).run.value = .ok groups ∧ g = .any groups := by
  rw [group, compile]
  cases p.rule with
  | none => simp [Except.map]
  | some rule => cases h : (rule.compile p.identities).run.value <;> simp [Except.map, h, eq_comm]

/-- The group of a policy holds iff the policy is satisfied. -/
theorem holds_group {v : Valuation} {orgs : String → Bool}
    (hv : ∀ mspId, v.leaf (.msp mspId) ↔ orgs mspId = true) {p : Policy} {g : Group}
    (h : p.group = .ok g) : g.Holds v ↔ p.satisfiedBy orgs = true := by
  obtain ⟨rule, groups, hrule, hgroups, rfl⟩ := group_eq_ok_iff.1 h
  rw [Group.holds_any, Rule.exists_compile_holds hv hgroups, satisfiedBy, hrule, Option.any_some]

/-- A policy that compiles is satisfied if all organisations sign. -/
theorem satisfiedBy_of_group {p : Policy} {g : Group} (h : p.group = .ok g) :
    p.satisfiedBy (fun _ => true) = true := by
  obtain ⟨rule, groups, hrule, hgroups, rfl⟩ := group_eq_ok_iff.1 h
  rw [satisfiedBy, hrule, Option.any_some, Rule.satisfiedBy_of_compile hgroups]

/-- The group of a policy can hold. -/
theorem holds_always_of_group {p : Policy} {g : Group} (h : p.group = .ok g) :
    g.Holds .always := by
  have hiff : g.Holds .always ↔ p.satisfiedBy (fun _ => true) = true :=
    holds_group (by simp [Valuation.always]) h
  exact hiff.2 (satisfiedBy_of_group h)

end Policy

end Endorsement
