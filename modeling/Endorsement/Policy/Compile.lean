import Endorsement.Event
import Endorsement.Group.Reduce
import Endorsement.Policy.Basic

/-!
# Compiling policies

A policy becomes a disjunction of groups. A rule that asks for a signature
becomes the leaf of the organisation that its principal names; a rule that asks
for a number of rules becomes the choices of that number of compiled rules.

Rules are compiled from left to right, those of a node before its threshold is
looked at, and the first fault ends it: nothing is ever left of a policy that is
not well formed.

* `Rule.compile`, `Policy.compile`: the groups of a rule and of a policy;
* `Policy.compileBytes`: the groups of an encoded policy.
-/

namespace Endorsement

/-- The organisation named by the principal at an index. -/
def Principal.mspIdAt (identities : List Principal) (index : Int32) : Except Failure String :=
  if index.toInt < 0 then .error (.noSuchPrincipal index identities.length)
  else
    match identities[index.toInt.toNat]? with
    | some principal => principal.mspId
    | none => .error (.noSuchPrincipal index identities.length)

namespace Rule

mutual

/-- The groups of a rule, any one of which satisfies it. -/
def compile (identities : List Principal) : Rule → ExceptT Failure Logged (List Group)
  | .signedBy index => do
    let mspId ← MonadExcept.ofExcept (Principal.mspIdAt identities index)
    report (.leafCompiled mspId)
    return [.leaf (.msp mspId)]
  | .outOf n rules => do
    let compiled ← compileEach identities rules
    MonadExcept.ofExcept (Group.atLeast n compiled)

/-- The disjunction of each of the rules, up to the first fault. -/
def compileEach (identities : List Principal) : List Rule → ExceptT Failure Logged (List Group)
  | [] => return []
  | rule :: rules => do
    let groups ← compile identities rule
    return .any groups :: (← compileEach identities rules)

end

end Rule

namespace Policy

/-- The groups of a policy, any one of which satisfies it. -/
def compile (p : Policy) : ExceptT Failure Logged (List Group) :=
  match p.rule with
  | none => throw .missingRule
  | some rule => rule.compile p.identities

/-- The groups of an encoded policy. -/
def compileBytes (bytes : List UInt8) : ExceptT Failure Logged (List Group) := do
  let policy ← MonadExcept.ofExcept (ofBytes bytes)
  policy.compile

end Policy

end Endorsement
