import Endorsement.Failure

/-!
# Endorsement policies

A policy is a tree of rules over a list of principals: a leaf asks for a
signature of the principal at an index, an inner node for a number of its rules
to be satisfied. A principal names an organisation, as one of its roles or of
its units; a principal that is a single identity is not supported.

* `Rule`, `Principal`, `Policy`: the parts of a policy and their wire format;
* `Principal.mspId`: the organisation that a principal names;
* `Principal.member`, `Principal.withRole`, `Principal.ofUnit`: principals for
  an organisation;
* `Policy.anyMember`: the policy satisfied by a member of any of the given
  organisations.
-/

namespace Endorsement

/-! ## Rules -/

/-- A node of a policy. -/
inductive Rule where
  /-- Satisfied by a signature of the principal at an index. -/
  | signedBy (index : Int32)
  /-- Satisfied if `n` of the rules are. -/
  | outOf (n : Int32) (rules : List Rule)
  deriving Repr

namespace Rule

/-- Induction over rules: a rule that asks for a number of rules has what all
    of these have. -/
@[elab_as_elim, induction_eliminator]
theorem induction {motive : Rule → Prop} (signedBy : ∀ index, motive (.signedBy index))
    (outOf : ∀ n rules, (∀ r ∈ rules, motive r) → motive (.outOf n rules)) : ∀ r, motive r
  | .signedBy index => signedBy index
  | .outOf n rules => outOf n rules fun r _ => induction signedBy outOf r

mutual

/-- The bytes of a rule. -/
def encode : Rule → List UInt8
  | .signedBy index => Wire.encodeForm 0 ++ Wire.encode index
  | .outOf n rules =>
    Wire.encodeForm 1 ++ Wire.encode n ++ Wire.littleEndian 8 rules.length ++ encodeAll rules

/-- The bytes of rules, one after the other. -/
def encodeAll : List Rule → List UInt8
  | [] => []
  | rule :: rules => encode rule ++ encodeAll rules

end

/-- Takes a rule of at most `depth` bytes off the front. Every level of a rule
    takes bytes of its own, so a rule that is deeper than it has bytes ends
    before it is complete. -/
def decodeWithin : (depth : Nat) → Wire.Decoder Rule
  | 0 => throw .endOfInput
  | depth + 1 => do
    match ← Wire.decodeForm 2 with
    | 0 => return .signedBy (← Wire.decode)
    | 1 =>
      let n ← Wire.decode
      return .outOf n (← Wire.decodeList (decodeWithin depth))

/-- Takes a rule off the front. -/
def decode : Wire.Decoder Rule := fun bytes => decodeWithin bytes.length bytes

instance : Wire Rule where
  encode := encode
  decode := decode

end Rule

/-! ## Principals -/

/-- How the bytes of a principal are to be read. -/
inductive PrincipalKind where
  /-- A role within an organisation. -/
  | role
  /-- A unit of an organisation. -/
  | organizationUnit
  /-- A single identity. -/
  | identity
  deriving DecidableEq, Repr

namespace PrincipalKind

/-- The name of a kind of principal. -/
def name : PrincipalKind → String
  | .role => "ROLE"
  | .organizationUnit => "ORGANIZATION_UNIT"
  | .identity => "IDENTITY"

instance : Wire PrincipalKind where
  encode
    | .role => Wire.encodeForm 0
    | .organizationUnit => Wire.encodeForm 1
    | .identity => Wire.encodeForm 2
  decode := do
    match ← Wire.decodeForm 3 with
    | 0 => return .role
    | 1 => return .organizationUnit
    | 2 => return .identity

end PrincipalKind

/-- A role within an organisation. -/
inductive Role where
  | member
  | admin
  | client
  | peer
  deriving DecidableEq, Repr

instance : Wire Role where
  encode
    | .member => Wire.encodeForm 0
    | .admin => Wire.encodeForm 1
    | .client => Wire.encodeForm 2
    | .peer => Wire.encodeForm 3
  decode := do
    match ← Wire.decodeForm 4 with
    | 0 => return .member
    | 1 => return .admin
    | 2 => return .client
    | 3 => return .peer

/-- A role of an organisation. -/
structure MspRole where
  mspId : String
  role : Role
  deriving DecidableEq, Repr

instance : Wire MspRole where
  encode r := Wire.encode r.mspId ++ Wire.encode r.role
  decode := do
    let mspId ← Wire.decode
    let role ← Wire.decode
    return { mspId, role }

/-- A unit of an organisation. -/
structure OrganizationUnit where
  mspId : String
  unit : String
  /-- The hash of the chain that certifies the unit. -/
  certifiers : List UInt8
  deriving DecidableEq, Repr

instance : Wire OrganizationUnit where
  encode u := Wire.encode u.mspId ++ Wire.encode u.unit ++ Wire.encode u.certifiers
  decode := do
    let mspId ← Wire.decode
    let unit ← Wire.decode
    let certifiers ← Wire.decode
    return { mspId, unit, certifiers }

/-- A principal that rules refer to. -/
structure Principal where
  kind : PrincipalKind
  /-- The encoded role, unit or identity. -/
  bytes : List UInt8
  deriving DecidableEq, Repr

namespace Principal

instance : Wire Principal where
  encode p := Wire.encode p.kind ++ Wire.encode p.bytes
  decode := do
    let kind ← Wire.decode
    let bytes ← Wire.decode
    return { kind, bytes }

/-- The organisation that a principal names. -/
def mspId (p : Principal) : Except Failure String :=
  match p.kind with
  | .role => ((Wire.read MspRole p.bytes).map MspRole.mspId).mapError Failure.ofWire
  | .organizationUnit =>
    ((Wire.read OrganizationUnit p.bytes).map OrganizationUnit.mspId).mapError Failure.ofWire
  | .identity => .error (.unsupportedPrincipal p.kind.name)

/-- A role of an organisation as a principal. -/
def withRole (mspId : String) (role : Role) : Principal :=
  ⟨.role, Wire.encode (MspRole.mk mspId role)⟩

/-- Any member of an organisation. -/
def member (mspId : String) : Principal :=
  withRole mspId .member

/-- A unit of an organisation as a principal. -/
def ofUnit (mspId unit : String) : Principal :=
  ⟨.organizationUnit, Wire.encode (OrganizationUnit.mk mspId unit [])⟩

end Principal

/-! ## Policies -/

/-- A policy: a rule, if there is one, and the principals it refers to. -/
structure Policy where
  version : Int32 := 0
  rule : Option Rule
  identities : List Principal
  deriving Repr

namespace Policy

instance : Wire Policy where
  encode p := Wire.encode p.version ++ Wire.encode p.rule ++ Wire.encode p.identities
  decode := do
    let version ← Wire.decode
    let rule ← Wire.decode
    let identities ← Wire.decode
    return { version, rule, identities }

/-- The policy held by bytes. -/
def ofBytes (bytes : List UInt8) : Except Failure Policy :=
  (Wire.read Policy bytes).mapError Failure.ofWire

/-- The greatest threshold. -/
def maxThreshold : Nat := 2147483647

/-- The policy satisfied by a member of any one of the organisations. -/
def anyMember (mspIds : List String) : Except Failure Policy :=
  let count := mspIds.length
  if maxThreshold < count then .error (.badThreshold (Int32.ofNat maxThreshold) count)
  else
    let rules := (List.range count).map fun i => Rule.signedBy (Int32.ofNat i)
    .ok { rule := some (.outOf 1 rules), identities := mspIds.map Principal.member }

end Policy

end Endorsement
