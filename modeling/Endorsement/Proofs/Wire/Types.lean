import Endorsement.Chaincode.Cache
import Endorsement.Gossip
import Endorsement.Policy.Basic
import Endorsement.Proofs.Wire.Basic

/-!
# The types that travel

Every type of the library that travels as bytes obeys the law of the format: a
record by its fields, a type of several forms by the contents of each, and rules
by induction on the depth down to which they are decoded.

* `Described` and `Lawful` for each of the types;
* `Rule.depth`, `Rule.depth_le_length_encode`: how deep a rule is, which is no more
  than it has bytes;
* `Rule.takes_decodeWithin`: what the decoder for a depth takes off.
-/

namespace Endorsement

open Wire

/-! ## Peers and chaincodes -/

instance : Described Peer where
  datum p := .record [datum p.url, datum p.mspId, datum p.ledgerHeight, datum p.roles]

instance : Lawful Peer := .record (fun _ => rfl)
  (fun p => append_eq_bytesOfAll (append_eq_bytesOfAll (append_eq_bytesOfAll
    (encode_eq_bytesOfAll p.url) p.mspId) p.ledgerHeight) p.roles)
  fun p => .field p.url fun _ => .field p.mspId fun _ => .field p.ledgerHeight fun _ =>
    .field p.roles fun _ => .done (by cases p; simp [and_assoc, eq_comm])

instance : Described Chaincode where
  datum c := .record [datum c.name, datum c.version, datum c.policy]

instance : Lawful Chaincode := .record (fun _ => rfl)
  (fun c => append_eq_bytesOfAll (append_eq_bytesOfAll (encode_eq_bytesOfAll c.name) c.version)
    c.policy)
  fun c => .field c.name fun _ => .field c.version fun _ => .field c.policy fun _ =>
    .done (by cases c; simp [and_assoc, eq_comm])

/-! ## Gossip -/

namespace Gossip

instance : Described PkiId where
  datum id := .record [datum id.bytes]

instance : Lawful PkiId := .record (fun _ => rfl) (fun id => encode_eq_bytesOfAll id.bytes)
  fun id => .field id.bytes fun _ => .done (by cases id; simp [eq_comm])

instance : Described Envelope where
  datum e := .record [datum e.payload, datum e.signature]

instance : Lawful Envelope := .record (fun _ => rfl)
  (fun e => append_eq_bytesOfAll (encode_eq_bytesOfAll e.payload) e.signature)
  fun e => .field e.payload fun _ => .field e.signature fun _ =>
    .done (by cases e; simp [eq_comm])

/-- The position of a kind of data update. -/
def PullKind.position : PullKind → Fin 3
  | .undefined => 0
  | .block => 1
  | .identity => 2

instance : Described PullKind where
  datum kind := .form kind.position []

instance : Lawful PullKind := .forms (by decide) (fun _ => rfl)
  (fun kind => by cases kind <;> rfl) rfl
  (fun
    | 0 => .pure rfl
    | 1 => .pure rfl
    | 2 => .pure rfl)
  fun
    | .undefined => .done (by simp)
    | .block => .done (by simp)
    | .identity => .done (by simp)

/-- The position of a form of content. -/
def Content.position : Content → Fin 3
  | .dataUpdate .. => 0
  | .alive _ => 1
  | .other => 2

/-- What a form of content holds. -/
def Content.contents : Content → List Datum
  | .dataUpdate kind data => [datum kind, datum data]
  | .alive pkiId => [datum pkiId]
  | .other => []

instance : Described Content where
  datum c := .form c.position c.contents

instance : Lawful Content := .forms (by decide) (fun _ => rfl)
  (fun
    | .dataUpdate kind data => (List.append_assoc ..).trans
      (congrArg (encodeForm 0 ++ ·) (append_eq_bytesOfAll (encode_eq_bytesOfAll kind) data))
    | .alive pkiId => congrArg (encodeForm 1 ++ ·) (encode_eq_bytesOfAll pkiId)
    | .other => rfl)
  rfl
  (fun
    | 0 => .bind fun _ => .bind fun _ => .pure rfl
    | 1 => .bind fun _ => .pure rfl
    | 2 => .pure rfl)
  fun
    | .dataUpdate kind data => .field kind fun _ => .field data fun _ =>
      .done (by simp [eq_comm])
    | .alive pkiId => .field pkiId fun _ => .done (by simp [eq_comm])
    | .other => .done (by simp)

instance : Described Message where
  datum m := .record [datum m.channel, datum m.content]

instance : Lawful Message := .record (fun _ => rfl)
  (fun m => append_eq_bytesOfAll (encode_eq_bytesOfAll m.channel) m.content)
  fun m => .field m.channel fun _ => .field m.content fun _ =>
    .done (by cases m; simp [eq_comm])

instance : Described Certificate where
  datum c := .record [datum c.mspId, datum c.bytes]

instance : Lawful Certificate := .record (fun _ => rfl)
  (fun c => append_eq_bytesOfAll (encode_eq_bytesOfAll c.mspId) c.bytes)
  fun c => .field c.mspId fun _ => .field c.bytes fun _ => .done (by cases c; simp [eq_comm])

instance : Described PeerIdentity where
  datum i := .record [datum i.pkiId, datum i.certificate]

instance : Lawful PeerIdentity := .record (fun _ => rfl)
  (fun i => append_eq_bytesOfAll (encode_eq_bytesOfAll i.pkiId) i.certificate)
  fun i => .field i.pkiId fun _ => .field i.certificate fun _ =>
    .done (by cases i; simp [eq_comm])

end Gossip

/-! ## Principals -/

/-- The position of a kind of principal. -/
def PrincipalKind.position : PrincipalKind → Fin 3
  | .role => 0
  | .organizationUnit => 1
  | .identity => 2

instance : Described PrincipalKind where
  datum kind := .form kind.position []

instance : Lawful PrincipalKind := .forms (by decide) (fun _ => rfl)
  (fun kind => by cases kind <;> rfl) rfl
  (fun
    | 0 => .pure rfl
    | 1 => .pure rfl
    | 2 => .pure rfl)
  fun
    | .role => .done (by simp)
    | .organizationUnit => .done (by simp)
    | .identity => .done (by simp)

/-- The position of a role. -/
def Role.position : Role → Fin 4
  | .member => 0
  | .admin => 1
  | .client => 2
  | .peer => 3

instance : Described Role where
  datum role := .form role.position []

instance : Lawful Role := .forms (by decide) (fun _ => rfl)
  (fun role => by cases role <;> rfl) rfl
  (fun
    | 0 => .pure rfl
    | 1 => .pure rfl
    | 2 => .pure rfl
    | 3 => .pure rfl)
  fun
    | .member => .done (by simp)
    | .admin => .done (by simp)
    | .client => .done (by simp)
    | .peer => .done (by simp)

instance : Described MspRole where
  datum r := .record [datum r.mspId, datum r.role]

instance : Lawful MspRole := .record (fun _ => rfl)
  (fun r => append_eq_bytesOfAll (encode_eq_bytesOfAll r.mspId) r.role)
  fun r => .field r.mspId fun _ => .field r.role fun _ => .done (by cases r; simp [eq_comm])

instance : Described OrganizationUnit where
  datum u := .record [datum u.mspId, datum u.unit, datum u.certifiers]

instance : Lawful OrganizationUnit := .record (fun _ => rfl)
  (fun u => append_eq_bytesOfAll (append_eq_bytesOfAll (encode_eq_bytesOfAll u.mspId) u.unit)
    u.certifiers)
  fun u => .field u.mspId fun _ => .field u.unit fun _ => .field u.certifiers fun _ =>
    .done (by cases u; simp [and_assoc, eq_comm])

instance : Described Principal where
  datum p := .record [datum p.kind, datum p.bytes]

instance : Lawful Principal := .record (fun _ => rfl)
  (fun p => append_eq_bytesOfAll (encode_eq_bytesOfAll p.kind) p.bytes)
  fun p => .field p.kind fun _ => .field p.bytes fun _ => .done (by cases p; simp [eq_comm])

/-! ## Rules -/

namespace Rule

mutual

/-- What a rule looks like on the wire. -/
def toDatum : Rule → Datum
  | .signedBy index => .form 0 [datum index]
  | .outOf n rules => .form 1 [datum n, .list (toData rules)]

/-- What rules look like on the wire. -/
def toData : List Rule → List Datum
  | [] => []
  | rule :: rules => toDatum rule :: toData rules

end

instance : Described Rule := ⟨toDatum⟩

theorem toData_eq_map (rules : List Rule) : toData rules = rules.map toDatum := by
  induction rules with
  | nil => rfl
  | cons rule rules ih => rw [toData, ih, List.map_cons]

theorem encodeAll_eq_flatMap (rules : List Rule) : encodeAll rules = rules.flatMap encode := by
  induction rules with
  | nil => rfl
  | cons rule rules ih => rw [encodeAll, ih, List.flatMap_cons]

theorem encode_outOf (n : Int32) (rules : List Rule) :
    encode (.outOf n rules) = encodeForm 1 ++ (Wire.encode n ++ encodeList encode rules) := by
  rw [encode, encodeAll_eq_flatMap, encodeList]
  simp only [List.append_assoc]

theorem fits_outOf {n : Int32} {rules : List Rule} :
    Fits (outOf n rules) ↔ rules.length < 2 ^ 64 ∧ ∀ r ∈ rules, Fits r := by
  simp [Fits, datum, toDatum, toData_eq_map, Datum.Fits, Datum.AllFit, Datum.allFit_iff]

/-- The position of a form of rule. -/
def position : Rule → Fin 2
  | .signedBy _ => 0
  | .outOf .. => 1

/-! ### Depth -/

mutual

/-- The number of rules on the longest way down from a rule. -/
def depth : Rule → Nat
  | .signedBy _ => 1
  | .outOf _ rules => depthAll rules + 1

/-- The greatest depth of some rules. -/
def depthAll : List Rule → Nat
  | [] => 0
  | rule :: rules => max (depth rule) (depthAll rules)

end

theorem depthAll_le_iff {rules : List Rule} {d : Nat} :
    depthAll rules ≤ d ↔ ∀ r ∈ rules, r.depth ≤ d := by
  induction rules with
  | nil => simp [depthAll]
  | cons rule rules ih => simp [depthAll, ih]

/-- Every level of a rule takes bytes of its own. -/
theorem depth_le_length_encode (r : Rule) : r.depth ≤ (encode r).length := by
  induction r with
  | signedBy index =>
    rw [depth, encode, encodeForm, List.length_append, length_littleEndian]
    omega
  | outOf n rules ih =>
    -- The deepest of the rules is encoded among the others, behind the position.
    have hrules : depthAll rules ≤ (rules.flatMap encode).length := by
      refine depthAll_le_iff.2 fun r hr => (ih r hr).trans ?_
      rw [List.flatMap_def]
      exact (List.sublist_flatten_of_mem (List.mem_map_of_mem hr)).length_le
    rw [depth, encode_outOf, encodeForm, encodeList]
    simp only [List.length_append, length_littleEndian]
    omega

/-! ### The law of rules -/

/-- The decoder for a depth reads a position, and then what the form there holds. -/
theorem exists_decodeWithin_succ (d : Nat) : ∃ f : Fin 2 → Decoder Rule,
    decodeWithin (d + 1) = decodeForm 2 >>= f ∧
      f 0 = (do return .signedBy (← Wire.decode)) ∧
      f 1 = do
        let n ← Wire.decode
        return .outOf n (← decodeList (decodeWithin d)) :=
  ⟨_, rfl, rfl, rfl⟩

/-- What the decoder for a depth takes off: the rules that are no deeper. -/
theorem takes_decodeWithin (d : Nat) (r : Rule) :
    Takes (decodeWithin d) r (r.depth ≤ d ∧ Fits r) (encode r) := by
  -- The rules of a node are decoded with one level less than the node.
  induction d generalizing r with
  | zero =>
    refine .throw fun h => ?_
    cases r with
    | signedBy index => simp [depth] at h
    | outOf n rules => simp [depth] at h
  | succ d ih =>
    obtain ⟨f, hf, hsignedBy, houtOf⟩ := exists_decodeWithin_succ d
    -- The position read says which form the rule has.
    have hyields : ∀ i, Yields (f i) fun r => r.position = i := by
      refine Fin.forall_fin_two.2 ⟨?_, ?_⟩
      · rw [hsignedBy]
        exact .bind fun _ => .pure rfl
      · rw [houtOf]
        exact .bind fun _ => .bind fun _ => .pure rfl
    rw [hf]
    cases r with
    | signedBy index =>
      have hcontents : Takes (f 0) (signedBy index)
          (True ∧ Datum.AllFit [datum index]) (Datum.bytesOfAll [datum index]) := by
        rw [hsignedBy]
        exact .field index fun _ => .done (by simp [eq_comm])
      refine (Takes.form (by decide) hyields (signedBy index) hcontents).congr ?_ ?_
      · simp [depth, Fits, datum, toDatum, Datum.Fits, Datum.AllFit]
      · rw [← encode_eq_bytesOfAll, encode]
        rfl
    | outOf n rules =>
      have hcontents : Takes (f 1) (outOf n rules)
          (True ∧ Fits n ∧ (rules.length < 2 ^ 64 ∧ ∀ r ∈ rules, r.depth ≤ d ∧ Fits r) ∧ True)
          (Wire.encode n ++ (encodeList encode rules ++ [])) := by
        rw [houtOf]
        exact .bind n takes_decode fun _ _ => .bind rules (takes_decodeList ih) fun _ _ =>
          .pure (by simp [eq_comm])
      refine (Takes.form (by decide) hyields (outOf n rules) hcontents).congr ?_ ?_
      · have hn : Fits n := trivial
        rw [depth, Nat.add_le_add_iff_right, depthAll_le_iff, fits_outOf]
        grind
      · rw [List.append_nil, encode_outOf]
        rfl

instance : Lawful Rule where
  encode_eq r := by
    induction r with
    | signedBy index =>
      change encodeForm 0 ++ Wire.encode index = Datum.numberBytes 4 0 ++ _
      rw [encodeForm, littleEndian_eq, encode_eq_bytesOfAll]
    | outOf n rules ih =>
      have hrules : rules.flatMap encode = rules.flatMap fun r => (toDatum r).bytes :=
        List.flatMap_congr fun r hr => ih r hr
      change encode (outOf n rules) =
        Datum.numberBytes 4 1 ++ Datum.bytesOfAll [datum n, .list (toData rules)]
      simp only [encode_outOf, encodeForm, encodeList, littleEndian_eq, encode_eq, hrules,
        toData_eq_map, Datum.bytes, Datum.bytesOfAll, Datum.bytesOfAll_eq_flatMap, List.length_map,
        List.flatMap_map, List.append_nil]
  takes_decode r := by
    intro bytes rest
    change decodeWithin bytes.length bytes = _ ↔ _
    rw [takes_decodeWithin bytes.length r bytes rest]
    constructor
    · rintro ⟨⟨-, hfits⟩, hbytes⟩
      exact ⟨hfits, hbytes⟩
    · rintro ⟨hfits, hbytes⟩
      -- There are as many levels as bytes, and the rule has no more levels than bytes.
      have hlen : (encode r).length ≤ bytes.length := by
        rw [hbytes]
        exact (List.prefix_append _ _).length_le
      exact ⟨⟨(depth_le_length_encode r).trans hlen, hfits⟩, hbytes⟩

end Rule

instance : Described Policy where
  datum p := .record [datum p.version, datum p.rule, datum p.identities]

instance : Lawful Policy := .record (fun _ => rfl)
  (fun p => append_eq_bytesOfAll (append_eq_bytesOfAll (encode_eq_bytesOfAll p.version) p.rule)
    p.identities)
  fun p => .field p.version fun _ => .field p.rule fun _ => .field p.identities fun _ =>
    .done (by cases p; simp [and_assoc, eq_comm])

end Endorsement
