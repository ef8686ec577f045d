import Endorsement.Proofs.Group.Expansion
import Endorsement.Proofs.Selection.Joint
import Mathlib.Data.List.Pairwise

/-!
# Organisations of candidates

An alternative of policies asks for some organisations, each once, and no other
alternative asks for the same ones. Hence a candidate has one peer of each
organisation that its alternative asks for, and no other candidate has the same
peers, in whatever order.

* `Group.mspIds`, `Group.together`: the organisations of an alternative, and the
  alternative that asks for some organisations;
* `eq_together_of_mem_reduce`, `eq_of_mem_mspIds_iff`: alternatives of policies
  are such alternatives, each given by its organisations;
* `countP_of_mem_offered`, `eq_of_mem_iff`: candidates have one peer of each
  organisation, and are given by their peers;
* `candidates_once`: all of it for policies that are asked for together.
-/

namespace Endorsement

/-! ## Organisations of alternatives -/

namespace Group

/-- The organisations that a group has leaves for. -/
def mspIds (g : Group) : List String :=
  g.legs.filterMap PeerGroup.mspId?

/-- The conjunction of the leaves of some organisations. -/
def together (mspIds : List String) : Group :=
  .all (mspIds.map fun mspId => .leaf (.msp mspId))

@[simp] theorem legs_together (ids : List String) :
    (together ids).legs = ids.map PeerGroup.msp := by
  rw [together, legs, legsOfEach_eq_flatMap, List.flatMap_map, List.map_eq_flatMap]
  rfl

@[simp] theorem mspIds_together (ids : List String) : (together ids).mspIds = ids := by
  rw [mspIds, legs_together, List.filterMap_map]
  exact List.filterMap_some

/-- The order of organisations does not matter. -/
theorem same_together {ids ids' : List String} (h : ids.Perm ids') :
    (together ids).same (together ids') = true :=
  same_all_iff.2 ⟨_, rfl, sameAll_of_perm (h.map _)⟩

/-- A conjunction in normal form with leaves that are organisations alone asks for
    these, each once. -/
theorem IsNormal.eq_together {items : List Group} (h : (Group.all items).IsNormal)
    (hlegs : ∀ l ∈ (Group.all items).legs, ∃ mspId, l = .msp mspId) :
    Group.all items = together (Group.all items).mspIds ∧ (Group.all items).mspIds ≠ [] ∧
      (Group.all items).mspIds.Nodup := by
  cases h with
  | @all leaves hne hpairwise =>
    obtain ⟨ids, rfl⟩ : leaves ∈ Set.range (List.map PeerGroup.msp) := by
      rw [Set.range_list_map]
      intro l hl
      obtain ⟨mspId, rfl⟩ := hlegs l (mem_legs_all.2
        ⟨_, List.mem_map_of_mem hl, List.mem_singleton_self l⟩)
      exact ⟨mspId, rfl⟩
    have htogether : Group.all ((ids.map PeerGroup.msp).map .leaf) = together ids := by
      rw [together, List.map_map]
      rfl
    rw [htogether, mspIds_together]
    refine ⟨rfl, by simpa using hne, ?_⟩
    rw [List.pairwise_map] at hpairwise
    exact hpairwise.imp fun h => by simpa [PeerGroup.same] using h

end Group

namespace Selection

variable {policies : List Policy} {groups combined : List Group} {a b : Group}

/-- The leaves of policies are organisations. -/
theorem exists_msp_of_mem_groups (h : List.Forall₂ (fun g p => p.group = .ok g) groups policies) :
    ∀ g ∈ groups, ∀ l ∈ g.legs, ∃ mspId, l = .msp mspId := by
  induction h with
  | nil => simp
  | cons hg _ ih =>
    exact List.forall_mem_cons.2 ⟨fun l hl => Policy.exists_msp_of_mem_legs hg hl, ih⟩

/-- What policies ask for together is what their alternatives ask for, each
    organisation once. -/
theorem eq_together_of_mem_reduce (h : List.Forall₂ (fun g p => p.group = .ok g) groups policies)
    (hcombined : Service.allOf groups = .ok combined) (ha : a ∈ (Group.any combined).reduce) :
    a = Group.together a.mspIds ∧ a.mspIds ≠ [] ∧ a.mspIds.Nodup := by
  have hnormal := Group.isNormal_of_mem_reduce ha
  obtain ⟨items, rfl⟩ := exists_all_of_mem_reduce hcombined ha
  exact hnormal.eq_together fun l hl =>
    exists_msp_of_mem_reduce (exists_msp_of_mem_groups h) hcombined ha hl

/-- No two alternatives ask for the same organisations. -/
theorem eq_of_mem_mspIds_iff (h : List.Forall₂ (fun g p => p.group = .ok g) groups policies)
    (hcombined : Service.allOf groups = .ok combined) (ha : a ∈ (Group.any combined).reduce)
    (hb : b ∈ (Group.any combined).reduce) (hmem : ∀ mspId, mspId ∈ a.mspIds ↔ mspId ∈ b.mspIds) :
    a = b := by
  obtain ⟨ha', -, hanodup⟩ := eq_together_of_mem_reduce h hcombined ha
  obtain ⟨hb', -, hbnodup⟩ := eq_together_of_mem_reduce h hcombined hb
  have hsame : a.same b = true := by
    rw [ha', hb']
    exact Group.same_together ((List.perm_ext_iff_of_nodup hanodup hbnodup).2 hmem)
  by_contra hne
  have : Std.Symm fun a b : Group => a.same b = false ∧ b.same a = false := ⟨fun _ _ => And.symm⟩
  have hdiffer := (Group.reduce_isNormal _).2.forall ha hb hne
  rw [hsame] at hdiffer
  cases hdiffer.1

/-! ## Organisations of candidates -/

variable {snapshot : List Peer} {candidate : Candidate}

/-- The peers of a candidate are from the organisations of its alternative, one
    after the other. -/
theorem map_mspId_of_mem_offered {ids : List String}
    (h : candidate ∈ Resolver.offered (peersOf snapshot) [Group.together ids]) :
    candidate.map Peer.mspId = ids := by
  rw [Resolver.offered_eq_flatMap, List.flatMap_singleton] at h
  have hlegs := legs_eq_of_mem_tuples (by simp) h
  have hids : ids.map PeerGroup.msp = (candidate.map Peer.mspId).map PeerGroup.msp := by
    rw [← Group.legs_together, hlegs, List.map_map]
    rfl
  exact (List.map_injective_iff.2 (fun _ _ => PeerGroup.msp.inj) hids).symm

theorem subset_of_mem_offered {ids : List String}
    (h : candidate ∈ Resolver.offered (peersOf snapshot) [Group.together ids]) :
    candidate ⊆ snapshot := by
  intro p hp
  obtain ⟨a, ha, l, hl, hp⟩ := Resolver.exists_current_of_mem_offered h hp
  obtain rfl := List.mem_singleton.1 ha
  obtain ⟨mspId, -, rfl⟩ := List.mem_map.1 (Group.legs_together ids ▸ hl)
  exact (List.mem_filter.1 hp).1

/-- A candidate has one peer of each organisation of its alternative, and none of
    any other. -/
theorem countP_of_mem_offered {ids : List String} (hnodup : ids.Nodup)
    (h : candidate ∈ Resolver.offered (peersOf snapshot) [Group.together ids]) (mspId : String) :
    candidate.countP (·.mspId == mspId) = if mspId ∈ ids then 1 else 0 := by
  have hcount : candidate.countP (·.mspId == mspId) = (candidate.map Peer.mspId).count mspId := by
    rw [List.count, List.countP_map]
    rfl
  rw [hcount, map_mspId_of_mem_offered h, hnodup.count]

theorem eq_of_map_eq {α β : Type} {f : α → β} {as bs : List α}
    (hf : ∀ a ∈ as, ∀ b ∈ bs, f a = f b → a = b) (h : as.map f = bs.map f) : as = bs := by
  induction as generalizing bs with
  | nil => exact (List.map_eq_nil_iff.1 h.symm).symm
  | cons a as ih =>
    cases bs with
    | nil => cases h
    | cons b bs =>
      obtain ⟨hab, h⟩ := List.cons.inj h
      rw [hf a (.head _) b (.head _) hab,
        ih (fun a ha b hb => hf a (.tail _ ha) b (.tail _ hb)) h]

theorem offered_eq_flatMap_offered (lookup : String → List Peer) (alternatives : List Group) :
    Resolver.offered lookup alternatives =
      alternatives.flatMap fun a => Resolver.offered lookup [a] := by
  simp only [Resolver.offered_eq_flatMap, List.flatMap_singleton]

/-- No two candidates have the same peers. -/
theorem eq_of_mem_iff (h : List.Forall₂ (fun g p => p.group = .ok g) groups policies)
    (hcombined : Service.allOf groups = .ok combined) {other : Candidate}
    (hcandidate : candidate ∈ Resolver.offered (peersOf snapshot) (Group.any combined).reduce)
    (hother : other ∈ Resolver.offered (peersOf snapshot) (Group.any combined).reduce)
    (hmem : ∀ p, p ∈ candidate ↔ p ∈ other) : candidate = other := by
  rw [offered_eq_flatMap_offered] at hcandidate hother
  obtain ⟨a, ha, hcandidate⟩ := List.mem_flatMap.1 hcandidate
  obtain ⟨b, hb, hother⟩ := List.mem_flatMap.1 hother
  obtain ⟨ha', -, -⟩ := eq_together_of_mem_reduce h hcombined ha
  obtain ⟨hb', -, hnodup⟩ := eq_together_of_mem_reduce h hcombined hb
  rw [ha'] at hcandidate
  rw [hb'] at hother
  have hids := map_mspId_of_mem_offered hcandidate
  have hids' := map_mspId_of_mem_offered hother
  -- The same peers are from the same organisations, so both are for one alternative.
  obtain rfl : a = b := by
    refine eq_of_mem_mspIds_iff h hcombined ha hb fun mspId => ?_
    simp only [← hids, ← hids', List.mem_map, hmem]
  -- Peers of its organisations, in the order of these, are given by who they are.
  rw [← hids'] at hnodup
  exact eq_of_map_eq (fun p hp q hq => List.inj_on_of_nodup_map hnodup ((hmem p).1 hp) hq)
    (hids.trans hids'.symm)

/-- On peers without repetition, no set of peers is offered twice. -/
theorem pairwise_offered (h : List.Forall₂ (fun g p => p.group = .ok g) groups policies)
    (hcombined : Service.allOf groups = .ok combined) (hsnapshot : snapshot.Nodup) :
    (Resolver.offered (peersOf snapshot) (Group.any combined).reduce).Pairwise
      fun candidate other => ¬∀ p, p ∈ candidate ↔ p ∈ other := by
  have hnodup : (Resolver.offered (peersOf snapshot) (Group.any combined).reduce).Nodup :=
    nodup_offered hsnapshot (Group.nodup_reduce _)
      (fun a ha => ⟨Group.isAlternative_of_mem_reduce ha, exists_all_of_mem_reduce hcombined ha⟩)
      fun a ha l hl => exists_msp_of_mem_reduce (exists_msp_of_mem_groups h) hcombined ha hl
  exact hnodup.pairwise_of_forall_ne fun candidate hcandidate other hother hdiffer hmem =>
    hdiffer (eq_of_mem_iff h hcombined hcandidate hother hmem)

/-- Policies that are asked for together never ask for an organisation twice, and
    never offer the same candidate twice. -/
theorem candidates_once (h : List.Forall₂ (fun g p => p.group = .ok g) groups policies)
    (hne : policies ≠ []) :
    ((∃ combined, Service.allOf groups = .ok combined) ↔ policies.length < 2 ^ 31) ∧
      ∀ combined, Service.allOf groups = .ok combined →
        ∃ alternatives, (Resolver.alternativesOf combined).run.value = .ok alternatives ∧
          (∀ a ∈ alternatives, a = Group.together a.mspIds ∧ a.mspIds ≠ [] ∧ a.mspIds.Nodup) ∧
          alternatives.Pairwise (fun a b => ¬∀ mspId, mspId ∈ a.mspIds ↔ mspId ∈ b.mspIds) ∧
          ∀ snapshot : List Peer, snapshot.Nodup →
            Resolver.offered (peersOf snapshot) alternatives =
                alternatives.flatMap (fun a => Resolver.offered (peersOf snapshot) [a]) ∧
              (∀ a ∈ alternatives, ∀ candidate ∈ Resolver.offered (peersOf snapshot) [a],
                candidate ⊆ snapshot ∧ ∀ mspId, candidate.countP (·.mspId == mspId) =
                  if mspId ∈ a.mspIds then 1 else 0) ∧
              (Resolver.offered (peersOf snapshot) alternatives).Pairwise
                fun candidate other => ¬∀ p, p ∈ candidate ↔ p ∈ other := by
  have hgroups : groups ≠ [] := by
    rintro rfl
    cases h
    exact hne rfl
  refine ⟨h.length_eq ▸ Service.exists_allOf_iff hgroups, fun combined hcombined => ?_⟩
  have halternatives := Service.reduce_ne_nil_of_allOf hcombined (forall_holds_always h)
  refine ⟨_, by rw [Resolver.value_alternativesOf, if_neg halternatives],
    fun a ha => eq_together_of_mem_reduce h hcombined ha, ?_, fun snapshot hsnapshot =>
      ⟨offered_eq_flatMap_offered _ _, ?_, pairwise_offered h hcombined hsnapshot⟩⟩
  · refine (Group.nodup_reduce _).pairwise_of_forall_ne fun a ha b hb hab hmem => hab ?_
    exact eq_of_mem_mspIds_iff h hcombined ha hb hmem
  · intro a ha candidate hcandidate
    obtain ⟨htogether, -, hnodup⟩ := eq_together_of_mem_reduce h hcombined ha
    rw [htogether] at hcandidate
    exact ⟨subset_of_mem_offered hcandidate, countP_of_mem_offered hnodup hcandidate⟩

/-- A policy that asks for one organisation, together with this or another one. -/
def overlapping : Policy where
  rule := some (.outOf 2 [.signedBy 0, .outOf 1 [.signedBy 0, .signedBy 1]])
  identities := [.member "A", .ofUnit "B" "unit"]

def overlappingGroup : Group :=
  .any [.all [.any [.leaf (.msp "A")],
    .any [.all [.any [.leaf (.msp "A")]], .all [.any [.leaf (.msp "B")]]]]]

/-- Two peers of one organisation and a peer of another one. -/
def unevenPeers : List Peer :=
  [⟨"a:1", "A", none, []⟩, ⟨"b:1", "B", none, []⟩, ⟨"a:2", "A", none, []⟩]

/-- Two such policies together have two alternatives, and there are four candidates, no
    two of them alike. -/
theorem candidates_of_overlapping :
    unevenPeers.Nodup ∧ overlapping.group = .ok overlappingGroup ∧
      ∃ combined alternatives, Service.allOf [overlappingGroup, overlappingGroup] = .ok combined ∧
        (Resolver.alternativesOf combined).run.value = .ok alternatives ∧
        alternatives.map Group.mspIds = [["A"], ["A", "B"]] ∧
        (Resolver.offered (peersOf unevenPeers) alternatives).length = 4 ∧
        (Resolver.offered (peersOf unevenPeers) alternatives).Pairwise
          fun candidate other => ¬∀ p, p ∈ candidate ↔ p ∈ other := by
  have hgroup : overlapping.group = .ok overlappingGroup := rfl
  have hcombined : Service.allOf [overlappingGroup, overlappingGroup] =
      .ok [.all [overlappingGroup, overlappingGroup]] := rfl
  have hgroups : List.Forall₂ (fun g p => p.group = .ok g) [overlappingGroup, overlappingGroup]
      [overlapping, overlapping] := .cons hgroup (.cons hgroup .nil)
  obtain ⟨-, honce⟩ := candidates_once hgroups (List.cons_ne_nil _ _)
  obtain ⟨alternatives, halternatives, -, -, hoffered⟩ := honce _ hcombined
  have heq : (Resolver.alternativesOf [.all [overlappingGroup, overlappingGroup]]).run.value =
      .ok [.together ["A"], .together ["A", "B"]] := by cbv
  obtain rfl := Except.ok.inj (heq.symm.trans halternatives)
  have hnodup : unevenPeers.Nodup := by decide
  obtain ⟨-, -, hpairwise⟩ := hoffered unevenPeers hnodup
  exact ⟨hnodup, hgroup, _, _, hcombined, halternatives, by simp, by cbv, hpairwise⟩

end Selection

end Endorsement
