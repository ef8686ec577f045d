import Endorsement.Proofs.Selection.Lookups

/-!
# Fairness of a round robin

While the peers of a channel stay the same, the candidates of a key do too, and a
round robin comes to each of them before it comes to any again. What else the
service is asked for in between, of other keys or in vain, does not matter, and
neither does where the round robin stood before.

* `gathered_eq_offered`: with one snapshot, the candidates are those on offer;
* `Done.key?`, `Done.picked?`, `picks`: the key that was asked for in a call, the
  peers that were answered, and all that were answered for a key;
* `Done.Steady`: in a call for a key, its channel has one and the same snapshot;
* `Shift`, `shift_perform`: what a call does to the resolver of a key, and what it
  answers for it;
* `Turning`, `turning_after`: what is answered for a key takes turns among its
  candidates;
* `round_robin_visits_all`: as many answers as there are candidates are each of
  them, once.
-/

namespace Endorsement.Selection.Service

variable {m : Type → Type} [Monad m] [MonadLiftT Logged m] {σ ρ : Type} [Runs m σ]

/-! ## One snapshot -/

/-- If all lookups are answered with one snapshot, the candidates are those that
    it offers. -/
theorem gathered_eq_offered {snapshot : Membership} {lookups : List (List Lookup)}
    {alternatives : List Group}
    (hlegs : lookups.map (List.map Lookup.leg) = alternatives.map Group.legs)
    (hsnapshot : ∀ lookup ∈ lookups.flatten, lookup.snapshot = snapshot) :
    gathered lookups = Resolver.offered (peersOf snapshot.peers) alternatives := by
  have hpeers : ∀ legs ∈ lookups, legs.map Lookup.peers =
      (legs.map Lookup.leg).map (·.current (peersOf snapshot.peers)) := by
    intro legs hmem
    rw [List.map_map]
    refine List.map_congr_left fun lookup hlookup => ?_
    rw [Lookup.peers, hsnapshot lookup (List.mem_flatten.2 ⟨legs, hmem, hlookup⟩)]
    rfl
  calc gathered lookups
      = lookups.flatMap fun legs => Product.tuples
          ((legs.map Lookup.leg).map (·.current (peersOf snapshot.peers))) :=
        List.flatMap_congr fun legs hmem => by rw [hpeers legs hmem]
    _ = (lookups.map (List.map Lookup.leg)).flatMap fun legs => Product.tuples
          (legs.map (·.current (peersOf snapshot.peers))) := by rw [List.flatMap_map]
    _ = Resolver.offered (peersOf snapshot.peers) alternatives := by
        rw [hlegs, List.flatMap_map, Resolver.offered_eq_flatMap]

/-! ## Answers for a key -/

/-- The key that was asked for. -/
def Done.key? : Done → Option Key
  | endorsers channel chaincodes _ _ => some (.ofRequest channel chaincodes)
  | _ => none

/-- The peers that were answered for a key, if the call was for it. -/
def Done.picked? (key : Key) : Done → Option Candidate
  | endorsers channel chaincodes _ (.ok peers) =>
    if Key.ofRequest channel chaincodes = key then some peers else none
  | _ => none

/-- All peers that were answered for a key, oldest first. -/
def picks (key : Key) (trail : List Done) : List Candidate :=
  trail.filterMap (Done.picked? key)

theorem picks_concat (key : Key) (trail : List Done) (done : Done) :
    picks key (trail ++ [done]) = picks key trail ++ (done.picked? key).toList := by
  rw [picks, List.filterMap_append, picks, List.filterMap_cons]
  cases done.picked? key <;> rfl

theorem Done.picked?_of_ne {key : Key} {done : Done} (h : done.key? ≠ some key) :
    done.picked? key = none := by
  cases done with
  | endorsers channel chaincodes asked answer =>
    cases answer with
    | ok peers => exact if_neg fun hkey => h (congrArg some hkey)
    | error _ => rfl
  | _ => rfl

/-- In a call for the key, its channel has this snapshot. -/
def Done.Steady (key : Key) (snapshot : Membership) (done : Done) : Prop :=
  done.key? = some key →
    ∀ answer, .membership key.channel answer ∈ done.transcript → answer = snapshot

/-- The candidates of alternatives, while a channel has this snapshot. -/
abbrev onOffer (snapshot : Membership) (alternatives : List Group) : List Candidate :=
  Resolver.offered (peersOf snapshot.peers) alternatives

/-- What a call does to the resolver of a key, and what it answers for it. If it
    is not for the key, or fails, nothing; else it answers the choice of a round
    robin, and leaves its position. -/
inductive Shift (snapshot : Membership) :
    Option (Resolver Position) → Option Candidate → Option (Resolver Position) → Prop
  | same (old : Option (Resolver Position)) : Shift snapshot old none old
  | chosen {old : Option (Resolver Position)} {resolver : Resolver Position} {choice : Candidate}
      {last : Position} (hold : ∀ kept, old = some kept → kept = resolver)
      (h : onOffer snapshot resolver.alternatives ≠ [] → ∃ position,
        position < (onOffer snapshot resolver.alternatives).length ∧
        (∀ p, resolver.chooser = some p →
          position = RoundRobin.next 0 (some p) (onOffer snapshot resolver.alternatives).length) ∧
        (choice, last) =
          (candidateAt (onOffer snapshot resolver.alternatives) position, some position)) :
      Shift snapshot old (some choice) (some { resolver with chooser := last })

section Calls

variable {key : Key} {snapshot : Membership} {draw : m Nat}
  {service after : Service Position} {done : Done}

/-- The resolver of a key stays as it is in a call that is not for the key. -/
theorem Effect.find?_eq (h : Effect service done after) (hclear : done.isClear = false)
    (hkey : done.key? ≠ some key) : after.resolvers.find? key = service.resolvers.find? key := by
  cases h with
  | kept _ _ _ _ | built _ _ _ _ _ => rw [find?_keep, if_neg fun h => hkey (congrArg some h)]
  | clear => cases hclear
  | unnamed _ | failed _ _ _ | eventSource _ | change => rfl

variable {x : Setting m Position} (hx : x.balancer = Balance.roundRobin.balancer draw)
  (hsoft : snapshot.isHardFailure = false)

include hx hsoft

/-- Using the resolver of a key does not fail. -/
theorem shift_use {old : Option (Resolver Position)} {resolver resolver' : Resolver Position}
    {t asked : Transcript} {s s' : σ} {answer : Except Failure (List Peer)}
    (hheld : ∃ held, builtFrom held = .ok resolver.alternatives)
    (hold : ∀ kept, old = some kept → kept = resolver)
    (hsteady : ∀ answer, .membership key.channel answer ∈ asked → answer = snapshot)
    (huse : Runs.run (use x.ask.transcribed x.balancer.transcribed key resolver) (t, s) =
      ((answer, resolver'), t ++ asked, s')) :
    ∃ peers, answer = .ok peers ∧ Shift snapshot old (some peers) (some resolver') := by
  obtain ⟨held, hheld⟩ := hheld
  have hused := (asks_used x.ask x.balancer key
    fun a ha l hl => exists_msp_of_builtFrom hheld ha hl).of_run huse
  rw [hx] at hused
  cases hused with
  | @unusable first failure hfailure =>
    -- The snapshot is of some use.
    rw [← hsteady first List.mem_cons_self, isHardFailure_of_hardFailure? hfailure] at hsoft
    cases hsoft
  | @chosen first lookups choice s _ hlegs hchoice =>
    -- Every leg was looked up in it.
    have hlookups : gathered lookups = onOffer snapshot resolver.alternatives :=
      gathered_eq_offered hlegs fun lookup hlookup =>
        hsteady _ (List.mem_cons_of_mem _ (List.mem_map_of_mem hlookup))
    rw [hlookups] at hchoice
    refine ⟨_, rfl, .chosen hold fun hne => ?_⟩
    rw [hchoice]
    exact Balance.run_roundRobin hne draw resolver.chooser s

/-- What a request for a key does to its resolver. -/
theorem shift_served {channel : String} {chaincodes : List String} {asked : Transcript}
    {answer : Except Failure (List Peer)} (hrooted : service.Rooted)
    (hsteady : ∀ answer, .membership channel answer ∈ asked → answer = snapshot)
    (h : Served x service channel chaincodes asked answer after) :
    Shift snapshot (service.resolvers.find? (.ofRequest channel chaincodes))
      ((Done.endorsers channel chaincodes asked answer).picked? (.ofRequest channel chaincodes))
      (after.resolvers.find? (.ofRequest channel chaincodes)) := by
  cases h with
  | unnamed _ | failed _ _ _ => exact .same _
  | kept _ h huse =>
    obtain ⟨peers, rfl, hshift⟩ := shift_use hx hsoft (hrooted _ _ h)
      (fun kept hkept => Option.some.inj (hkept.symm.trans h)) hsteady huse
    rw [find?_keep, if_pos rfl, Done.picked?, if_pos rfl]
    exact hshift
  | built _ h hattempt huse =>
    -- Where nothing was kept, any new resolver is as good.
    have hold : ∀ {resolver}, ∀ kept,
        service.resolvers.find? (.ofRequest channel chaincodes) = some kept → kept = resolver := by
      intro _ kept hkept
      rw [h] at hkept
      cases hkept
    obtain ⟨peers, rfl, hshift⟩ := shift_use hx hsoft hattempt.exists_builtFrom hold
      (fun answer hanswer => hsteady answer (List.mem_append_right _ hanswer)) huse
    rw [find?_keep, if_pos rfl, Done.picked?, if_pos rfl]
    exact hshift

/-- What a call does to the resolver of a key, unless it drops all of them. -/
theorem shift_perform [LawfulMonad m] {u : InUse σ Position} {call : Call σ}
    (hrooted : u.service.Rooted) (hclear : (x.perform u call).1.isClear = false)
    (hsteady : (x.perform u call).1.Steady key snapshot) :
    Shift snapshot (u.service.resolvers.find? key) ((x.perform u call).1.picked? key)
      ((x.perform u call).2.service.resolvers.find? key) := by
  by_cases hkey : (x.perform u call).1.key? = some key
  · cases call with
    | endorsers channel chaincodes =>
      obtain ⟨asked, answer, hdone, hserved⟩ := served_endorsers x u channel chaincodes
      rw [hdone] at hkey hsteady ⊢
      obtain rfl := Option.some.inj hkey
      exact shift_served hx hsoft hrooted (hsteady hkey) hserved
    | eventSource _ | clear | change _ => cases hkey
  · rw [Done.picked?_of_ne hkey, (effect_perform x u call).find?_eq hclear hkey]
    exact .same _

end Calls

/-! ## Taking turns -/

/-- What was answered for a key so far, if anything, takes turns among its
    candidates, and the position of its resolver is that of the last one. -/
inductive Turning (snapshot : Membership) : Option (Resolver Position) → List Candidate → Prop
  | notKept : Turning snapshot none []
  | kept {resolver : Resolver Position} {picked : List Candidate}
      (h : onOffer snapshot resolver.alternatives ≠ [] →
        Taken (onOffer snapshot resolver.alternatives) picked resolver.chooser) :
      Turning snapshot (some resolver) picked

/-- What a call answers for a key is its next turn. -/
theorem Turning.shift {snapshot : Membership} {old new : Option (Resolver Position)}
    {picked : List Candidate} {next : Option Candidate} (h : Turning snapshot old picked)
    (hshift : Shift snapshot old next new) : Turning snapshot new (picked ++ next.toList) := by
  cases hshift with
  | same => rwa [Option.toList_none, List.append_nil]
  | @chosen resolver choice last hold hchosen =>
    refine .kept fun hne => ?_
    obtain ⟨position, hlt, hnext, hchoice⟩ := hchosen hne
    obtain ⟨rfl, rfl⟩ := Prod.mk.inj hchoice
    have htaken : Taken (onOffer snapshot resolver.alternatives) picked resolver.chooser := by
      cases h with
      | notKept => exact .idle _
      | @kept kept _ h =>
        obtain rfl := hold kept rfl
        exact h hne
    exact htaken.concat hlt hnext

/-- A resolver that is kept keeps its alternatives, until all are dropped. -/
theorem Effect.exists_kept {service after : Service ρ} {done : Done} {key : Key}
    {resolver : Resolver ρ} (h : Effect service done after) (hclear : done.isClear = false)
    (hkept : service.resolvers.find? key = some resolver) :
    ∃ resolver', after.resolvers.find? key = some resolver' ∧
      resolver'.alternatives = resolver.alternatives := by
  cases h with
  | @kept channel chaincodes _ _ old new _ hold _ hsame =>
    rw [find?_keep]
    split
    · rename_i hkey
      rw [hkey, hkept] at hold
      exact ⟨new, rfl, by rw [hsame, Option.some.inj hold]⟩
    · exact ⟨resolver, hkept, rfl⟩
  | @built channel chaincodes _ _ _ _ _ _ hnot _ _ _ =>
    have hne : Key.ofRequest channel chaincodes ≠ key := by
      rintro rfl
      exact hnot (mem_keys_iff.2 (Option.isSome_of_eq_some hkept))
    rw [find?_keep, if_neg hne]
    exact ⟨resolver, hkept, rfl⟩
  | clear => cases hclear
  | unnamed _ | failed _ _ _ | eventSource _ | change => exact ⟨resolver, hkept, rfl⟩

theorem isClear_perform {x : Setting m ρ} {u : InUse σ ρ} {call : Call σ} (h : call ≠ .clear) :
    (x.perform u call).1.isClear = false := by
  cases call with
  | clear => exact absurd rfl h
  | _ => rfl

section Windows

variable [LawfulMonad m] {key : Key} {window : List (Call σ)}

theorem exists_kept_after {x : Setting m ρ} {u : InUse σ ρ} {resolver : Resolver ρ}
    (hclear : .clear ∉ window) (hkept : u.service.resolvers.find? key = some resolver) :
    ∃ resolver', (x.after u window).service.resolvers.find? key = some resolver' ∧
      resolver'.alternatives = resolver.alternatives := by
  induction window generalizing u resolver with
  | nil => exact ⟨resolver, hkept, rfl⟩
  | cons call window ih =>
    rw [List.mem_cons, not_or] at hclear
    obtain ⟨next, hnext, hsame⟩ :=
      (effect_perform x u call).exists_kept (isClear_perform (Ne.symm hclear.1)) hkept
    obtain ⟨last, hlast, hsame'⟩ := ih hclear.2 hnext
    exact ⟨last, hlast, hsame'.trans hsame⟩

variable {draw : m Nat} {x : Setting m Position}
  (hx : x.balancer = Balance.roundRobin.balancer draw) (s : σ) (before : List (Call σ))
  {snapshot : Membership} {resolver : Resolver Position}

include hx

/-- After any calls, what is answered for a key takes turns, for as long as the
    resolvers are not dropped and its channel has one and the same snapshot. -/
theorem turning_after (hclear : .clear ∉ window) (hsoft : snapshot.isHardFailure = false)
    (hsteady : ∀ done ∈ x.trail (x.after ⟨{}, s⟩ before) window, done.Steady key snapshot) :
    Turning snapshot
      ((x.after (x.after ⟨{}, s⟩ before) window).service.resolvers.find? key)
      (picks key (x.trail (x.after ⟨{}, s⟩ before) window)) := by
  induction window using List.reverseRecOn with
  | nil =>
    change Turning snapshot ((x.after ⟨{}, s⟩ before).service.resolvers.find? key) []
    cases (x.after ⟨{}, s⟩ before).service.resolvers.find? key with
    | none => exact .notKept
    | some resolver => exact .kept fun _ => .idle _
  | append_singleton window call ih =>
    rw [List.mem_append, not_or, List.mem_singleton] at hclear
    rw [Setting.trail_concat, List.forall_mem_append, List.forall_mem_singleton] at hsteady
    rw [Setting.after_concat, Setting.trail_concat, picks_concat]
    have hrooted : (x.after (x.after ⟨{}, s⟩ before) window).service.Rooted := by
      rw [← Setting.after_append]
      exact rooted_after x s (before ++ window)
    exact (ih hclear.1 hsteady.1).shift
      (shift_perform hx hsoft hrooted (isClear_perform (Ne.symm hclear.2)) hsteady.2)

/-- After any calls, while the resolvers are not dropped and the channel of a key
    has one and the same snapshot, without repetitions and of some use: the
    alternatives of the key stay the same, its candidates are all different, the
    answers for it take turns among them, and as many answers as there are
    candidates are each of them, once. -/
theorem round_robin_visits_all (hclear : .clear ∉ window) (hsoft : snapshot.isHardFailure = false)
    (hnodup : snapshot.peers.Nodup)
    (hsteady : ∀ done ∈ x.trail (x.after ⟨{}, s⟩ before) window, done.Steady key snapshot)
    (hkept : (x.after (x.after ⟨{}, s⟩ before) window).service.resolvers.find? key =
      some resolver) :
    let picked := picks key (x.trail (x.after ⟨{}, s⟩ before) window)
    let found := onOffer snapshot resolver.alternatives
    (∀ kept, (x.after ⟨{}, s⟩ before).service.resolvers.find? key = some kept →
        kept.alternatives = resolver.alternatives) ∧
      found.Nodup ∧
      (found ≠ [] → ∃ start, picked = turns found start picked.length) ∧
      (found ≠ [] → picked.length = found.length → picked.Perm found) := by
  intro picked found
  have hturns : found ≠ [] → ∃ start, picked = turns found start picked.length := by
    intro hne
    have hturning := turning_after hx s before hclear hsoft hsteady
    rw [hkept] at hturning
    cases hturning with
    | kept h => exact (h hne).exists_turns
  obtain ⟨held, hheld⟩ := rooted_after x s (before ++ window) key resolver
    (by rw [Setting.after_append, hkept])
  obtain ⟨halternatives, hall⟩ := conjunctions_of_builtFrom hheld
  refine ⟨fun kept hstart => ?_, nodup_offered hnodup halternatives hall
    fun a ha l hl => exists_msp_of_builtFrom hheld ha hl, hturns, fun hne hlength => ?_⟩
  · obtain ⟨resolver', hresolver', hsame⟩ := exists_kept_after (x := x) hclear hstart
    rw [hkept] at hresolver'
    rw [← hsame, ← Option.some.inj hresolver']
  · obtain ⟨start, hpicked⟩ := hturns hne
    rw [hpicked, hlength]
    exact perm_turns found start

end Windows

/-- Collaborators with one policy for all chaincodes, in a network whose peers may
    change. -/
def changing : Collaborators (StateT Membership Logged) where
  chaincode _ chaincode := return .ok ⟨chaincode, "1", Wire.encode bothSign⟩
  membership _ := get
  draw := return 2

/-- A round robin in this network, which starts at the last of three candidates. -/
def rotating : Setting (StateT Membership Logged) Position :=
  ⟨changing, Balance.roundRobin.balancer changing.draw, {}⟩

/-- Two peers of one organisation and one of another. -/
def threePeers : Membership where
  peers := [{ url := "a:1", mspId := "A" }, { url := "a:2", mspId := "A" },
    { url := "b:1", mspId := "B" }]

/-- A peer more. -/
def fourPeers : Membership where
  peers := threePeers.peers ++ [{ url := "a:3", mspId := "A" }]

/-- A choice among three candidates, of which there come to be two. -/
def shrinking : List (Call (Membership × Unit)) :=
  [.endorsers "channel" ["a"], .change fun _ => (threePeers, ())]

/-- Two requests for a key, and others in between. -/
def mixed : List (Call (Membership × Unit)) :=
  [.endorsers "channel" ["a"], .endorsers "channel" ["b"], .endorsers "channel" [],
    .endorsers "channel" ["a"]]

/-- The candidates there come to be. -/
def bothCandidates : List Candidate :=
  [[{ url := "a:1", mspId := "A" }, { url := "b:1", mspId := "B" }],
    [{ url := "a:2", mspId := "A" }, { url := "b:1", mspId := "B" }]]

theorem trail_mixed :
    rotating.trail (rotating.after ⟨{}, (fourPeers, ())⟩ shrinking) mixed =
      let seen := List.replicate 3 (Question.membership "channel" threePeers)
      let found := Question.chaincode "channel" "b" (.ok ⟨"b", "1", Wire.encode bothSign⟩)
      [.endorsers "channel" ["a"] seen (.ok (candidateAt bothCandidates 0)),
        .endorsers "channel" ["b"] (found :: .chooser :: seen)
          (.ok (candidateAt bothCandidates 0)),
        .endorsers "channel" [] [] (.error .noChaincodes),
        .endorsers "channel" ["a"] seen (.ok (candidateAt bothCandidates 1))] := by
  cbv

set_option maxRecDepth 1024 in
/-- The two answers for the key are both candidates, once each. -/
theorem both_candidates_visited :
    (picks (.ofRequest "channel" ["a"])
      (rotating.trail (rotating.after ⟨{}, (fourPeers, ())⟩ shrinking) mixed)).Perm
        bothCandidates := by
  have hsteady : ∀ done ∈ rotating.trail (rotating.after ⟨{}, (fourPeers, ())⟩ shrinking) mixed,
      done.Steady (.ofRequest "channel" ["a"]) threePeers := by
    rw [trail_mixed]
    simp [Done.Steady, Done.key?, Done.transcript, Key.ofRequest]
  have hkept : (rotating.after (rotating.after ⟨{}, (fourPeers, ())⟩ shrinking)
      mixed).service.resolvers.find? (.ofRequest "channel" ["a"]) =
        some ⟨[.all [.leaf (.msp "A"), .leaf (.msp "B")]], some 1⟩ := by
    cbv
  have hfound : onOffer threePeers [.all [.leaf (.msp "A"), .leaf (.msp "B")]] =
      bothCandidates := by
    cbv
  obtain ⟨-, -, -, hperm⟩ := round_robin_visits_all rfl (fourPeers, ()) shrinking
    (by simp [mixed]) rfl (by decide) hsteady hkept
  rw [hfound] at hperm
  refine hperm (by decide) ?_
  rw [trail_mixed]
  simp [picks, List.filterMap_cons, Done.picked?, Key.ofRequest, bothCandidates]

end Endorsement.Selection.Service
