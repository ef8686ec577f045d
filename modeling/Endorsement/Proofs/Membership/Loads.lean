import Endorsement.Proofs.Membership.Cells
import Mathlib.Data.List.Induction

/-!
# What a membership cache remembers

A membership cache is used in any order: its source changes, fails and recovers,
it is invalidated, and it is asked for channels and for all peers. What is in a
cell depends on the answers that the source gave for it alone: the peers are
those of the last answer that was no failure, however many failures came since,
and the failure is that of the last answer, if it was one.

* `Snapshot.ofAnswers`: the snapshot that answers leave behind;
* `Origin`: a source that may change, and that writes down what it is asked;
* `Session`, `Op`, `Session.after`: a cache in use;
* `Used`: whether a cell was used and not invalidated since;
* `Asks`, `UpToDate`: whether a query asks the source, and whether it is answered
  with what the source says by then;
* `Session.Sound`, `Session.sound_after`: what is in the cells, at any time;
* `Session.remembers_last_good`: what is answered, when the source is asked, and
  that both ways to ask for a channel agree.
-/

namespace Endorsement

/-! ## What answers leave behind -/

namespace Snapshot

/-- The peers of the last answer that was no failure; none before there was one. -/
def lastGood (answers : List (Except Failure (List Peer))) : List Peer :=
  (answers.filterMap Except.toOption).getLast?.getD []

/-- The failure of the last answer, if it was one. -/
def lastFailure (answers : List (Except Failure (List Peer))) : Option Failure :=
  answers.getLast?.bind fun answer =>
    match answer with
    | .ok _ => none
    | .error failure => some failure

/-- The snapshot that answers leave behind, oldest first. -/
def ofAnswers (answers : List (Except Failure (List Peer))) : Snapshot :=
  ⟨lastGood answers, lastFailure answers⟩

/-- The same; there is no snapshot before the first answer. -/
def ofAnswers? : List (Except Failure (List Peer)) → Option Snapshot
  | [] => none
  | answers => some (ofAnswers answers)

variable {answers : List (Except Failure (List Peer))} {answer : Except Failure (List Peer)}

theorem ofAnswers?_of_ne_nil (h : answers ≠ []) :
    ofAnswers? answers = some (ofAnswers answers) := by
  cases answers with
  | nil => exact absurd rfl h
  | cons => rfl

theorem ofAnswers?_append (answers : List (Except Failure (List Peer)))
    (answer : Except Failure (List Peer)) :
    ofAnswers? (answers ++ [answer]) = some (ofAnswers (answers ++ [answer])) :=
  ofAnswers?_of_ne_nil (by simp)

theorem ofAnswers_append (answers : List (Except Failure (List Peer)))
    (answer : Except Failure (List Peer)) :
    ofAnswers (answers ++ [answer]) =
      match answer with
      | .ok peers => ⟨peers, none⟩
      | .error failure => ⟨lastGood answers, some failure⟩ := by
  cases answer <;> simp [ofAnswers, lastGood, lastFailure, Except.toOption]

/-- Reloading goes on with the answers. A failure leaves the peers alone, whether
    the answer before it was one or not. -/
theorem reload_ofAnswers? (answers : List (Except Failure (List Peer)))
    (answer : Except Failure (List Peer)) :
    reload (ofAnswers? answers) answer = ofAnswers (answers ++ [answer]) := by
  have hpeers : ((ofAnswers? answers).map Snapshot.peers).getD [] = lastGood answers := by
    cases answers <;> rfl
  rw [ofAnswers_append]
  cases answer with
  | ok peers => rfl
  | error failure => rw [reload, hpeers]

/-- The same answer once more changes nothing. -/
theorem ofAnswers_append_self (h : answers.getLast? = some answer) :
    ofAnswers (answers ++ [answer]) = ofAnswers answers := by
  obtain ⟨first, rfl⟩ := List.getLast?_eq_some_iff.1 h
  have hfirst := ofAnswers_append first answer
  rw [ofAnswers_append]
  cases answer with
  | ok peers => exact hfirst.symm
  | error failure => rw [hfirst, show lastGood _ = _ from congrArg Snapshot.peers hfirst]

/-- The membership of a channel and its peers agree: the peers are a failure iff
    the membership is of no use, with the failure of the membership; otherwise
    they are those of the membership. -/
def Agree (m : Membership) (peers : Except Failure (List Peer)) : Prop :=
  (∀ failure, peers = .error failure ↔ m.isHardFailure = true ∧ m.queryFailure = some failure) ∧
    (m.isHardFailure = false → peers = .ok m.peers)

/-- Both views of one snapshot agree. -/
theorem agree_usable (s : Snapshot) (pollingEnabled : Bool) :
    Agree ⟨s.peers, s.failure, pollingEnabled⟩ s.usable := by
  obtain ⟨_ | p, _ | failure⟩ := s <;> simp [Agree, Membership.isHardFailure, usable]

end Snapshot

namespace MembershipCache

/-! ## Sources that change -/

/-- What a source was asked, and answered. -/
structure Load where
  cell : Cell
  answer : Except Failure (List Peer)

/-- A source and a clock, as they are from now on. -/
structure Origin where
  /-- What the source answers. -/
  answers : Cell → Except Failure (List Peer)
  /-- What the clock will say. -/
  readings : Readings
  /-- What the source was asked so far, oldest first. -/
  loads : List Load := []

namespace Origin

/-- Answers for a cell, and writes that down. -/
def ask (cell : Cell) : Act Origin (Except Failure (List Peer)) := do
  modify fun origin => { origin with loads := origin.loads ++ [⟨cell, origin.answers cell⟩] }
  return (← get).answers cell

/-- Reads the clock. -/
def clock : Act Origin Moment := do
  let origin ← get
  set { origin with readings := origin.readings.drop 1 }
  return origin.readings 0

/-- A cache with the source and the clock. -/
def setup (lifetime : Duration) (pollingEnabled : Bool) : Setup (Act Origin) where
  source := ⟨ask .all, fun channel => ask (.channel channel)⟩
  lifetime
  clock
  pollingEnabled

variable {lifetime : Duration} {pollingEnabled : Bool} {origin : Origin}

theorem run_clock (origin : Origin) : Runs.run clock (origin, ()) =
    (origin.readings 0, { origin with readings := origin.readings.drop 1 }, ()) := by
  simp only [clock, Runs.run_bind, Runs.run_get, Runs.run_set, Runs.run_pure]

theorem run_load (cell : Cell) (previous : Option Snapshot) (origin : Origin) :
    Runs.run ((setup lifetime pollingEnabled).load cell previous) (origin, ()) =
      (.reload previous (origin.answers cell),
        { origin with loads := origin.loads ++ [⟨cell, origin.answers cell⟩] }, ()) := by
  have hask : (setup lifetime pollingEnabled).ask cell = ask cell := by cases cell <;> rfl
  simp only [Setup.load, hask, ask, Runs.run_bind, Runs.run_modify, Runs.run_get, Runs.run_pure]

/-- What the source answered for a cell so far, oldest first. -/
def answered (origin : Origin) (cell : Cell) : List (Except Failure (List Peer)) :=
  (origin.loads.filter (·.cell = cell)).map Load.answer

theorem answered_append (cell k : Cell) (origin : Origin) (readings : Readings) :
    answered ⟨origin.answers, readings, origin.loads ++ [⟨cell, origin.answers cell⟩]⟩ k =
      if cell = k then origin.answered k ++ [origin.answers k] else origin.answered k := by
  by_cases h : cell = k
  · subst h
    simp [answered]
  · simp [answered, h]

end Origin

/-! ## Caches in use -/

/-- What happens to a cache in use. -/
inductive Op where
  /-- The source answers something else from now on. -/
  | change (answers : Cell → Except Failure (List Peer))
  /-- The cache is invalidated. -/
  | invalidate
  /-- The cache is asked. -/
  | query (q : Query)

/-- A cell was used and not invalidated since. -/
def Used (cell : Cell) (ops : List Op) : Prop :=
  ∃ before q rest, ops = before ++ .query q :: rest ∧ q.cell = cell ∧ .invalidate ∉ rest

theorem not_used_nil (cell : Cell) : ¬Used cell [] := by
  rintro ⟨before, q, rest, h, -⟩
  simp at h

/-- The last thing that happened decides, unless it leaves the cell alone. -/
theorem used_append (cell : Cell) (ops : List Op) (op : Op) : Used cell (ops ++ [op]) ↔
    (∃ q, op = .query q ∧ q.cell = cell) ∨ op ≠ .invalidate ∧ Used cell ops := by
  constructor
  · rintro ⟨before, q, rest, h, hcell, hrest⟩
    rcases List.eq_nil_or_concat' rest with rfl | ⟨rest, last, rfl⟩
    · obtain ⟨-, hop⟩ := List.append_inj' h rfl
      exact .inl ⟨q, List.head_eq_of_cons_eq hop, hcell⟩
    · rw [← List.cons_append, ← List.append_assoc] at h
      obtain ⟨rfl, hop⟩ := List.append_inj' h rfl
      obtain rfl := List.head_eq_of_cons_eq hop
      simp only [List.mem_append, List.mem_singleton, not_or] at hrest
      exact .inr ⟨Ne.symm hrest.2, before, q, rest, rfl, hcell, hrest.1⟩
  · rintro (⟨q, rfl, hcell⟩ | ⟨hop, before, q, rest, rfl, hcell, hrest⟩)
    · exact ⟨ops, q, [], rfl, hcell, List.not_mem_nil⟩
    · refine ⟨before, q, rest ++ [op], by simp, hcell, ?_⟩
      simp [hrest, Ne.symm hop]

theorem used_append_query (cell : Cell) (ops : List Op) (q : Query) :
    Used cell (ops ++ [.query q]) ↔ q.cell = cell ∨ Used cell ops := by
  rw [used_append]
  constructor
  · rintro (⟨q', hq, hcell⟩ | ⟨-, hused⟩)
    · obtain rfl := Op.query.inj hq
      exact .inl hcell
    · exact .inr hused
  · rintro (hcell | hused)
    · exact .inl ⟨q, rfl, hcell⟩
    · exact .inr ⟨Op.noConfusion, hused⟩

theorem used_append_change (cell : Cell) (ops : List Op)
    (answers : Cell → Except Failure (List Peer)) :
    Used cell (ops ++ [.change answers]) ↔ Used cell ops := by
  simp [used_append]

theorem not_used_append_invalidate (cell : Cell) (ops : List Op) :
    ¬Used cell (ops ++ [.invalidate]) := by
  simp [used_append]

/-- A cache, and the source that it asks. -/
structure Session where
  cache : MembershipCache := {}
  origin : Origin

namespace Session

variable (lifetime : Duration) (pollingEnabled : Bool)

/-- The answer to a query, and what it leaves. -/
def ask (q : Query) (s : Session) : Answer × Session :=
  let r := Runs.run (q.ask (Origin.setup lifetime pollingEnabled)) (s.cache, s.origin, ())
  (r.1, ⟨r.2.1, r.2.2.1⟩)

/-- What an operation leaves. -/
def step (s : Session) : Op → Session
  | .change answers => { s with origin := { s.origin with answers } }
  | .invalidate => { s with cache := s.cache.invalidate }
  | .query q => (s.ask lifetime pollingEnabled q).2

/-- A new cache after operations. -/
def after (origin : Origin) (ops : List Op) : Session :=
  ops.foldl (step lifetime pollingEnabled) { origin }

variable {lifetime pollingEnabled} {s : Session} {origin : Origin} {q : Query}

theorem after_append (ops : List Op) (op : Op) :
    after lifetime pollingEnabled origin (ops ++ [op]) =
      (after lifetime pollingEnabled origin ops).step lifetime pollingEnabled op :=
  List.foldl_concat _ _ _ _

theorem ask_eq (s : Session) (q : Query) : s.ask lifetime pollingEnabled q =
    let r := Runs.run ((s.cache.stored q.cell).get lifetime Origin.clock
      ((Origin.setup lifetime pollingEnabled).load q.cell)) (s.origin, ())
    (q.answer pollingEnabled r.1.1, ⟨s.cache.store q.cell r.1.2, r.2.1⟩) := by
  rw [ask, Query.run_ask, run_snapshot]
  rfl

/-- A fresh snapshot is answered without asking the source. -/
theorem ask_fresh {snapshot : Snapshot}
    (h : (s.cache.stored q.cell).fresh? lifetime (s.origin.readings 0) = some snapshot) :
    s.ask lifetime pollingEnabled q = (q.answer pollingEnabled snapshot,
      ⟨s.cache.store q.cell (s.cache.stored q.cell),
        { s.origin with readings := s.origin.readings.drop 1 }⟩) := by
  have hclock := Origin.run_clock s.origin
  have hfresh : (s.cache.stored q.cell).fresh? lifetime
      (Runs.run Origin.clock (s.origin, ())).1 = some snapshot := by rwa [hclock]
  rw [ask_eq, Expiring.run_get_fresh hfresh, hclock]

/-- Another one is reloaded from what the source answers. -/
theorem ask_load (h : (s.cache.stored q.cell).fresh? lifetime (s.origin.readings 0) = none) :
    let snapshot := Snapshot.reload (s.cache.stored q.cell).previous (s.origin.answers q.cell)
    s.ask lifetime pollingEnabled q = (q.answer pollingEnabled snapshot,
      ⟨s.cache.store q.cell (.store snapshot (s.origin.readings 1)),
        { s.origin with
          readings := (s.origin.readings.drop 1).drop 1
          loads := s.origin.loads ++ [⟨q.cell, s.origin.answers q.cell⟩] }⟩) := by
  have hclock := Origin.run_clock s.origin
  rw [ask_eq, Expiring.run_get_load (by rwa [hclock])]
  simp only [hclock, Origin.run_load, Origin.run_clock]
  rfl

/-! ## What is in the cells -/

/-- A query on a cell asks the source: the lifetime is zero, or the cell was not
    used yet, or not since it was invalidated. -/
def Asks (lifetime : Duration) (cell : Cell) (ops : List Op) : Prop :=
  lifetime = .zero ∨ ¬Used cell ops

/-- A query on a cell is answered with what the source says now: it asks the
    source, or the source still says what it said last. -/
def UpToDate (lifetime : Duration) (cell : Cell) (ops : List Op) (s : Session) : Prop :=
  Asks lifetime cell ops ∨ (s.origin.answered cell).getLast? = some (s.origin.answers cell)

/-- What is in the cells after operations. Nothing was loaded before the start,
    and the lifetime is zero or does not run out from there. -/
structure Sound (lifetime : Duration) (start : Moment) (ops : List Op) (s : Session) : Prop where
  previous (cell : Cell) : (s.cache.stored cell).previous =
    Snapshot.ofAnswers? (s.origin.answered cell)
  isDue_iff (cell : Cell) : (s.cache.stored cell).IsDue ↔ ¬Used cell ops
  since (cell : Cell) : (s.cache.stored cell).Since start
  started (i : Nat) : start ≤ s.origin.readings i
  lasts : lifetime = .zero ∨ s.origin.readings.Within start lifetime

namespace Sound

variable {start : Moment} {ops : List Op}

theorem fresh?_eq_none (h : s.Sound lifetime start ops) {cell : Cell}
    (hasks : Asks lifetime cell ops) :
    (s.cache.stored cell).fresh? lifetime (s.origin.readings 0) = none := by
  rcases hasks with rfl | hused
  · exact Expiring.fresh?_zero _
  · exact Expiring.fresh?_of_isDue ((h.isDue_iff cell).2 hused)

theorem fresh?_eq_some (h : s.Sound lifetime start ops) {cell : Cell}
    (hasks : ¬Asks lifetime cell ops) :
    (s.cache.stored cell).fresh? lifetime (s.origin.readings 0) =
      some (.ofAnswers (s.origin.answered cell)) := by
  obtain ⟨hzero, hused⟩ := not_or.1 hasks
  obtain ⟨snapshot, hprevious, hfresh⟩ := Expiring.fresh?_of_since (h.since cell)
    (fun hdue => hused ((h.isDue_iff cell).1 hdue)) (h.lasts.resolve_left hzero 0)
  rw [h.previous] at hprevious
  have hne : s.origin.answered cell ≠ [] := by
    intro hnil
    rw [hnil] at hprevious
    cases hprevious
  rw [hfresh, ← hprevious, Snapshot.ofAnswers?_of_ne_nil hne]

/-- A query that asks the source adds an answer. -/
theorem ask_of_asks (h : s.Sound lifetime start ops) (hasks : Asks lifetime q.cell ops) :
    let snapshot := Snapshot.ofAnswers (s.origin.answered q.cell ++ [s.origin.answers q.cell])
    s.ask lifetime pollingEnabled q = (q.answer pollingEnabled snapshot,
      ⟨s.cache.store q.cell (.store snapshot (s.origin.readings 1)),
        { s.origin with
          readings := (s.origin.readings.drop 1).drop 1
          loads := s.origin.loads ++ [⟨q.cell, s.origin.answers q.cell⟩] }⟩) := by
  rw [ask_load (h.fresh?_eq_none hasks), h.previous, Snapshot.reload_ofAnswers?]

/-- Any other query is answered with what the source answered before. -/
theorem ask_of_not_asks (h : s.Sound lifetime start ops) (hasks : ¬Asks lifetime q.cell ops) :
    s.ask lifetime pollingEnabled q =
      (q.answer pollingEnabled (.ofAnswers (s.origin.answered q.cell)),
        ⟨s.cache.store q.cell (s.cache.stored q.cell),
          { s.origin with readings := s.origin.readings.drop 1 }⟩) :=
  ask_fresh (h.fresh?_eq_some hasks)

theorem answered_ask (h : s.Sound lifetime start ops) (hasks : Asks lifetime q.cell ops)
    (cell : Cell) : (s.ask lifetime pollingEnabled q).2.origin.answered cell =
      if q.cell = cell then s.origin.answered cell ++ [s.origin.answers cell]
      else s.origin.answered cell := by
  rw [h.ask_of_asks hasks]
  exact Origin.answered_append q.cell cell s.origin _

theorem answered_ask_of_not_asks (h : s.Sound lifetime start ops)
    (hasks : ¬Asks lifetime q.cell ops) (cell : Cell) :
    (s.ask lifetime pollingEnabled q).2.origin.answered cell = s.origin.answered cell := by
  rw [h.ask_of_not_asks hasks]
  rfl

theorem answers_ask (h : s.Sound lifetime start ops) :
    (s.ask lifetime pollingEnabled q).2.origin.answers = s.origin.answers := by
  by_cases hasks : Asks lifetime q.cell ops
  · rw [h.ask_of_asks hasks]
  · rw [h.ask_of_not_asks hasks]

/-- A query is answered with what the source answered up to then, and by now. -/
theorem answer_ask (h : s.Sound lifetime start ops) (q : Query) :
    (s.ask lifetime pollingEnabled q).1 = q.answer pollingEnabled
      (.ofAnswers ((s.ask lifetime pollingEnabled q).2.origin.answered q.cell)) := by
  by_cases hasks : Asks lifetime q.cell ops
  · rw [h.answered_ask hasks, if_pos rfl, h.ask_of_asks hasks]
  · rw [h.answered_ask_of_not_asks hasks, h.ask_of_not_asks hasks]

/-- A query leaves a session sound. Either the source is asked, and its answer is in
    the cell that was used, which is not due any more; or nothing has changed but
    that time has passed. -/
theorem ask (h : s.Sound lifetime start ops) (q : Query) :
    (s.ask lifetime pollingEnabled q).2.Sound lifetime start (ops ++ [.query q]) := by
  by_cases hasks : Asks lifetime q.cell ops
  · rw [h.ask_of_asks hasks]
    constructor
    · intro cell
      rw [stored_store, Origin.answered_append]
      split
      · rename_i hcell
        rw [Expiring.previous_store, Snapshot.ofAnswers?_append, hcell]
      · exact h.previous cell
    · intro cell
      rw [stored_store, used_append_query]
      split
      · rename_i hcell
        exact iff_of_false (Expiring.not_isDue_store _ _) (not_not.2 (.inl hcell))
      · rename_i hcell
        rw [or_iff_right hcell]
        exact h.isDue_iff cell
    · intro cell
      rw [stored_store]
      split
      · exact Expiring.since_store _ (h.started 1)
      · exact h.since cell
    · exact fun i => h.started (1 + (1 + i))
    · exact h.lasts.imp_right fun hwithin => (hwithin.drop 1).drop 1
  · -- The same is put back into the cell.
    rw [h.ask_of_not_asks hasks]
    constructor
    · intro cell
      rw [stored_store_stored]
      exact h.previous cell
    · intro cell
      rw [stored_store_stored, used_append_query, h.isDue_iff]
      refine not_congr (or_iff_right_of_imp ?_).symm
      rintro rfl
      exact not_not.1 (not_or.1 hasks).2
    · intro cell
      rw [stored_store_stored]
      exact h.since cell
    · exact fun i => h.started (1 + i)
    · exact h.lasts.imp_right fun hwithin => hwithin.drop 1

/-- So does any operation: a change of the source does not reach the cells, and once
    invalidated all of them are due and none is used. -/
theorem step (h : s.Sound lifetime start ops) (op : Op) :
    (s.step lifetime pollingEnabled op).Sound lifetime start (ops ++ [op]) := by
  cases op with
  | change answers =>
    refine { h with isDue_iff := fun cell => ?_ }
    rw [used_append_change]
    exact h.isDue_iff cell
  | invalidate =>
    constructor
    · intro cell
      rw [Session.step, stored_invalidate, Expiring.previous_invalidate]
      exact h.previous cell
    · intro cell
      rw [Session.step, stored_invalidate]
      exact iff_of_true (Expiring.isDue_invalidate _) (not_used_append_invalidate cell ops)
    · intro cell
      rw [Session.step, stored_invalidate]
      exact Expiring.since_invalidate _
    · exact h.started
    · exact h.lasts
  | query q => exact h.ask q

end Sound

/-- A new cache is sound after any operations. -/
theorem sound_after {answers : Cell → Except Failure (List Peer)} {readings : Readings}
    (hreadings : lifetime = .zero ∨ readings.Lasts lifetime) :
    ∃ start, ∀ ops, (after lifetime pollingEnabled ⟨answers, readings, []⟩ ops).Sound
      lifetime start ops := by
  have hstart : ∃ start, (∀ i, start ≤ readings i) ∧
      (lifetime = .zero ∨ readings.Within start lifetime) := by
    rcases hreadings with hzero | hlasts
    · exact ⟨0, fun i => Nat.zero_le _, .inl hzero⟩
    · obtain ⟨start, hwithin⟩ := hlasts.exists_within
      exact ⟨start, fun i => (hwithin i).1, .inr hwithin⟩
  obtain ⟨start, hstarted, hlasts⟩ := hstart
  refine ⟨start, fun ops => ?_⟩
  induction ops using List.reverseRecOn with
  | nil =>
    constructor
    · intro cell
      rw [after, List.foldl_nil, stored_empty]
      rfl
    · intro cell
      rw [after, List.foldl_nil, stored_empty]
      exact iff_of_true Expiring.isDue_empty (not_used_nil cell)
    · intro cell
      rw [after, List.foldl_nil, stored_empty]
      exact Expiring.since_empty
    · exact hstarted
    · exact hlasts
  | append_singleton ops op ih =>
    rw [after_append]
    exact ih.step op

/-! ## Answers that agree -/

/-- While the rest happens, the answers for a cell leave the same snapshot: the
    source says what it said last, or is not asked. -/
structure Settled (lifetime : Duration) (cell : Cell) (snapshot : Snapshot) (ops rest : List Op)
    (s : Session) : Prop where
  eq : .ofAnswers (s.origin.answered cell) = snapshot
  stays : (s.origin.answered cell).getLast? = some (s.origin.answers cell) ∨
    ¬Asks lifetime cell ops ∧ .invalidate ∉ rest

namespace Settled

variable {start : Moment} {ops rest : List Op} {cell : Cell} {snapshot : Snapshot}

/-- A query leaves the answers for a cell settled. The source is either asked for it
    once more, and says what it said last, or is not asked for it and will not be. -/
theorem ask (hsound : s.Sound lifetime start ops) {q : Query}
    (h : s.Settled lifetime cell snapshot ops (.query q :: rest)) :
    (s.ask lifetime pollingEnabled q).2.Settled lifetime cell snapshot (ops ++ [.query q])
      rest := by
  by_cases hasks : q.cell = cell ∧ Asks lifetime cell ops
  · obtain ⟨rfl, hasks⟩ := hasks
    -- It is asked once more, and says the same.
    have hlast := h.stays.resolve_right fun hnot => hnot.1 hasks
    constructor
    · rw [hsound.answered_ask hasks, if_pos rfl, Snapshot.ofAnswers_append_self hlast, h.eq]
    · left
      rw [hsound.answered_ask hasks, hsound.answers_ask, if_pos rfl, List.getLast?_concat]
  · have hanswered : (s.ask lifetime pollingEnabled q).2.origin.answered cell =
        s.origin.answered cell := by
      by_cases hcell : q.cell = cell
      · subst hcell
        exact hsound.answered_ask_of_not_asks (fun hq => hasks ⟨rfl, hq⟩) _
      · by_cases hq : Asks lifetime q.cell ops
        · rw [hsound.answered_ask hq, if_neg hcell]
        · exact hsound.answered_ask_of_not_asks hq cell
    constructor
    · rw [hanswered, h.eq]
    · rw [hanswered, hsound.answers_ask]
      refine h.stays.imp_right fun ⟨hnot, hrest⟩ => ⟨?_, fun hmem => hrest (.tail _ hmem)⟩
      obtain ⟨hzero, hused⟩ := not_or.1 hnot
      refine not_or.2 ⟨hzero, not_not.2 ?_⟩
      exact (used_append_query cell ops q).2 (.inr (not_not.1 hused))

/-- A query leaves its snapshot settled if it is up to date or the cache is not
    invalidated. -/
theorem of_ask (hsound : s.Sound lifetime start ops) (q : Query)
    (hinvalidate : .invalidate ∈ rest → UpToDate lifetime q.cell ops s) :
    (s.ask lifetime pollingEnabled q).2.Settled lifetime q.cell
      (.ofAnswers ((s.ask lifetime pollingEnabled q).2.origin.answered q.cell))
      (ops ++ [.query q]) rest := by
  refine ⟨rfl, ?_⟩
  by_cases hasks : Asks lifetime q.cell ops
  · left
    rw [hsound.answered_ask hasks, hsound.answers_ask, if_pos rfl, List.getLast?_concat]
  · by_cases hmem : .invalidate ∈ rest
    · left
      rw [hsound.answered_ask_of_not_asks hasks, hsound.answers_ask]
      exact (hinvalidate hmem).resolve_left hasks
    · right
      refine ⟨not_or.2 ⟨(not_or.1 hasks).1, not_not.2 ?_⟩, hmem⟩
      exact (used_append_query _ ops q).2 (.inl rfl)

/-- The snapshot lasts until all has happened. -/
theorem run {answers : Cell → Except Failure (List Peer)} {readings : Readings}
    (hsound : ∀ ops, (after lifetime pollingEnabled ⟨answers, readings, []⟩ ops).Sound
      lifetime start ops)
    (hrest : ∀ answers, .change answers ∉ rest)
    (h : (after lifetime pollingEnabled ⟨answers, readings, []⟩ ops).Settled
      lifetime cell snapshot ops rest) :
    (after lifetime pollingEnabled ⟨answers, readings, []⟩ (ops ++ rest)).Settled
      lifetime cell snapshot (ops ++ rest) [] := by
  induction rest generalizing ops with
  | nil => rwa [List.append_nil]
  | cons op rest ih =>
    rw [List.append_cons]
    refine ih (fun answers hmem => hrest answers (.tail _ hmem)) ?_
    rw [after_append]
    cases op with
    | change answers => exact absurd (.head _) (hrest answers)
    | invalidate =>
      -- Invalidated, it would be asked; so it says what it said last.
      exact ⟨h.eq, .inl (h.stays.resolve_right fun hnot => hnot.2 (.head _))⟩
    | query q => exact h.ask (hsound ops)

end Settled

/-- The answer to a query after operations. -/
def told (lifetime : Duration) (pollingEnabled : Bool) (origin : Origin) (ops : List Op)
    (q : Query) : Answer :=
  ((after lifetime pollingEnabled origin ops).ask lifetime pollingEnabled q).1

section Told

variable {answers : Cell → Except Failure (List Peer)} {readings : Readings} {ops rest : List Op}

/-- Two queries on one cell are answered from the same snapshot if the source
    does not change in between, and the first is up to date or the cache is not
    invalidated in between. -/
theorem exists_told (hreadings : lifetime = .zero ∨ readings.Lasts lifetime) (q q' : Query)
    (hcell : q'.cell = q.cell) (hchange : ∀ answers, .change answers ∉ rest)
    (hinvalidate : .invalidate ∈ rest →
      UpToDate lifetime q.cell ops (after lifetime pollingEnabled ⟨answers, readings, []⟩ ops)) :
    ∃ snapshot, told lifetime pollingEnabled ⟨answers, readings, []⟩ ops q =
        q.answer pollingEnabled snapshot ∧
      told lifetime pollingEnabled ⟨answers, readings, []⟩ (ops ++ .query q :: rest) q' =
        q'.answer pollingEnabled snapshot := by
  obtain ⟨start, hsound⟩ : ∃ start, ∀ ops,
      (after lifetime pollingEnabled ⟨answers, readings, []⟩ ops).Sound lifetime start ops :=
    sound_after hreadings
  obtain ⟨snapshot, hfirst, hsettled⟩ : ∃ snapshot,
      told lifetime pollingEnabled ⟨answers, readings, []⟩ ops q =
          q.answer pollingEnabled snapshot ∧
        (after lifetime pollingEnabled ⟨answers, readings, []⟩ (ops ++ [.query q])).Settled
          lifetime q.cell snapshot (ops ++ [.query q]) (rest ++ [.query q']) := by
    rw [after_append]
    exact ⟨_, (hsound ops).answer_ask q, .of_ask (hsound ops) q (by simpa using hinvalidate)⟩
  refine ⟨snapshot, hfirst, ?_⟩
  -- The second query leaves the snapshot of the first, and is answered from it.
  have hlast := (hsettled.run hsound (by simpa using hchange)).eq
  rw [← List.append_assoc, after_append, ← List.append_cons, ← hcell] at hlast
  rw [told, (hsound _).answer_ask q']
  exact congrArg (Query.answer pollingEnabled · q') hlast

theorem stored_ask {start : Moment} (h : s.Sound lifetime start ops) {cell : Cell}
    (hcell : q.cell ≠ cell) :
    (s.ask lifetime pollingEnabled q).2.cache.stored cell = s.cache.stored cell := by
  by_cases hasks : Asks lifetime q.cell ops
  · rw [h.ask_of_asks hasks, stored_store, if_neg hcell]
  · rw [h.ask_of_not_asks hasks, stored_store, if_neg hcell]

/-- Whatever happens to a cache, with a lifetime that is zero or does not run
    out, what is in a cell is what the answers for it left behind: the peers of
    the last one that was no failure, and the failure of the last one. Queries
    are answered with that, and leave other cells alone. They ask the source if
    the lifetime is zero, and else only the first time, and the first time after
    the cache was invalidated. Both ways to ask for a channel agree while the
    source does not change; a query after the cache was invalidated is up to date,
    and so must be the one before it. -/
theorem remembers_last_good (hreadings : lifetime = .zero ∨ readings.Lasts lifetime)
    (pollingEnabled : Bool) (answers : Cell → Except Failure (List Peer)) (ops : List Op)
    (q : Query) :
    let origin : Origin := ⟨answers, readings, []⟩
    let before := after lifetime pollingEnabled origin ops
    let later := after lifetime pollingEnabled origin (ops ++ [.query q])
    (∀ cell, (later.cache.stored cell).previous =
        Snapshot.ofAnswers? (later.origin.answered cell)) ∧
      told lifetime pollingEnabled origin ops q =
        q.answer pollingEnabled (.ofAnswers (later.origin.answered q.cell)) ∧
      (∀ cell, q.cell ≠ cell → later.cache.stored cell = before.cache.stored cell) ∧
      (Asks lifetime q.cell ops →
        later.origin.loads = before.origin.loads ++ [⟨q.cell, before.origin.answers q.cell⟩]) ∧
      (¬Asks lifetime q.cell ops → later.origin.loads = before.origin.loads) ∧
      ∀ channel rest, (∀ answers, .change answers ∉ rest) →
        (.invalidate ∈ rest → UpToDate lifetime (.channel channel) ops before) →
        (∃ m peers, told lifetime pollingEnabled origin ops (.membership channel) = .membership m ∧
          told lifetime pollingEnabled origin (ops ++ .query (.membership channel) :: rest)
            (.peersOfChannel channel) = .peers peers ∧ Snapshot.Agree m peers) ∧
        ∃ m peers,
          told lifetime pollingEnabled origin ops (.peersOfChannel channel) = .peers peers ∧
          told lifetime pollingEnabled origin (ops ++ .query (.peersOfChannel channel) :: rest)
            (.membership channel) = .membership m ∧ Snapshot.Agree m peers := by
  intro origin before later
  obtain ⟨start, hsound⟩ : ∃ start, ∀ ops,
      (after lifetime pollingEnabled origin ops).Sound lifetime start ops :=
    sound_after hreadings
  have hlater : later = (before.ask lifetime pollingEnabled q).2 := after_append ops (.query q)
  refine ⟨(hsound _).previous, ?_, fun cell hcell => ?_, fun hasks => ?_, fun hasks => ?_,
    fun channel rest hchange hinvalidate => ⟨?_, ?_⟩⟩
  · rw [hlater]
    exact (hsound ops).answer_ask q
  · rw [hlater]
    exact stored_ask (hsound ops) hcell
  · rw [hlater, (hsound ops).ask_of_asks hasks]
  · rw [hlater, (hsound ops).ask_of_not_asks hasks]
  · obtain ⟨snapshot, hfirst, hsecond⟩ := exists_told hreadings (.membership channel)
      (.peersOfChannel channel) rfl hchange hinvalidate
    exact ⟨_, _, hfirst, hsecond, snapshot.agree_usable pollingEnabled⟩
  · obtain ⟨snapshot, hfirst, hsecond⟩ := exists_told hreadings (.peersOfChannel channel)
      (.membership channel) rfl hchange hinvalidate
    exact ⟨_, _, hfirst, hsecond, snapshot.agree_usable pollingEnabled⟩

/-- A source that stays the same between two queries is not enough for them to
    agree: it may have failed before the first, which was answered from the cache,
    and shows that it fails once the cache was invalidated. -/
theorem views_disagree_once_invalidated :
    ¬∀ (lifetime : Duration) (pollingEnabled : Bool) (origin : Origin) (ops rest : List Op)
      (channel : String), origin.loads = [] → (lifetime = .zero ∨ origin.readings.Lasts lifetime) →
      (∀ answers, .change answers ∉ rest) →
      ∃ m peers, told lifetime pollingEnabled origin ops (.membership channel) = .membership m ∧
        told lifetime pollingEnabled origin (ops ++ .query (.membership channel) :: rest)
          (.peersOfChannel channel) = .peers peers ∧ Snapshot.Agree m peers := by
  intro hagree
  have hlasts : Readings.Lasts (.ofSeconds 3600) fun _ => 0 := by
    intro i j
    change 0 - 0 < 3600 * 1000000000
    decide
  obtain ⟨m, peers, hm, hpeers, -, hsame⟩ := hagree (.ofSeconds 3600) true
    ⟨fun _ => .ok [], fun _ => 0, []⟩ [.query (.membership "c"),
      .change fun _ => .error (.membershipQuery "c" "gossip unavailable")] [.invalidate] "c" rfl
    (.inr hlasts) (by simp)
  have hfirst : m = ⟨[], none, true⟩ := Answer.membership.inj (hm.symm.trans (by decide +kernel))
  have hsecond : peers = .error (.membershipQuery "c" "gossip unavailable") :=
    Answer.peers.inj (hpeers.symm.trans (by decide +kernel))
  subst hfirst hsecond
  cases hsame rfl

/-- A peer outlives two failures. -/
theorem peer_survives_failures :
    told (.ofSeconds 5) false ⟨fun _ => .ok [⟨"peer0", "Org1", none, []⟩], fun i => i % 2, []⟩
      [.query (.membership "c"), .change fun _ => .error (.noPeers "c"), .invalidate,
        .query (.peersOfChannel "c"), .query .allPeers, .invalidate] (.membership "c") =
      .membership ⟨[⟨"peer0", "Org1", none, []⟩], some (.noPeers "c"), false⟩ := by
  have hlasts : Readings.Lasts (.ofSeconds 5) fun i => i % 2 := by
    intro i j
    change j % 2 - i % 2 < 5 * 1000000000
    omega
  obtain ⟨-, htold, -⟩ := remembers_last_good (.inr hlasts) false
    (fun _ => .ok [⟨"peer0", "Org1", none, []⟩])
    [.query (.membership "c"), .change fun _ => .error (.noPeers "c"), .invalidate,
      .query (.peersOfChannel "c"), .query .allPeers, .invalidate] (.membership "c")
  exact htold.trans (by decide +kernel)

end Told

end Session

end MembershipCache

end Endorsement
