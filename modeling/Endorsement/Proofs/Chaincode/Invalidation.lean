import Endorsement.Chaincode.Concurrent
import Endorsement.Proofs.Running

/-!
# Invalidations among queries

Queries, invalidations and clearings of one chaincode cache interleave. Forgetting
data does not wait for the fill lock, so it may fall between the answer of the
provider to a query and the insertion of that answer. The data is inserted then
although it was answered before, and later queries find it.

* `Shared.Moved`, `Shared.moved_move`: what a caller does in one step;
* `Shared.Guarded`, `Shared.guarded_moves`: a caller that is past the fill lock is
  the one that has it;
* `Shared.Supplies`: the provider answers a query with some data;
* `Shared.Accounted`, `Shared.accounted_moves`: where the data comes from that is
  remembered or answered, step by step and along a run;
* `Shared.answersAnew_iff_not_fills`: after an invalidation, queries are answered
  anew unless the caller that has the fill lock is about to insert what it was
  answered before;
* `Shared.outdated_after_invalidation`: that happens.
-/

namespace Endorsement.ChaincodeCache

/-- A request makes the cache forget the data of a chaincode. -/
def Request.Forgets (channel chaincode : String) : Request → Prop
  | .query _ _ => False
  | .invalidate channel' chaincode' => channel' = channel ∧ chaincode' = chaincode
  | .clear => True

namespace Phase

/-- Whether a caller has the fill lock in a phase. -/
def locks : Phase → Bool
  | .lookingAgain | .asking | .inserting _ | .releasing _ => true
  | _ => false

/-- Caller `j` has data in a phase that is yet to be inserted or, if it is
    caller `i`, that is its answer. -/
def Passes (i j : Nat) (data : Chaincode) : Phase → Prop
  | .inserting data' => data' = data
  | .releasing (.ok data') | .answered (.ok data') => j = i ∧ data' = data
  | _ => False

end Phase

theorem Phase.Passes.inserting_or {i j : Nat} {data : Chaincode} {phase : Phase}
    (h : phase.Passes i j data) : phase = .inserting data ∨ j = i ∧ phase ≠ .idle := by
  match phase, h with
  | .inserting _, h => exact .inl (congrArg _ h)
  | .releasing (.ok _), h | .answered (.ok _), h => exact .inr ⟨h.1, nofun⟩

/-- A step: the caller that makes it, and how the surroundings are at the time. -/
structure Move (σ : Type) where
  caller : Nat
  around : σ

namespace Shared

variable {m : Type → Type} [Monad m] [MonadLiftT Logged m] {σ : Type} [Runs m σ]
  (provider : ChaincodeProvider m)

/-! ## Steps -/

/-- Callers that have not begun, and an empty cache. -/
def start (requests : List Request) : Shared where
  callers := requests.map fun request => { request }

/-- What a step leads to. -/
def move (s : Shared) (step : Move σ) : Shared :=
  (Runs.run (s.step provider step.caller) step.around).1

/-- What steps lead to, one after the other. -/
def moves (s : Shared) (steps : List (Move σ)) : Shared :=
  steps.foldl (move provider) s

/-- In a step, the provider answers a query for a chaincode with data. -/
def Fetches (s : Shared) (step : Move σ) (channel chaincode : String) (data : Chaincode) : Prop :=
  s.callers[step.caller]? = some ⟨.query channel chaincode, .asking⟩ ∧
    (Runs.run (provider channel chaincode) step.around).1 = .ok data

/-- The steps that a caller can make, one for each atomic section. -/
inductive Moved (s : Shared) (step : Move σ) : Shared → Prop
  | stays : Moved s step s
  | finds {channel chaincode : String} {data : Chaincode} :
      s.callers[step.caller]? = some ⟨.query channel chaincode, .idle⟩ →
      s.cache.find? (channel, chaincode) = some data →
      Moved s step (s.moveTo step.caller (.answered (.ok data)))
  | misses {channel chaincode : String} :
      s.callers[step.caller]? = some ⟨.query channel chaincode, .idle⟩ →
      Moved s step (s.moveTo step.caller .waiting)
  | locks {channel chaincode : String} :
      s.callers[step.caller]? = some ⟨.query channel chaincode, .waiting⟩ → s.holder = none →
      Moved s step { s.moveTo step.caller .lookingAgain with holder := some step.caller }
  | findsAgain {channel chaincode : String} {data : Chaincode} :
      s.callers[step.caller]? = some ⟨.query channel chaincode, .lookingAgain⟩ →
      s.cache.find? (channel, chaincode) = some data →
      Moved s step (s.moveTo step.caller (.releasing (.ok data)))
  | missesAgain {channel chaincode : String} :
      s.callers[step.caller]? = some ⟨.query channel chaincode, .lookingAgain⟩ →
      Moved s step (s.moveTo step.caller .asking)
  | fetches {channel chaincode : String} {data : Chaincode} :
      s.Fetches provider step channel chaincode data →
      Moved s step (s.moveTo step.caller (.inserting data))
  | fails {channel chaincode : String} {failure : Failure} :
      s.callers[step.caller]? = some ⟨.query channel chaincode, .asking⟩ →
      Moved s step (s.moveTo step.caller (.releasing (.error failure)))
  | inserts {channel chaincode : String} {data : Chaincode} :
      s.callers[step.caller]? = some ⟨.query channel chaincode, .inserting data⟩ →
      Moved s step { s.moveTo step.caller (.releasing (.ok data)) with
        cache := s.cache.insert (channel, chaincode) data }
  | releases {channel chaincode : String} {answer : Except Failure Chaincode} :
      s.callers[step.caller]? = some ⟨.query channel chaincode, .releasing answer⟩ →
      Moved s step { s.moveTo step.caller (.answered answer) with holder := none }
  | invalidates {channel chaincode : String} :
      s.callers[step.caller]? = some ⟨.invalidate channel chaincode, .idle⟩ →
      Moved s step { s.moveTo step.caller .finished with
        cache := s.cache.invalidate channel chaincode }
  | clears :
      s.callers[step.caller]? = some ⟨.clear, .idle⟩ →
      Moved s step { s.moveTo step.caller .finished with cache := s.cache.clear }

/-- A step of a caller is one of those it can make. -/
theorem moved_move (s : Shared) (step : Move σ) : Moved provider s step (s.move provider step) := by
  rw [move, Shared.step]
  cases hc : s.callers[step.caller]? with
  | none => simpa using .stays
  | some c =>
    obtain ⟨request, phase⟩ := c
    cases request with
    | invalidate channel chaincode =>
      cases phase with
      | idle => simpa using .invalidates hc
      | _ => simpa using .stays
    | clear =>
      cases phase with
      | idle => simpa using .clears hc
      | _ => simpa using .stays
    | query channel chaincode =>
      simp only [stepQuery]
      cases phase with
      | idle =>
        cases h : s.cache.find? (channel, chaincode) with
        | none => simpa using .misses hc
        | some data => simpa using .finds hc h
      | waiting =>
        cases h : s.holder with
        | none => simpa using .locks hc h
        | some j => simpa using .stays
      | lookingAgain =>
        cases h : s.cache.find? (channel, chaincode) with
        | none => simpa using .missesAgain hc
        | some data => simpa using .findsAgain hc h
      | asking =>
        simp only [Runs.run_bind, Runs.run_log]
        cases h : (Runs.run (provider channel chaincode) step.around).1 with
        | error failure => simpa using .fails hc
        | ok data => simpa using .fetches ⟨hc, h⟩
      | inserting data => simpa using .inserts hc
      | releasing answer => simpa using .releases hc
      | answered _ => simpa using .stays
      | finished => simpa using .stays

/-! ## Callers and their phases -/

variable {provider} {s s' : Shared} {i j : Nat} {phase : Phase} {c : Caller}

theorem getElem?_moveTo_self (hc : s.callers[i]? = some c) :
    (s.moveTo i phase).callers[i]? = some { c with phase } := by
  simp [moveTo, hc]

theorem getElem?_moveTo_of_ne (h : i ≠ j) :
    (s.moveTo i phase).callers[j]? = s.callers[j]? := by
  rw [moveTo, List.getElem?_modify_ne _ _ h]

/-- After a caller has moved, all others are where they were. -/
theorem of_getElem?_moveTo {c' : Caller} (hc : s.callers[i]? = some c)
    (h : (s.moveTo i phase).callers[j]? = some c') :
    j = i ∧ c' = { c with phase } ∨ j ≠ i ∧ s.callers[j]? = some c' := by
  by_cases hij : j = i
  · subst hij
    rw [getElem?_moveTo_self hc] at h
    exact .inl ⟨rfl, (Option.some.inj h).symm⟩
  · rw [getElem?_moveTo_of_ne (Ne.symm hij)] at h
    exact .inr ⟨hij, h⟩

/-! ## The fill lock -/

/-- Callers that are past the fill lock have it. -/
def Guarded (s : Shared) : Prop :=
  ∀ i c, s.callers[i]? = some c → c.phase.locks = true → s.holder = some i

theorem guarded_start (requests : List Request) : (start requests).Guarded := by
  intro i c hc hlocks
  obtain ⟨request, -, rfl⟩ := by simpa [start] using hc
  cases hlocks

/-- A caller may move on as long as it does not get past the lock. -/
theorem Guarded.moveTo (h : s.Guarded) (hc : s.callers[i]? = some c)
    (hphase : phase.locks = true → c.phase.locks = true) : (s.moveTo i phase).Guarded := by
  intro j c' hc' hlocks
  obtain ⟨rfl, rfl⟩ | ⟨-, hc'⟩ := of_getElem?_moveTo hc hc'
  · exact h j c hc (hphase hlocks)
  · exact h j c' hc' hlocks

/-- A step keeps the lock with whoever is past it: it is taken only while nobody has
    it, and given back only by the caller that has it. -/
theorem Guarded.moved {step : Move σ} (h : s.Guarded) (hm : Moved provider s step s') :
    s'.Guarded := by
  cases hm with
  | stays => exact h
  | finds hc | misses hc => exact h.moveTo hc nofun
  | findsAgain hc | missesAgain hc | fails hc => exact h.moveTo hc fun _ => rfl
  | fetches hf => exact h.moveTo hf.1 fun _ => rfl
  | inserts hc => exact h.moveTo hc fun _ => rfl
  | invalidates hc | clears hc => exact h.moveTo hc nofun
  | locks hc hnone =>
    intro j c' hc' hlocks
    obtain ⟨rfl, -⟩ | ⟨-, hc'⟩ := of_getElem?_moveTo hc hc'
    · rfl
    · cases hnone.symm.trans (h j c' hc' hlocks)
  | releases hc =>
    intro j c' hc' hlocks
    obtain ⟨-, rfl⟩ | ⟨hne, hc'⟩ := of_getElem?_moveTo hc hc'
    · cases hlocks
    · -- The lock is released by the caller that has it, and no other is past it.
      have hself := h step.caller _ hc rfl
      exact absurd (Option.some.inj ((h j c' hc' hlocks).symm.trans hself)) hne

theorem guarded_moves (h : s.Guarded) (steps : List (Move σ)) :
    (s.moves provider steps).Guarded := by
  induction steps generalizing s with
  | nil => exact h
  | cons step rest ih => exact ih (h.moved (moved_move provider s step))

/-! ## Where data comes from -/

variable {channel chaincode : String} {data : Chaincode} {P : Chaincode → Prop}

variable (provider) in
/-- In one of some steps, the provider answers a query for a chaincode with data. -/
def Supplies (s : Shared) : List (Move σ) → String → String → Chaincode → Prop
  | [], _, _, _ => False
  | step :: rest, channel, chaincode, data =>
    s.Fetches provider step channel chaincode data ∨
      (s.move provider step).Supplies rest channel chaincode data

/-- The data of a chaincode has a property if it is remembered, is about to be, or
    is the answer to caller `i`. -/
structure Accounted (P : Chaincode → Prop) (channel chaincode : String) (i : Nat)
    (s : Shared) : Prop where
  remembered : ∀ data, s.cache.find? (channel, chaincode) = some data → P data
  passed : ∀ j (phase : Phase) data, s.callers[j]? = some ⟨.query channel chaincode, phase⟩ →
    phase.Passes i j data → P data

theorem accounted_start (requests : List Request) :
    (start requests).Accounted P channel chaincode i where
  remembered := nofun
  passed j phase data hj hpass := by
    obtain ⟨request, -, heq⟩ : ∃ request, requests[j]? = some request ∧
      Caller.mk request .idle = ⟨.query channel chaincode, phase⟩ := by simpa [start] using hj
    obtain ⟨-, rfl⟩ := Caller.mk.inj heq
    exact hpass.elim

namespace Accounted

theorem moveTo (h : s.Accounted P channel chaincode i) (hc : s.callers[j]? = some c)
    (hnew : ∀ data, c.request = .query channel chaincode → phase.Passes i j data → P data) :
    (s.moveTo j phase).Accounted P channel chaincode i where
  remembered := h.remembered
  passed k phase' data hk hpass := by
    obtain ⟨rfl, heq⟩ | ⟨-, hk⟩ := of_getElem?_moveTo hc hk
    · obtain ⟨hrequest, rfl⟩ := Caller.mk.inj heq
      exact hnew data hrequest.symm hpass
    · exact h.passed k phase' data hk hpass

theorem withCache (h : s.Accounted P channel chaincode i) {cache : ChaincodeCache}
    (hcache : ∀ data, cache.find? (channel, chaincode) = some data → P data) :
    Accounted P channel chaincode i { s with cache } :=
  ⟨hcache, h.passed⟩

theorem withHolder (h : s.Accounted P channel chaincode i) (holder : Option Nat) :
    Accounted P channel chaincode i { s with holder } :=
  ⟨h.remembered, h.passed⟩

/-- A step leaves the data accounted for if that is so of what the provider answers. -/
theorem moved {step : Move σ} (h : s.Accounted P channel chaincode i)
    (hP : ∀ data, s.Fetches provider step channel chaincode data → P data)
    (hm : Moved provider s step s') : s'.Accounted P channel chaincode i := by
  cases hm with
  | stays => exact h
  | misses hc | missesAgain hc | fails hc => exact h.moveTo hc fun _ _ => False.elim
  | locks hc => exact (h.moveTo hc fun _ _ => False.elim).withHolder _
  | finds hc hfind | findsAgain hc hfind =>
    refine h.moveTo hc fun data hrequest hpass => ?_
    obtain ⟨rfl, rfl⟩ := Request.query.inj hrequest
    obtain ⟨-, rfl⟩ := hpass
    exact h.remembered _ hfind
  | fetches hf =>
    refine h.moveTo hf.1 fun data hrequest hpass => ?_
    obtain ⟨rfl, rfl⟩ := Request.query.inj hrequest
    obtain rfl := hpass
    exact hP _ hf
  | inserts hc =>
    -- What is inserted was passed before, by whichever caller.
    refine (h.moveTo hc fun data hrequest hpass => ?_).withCache fun data hfind => ?_
    · obtain ⟨rfl, rfl⟩ := Request.query.inj hrequest
      obtain ⟨-, rfl⟩ := hpass
      exact h.passed _ _ _ hc rfl
    · rw [Table.find?_insert] at hfind
      split at hfind
      · rename_i heq
        obtain ⟨rfl, rfl⟩ := Prod.mk.inj heq
        obtain rfl := Option.some.inj hfind
        exact h.passed _ _ _ hc rfl
      · exact h.remembered data hfind
  | @releases _ _ answer hc =>
    refine (h.moveTo hc fun data hrequest hpass => ?_).withHolder _
    obtain ⟨rfl, rfl⟩ := Request.query.inj hrequest
    have hpass : Phase.Passes i step.caller data (.releasing answer) := by
      cases answer with
      | ok data' => exact hpass
      | error failure => exact hpass.elim
    exact h.passed _ _ _ hc hpass
  | invalidates hc =>
    refine (h.moveTo hc fun _ _ => False.elim).withCache fun data hfind => ?_
    rw [invalidate, Table.find?_erase] at hfind
    split at hfind
    · cases hfind
    · exact h.remembered data hfind
  | clears hc => exact (h.moveTo hc fun _ _ => False.elim).withCache nofun

end Accounted

theorem accounted_moves {steps : List (Move σ)} (h : s.Accounted P channel chaincode i)
    (hP : ∀ data, s.Supplies provider steps channel chaincode data → P data) :
    (s.moves provider steps).Accounted P channel chaincode i := by
  induction steps generalizing s with
  | nil => exact h
  | cons step rest ih =>
    have hmoved := h.moved (fun data hf => hP data (.inl hf)) (moved_move provider s step)
    exact ih hmoved fun data hsupplies => hP data (.inr hsupplies)

/-! ## After an invalidation -/

/-- The caller that has the fill lock is about to insert data of a chaincode. -/
def Fills (s : Shared) (channel chaincode : String) (data : Chaincode) : Prop :=
  ∃ k, s.holder = some k ∧ s.callers[k]? = some ⟨.query channel chaincode, .inserting data⟩

variable (provider) in
/-- However callers go on, the data that caller `i` is answered to its query is data
    that the provider answers on the way. -/
def AnswersAnew (s : Shared) (i : Nat) (channel chaincode : String) : Prop :=
  ∀ (steps : List (Move σ)) (data : Chaincode),
    (s.moves provider steps).callers[i]? =
      some ⟨.query channel chaincode, .answered (.ok data)⟩ →
    s.Supplies provider steps channel chaincode data

variable (provider) in
/-- Forgetting the data of a chaincode takes one step. -/
theorem move_of_forgets {step : Move σ} {request : Request}
    (hc : s.callers[step.caller]? = some ⟨request, .idle⟩)
    (hforgets : request.Forgets channel chaincode) :
    (s.move provider step).cache.find? (channel, chaincode) = none ∧
      (s.move provider step).callers = (s.moveTo step.caller .finished).callers := by
  cases request with
  | query _ _ => exact hforgets.elim
  | invalidate channel' chaincode' =>
    obtain ⟨rfl, rfl⟩ := hforgets
    simp [move, Shared.step, hc, invalidate, Table.find?_erase]
  | clear => simp [move, Shared.step, hc, clear]

variable (provider) in
theorem move_of_inserting (around : σ)
    (hc : s.callers[i]? = some ⟨.query channel chaincode, .inserting data⟩) :
    s.move provider ⟨i, around⟩ = { s.moveTo i (.releasing (.ok data)) with
      cache := s.cache.insert (channel, chaincode) data } := by
  simp [move, Shared.step, stepQuery, hc]

variable (provider) in
theorem move_of_found (around : σ)
    (hc : s.callers[i]? = some ⟨.query channel chaincode, .idle⟩)
    (hfind : s.cache.find? (channel, chaincode) = some data) :
    s.move provider ⟨i, around⟩ = s.moveTo i (.answered (.ok data)) := by
  simp [move, Shared.step, stepQuery, hc, hfind]

variable (provider) in
/-- Data that is about to be inserted is found by a query that begins right afterwards. -/
theorem exists_moves_answered (around : σ)
    (hj : s.callers[j]? = some ⟨.query channel chaincode, .inserting data⟩)
    (hi : s.callers[i]? = some ⟨.query channel chaincode, .idle⟩) :
    ∃ steps : List (Move σ),
      (s.moves provider steps).callers[i]? =
        some ⟨.query channel chaincode, .answered (.ok data)⟩ ∧
      ∀ data', ¬s.Supplies provider steps channel chaincode data' := by
  have hne : j ≠ i := by
    rintro rfl
    cases hj.symm.trans hi
  have hinserted := move_of_inserting provider around hj
  have hidle : (s.move provider ⟨j, around⟩).callers[i]? =
      some ⟨.query channel chaincode, .idle⟩ := by
    rw [hinserted]
    exact (getElem?_moveTo_of_ne hne).trans hi
  have hfind : (s.move provider ⟨j, around⟩).cache.find? (channel, chaincode) = some data := by
    rw [hinserted, Table.find?_insert, if_pos rfl]
  refine ⟨[⟨j, around⟩, ⟨i, around⟩], ?_, fun data' hsupplies => ?_⟩
  · change ((s.move provider ⟨j, around⟩).move provider ⟨i, around⟩).callers[i]? = _
    rw [move_of_found provider around hidle hfind, getElem?_moveTo_self hidle]
  · -- In neither step is the provider asked.
    obtain hfetches | hfetches | hfalse := hsupplies
    · cases hj.symm.trans hfetches.1
    · cases hidle.symm.trans hfetches.1
    · exact hfalse

/-- What the caller that has the fill lock is about to insert, the provider answered
    before. -/
theorem supplies_of_fills {requests : List Request} {steps : List (Move σ)}
    (h : ((start requests).moves provider steps).Fills channel chaincode data) :
    (start requests).Supplies provider steps channel chaincode data := by
  obtain ⟨k, -, hk⟩ := h
  have hstart : (start requests).Accounted
      ((start requests).Supplies provider steps channel chaincode) channel chaincode k :=
    accounted_start requests
  exact (accounted_moves hstart fun _ => id).passed k _ data hk rfl

/-- Where data was just forgotten, all there is to account for is what is about to be
    inserted. -/
theorem accounted_of_forgets {step : Move σ} {request : Request} (hguarded : s.Guarded)
    (hc : s.callers[step.caller]? = some ⟨request, .idle⟩)
    (hforgets : request.Forgets channel chaincode)
    (hi : (s.move provider step).callers[i]? = some ⟨.query channel chaincode, .idle⟩)
    (hfills : ∀ data, s.Fills channel chaincode data → P data) :
    (s.move provider step).Accounted P channel chaincode i := by
  obtain ⟨hfind, hcallers⟩ := move_of_forgets provider hc hforgets
  refine ⟨fun data hdata => ?_, fun k phase data hk hpass => ?_⟩
  · cases hfind.symm.trans hdata
  · rw [hcallers] at hi hk
    obtain ⟨-, heq⟩ | ⟨-, hk'⟩ := of_getElem?_moveTo hc hk
    · obtain ⟨-, rfl⟩ := Caller.mk.inj heq
      exact hpass.elim
    · obtain rfl | ⟨rfl, hidle⟩ := hpass.inserting_or
      · exact hfills data ⟨k, hguarded k _ hk' rfl, hk'⟩
      · obtain ⟨-, rfl⟩ := Caller.mk.inj (Option.some.inj (hk.symm.trans hi))
        exact absurd rfl hidle

/-- Callers query, invalidate and clear, in any interleaving. Once the data of a
    chaincode is forgotten, a query that has not begun is answered data only that the
    provider answers from then on, unless at the time of forgetting the caller that has
    the fill lock is about to insert what the provider answered it before. -/
theorem answersAnew_iff_not_fills (requests : List Request) (before : List (Move σ))
    (step : Move σ) {request : Request} (hs : s = (start requests).moves provider before)
    (hc : s.callers[step.caller]? = some ⟨request, .idle⟩)
    (hforgets : request.Forgets channel chaincode)
    (hi : (s.move provider step).callers[i]? = some ⟨.query channel chaincode, .idle⟩) :
    ((s.move provider step).AnswersAnew provider i channel chaincode ↔
      ∀ data, ¬s.Fills channel chaincode data) ∧
      ∀ data, s.Fills channel chaincode data →
        (start requests).Supplies provider before channel chaincode data := by
  have hguarded : s.Guarded := hs ▸ guarded_moves (guarded_start requests) before
  refine ⟨⟨?_, ?_⟩, fun data hdata => supplies_of_fills (hs ▸ hdata)⟩
  · rintro hanew data ⟨k, -, hk⟩
    have hne : step.caller ≠ k := by
      rintro hsame
      cases (hsame ▸ hc).symm.trans hk
    have hk' : (s.move provider step).callers[k]? =
        some ⟨.query channel chaincode, .inserting data⟩ := by
      rw [(move_of_forgets provider hc hforgets).2, getElem?_moveTo_of_ne hne, hk]
    obtain ⟨steps, hanswered, hnone⟩ := exists_moves_answered provider step.around hk' hi
    exact hnone data (hanew steps data hanswered)
  · intro hfills steps data hanswered
    have haccounted : (s.move provider step).Accounted
        ((s.move provider step).Supplies provider steps channel chaincode) channel chaincode i :=
      accounted_of_forgets hguarded hc hforgets hi fun data hdata => absurd hdata (hfills data)
    exact (accounted_moves haccounted fun _ => id).passed i _ data hanswered ⟨rfl, rfl⟩

/-! ## An upgrade among two queries -/

/-- A provider that answers the current data, whatever is asked for. -/
def current : ChaincodeProvider (StateT Chaincode Logged) :=
  fun _ _ => return .ok (← get)

/-- The data of a chaincode before an upgrade. -/
def outdated : Chaincode := ⟨"cc", "1", [7]⟩

/-- The data of a chaincode after an upgrade. -/
def upgraded : Chaincode := ⟨"cc", "2", [8]⟩

/-- A step of a caller, while the data is as given. -/
def withData (data : Chaincode) (caller : Nat) : Move (Chaincode × Unit) :=
  ⟨caller, (data, ())⟩

/-- A query, an invalidation, and another query. -/
def aroundUpgrade : Shared :=
  start [.query "ch" "cc", .invalidate "ch" "cc", .query "ch" "cc"]

/-- An invalidation that comes after the first query is not lost. -/
theorem answersAnew_aroundUpgrade :
    let s := aroundUpgrade.moves current ([0, 0, 0, 0, 0, 0].map (withData outdated))
    let s' := s.move current (withData upgraded 1)
    s.callers[1]? = some ⟨.invalidate "ch" "cc", .idle⟩ ∧
      s'.callers[2]? = some ⟨.query "ch" "cc", .idle⟩ ∧
      (∀ data, ¬s.Fills "ch" "cc" data) ∧
      s'.AnswersAnew current 2 "ch" "cc" := by
  have hnone : ∀ data, ¬(aroundUpgrade.moves current
      ([0, 0, 0, 0, 0, 0].map (withData outdated))).Fills "ch" "cc" data := by
    rintro data ⟨k, hholder, -⟩
    cases hholder
  refine ⟨rfl, rfl, hnone, ?_⟩
  have hforgets : (Request.invalidate "ch" "cc").Forgets "ch" "cc" := ⟨rfl, rfl⟩
  exact (answersAnew_iff_not_fills _ ([0, 0, 0, 0, 0, 0].map (withData outdated))
    (withData upgraded 1) rfl rfl hforgets rfl).1.2 hnone

/-- An invalidation is lost that comes after the answer to the first query, and before
    the insertion of it: the second query is answered data that the provider answered
    earlier, and does not answer any more. -/
theorem outdated_after_invalidation :
    let before := [0, 0, 0, 0].map (withData outdated)
    let after := [0, 2].map (withData upgraded)
    let s := aroundUpgrade.moves current before
    let s' := s.move current (withData upgraded 1)
    s.callers[1]? = some ⟨.invalidate "ch" "cc", .idle⟩ ∧
      aroundUpgrade.Supplies current before "ch" "cc" outdated ∧
      s'.callers[2]? = some ⟨.query "ch" "cc", .idle⟩ ∧
      (s'.moves current after).callers[2]? =
        some ⟨.query "ch" "cc", .answered (.ok outdated)⟩ ∧
      ¬s'.Supplies current after "ch" "cc" outdated := by
  refine ⟨rfl, ?_, rfl, rfl, ?_⟩
  · exact .inr (.inr (.inr (.inl ⟨rfl, rfl⟩)))
  · rintro (h | h | h)
    · cases h.1
    · cases h.1
    · exact h

end Shared

end Endorsement.ChaincodeCache
