import Endorsement.Chaincode.Concurrent
import Endorsement.InMemory
import Endorsement.Proofs.Running
import Endorsement.Proofs.Table
import Mathlib.Data.Set.Card

/-!
# What a chaincode cache remembers

A chaincode cache is queried, invalidated and cleared in any order, while the
provider behind it gets other data, fails and recovers. What it answers depends
on what the provider was asked, and on what was forgotten since: the data of a
chaincode is that of the one query that the provider answered with data, for
this channel and chaincode and since they were last forgotten.

* `Incident`, `recorded`: what comes to pass behind a cache, and a provider that
  writes down what it is asked;
* `Session`, `Session.query`, `Session.after`: a cache in use;
* `fetched`: the data to be remembered, by what came to pass;
* `run_query_of_some`, `run_query_of_none`: what a query does, by what is
  remembered;
* `Session.Faithful`, `Session.faithful_after`: what is remembered, at any time;
* `Session.memoizes_data`: what is answered, when the provider is asked, and how
  much is remembered.
-/

namespace Endorsement.ChaincodeCache

/-! ## Providers on record -/

/-- Something that comes to pass behind a cache. -/
inductive Incident where
  /-- The provider is asked for the data of a chaincode, and answers. -/
  | asked (channel chaincode : String) (answer : Except Failure Chaincode)
  /-- The data of a chaincode is to be forgotten. -/
  | invalidated (channel chaincode : String)
  /-- All data is to be forgotten. -/
  | cleared

/-- A provider that writes down what it is asked, the latest first. -/
def recorded {m : Type → Type} [Monad m] (provider : ChaincodeProvider m) :
    ChaincodeProvider (StateT (List Incident) m) :=
  fun channel chaincode => do
    let answer ← provider channel chaincode
    modify (.asked channel chaincode answer :: ·)
    return answer

/-- The data that the provider answered for a channel and a chaincode since they
    were last forgotten, the latest first. -/
def fetched (key : String × String) : List Incident → List Chaincode
  | [] => []
  | .asked channel chaincode (.ok data) :: past =>
    if (channel, chaincode) = key then data :: fetched key past else fetched key past
  | .asked _ _ (.error _) :: past => fetched key past
  | .invalidated channel chaincode :: past =>
    if (channel, chaincode) = key then [] else fetched key past
  | .cleared :: _ => []

/-! ## Caches in use -/

/-- What is done with a cache and around it. -/
inductive Op (σ : Type) where
  | request (request : Request)
  /-- The surroundings change, and the provider with them. -/
  | change (f : σ → σ)

/-- What is done concerns a channel and a chaincode. -/
def Op.Concerns {σ : Type} (key : String × String) : Op σ → Prop
  | .request (.query channel chaincode) => (channel, chaincode) = key
  | .request (.invalidate channel chaincode) => (channel, chaincode) = key
  | .request .clear => True
  | .change _ => False

/-- A cache in use. -/
structure Session (σ : Type) where
  cache : ChaincodeCache := .empty
  /-- What came to pass so far, the latest first. -/
  past : List Incident := []
  /-- How the surroundings are. -/
  around : σ

variable {m : Type → Type} [Monad m] [MonadLiftT Logged m] {σ : Type} [Runs m σ]
  (provider : ChaincodeProvider m)

namespace Session

/-- The answer to a query, and what it leaves. -/
def query (u : Session σ) (channel chaincode : String) : Except Failure Chaincode × Session σ :=
  let r := Runs.run (ChaincodeCache.query (recorded provider) channel chaincode)
    (u.cache, u.past, u.around)
  (r.1, ⟨r.2.1, r.2.2.1, r.2.2.2⟩)

/-- What is left once something was done. -/
def step (u : Session σ) : Op σ → Session σ
  | .request (.query channel chaincode) => (u.query provider channel chaincode).2
  | .request (.invalidate channel chaincode) =>
    { u with
      cache := u.cache.invalidate channel chaincode
      past := .invalidated channel chaincode :: u.past }
  | .request .clear => { u with cache := u.cache.clear, past := .cleared :: u.past }
  | .change f => { u with around := f u.around }

/-- What is left once some things were done, one after the other. -/
def after (u : Session σ) (ops : List (Op σ)) : Session σ :=
  ops.foldl (step provider) u

end Session

/-! ## Queries -/

section Queries

variable {provider} {channel chaincode : String} {cache : ChaincodeCache} {s : σ}

/-- What is remembered is answered, and nothing else happens. -/
theorem run_query_of_some {data : Chaincode} (h : cache.find? (channel, chaincode) = some data) :
    Runs.run (query provider channel chaincode) (cache, s) = (.ok data, cache, s) := by
  simp only [query, Runs.run_bind, Runs.run_get, h, Runs.run_pure]

/-- What is not remembered is asked of the provider, and remembered if it is data. -/
theorem run_query_of_none (h : cache.find? (channel, chaincode) = none) :
    Runs.run (query provider channel chaincode) (cache, s) =
      let asked := Runs.run (provider channel chaincode) s
      (asked.1,
        match asked.1 with
        | .ok data => cache.insert (channel, chaincode) data
        | .error _ => cache,
        asked.2) := by
  simp only [query, Runs.run_bind, Runs.run_get, h, Runs.run_log, Runs.run_lift]
  cases (Runs.run (provider channel chaincode) s).1 with
  | ok data => simp only [Runs.run_bind, Runs.run_modify, Runs.run_pure]
  | error failure => simp only [Runs.run_pure]

theorem run_recorded (past : List Incident) :
    Runs.run (recorded provider channel chaincode) (past, s) =
      let asked := Runs.run (provider channel chaincode) s
      (asked.1, .asked channel chaincode asked.1 :: past, asked.2) := by
  simp only [recorded, Runs.run_bind, Runs.run_lift, Runs.run_modify, Runs.run_pure]

end Queries

namespace Session

variable {provider} {u : Session σ} {channel chaincode : String}

theorem query_of_some {data : Chaincode} (h : u.cache.find? (channel, chaincode) = some data) :
    u.query provider channel chaincode = (.ok data, u) := by
  rw [query, run_query_of_some h]

theorem query_of_none (h : u.cache.find? (channel, chaincode) = none) :
    u.query provider channel chaincode =
      let asked := Runs.run (provider channel chaincode) u.around
      (asked.1,
        { cache := match asked.1 with
            | .ok data => u.cache.insert (channel, chaincode) data
            | .error _ => u.cache
          past := .asked channel chaincode asked.1 :: u.past
          around := asked.2 }) := by
  rw [query, run_query_of_none h, run_recorded]

variable (provider u) in
/-- It makes no difference that it is written down what the provider is asked. -/
theorem run_query (channel chaincode : String) :
    Runs.run (ChaincodeCache.query provider channel chaincode) (u.cache, u.around) =
      let r := u.query provider channel chaincode
      (r.1, r.2.cache, r.2.around) := by
  cases h : u.cache.find? (channel, chaincode) with
  | some data => rw [run_query_of_some h, query_of_some h]
  | none => rw [run_query_of_none h, query_of_none h]

/-! ## What is remembered -/

/-- For each channel and chaincode, what is remembered is what the provider answered
    since they were last forgotten. -/
def Faithful (u : Session σ) : Prop :=
  ∀ key, fetched key u.past = (u.cache.find? key).toList

/-- A query fetches only what is not remembered, and then remembers it if there is an
    answer. -/
theorem Faithful.query (h : u.Faithful) (channel chaincode : String) :
    (u.query provider channel chaincode).2.Faithful := by
  cases hfind : u.cache.find? (channel, chaincode) with
  | some data => rwa [query_of_some hfind]
  | none =>
    rw [query_of_none hfind]
    intro key
    cases hasked : (Runs.run (provider channel chaincode) u.around).1 with
    | error failure =>
      simp only [hasked]
      exact h key
    | ok data =>
      simp only [hasked, fetched, Table.find?_insert]
      split
      · -- Nothing was remembered for this key before, so this is the one answer.
        rename_i heq
        rw [h key, ← heq, hfind]
        rfl
      · exact h key

theorem Faithful.step (h : u.Faithful) (op : Op σ) : (u.step provider op).Faithful := by
  cases op with
  | request request =>
    cases request with
    | query channel chaincode => exact h.query channel chaincode
    | invalidate channel chaincode =>
      intro key
      change fetched key (.invalidated channel chaincode :: u.past) =
        ((u.cache.erase (channel, chaincode)).find? key).toList
      rw [fetched, Table.find?_erase, h key]
      split <;> rfl
    | clear => exact fun key => rfl
  | change f => exact h

theorem faithful_after (h : u.Faithful) (ops : List (Op σ)) : (u.after provider ops).Faithful := by
  induction ops generalizing u with
  | nil => exact h
  | cons op rest ih => exact ih (h.step op)

theorem faithful_start (s : σ) : Faithful { around := s } :=
  fun _ => rfl

theorem Faithful.find?_eq (h : u.Faithful) (key : String × String) :
    u.cache.find? key = (fetched key u.past).head? := by
  rw [h key, Option.head?_toList]

/-- As much is remembered as there are channels and chaincodes with an answer. -/
theorem Faithful.encard_eq (h : u.Faithful) :
    {key | fetched key u.past ≠ []}.encard = u.cache.size := by
  have hkeys : {key | fetched key u.past ≠ []} = u.cache.keys.toFinset := by
    ext key
    rw [Set.mem_ofPred_eq, h key, List.coe_toFinset, Set.mem_ofPred_eq, Table.mem_keys_iff]
    cases u.cache.find? key <;> simp
  have hnodup : u.cache.keys.Nodup := u.cache.nodup
  rw [hkeys, Set.encard_coe_eq_coe_finsetCard, List.toFinset_card_of_nodup hnodup,
    Table.size_eq_length_keys]

/-- What does not concern a channel and a chaincode leaves alone what is remembered
    for them. -/
theorem find?_step_of_not_concerns {op : Op σ} {key : String × String} (h : ¬op.Concerns key) :
    (u.step provider op).cache.find? key = u.cache.find? key := by
  cases op with
  | request request =>
    cases request with
    | query channel chaincode =>
      change (u.query provider channel chaincode).2.cache.find? key = _
      cases hfind : u.cache.find? (channel, chaincode) with
      | some data => rw [query_of_some hfind]
      | none =>
        rw [query_of_none hfind]
        cases hasked : (Runs.run (provider channel chaincode) u.around).1 with
        | ok data =>
          simp only [hasked]
          exact (Table.find?_insert _ _ _ _).trans (if_neg h)
        | error failure => simp only [hasked]
    | invalidate channel chaincode => exact (Table.find?_erase _ _ _).trans (if_neg h)
    | clear => exact absurd trivial h
  | change f => rfl

/-! ## Answers -/

variable (provider) in
/-- Whatever is done with a new cache, and however its provider changes: there is at
    most one answer of the provider to remember for each channel and chaincode. If
    there is one, a query is answered with it and nothing else happens. If there is
    none, the provider is asked once, and its answer is answered, and remembered if
    it is data; a failure leaves what is remembered as it is. As much is remembered
    as there are such answers, and what is done for one channel and chaincode leaves
    alone what is remembered for others. -/
theorem memoizes_data (s : σ) (ops : List (Op σ)) :
    let u := after provider { around := s } ops
    (∀ key, (fetched key u.past).length ≤ 1 ∧ u.cache.find? key = (fetched key u.past).head?) ∧
      (∀ channel chaincode, Runs.run (ChaincodeCache.query provider channel chaincode)
          (u.cache, u.around) =
        let r := u.query provider channel chaincode
        (r.1, r.2.cache, r.2.around)) ∧
      (∀ channel chaincode data, fetched (channel, chaincode) u.past = [data] →
        u.query provider channel chaincode = (.ok data, u)) ∧
      (∀ channel chaincode, fetched (channel, chaincode) u.past = [] →
        u.query provider channel chaincode =
          let asked := Runs.run (provider channel chaincode) u.around
          (asked.1,
            { cache := match asked.1 with
                | .ok data => u.cache.insert (channel, chaincode) data
                | .error _ => u.cache
              past := .asked channel chaincode asked.1 :: u.past
              around := asked.2 })) ∧
      {key | fetched key u.past ≠ []}.encard = u.cache.size ∧
      ∀ (op : Op σ) (key : String × String), ¬op.Concerns key →
        (u.step provider op).cache.find? key = u.cache.find? key := by
  intro u
  have hfaithful : u.Faithful := faithful_after (faithful_start s) ops
  refine ⟨fun key => ⟨?_, hfaithful.find?_eq key⟩, run_query provider u,
    fun channel chaincode data h => query_of_some ?_, fun channel chaincode h => query_of_none ?_,
    hfaithful.encard_eq, fun op key h => find?_step_of_not_concerns h⟩
  · rw [hfaithful key]
    exact Option.length_toList_le
  · rw [hfaithful.find?_eq, h]
    rfl
  · rw [hfaithful.find?_eq, h]
    rfl

/-! ## A provider that gets other data and then fails -/

/-- Chaincode data that is registered first. -/
def registered : Chaincode := ⟨"cc", "v1", [7]⟩

/-- Chaincode data that takes its place. -/
def replaced : Chaincode := ⟨"cc", "v2", [8]⟩

/-- With what a provider fails. -/
def unavailable : Failure := .chaincodeQuery "ch" "other" "unavailable"

/-- Data is registered, asked for and replaced, all queries are made to fail, and
    other data is asked for. -/
def unsettled : List (Op (InMemory.Chaincodes × Unit)) :=
  [.change fun s => (s.1.insert "ch" registered, ()),
    .request (.query "ch" "cc"),
    .change fun s => ({ s.1.insert "ch" replaced with failing := some unavailable }, ()),
    .request (.query "ch" "other")]

/-- The data that was asked for first is still answered, and outlasts the invalidation
    of other data; a query for other data fails. -/
theorem memoizes_unsettled :
    let u := after InMemory.Chaincodes.provider { around := ({}, ()) } unsettled
    fetched ("ch", "cc") u.past = [registered] ∧
      u.query InMemory.Chaincodes.provider "ch" "cc" = (.ok registered, u) ∧
      fetched ("ch", "other") u.past = [] ∧
      (u.query InMemory.Chaincodes.provider "ch" "other").1 = .error unavailable ∧
      ¬(Op.request (.invalidate "ch" "other") :
        Op (InMemory.Chaincodes × Unit)).Concerns ("ch", "cc") ∧
      (u.step InMemory.Chaincodes.provider (.request (.invalidate "ch" "other"))).cache.find?
        ("ch", "cc") = some registered := by
  intro u
  obtain ⟨hremembered, -, hhit, hmiss, -, hother⟩ :=
    memoizes_data InMemory.Chaincodes.provider ({}, ()) unsettled
  have hsome : fetched ("ch", "cc") u.past = [registered] := rfl
  have hnone : fetched ("ch", "other") u.past = [] := rfl
  have hconcerns : ¬(Op.request (.invalidate "ch" "other") :
      Op (InMemory.Chaincodes × Unit)).Concerns ("ch", "cc") := by
    simp [Op.Concerns]
  refine ⟨hsome, hhit "ch" "cc" registered hsome, hnone, ?_, hconcerns, ?_⟩
  · rw [hmiss "ch" "other" hnone]
    rfl
  · rw [hother _ _ hconcerns, (hremembered ("ch", "cc")).2, hsome]
    rfl

end Session

end Endorsement.ChaincodeCache
