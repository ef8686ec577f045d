import Endorsement.Proofs.Balance
import Mathlib.Data.List.Chain

/-!
# A round robin over lists that change

A chooser is asked again and again, each time with candidates of its own: more
than before, fewer, or none. A round robin goes on from its last position as far
as that makes sense for the candidates at hand.

* `Choice`, `Balancer.session`: the choices of one chooser, in order;
* `RoundRobin.Turned`, `RoundRobin.Rotates`: what a round robin does in one
  choice, and in one after the other, with `RoundRobin.rotates_session`: that
  it does, whatever is drawn;
* `RoundRobin.picks`: the choices for which there were candidates;
* `Choice.Next`, `RoundRobin.isChain_picks`: each of them is one position after
  the one before, or at the first;
* `perm_after_range`: as many of them as there are candidates each time are at
  each position once;
* `RoundRobin.rotates_in_bounds`: what a round robin answers, and where it stands.
-/

namespace Endorsement

/-! ## Choices in order -/

/-- A choice of a chooser. -/
structure Choice (ρ : Type) where
  /-- The candidates it was given. -/
  found : List Candidate
  /-- Its state before. -/
  before : ρ
  /-- What it answered. -/
  picked : Candidate
  /-- Its state after. -/
  after : ρ

namespace Balancer

variable {m : Type → Type} [Monad m] {ρ : Type} (balancer : Balancer m ρ)

/-- The choices of a chooser, one after the other, each among candidates of its
    own. -/
def chooseEach : List (List Candidate) → ρ → m (List (Choice ρ))
  | [], _ => return []
  | found :: rest, chooser => do
    let (picked, next) ← balancer.choose found chooser
    return ⟨found, chooser, picked, next⟩ :: (← chooseEach rest next)

/-- The choices of a new chooser. -/
def session (lists : List (List Candidate)) : m (List (Choice ρ)) := do
  balancer.chooseEach lists (← balancer.fresh)

end Balancer

/-- A choice is one position after another one, or at the first position if there
    is no such. -/
def Choice.Next (c d : Choice Position) : Prop :=
  ∀ i, c.after = some i → d.after = some (if i + 1 < d.found.length then i + 1 else 0)

namespace RoundRobin

/-- The choices for which there were candidates. -/
def picks (choices : List (Choice Position)) : List (Choice Position) :=
  choices.filter fun c => !c.found.isEmpty

/-! ## What a round robin does -/

/-- A choice as a round robin makes it: none without candidates, and else the one
    after its position, or any if it has no position yet. -/
inductive Turned : Choice Position → Prop
  | nothing (last : Position) : Turned ⟨[], last, [], last⟩
  | pick {found : List Candidate} {last : Position} {i : Nat} (h : i < found.length)
      (hnext : ∀ p, last = some p → i = if p + 1 < found.length then p + 1 else 0) :
      Turned ⟨found, last, candidateAt found i, some i⟩

/-- Choices as a round robin makes them from a position on. -/
inductive Rotates : Position → List (Choice Position) → Prop
  | nil (last : Position) : Rotates last []
  | cons {c : Choice Position} {rest : List (Choice Position)} :
      Turned c → Rotates c.after rest → Rotates c.before (c :: rest)

section Runs

variable {m : Type → Type} [Monad m] [MonadLiftT Logged m] {σ : Type} [Runs m σ] (draw : m Nat)

/-- A round robin makes one choice like this. -/
theorem turned_choose {found : List Candidate} {last : Position} {s : σ}
    {choice : Candidate × Position}
    (h : (Runs.run ((Balance.roundRobin.balancer draw).choose found last) s).1 = choice) :
    Turned ⟨found, last, choice.1, choice.2⟩ := by
  by_cases hnil : found = []
  · subst hnil
    change (Runs.run (Balance.roundRobin.choose draw [] last) s).1 = choice at h
    rw [Balance.choose_of_nil rfl, Runs.run_pure] at h
    rw [← h]
    exact .nothing last
  · obtain ⟨i, hlt, hnext, hrun⟩ := Balance.run_roundRobin hnil draw last s
    rw [← h, hrun]
    exact .pick hlt hnext

theorem rotates_chooseEach (lists : List (List Candidate)) (last : Position) (s : σ) :
    let choices := (Runs.run ((Balance.roundRobin.balancer draw).chooseEach lists last) s).1
    choices.map Choice.found = lists ∧ Rotates last choices := by
  induction lists generalizing last s with
  | nil =>
    rw [Balancer.chooseEach, Runs.run_pure]
    exact ⟨rfl, .nil last⟩
  | cons found rest ih =>
    simp only [Balancer.chooseEach, Runs.run_bind, Runs.run_pure]
    obtain ⟨hfound, hrotates⟩ := ih _ _
    exact ⟨congrArg (found :: ·) hfound, .cons (turned_choose draw rfl) hrotates⟩

/-- A new round robin makes its choices like this, one for each list, from no
    position on. -/
theorem rotates_session (lists : List (List Candidate)) (s : σ) :
    let choices := (Runs.run ((Balance.roundRobin.balancer draw).session lists) s).1
    choices.map Choice.found = lists ∧ Rotates none choices := by
  have hfresh : (Balance.roundRobin.balancer draw).fresh = pure none := rfl
  rw [Balancer.session, hfresh, Runs.run_bind, Runs.run_pure]
  exact rotates_chooseEach draw lists none s

end Runs

variable {choices : List (Choice Position)} {last : Position}

theorem Rotates.turned (h : Rotates last choices) {c : Choice Position} (hc : c ∈ choices) :
    Turned c := by
  induction h with
  | nil => cases hc
  | cons hturned _ ih =>
    rcases List.mem_cons.1 hc with rfl | hc
    · exact hturned
    · exact ih hc

theorem Turned.nothing_of_nil {c : Choice Position} (h : Turned c) (hnil : c.found = []) :
    c.picked = [] ∧ c.after = c.before := by
  cases h with
  | nothing last => exact ⟨rfl, rfl⟩
  | pick h _ =>
    obtain rfl := hnil
    cases h

theorem Turned.exists_position {c : Choice Position} (h : Turned c) (hne : c.found ≠ []) :
    ∃ i, c.after = some i ∧ c.found[i]? = some c.picked := by
  cases h with
  | nothing last => exact absurd rfl hne
  | @pick found last i h _ =>
    refine ⟨i, rfl, ?_⟩
    rw [candidateAt, List.getElem?_eq_getElem h]
    rfl

/-! ## One position after the other -/

/-- Choices without candidates in between do not matter: the position is carried
    over to the next one for which there are some. -/
theorem isChain_picks (h : Rotates last choices) :
    (∀ d ∈ (picks choices).head?, ∀ i, last = some i →
        d.after = some (if i + 1 < d.found.length then i + 1 else 0)) ∧
      (picks choices).IsChain Choice.Next := by
  induction h with
  | nil last => exact ⟨nofun, .nil⟩
  | @cons c rest hturned _ ih =>
    cases hturned with
    | nothing last => exact ih
    | @pick found last i hlt hnext =>
      have hpicks : picks (⟨found, last, candidateAt found i, some i⟩ :: rest) =
          ⟨found, last, candidateAt found i, some i⟩ :: picks rest :=
        List.filter_cons_of_pos (by simpa using List.ne_nil_of_length_pos (Nat.zero_lt_of_lt hlt))
      rw [hpicks, List.isChain_cons]
      refine ⟨fun d hd p hlast => ?_, ih⟩
      obtain rfl := Option.some.inj hd
      rw [← hnext p hlast]

end RoundRobin

/-- While there are equally many candidates each time, positions are counted round
    from the first. -/
theorem after_getElem_of_isChain {choices : List (Choice Position)} {count i : Nat}
    (h : choices.IsChain Choice.Next) (hcount : ∀ c ∈ choices, c.found.length = count)
    (hpos : 0 < choices.length) (hi : i < count) (hfirst : choices[0].after = some i) :
    ∀ k (hk : k < choices.length), choices[k].after = some ((i + k) % count) := by
  intro k hk
  induction k with
  | zero => rw [hfirst, Nat.add_zero, Nat.mod_eq_of_lt hi]
  | succ k ih =>
    have hlt : (i + k) % count < count := Nat.mod_lt _ (Nat.zero_lt_of_lt hi)
    have hnext := List.isChain_iff_getElem.1 h k hk _ (ih (Nat.lt_of_succ_lt hk))
    rw [hnext, hcount _ (List.getElem_mem hk)]
    change some (RoundRobin.next 0 (some ((i + k) % count)) count) = _
    rw [RoundRobin.next_some hlt, Nat.mod_add_mod, Nat.add_assoc]

/-- As many choices as there are candidates each time are at each position once,
    wherever they start. -/
theorem perm_after_range {choices : List (Choice Position)}
    (h : choices.IsChain Choice.Next)
    (hpositions : ∀ c ∈ choices, ∃ i, c.after = some i ∧ i < c.found.length)
    (hcount : ∀ c ∈ choices, c.found.length = choices.length) :
    (choices.map Choice.after).Perm ((List.range choices.length).map some) := by
  rcases Nat.eq_zero_or_pos choices.length with hzero | hpos
  · rw [hzero, List.length_eq_zero_iff.1 hzero]
    rfl
  · obtain ⟨i, hfirst, hi⟩ := hpositions _ (List.getElem_mem hpos)
    rw [hcount _ (List.getElem_mem hpos)] at hi
    have hafter := after_getElem_of_isChain h hcount hpos hi hfirst
    have hcounted : choices.map Choice.after =
        ((List.range choices.length).map fun k => (i + k) % choices.length).map some := by
      refine List.ext_getElem (by simp) fun k hk _ => ?_
      rw [List.length_map] at hk
      simp [hafter k hk]
    rw [hcounted]
    exact (perm_range_add_mod i choices.length).map some

namespace RoundRobin

/-- Whatever a new round robin draws for its first choice, and whatever candidates
    it is given in each: it picks one of them, and its position is within them;
    without candidates it picks no peers and stays where it is. After a choice at a
    position, the next for which there are candidates is at the position after it,
    or at the first if there is no such. Wherever as many choices in a row, those
    without candidates not counted, are made as each of them has candidates, each
    position comes once. -/
theorem rotates_in_bounds {m : Type → Type} [Monad m] [MonadLiftT Logged m] {σ : Type} [Runs m σ]
    (draw : m Nat) (lists : List (List Candidate)) (s : σ) :
    let choices := (Runs.run ((Balance.roundRobin.balancer draw).session lists) s).1
    choices.map Choice.found = lists ∧
      (∀ c ∈ choices, c.found ≠ [] →
        ∃ i, c.after = some i ∧ i < c.found.length ∧ c.found[i]? = some c.picked) ∧
      (∀ c ∈ choices, c.found = [] → c.picked = [] ∧ c.after = c.before) ∧
      (picks choices).IsChain (fun c d => ∀ i, c.after = some i →
        d.after = some (if i + 1 < d.found.length then i + 1 else 0)) ∧
      ∀ window, window <:+: choices → ∀ count, (picks window).length = count →
        (∀ c ∈ picks window, c.found.length = count) →
        ((picks window).map Choice.after).Perm ((List.range count).map some) := by
  intro choices
  obtain ⟨hfound, hrotates⟩ := rotates_session draw lists s
  have hpositions : ∀ c ∈ choices, c.found ≠ [] →
      ∃ i, c.after = some i ∧ i < c.found.length ∧ c.found[i]? = some c.picked := by
    intro c hc hne
    obtain ⟨i, hafter, hpicked⟩ := (hrotates.turned hc).exists_position hne
    exact ⟨i, hafter, (List.getElem?_eq_some_iff.1 hpicked).1, hpicked⟩
  refine ⟨hfound, hpositions, fun c hc => (hrotates.turned hc).nothing_of_nil,
    (isChain_picks hrotates).2, ?_⟩
  rintro window hwindow count rfl hcount
  obtain ⟨first, rest, hpicks⟩ := hwindow.filter fun c => !c.found.isEmpty
  have hchain : (first ++ picks window ++ rest).IsChain Choice.Next :=
    hpicks ▸ (isChain_picks hrotates).2
  refine perm_after_range hchain.left_of_append.right_of_append ?_ hcount
  intro c hc
  obtain ⟨hmem, hne⟩ := List.mem_filter.1 hc
  obtain ⟨i, hafter, hlt, -⟩ := hpositions c (hwindow.subset hmem) (by simpa using hne)
  exact ⟨i, hafter, hlt⟩

/-- Two candidates. -/
def pair : List Candidate := [[{ url := "a:1", mspId := "A" }], [{ url := "b:1", mspId := "B" }]]

/-- These, and one more. -/
def triple : List Candidate := pair ++ [[{ url := "c:1", mspId := "C" }]]

/-- The choices of a round robin that starts at the second of three candidates, as
    there come to be fewer, none, and three again. -/
def unsteady : List (Choice Position) :=
  (Runs.run ((Balance.roundRobin.balancer (return 7 : Logged Nat)).session
    [triple, [], pair, triple, [], triple, triple]) ()).1

theorem unsteady_eq :
    unsteady = [⟨triple, none, candidateAt triple 1, some 1⟩, ⟨[], some 1, [], some 1⟩,
      ⟨pair, some 1, candidateAt pair 0, some 0⟩, ⟨triple, some 0, candidateAt triple 1, some 1⟩,
      ⟨[], some 1, [], some 1⟩, ⟨triple, some 1, candidateAt triple 2, some 2⟩,
      ⟨triple, some 2, candidateAt triple 0, some 0⟩] := by
  cbv

/-- A choice among fewer candidates is one of them, none is made where there are none,
    and the last three choices are of each candidate once. -/
theorem unsteady_in_bounds :
    let fewer : Choice Position := ⟨pair, some 1, candidateAt pair 0, some 0⟩
    let idle : Choice Position := ⟨[], some 1, [], some 1⟩
    (fewer ∈ unsteady ∧ fewer.found ≠ [] ∧ ∃ i, fewer.after = some i ∧ i < fewer.found.length ∧
      fewer.found[i]? = some fewer.picked) ∧
    (idle ∈ unsteady ∧ idle.found = [] ∧ idle.picked = [] ∧ idle.after = idle.before) ∧
    unsteady.drop 3 <:+: unsteady ∧ (picks (unsteady.drop 3)).length = 3 ∧
    (∀ c ∈ picks (unsteady.drop 3), c.found.length = 3) ∧
    ((picks (unsteady.drop 3)).map Choice.after).Perm ((List.range 3).map some) := by
  intro fewer idle
  obtain ⟨-, hpick, hnothing, -, hwindow⟩ :=
    rotates_in_bounds (return 7 : Logged Nat) [triple, [], pair, triple, [], triple, triple] ()
  change ∀ c ∈ unsteady, _ at hpick hnothing
  change ∀ window, window <:+: unsteady → _ at hwindow
  have hfewer : fewer ∈ unsteady := by simp [unsteady_eq, fewer]
  have hidle : idle ∈ unsteady := by simp [unsteady_eq, idle]
  have hsuffix : unsteady.drop 3 <:+: unsteady := (List.drop_suffix 3 unsteady).isInfix
  have hpicks : picks (unsteady.drop 3) = [⟨triple, some 0, candidateAt triple 1, some 1⟩,
      ⟨triple, some 1, candidateAt triple 2, some 2⟩,
      ⟨triple, some 2, candidateAt triple 0, some 0⟩] := by
    rw [unsteady_eq]
    rfl
  have hlength : (picks (unsteady.drop 3)).length = 3 := congrArg List.length hpicks
  have hcount : ∀ c ∈ picks (unsteady.drop 3), c.found.length = 3 := by
    rw [hpicks]
    simp [triple, pair]
  have hne : fewer.found ≠ [] := by simp [fewer, pair]
  exact ⟨⟨hfewer, hne, hpick _ hfewer hne⟩, ⟨hidle, rfl, hnothing _ hidle rfl⟩, hsuffix, hlength,
    hcount, hwindow _ hsuffix 3 hlength hcount⟩

end RoundRobin

end Endorsement
