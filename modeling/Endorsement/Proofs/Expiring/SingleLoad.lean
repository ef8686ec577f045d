import Endorsement.Expiring.Concurrent
import Endorsement.Proofs.Expiring.Loads

/-!
# One load for all callers

Many callers ask for a value that has to be loaded, in any interleaving of their
steps. Whether it has to be loaded is looked at without the refresh lock, so any
number of them may come to wait for the lock. The first one that gets it loads
the value; all others look again once they have the lock, and find it.

* `Race`, `Race.step`, `Race.after`: callers who ask, with what was loaded so far;
* `Race.Moved`, `Race.moved_step`: what a caller does in one step;
* `Shared.Guarded`: a caller that is past the refresh lock is the one that has it;
* `Race.Stage`: how far the value has got, from the load to the entry;
* `Race.Single`, `Race.single_after`: there is no load but one, and no value but
  that of this load, at any time;
* `Race.loads_once`: what callers are answered, and when the loader has run.
-/

namespace Endorsement.Expiring

namespace Phase

variable {α : Type}

/-- Whether a caller has the refresh lock in a phase. -/
def locks : Phase α → Bool
  | .lookingAgain | .loading | .storing _ | .releasing _ => true
  | _ => false

/-- The value that a caller has in a phase. -/
def value? : Phase α → Option α
  | .storing value | .releasing value | .done value => some value
  | _ => none

/-- Whether a caller is about to load or to store the value. -/
def fills : Phase α → Bool
  | .loading | .storing _ => true
  | _ => false

theorem locks_of_fills {phase : Phase α} (h : phase.fills = true) : phase.locks = true := by
  cases phase with
  | loading | storing => rfl
  | _ => cases h

end Phase

/-! ## Callers and their phases -/

namespace Shared

variable {α : Type} {s : Shared α} {i j : Nat} {phase : Phase α}

/-- Each caller and its phase are related. -/
def All (Q : Nat → Phase α → Prop) (s : Shared α) : Prop :=
  ∀ i phase, s.phases[i]? = some phase → Q i phase

/-- After a caller has moved, all others are where they were. -/
theorem all_moveTo {Q : Nat → Phase α → Prop} (hi : Q i phase)
    (hother : ∀ j phase', j ≠ i → s.phases[j]? = some phase' → Q j phase') :
    (s.moveTo i phase).All Q := by
  intro j phase' hj
  by_cases hij : j = i
  · subst hij
    obtain ⟨-, rfl⟩ : _ ∧ phase = phase' := by simpa [moveTo, List.getElem?_set] using hj
    exact hi
  · rw [moveTo, List.getElem?_set_ne (Ne.symm hij)] at hj
    exact hother j phase' hij hj

theorem All.moveTo {Q : Nat → Phase α → Prop} (h : s.All Q) (hi : Q i phase) :
    (s.moveTo i phase).All Q :=
  all_moveTo hi fun j phase' _ => h j phase'

theorem getElem?_moveTo_self {old : Phase α} (h : s.phases[i]? = some old) :
    (s.moveTo i phase).phases[i]? = some phase := by
  rw [moveTo, List.getElem?_set_self (List.getElem?_eq_some_iff.1 h).1]

theorem getElem?_moveTo_of_ne (h : i ≠ j) : (s.moveTo i phase).phases[j]? = s.phases[j]? := by
  rw [moveTo, List.getElem?_set_ne h]

/-- Callers that are past the refresh lock have it. -/
def Guarded (s : Shared α) : Prop :=
  s.All fun i phase => phase.locks = true → s.holder = some i

/-- No two callers are past the refresh lock. -/
theorem Guarded.eq (h : s.Guarded) {phase phase' : Phase α} (hi : s.phases[i]? = some phase)
    (hj : s.phases[j]? = some phase') (hlocks : phase.locks = true) (hlocks' : phase'.locks = true) :
    i = j :=
  Option.some.inj ((h i phase hi hlocks).symm.trans (h j phase' hj hlocks'))

/-- Nobody is about to store a value while another caller has the lock. -/
theorem Guarded.not_storing (h : s.Guarded) (hi : s.phases[i]? = some phase)
    (hlocks : phase.locks = true) (hphase : ∀ value, phase ≠ .storing value) (value : α) :
    s.phases[j]? ≠ some (.storing value) := by
  intro hj
  obtain rfl := h.eq hi hj hlocks rfl
  exact hphase value (Option.some.inj (hi.symm.trans hj))

end Shared

/-! ## Races -/

/-- Callers who ask for a value. -/
structure Race (α σ : Type) where
  shared : Shared α
  /-- What came to pass so far, the latest first. -/
  past : List (Incident α) := []
  /-- What the clock will say. -/
  readings : Readings
  /-- How the surroundings are. -/
  around : σ

namespace Race

variable {α : Type} {m : Type → Type} [Monad m] [MonadLiftT Logged m] {σ : Type} [Runs m σ]
  (lifetime : Duration) (load : Option α → m α)

/-- Callers who are about to ask. -/
def start (entry : Expiring α) (n : Nat) (readings : Readings) (s : σ) : Race α σ where
  shared := { entry, phases := List.replicate n .looking }
  readings
  around := s

/-- What the step of a caller leads to. -/
def step (race : Race α σ) (i : Nat) : Race α σ :=
  let r := Runs.run (race.shared.step lifetime clock (loader load) i)
    (race.past, race.readings, race.around)
  ⟨r.1, r.2.1, r.2.2.1, r.2.2.2⟩

/-- What the steps of callers lead to, in the order of a schedule. -/
def after (race : Race α σ) (schedule : List Nat) : Race α σ :=
  let r := Runs.run (Shared.run lifetime clock (loader load) schedule race.shared)
    (race.past, race.readings, race.around)
  ⟨r.1, r.2.1, r.2.2.1, r.2.2.2⟩

theorem after_nil (race : Race α σ) : race.after lifetime load [] = race := by
  rw [after, Shared.run, Runs.run_pure]

theorem after_cons (race : Race α σ) (i : Nat) (rest : List Nat) :
    race.after lifetime load (i :: rest) = (race.step lifetime load i).after lifetime load rest := by
  simp only [after, Shared.run, Runs.run_bind]
  rfl

/-! ### Steps -/

/-- A caller has looked at the value, and moves on to a phase. -/
def look (race : Race α σ) (i : Nat) (phase : Phase α) : Race α σ :=
  { race with
    shared := race.shared.moveTo i phase
    readings := race.readings.drop 1 }

/-- The steps that a caller can make, one for each atomic section. -/
inductive Moved (race : Race α σ) (i : Nat) : Race α σ → Prop
  | stays : Moved race i race
  | finds {value : α} : race.shared.phases[i]? = some .looking →
      race.shared.entry.fresh? lifetime (race.readings 0) = some value →
      Moved race i (race.look i (.done value))
  | misses : race.shared.phases[i]? = some .looking →
      race.shared.entry.fresh? lifetime (race.readings 0) = none →
      Moved race i (race.look i .waiting)
  | locks : race.shared.phases[i]? = some .waiting → race.shared.holder = none →
      Moved race i
        { race with shared := { race.shared.moveTo i .lookingAgain with holder := some i } }
  | findsAgain {value : α} : race.shared.phases[i]? = some .lookingAgain →
      race.shared.entry.fresh? lifetime (race.readings 0) = some value →
      Moved race i (race.look i (.releasing value))
  | missesAgain : race.shared.phases[i]? = some .lookingAgain →
      race.shared.entry.fresh? lifetime (race.readings 0) = none →
      Moved race i (race.look i .loading)
  | loads : race.shared.phases[i]? = some .loading →
      Moved race i
        { race with
          shared := { race.shared.moveTo i
              (.storing (Runs.run (load race.shared.entry.previous) race.around).1) with
            loads := race.shared.loads + 1 }
          past := .loaded race.shared.entry.previous
            (Runs.run (load race.shared.entry.previous) race.around).1 :: race.past
          around := (Runs.run (load race.shared.entry.previous) race.around).2 }
  | stores {value : α} : race.shared.phases[i]? = some (.storing value) →
      Moved race i
        { race with
          shared := { race.shared.moveTo i (.releasing value) with
            entry := store value (race.readings 0) }
          readings := race.readings.drop 1 }
  | releases {value : α} : race.shared.phases[i]? = some (.releasing value) →
      Moved race i { race with shared := { race.shared.moveTo i (.done value) with holder := none } }

/-- A step of a caller is one of those it can make. -/
theorem moved_step (race : Race α σ) (i : Nat) :
    Moved lifetime load race i (race.step lifetime load i) := by
  rw [step, Shared.step]
  cases hi : race.shared.phases[i]? with
  | none => simpa using .stays
  | some phase =>
    cases phase with
    | looking =>
      simp only [Runs.run_bind, run_clock]
      cases h : race.shared.entry.fresh? lifetime (race.readings 0) with
      | none => simpa using .misses hi h
      | some value => simpa using .finds hi h
    | waiting =>
      cases h : race.shared.holder with
      | none => simpa [h] using .locks hi h
      | some j => simpa [h] using .stays
    | lookingAgain =>
      simp only [Runs.run_bind, run_clock]
      cases h : race.shared.entry.fresh? lifetime (race.readings 0) with
      | none => simpa using .missesAgain hi h
      | some value => simpa using .findsAgain hi h
    | loading =>
      simp only [Runs.run_bind, run_loader]
      simpa using .loads hi
    | storing value =>
      simp only [Runs.run_bind, run_clock]
      simpa using .stores hi
    | releasing value => simpa using .releases hi
    | done value => simpa using .stays

/-! ### From the load to the entry -/

section Single

variable {lifetime load} {first : Expiring α} {s : σ} {start : Moment} {race race' : Race α σ}
  {i : Nat}

/-- How far a value has got: it was not loaded yet, a caller is about to store it,
    or it is stored and nobody is about to load or to store one again. -/
inductive Stage (first : Expiring α) (s : σ) (start : Moment) (value : α) (race : Race α σ) : Prop
  | unloaded : race.shared.entry = first → race.past = [] → race.around = s →
      Stage first s start value race
  | loaded {i : Nat} : race.shared.entry = first → race.shared.phases[i]? = some (.storing value) →
      race.past = [.loaded first.previous value] → Stage first s start value race
  | stored {now : Moment} : race.shared.entry = store value now → start ≤ now →
      race.past = [.loaded first.previous value] →
      (race.shared.All fun _ phase => phase.fills = false) → Stage first s start value race

/-- No value is loaded but one, and none is around but that of this load. -/
structure Single (lifetime : Duration) (first : Expiring α) (s : σ) (start : Moment) (value : α)
    (race : Race α σ) : Prop where
  guarded : race.shared.Guarded
  within : race.readings.Within start lifetime
  counted : race.shared.loads = race.past.length
  borne : race.shared.All fun _ phase => ∀ value', phase.value? = some value' →
    value' = value ∧ race.past = [.loaded first.previous value]
  stage : race.Stage first s start value

theorem single_start {readings : Readings} (h : readings.Within start lifetime) (n : Nat)
    (value : α) : (Race.start first n readings s).Single lifetime first s start value := by
  have hlooking : (Race.start first n readings s).shared.All fun _ phase => phase = .looking :=
    fun i phase hi => List.eq_of_mem_replicate (List.mem_of_getElem? hi)
  refine ⟨fun i phase hi hlocks => ?_, h, rfl, fun i phase hi value' hvalue => ?_,
    .unloaded rfl rfl rfl⟩
  · obtain rfl := hlooking i phase hi
    cases hlocks
  · obtain rfl := hlooking i phase hi
    cases hvalue

/-- One who has the lock has it still after a step, and nobody else has it. -/
theorem Moved.guarded (hmoved : Moved lifetime load race i race') (h : race.shared.Guarded) :
    race'.shared.Guarded := by
  cases hmoved with
  | stays => exact h
  | finds | misses => exact h.moveTo nofun
  | locks _ hholder =>
    refine Shared.all_moveTo (fun _ => rfl) fun j phase hji hj hlocks => ?_
    cases hholder.symm.trans (h j phase hj hlocks)
  | findsAgain hi | missesAgain hi | loads hi | stores hi =>
    exact h.moveTo fun _ => h i _ hi rfl
  | releases hi =>
    refine Shared.all_moveTo nofun fun j phase hji hj hlocks => ?_
    exact absurd (h.eq hj hi hlocks rfl) hji

variable {value : α}

/-- The value gets no further by callers that are not about to load or to store
    it. -/
theorem Stage.moveTo {old phase : Phase α} (h : race.Stage first s start value)
    (hi : race.shared.phases[i]? = some old) (hold : old.fills = false)
    (hphase : phase.fills = false)
    (hphases : race'.shared.phases = (race.shared.moveTo i phase).phases)
    (hentry : race'.shared.entry = race.shared.entry) (hpast : race'.past = race.past)
    (haround : race'.around = race.around) : race'.Stage first s start value := by
  cases h with
  | unloaded hfirst hnone hs =>
    exact .unloaded (hentry.trans hfirst) (hpast.trans hnone) (haround.trans hs)
  | @loaded j hfirst hj hloaded =>
    have hij : i ≠ j := by
      rintro rfl
      obtain rfl := Option.some.inj (hi.symm.trans hj)
      cases hold
    have hj' : race'.shared.phases[j]? = some (.storing value) := by
      rw [hphases, Shared.getElem?_moveTo_of_ne hij, hj]
    exact .loaded (hentry.trans hfirst) hj' (hpast.trans hloaded)
  | stored hstored hnow hloaded hfills =>
    refine .stored (hentry.trans hstored) hnow (hpast.trans hloaded) ?_
    rw [Shared.All, hphases]
    exact hfills.moveTo hphase

namespace Single

/-- Nothing was loaded yet if somebody is to load the value. -/
theorem unloaded (h : race.Single lifetime first s start value)
    (hi : race.shared.phases[i]? = some .loading) :
    race.shared.entry = first ∧ race.past = [] ∧ race.around = s := by
  cases h.stage with
  | unloaded hentry hpast haround => exact ⟨hentry, hpast, haround⟩
  | loaded _ hj _ => exact absurd hj (h.guarded.not_storing hi rfl nofun value)
  | stored _ _ _ hfills => cases hfills i _ hi

/-- A value that is found is stored. -/
theorem stored_of_fresh {value' : α} (h : race.Single lifetime first s start value)
    (hdue : first.IsDue)
    (hfresh : race.shared.entry.fresh? lifetime (race.readings 0) = some value') :
    value' = value ∧ race.past = [.loaded first.previous value] := by
  obtain ⟨hprevious, hnot⟩ := of_fresh?_eq_some hfresh
  cases h.stage with
  | unloaded hentry => exact absurd (hentry ▸ hdue) hnot
  | loaded hentry => exact absurd (hentry ▸ hdue) hnot
  | stored hentry _ hpast =>
    rw [hentry, previous_store] at hprevious
    exact ⟨(Option.some.inj hprevious).symm, hpast⟩

/-- A value that is not found is not stored. -/
theorem not_stored_of_fresh (h : race.Single lifetime first s start value)
    (hfresh : race.shared.entry.fresh? lifetime (race.readings 0) = none) (now : Moment)
    (hnow : start ≤ now) : race.shared.entry ≠ store value now := by
  intro hentry
  obtain ⟨value', -, hfound⟩ :=
    fresh?_of_since (since_store value hnow) (not_isDue_store value now) (h.within 0)
  rw [← hentry, hfresh] at hfound
  cases hfound

/-- A step keeps all of it. Most steps leave the stage as it is. Only the one who has
    the lock takes it on: by loading the value, which nobody did before, and by
    storing what was loaded. From then on the value is found, so nobody loads again. -/
theorem moved (h : race.Single lifetime first s start value) (hdue : first.IsDue)
    (hvalue : (Runs.run (load first.previous) s).1 = value)
    (hmoved : Moved lifetime load race i race') : race'.Single lifetime first s start value := by
  have hguarded := hmoved.guarded h.guarded
  cases hmoved with
  | stays => exact h
  | finds hi hfresh =>
    obtain ⟨rfl, hpast⟩ := h.stored_of_fresh hdue hfresh
    exact ⟨hguarded, h.within.drop 1, h.counted,
      h.borne.moveTo fun value' hdone => ⟨(Option.some.inj hdone).symm, hpast⟩,
      h.stage.moveTo hi rfl rfl rfl rfl rfl rfl⟩
  | misses hi hfresh =>
    exact ⟨hguarded, h.within.drop 1, h.counted, h.borne.moveTo nofun,
      h.stage.moveTo hi rfl rfl rfl rfl rfl rfl⟩
  | locks hi hholder =>
    exact ⟨hguarded, h.within, h.counted, h.borne.moveTo nofun,
      h.stage.moveTo hi rfl rfl rfl rfl rfl rfl⟩
  | findsAgain hi hfresh =>
    obtain ⟨rfl, hpast⟩ := h.stored_of_fresh hdue hfresh
    exact ⟨hguarded, h.within.drop 1, h.counted,
      h.borne.moveTo fun value' hfound => ⟨(Option.some.inj hfound).symm, hpast⟩,
      h.stage.moveTo hi rfl rfl rfl rfl rfl rfl⟩
  | missesAgain hi hfresh =>
    refine ⟨hguarded, h.within.drop 1, h.counted, h.borne.moveTo nofun, ?_⟩
    -- The one who has the lock looks again, so nobody is about to store a value.
    cases h.stage with
    | unloaded hentry hpast haround => exact .unloaded hentry hpast haround
    | loaded _ hj _ => exact absurd hj (h.guarded.not_storing hi rfl nofun value)
    | stored hentry hnow => exact absurd hentry (h.not_stored_of_fresh hfresh _ hnow)
  | loads hi =>
    obtain ⟨hentry, hpast, rfl⟩ := h.unloaded hi
    rw [hentry, hvalue, hpast] at hguarded ⊢
    refine ⟨hguarded, h.within, congrArg (· + 1) (hpast ▸ h.counted),
      Shared.all_moveTo (fun value' hloaded => ⟨(Option.some.inj hloaded).symm, rfl⟩)
        fun j phase hji hj value' hborne => ?_,
      .loaded hentry (Shared.getElem?_moveTo_self hi) rfl⟩
    cases hpast.symm.trans (h.borne j phase hj value' hborne).2
  | stores hi =>
    obtain ⟨rfl, hpast⟩ := h.borne i _ hi _ rfl
    refine ⟨hguarded, h.within.drop 1, h.counted,
      h.borne.moveTo fun value' hstored => ⟨(Option.some.inj hstored).symm, hpast⟩,
      .stored rfl (h.within 0).1 hpast (Shared.all_moveTo rfl fun j phase hji hj => ?_)⟩
    exact Bool.eq_false_iff.2 fun hfills =>
      hji (h.guarded.eq hj hi (Phase.locks_of_fills hfills) rfl)
  | releases hi =>
    exact ⟨hguarded, h.within, h.counted,
      h.borne.moveTo fun value' hdone => h.borne i _ hi value' hdone,
      h.stage.moveTo hi rfl rfl rfl rfl rfl rfl⟩

end Single

/-- So do any steps, in any order. -/
theorem single_after (h : race.Single lifetime first s start value) (hdue : first.IsDue)
    (hvalue : (Runs.run (load first.previous) s).1 = value) (schedule : List Nat) :
    (race.after lifetime load schedule).Single lifetime first s start value := by
  induction schedule generalizing race with
  | nil => rwa [after_nil]
  | cons i rest ih =>
    rw [after_cons]
    exact ih (h.moved hdue hvalue (moved_step lifetime load race i))

end Single

/-! ### Loads off the record -/

/-- It makes no difference to a step that loads are written down. -/
theorem run_step (race : Race α σ) (i : Nat) :
    Runs.run (race.shared.step lifetime (Readings.clock : StateT Readings m Moment)
        (fun previous => liftM (load previous)) i) (race.readings, race.around) =
      let race' := race.step lifetime load i
      (race'.shared, race'.readings, race'.around) := by
  simp only [step, Shared.step]
  cases race.shared.phases[i]? with
  | none => simp
  | some phase =>
    cases phase with
    | looking | lookingAgain =>
      simp only [Runs.run_bind, run_readings_clock, run_clock]
      cases race.shared.entry.fresh? lifetime (race.readings 0) with
      | none => simp
      | some value => simp
    | waiting => cases race.shared.holder <;> simp
    | loading => simp only [Runs.run_bind, run_loader, Runs.run_lift, Runs.run_pure]
    | storing value => simp only [Runs.run_bind, run_readings_clock, run_clock, Runs.run_pure]
    | releasing value | done value => simp

/-- It makes no difference that loads are written down. -/
theorem run_after (race : Race α σ) (schedule : List Nat) :
    Runs.run (Shared.run lifetime (Readings.clock : StateT Readings m Moment)
        (fun previous => liftM (load previous)) schedule race.shared)
        (race.readings, race.around) =
      let race' := race.after lifetime load schedule
      (race'.shared, race'.readings, race'.around) := by
  induction schedule generalizing race with
  | nil => rw [after_nil, Shared.run, Runs.run_pure]
  | cons i rest ih =>
    rw [after_cons, Shared.run, Runs.run_bind, run_step]
    exact ih _

/-! ### One load -/

/-- However the steps of any number of callers interleave who ask for a value that
    is due, with a lifetime that does not run out: the value is loaded at most once,
    and it was loaded as soon as one of them has an answer, which is the value that
    this load gave. -/
theorem loads_once (first : Expiring α) (hdue : first.IsDue) (readings : Readings)
    (hlasts : readings.Lasts lifetime) (n : Nat) (s : σ) (schedule : List Nat) :
    let race := (start first n readings s).after lifetime load schedule
    let value := (Runs.run (load first.previous) s).1
    Runs.run (Shared.run lifetime (Readings.clock : StateT Readings m Moment)
        (fun previous => liftM (load previous)) schedule
        { entry := first, phases := List.replicate n .looking }) (readings, s) =
      (race.shared, race.readings, race.around) ∧
      race.shared.loads = race.past.length ∧
      (race.past = [] ∨ race.past = [.loaded first.previous value]) ∧
      ∀ (i : Nat) answer, race.shared.phases[i]? = some (.done answer) →
        race.past = [.loaded first.previous value] ∧ answer = value := by
  intro race value
  obtain ⟨since, hwithin⟩ := hlasts.exists_within
  have hsingle : race.Single lifetime first s since value :=
    single_after (single_start hwithin n value) hdue rfl schedule
  refine ⟨run_after lifetime load (start first n readings s) schedule, hsingle.counted, ?_,
    fun i answer hi => (hsingle.borne i _ hi answer rfl).symm⟩
  cases hsingle.stage with
  | unloaded _ hpast => exact .inl hpast
  | loaded _ _ hpast => exact .inr hpast
  | stored _ _ hpast => exact .inr hpast

/-- One caller loads the value while another one waits for the lock, and both are
    answered with it. -/
theorem loads_once_for_two :
    let readings : Readings := fun i => i % 2
    let schedule := [0, 1, 1, 0, 1, 1, 1, 1, 0, 0, 0]
    let race := (start {} 2 readings ()).after (.ofSeconds 60) Session.counting schedule
    readings.Lasts (.ofSeconds 60) ∧
      race.shared.phases = [.done 10, .done 10] ∧ race.past = [.loaded none 10] := by
  intro readings schedule race
  have hlasts : readings.Lasts (.ofSeconds 60) := by
    intro i j
    change j % 2 - i % 2 < 60 * 1000000000
    omega
  have hphases : race.shared.phases = [.done 10, .done 10] := rfl
  obtain ⟨-, -, -, hanswers⟩ := loads_once (.ofSeconds 60) Session.counting {} isDue_empty
    readings hlasts 2 () schedule
  exact ⟨hlasts, hphases, (hanswers 0 10 (congrArg (·[0]?) hphases)).1⟩

end Race

end Endorsement.Expiring
