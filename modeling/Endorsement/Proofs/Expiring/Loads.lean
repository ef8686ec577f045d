import Endorsement.Proofs.Expiring

/-!
# What loaders are handed

A value that expires is asked for and invalidated in any order, while what the
loader goes by changes. Whoever asks gets the value of the last load, and every
load is handed the value of the load before it: an invalidation makes the next
one who asks load the value, but takes nothing away from what is handed over.

* `Incident`, `recorded`: what comes to pass, and a loader that writes down what
  it is handed and what it answers;
* `latest?`, `Due`, `Linked`: by what came to pass, the value loaded last,
  whether it must be loaded again, and whether each load was handed the value of
  the load before it;
* `Session`, `Session.get`, `Session.after`: a value in use;
* `Session.Faithful`, `Session.faithful_after`: the value kept is the one loaded
  last, at any time;
* `Session.reloads_when_due`: what is answered, when the value is loaded, and what
  the loader is handed.
-/

namespace Endorsement

/-- Reads a clock. -/
def Readings.clock {m : Type → Type} [Monad m] : StateT Readings m Moment := do
  let readings ← get
  set (readings.drop 1)
  return readings 0

namespace Expiring

/-! ## Loaders on record -/

/-- Something that comes to pass with a value. -/
inductive Incident (α : Type) where
  /-- The loader is handed the value before, if there is one, and answers. -/
  | loaded (handed : Option α) (value : α)
  /-- The value is to be loaded again. -/
  | invalidated
  deriving DecidableEq

/-- A loader that writes down what it is handed and what it answers, the latest
    first. -/
def recorded {α : Type} {m : Type → Type} [Monad m] (load : Option α → m α) (previous : Option α) :
    StateT (List (Incident α)) m α := do
  let value ← load previous
  modify (.loaded previous value :: ·)
  return value

section Past

variable {α : Type}

/-- The value that was loaded last, invalidated or not. -/
def latest? : List (Incident α) → Option α
  | [] => none
  | .loaded _ value :: _ => some value
  | .invalidated :: past => latest? past

/-- Nothing was loaded yet, or the value was invalidated since the last load. -/
def Due : List (Incident α) → Prop
  | [] => True
  | .loaded _ _ :: _ => False
  | .invalidated :: _ => True

theorem due_of_latest?_eq_none {past : List (Incident α)} (h : latest? past = none) : Due past := by
  cases past with
  | nil => trivial
  | cons incident past =>
    cases incident with
    | loaded handed value => cases h
    | invalidated => trivial

theorem latest?_replicate (n : Nat) (past : List (Incident α)) :
    latest? (List.replicate n .invalidated ++ past) = latest? past := by
  induction n with
  | zero => rfl
  | succ n ih => exact ih

theorem due_replicate {n : Nat} {past : List (Incident α)} (h : 0 < n ∨ latest? past = none) :
    Due (List.replicate n .invalidated ++ past) := by
  cases n with
  | zero => exact due_of_latest?_eq_none (h.resolve_left (Nat.lt_irrefl 0))
  | succ n => trivial

end Past

variable {α : Type} {m : Type → Type} [Monad m] [MonadLiftT Logged m] {σ : Type} [Runs m σ]
  (lifetime : Duration) (load : Option α → m α)

/-- Each load was handed the value of the load before it, the first one none, and
    the loader answered its value to what it was handed. -/
def Linked : List (Incident α) → Prop
  | [] => True
  | .loaded handed value :: past =>
    handed = latest? past ∧ (∃ s, (Runs.run (load handed) s).1 = value) ∧ Linked past
  | .invalidated :: past => Linked past

/-! ## Values in use -/

/-- What is done with a value and around it. -/
inductive Op (σ : Type) where
  /-- The value is asked for. -/
  | get
  /-- The value is invalidated. -/
  | invalidate
  /-- The surroundings change, and what the loader goes by with them. -/
  | change (f : σ → σ)

/-- A value in use. -/
structure Session (α σ : Type) where
  entry : Expiring α := {}
  /-- What came to pass so far, the latest first. -/
  past : List (Incident α) := []
  /-- What the clock will say. -/
  readings : Readings
  /-- How the surroundings are. -/
  around : σ

/-- The clock, beside the record. -/
def clock : StateT (List (Incident α)) (StateT Readings m) Moment :=
  liftM (Readings.clock : StateT Readings m Moment)

/-- The loader on record, beside the clock. -/
def loader (previous : Option α) : StateT (List (Incident α)) (StateT Readings m) α :=
  recorded (fun previous => liftM (load previous)) previous

namespace Session

/-- The answer to one who asks, and what it leaves. -/
def get (u : Session α σ) : α × Session α σ :=
  let r := Runs.run (Expiring.get lifetime clock (loader load) u.entry)
    (u.past, u.readings, u.around)
  (r.1.1, ⟨r.1.2, r.2.1, r.2.2.1, r.2.2.2⟩)

/-- What is left once something was done. -/
def step (u : Session α σ) : Op σ → Session α σ
  | .get => (u.get lifetime load).2
  | .invalidate => { u with entry := u.entry.invalidate, past := .invalidated :: u.past }
  | .change f => { u with around := f u.around }

/-- What is left once some things were done, one after the other. -/
def after (u : Session α σ) (ops : List (Op σ)) : Session α σ :=
  ops.foldl (step lifetime load) u

/-- A load, handed the value loaded last: its answer, and what it leaves. -/
def reload (u : Session α σ) : α × Session α σ :=
  let loaded := Runs.run (load (latest? u.past)) u.around
  (loaded.1,
    { entry := store loaded.1 (u.readings 1)
      past := .loaded (latest? u.past) loaded.1 :: u.past
      readings := (u.readings.drop 1).drop 1
      around := loaded.2 })

end Session

/-! ## Asking -/

section Asking

variable {lifetime load} {past : List (Incident α)} {readings : Readings} {s : σ}

theorem run_readings_clock : Runs.run (Readings.clock : StateT Readings m Moment) (readings, s) =
    (readings 0, readings.drop 1, s) := by
  simp only [Readings.clock, Runs.run_bind, Runs.run_get, Runs.run_set, Runs.run_pure]

theorem run_clock : Runs.run (clock : StateT (List (Incident α)) (StateT Readings m) Moment)
    (past, readings, s) = (readings 0, past, readings.drop 1, s) := by
  rw [clock, Runs.run_lift, run_readings_clock]

theorem run_loader (previous : Option α) : Runs.run (loader load previous) (past, readings, s) =
    let loaded := Runs.run (load previous) s
    (loaded.1, .loaded previous loaded.1 :: past, readings, loaded.2) := by
  simp only [loader, recorded, Runs.run_lift, Runs.run_bind, Runs.run_modify, Runs.run_pure]

namespace Session

variable {u : Session α σ}

/-- A value that is fresh is answered, and nothing comes to pass. -/
theorem get_of_fresh {value : α} (h : u.entry.fresh? lifetime (u.readings 0) = some value) :
    u.get lifetime load = (value, { u with readings := u.readings.drop 1 }) := by
  have hclock : Runs.run (clock : StateT (List (Incident α)) (StateT Readings m) Moment)
      (u.past, u.readings, u.around) = _ := run_clock
  rw [get, run_get_fresh (by rwa [hclock]), hclock]

/-- Any other value is loaded. -/
theorem get_of_load (hprevious : u.entry.previous = latest? u.past)
    (h : u.entry.fresh? lifetime (u.readings 0) = none) :
    u.get lifetime load = u.reload load := by
  have hclock : Runs.run (clock : StateT (List (Incident α)) (StateT Readings m) Moment)
      (u.past, u.readings, u.around) = _ := run_clock
  rw [get, run_get_load (by rwa [hclock])]
  simp only [hclock, run_loader, run_clock, hprevious]
  rfl

end Session

end Asking

namespace Session

variable {lifetime load} {u : Session α σ} {start : Moment}

/-! ## What is kept -/

variable (load) in
/-- The value kept is the one loaded last, and is due if what came to pass says
    so; all loads are linked. -/
structure Faithful (u : Session α σ) : Prop where
  previous : u.entry.previous = latest? u.past
  isDue_iff : u.entry.IsDue ↔ Due u.past
  linked : Linked load u.past

theorem faithful_start (readings : Readings) (s : σ) :
    Faithful load { readings, around := s } where
  previous := rfl
  isDue_iff := iff_of_true isDue_empty trivial
  linked := trivial

theorem Faithful.reload (h : u.Faithful load) : (u.reload load).2.Faithful load where
  previous := previous_store _ _
  isDue_iff := iff_of_false (not_isDue_store _ _) id
  linked := ⟨rfl, ⟨u.around, rfl⟩, h.linked⟩

variable (lifetime) in
theorem Faithful.get (h : u.Faithful load) : (u.get lifetime load).2.Faithful load := by
  cases hfresh : u.entry.fresh? lifetime (u.readings 0) with
  | some value =>
    rw [get_of_fresh hfresh]
    exact ⟨h.previous, h.isDue_iff, h.linked⟩
  | none =>
    rw [get_of_load h.previous hfresh]
    exact h.reload

theorem Faithful.step (h : u.Faithful load) (op : Op σ) :
    (u.step lifetime load op).Faithful load := by
  cases op with
  | get => exact h.get lifetime
  | invalidate =>
    exact ⟨(previous_invalidate _).trans h.previous, iff_of_true (isDue_invalidate _) trivial,
      h.linked⟩
  | change f => exact ⟨h.previous, h.isDue_iff, h.linked⟩

variable (lifetime) in
theorem faithful_after (h : u.Faithful load) (ops : List (Op σ)) :
    (u.after lifetime load ops).Faithful load := by
  induction ops generalizing u with
  | nil => exact h
  | cons op rest ih => exact ih (h.step op)

/-- Whoever asks is answered with the value loaded last. -/
theorem Faithful.latest?_get (h : u.Faithful load) :
    latest? (u.get lifetime load).2.past = some (u.get lifetime load).1 := by
  cases hfresh : u.entry.fresh? lifetime (u.readings 0) with
  | some value =>
    rw [get_of_fresh hfresh, ← h.previous]
    exact (of_fresh?_eq_some hfresh).1
  | none =>
    rw [get_of_load h.previous hfresh]
    rfl

theorem Faithful.get_of_due (h : u.Faithful load) (hdue : lifetime = .zero ∨ Due u.past) :
    u.get lifetime load = u.reload load := by
  refine get_of_load h.previous ?_
  rcases hdue with rfl | hdue
  · exact fresh?_zero _
  · exact fresh?_of_isDue (h.isDue_iff.2 hdue)

/-- It makes no difference that loads are written down. -/
theorem Faithful.run_get (h : u.Faithful load) :
    Runs.run (Expiring.get lifetime (Readings.clock : StateT Readings m Moment)
        (fun previous => liftM (load previous)) u.entry) (u.readings, u.around) =
      let r := u.get lifetime load
      ((r.1, r.2.entry), r.2.readings, r.2.around) := by
  have hclock : Runs.run (Readings.clock : StateT Readings m Moment) (u.readings, u.around) = _ :=
    run_readings_clock
  cases hfresh : u.entry.fresh? lifetime (u.readings 0) with
  | some value => rw [run_get_fresh (by rwa [hclock]), get_of_fresh hfresh, hclock]
  | none =>
    rw [run_get_load (by rwa [hclock]), get_of_load h.previous hfresh, h.previous]
    simp only [hclock, Runs.run_lift, run_readings_clock (m := m)]
    rfl

/-! ## Lifetimes that do not run out -/

/-- Nothing was loaded before the start, and the lifetime does not run out from
    there. -/
structure Lasting (lifetime : Duration) (start : Moment) (u : Session α σ) : Prop where
  since : u.entry.Since start
  within : u.readings.Within start lifetime

theorem lasting_start {readings : Readings} (h : readings.Within start lifetime) (s : σ) :
    Lasting lifetime start ({ readings, around := s } : Session α σ) :=
  ⟨since_empty, h⟩

theorem Lasting.get (h : u.Lasting lifetime start) (hfaithful : u.Faithful load) :
    (u.get lifetime load).2.Lasting lifetime start := by
  cases hfresh : u.entry.fresh? lifetime (u.readings 0) with
  | some value =>
    rw [get_of_fresh hfresh]
    exact ⟨h.since, h.within.drop 1⟩
  | none =>
    rw [get_of_load hfaithful.previous hfresh]
    exact ⟨since_store _ (h.within 1).1, (h.within.drop 1).drop 1⟩

theorem Lasting.step (h : u.Lasting lifetime start) (hfaithful : u.Faithful load) (op : Op σ) :
    (u.step lifetime load op).Lasting lifetime start := by
  cases op with
  | get => exact h.get hfaithful
  | invalidate => exact ⟨since_invalidate _, h.within⟩
  | change f => exact ⟨h.since, h.within⟩

theorem lasting_after (h : u.Lasting lifetime start) (hfaithful : u.Faithful load)
    (ops : List (Op σ)) : (u.after lifetime load ops).Lasting lifetime start := by
  induction ops generalizing u with
  | nil => exact h
  | cons op rest ih => exact ih (h.step hfaithful op) (hfaithful.step op)

/-- A value that is not due is answered as it is. -/
theorem Lasting.exists_get (h : u.Lasting lifetime start) (hfaithful : u.Faithful load)
    (hdue : ¬Due u.past) : ∃ value, latest? u.past = some value ∧
      u.get lifetime load = (value, { u with readings := u.readings.drop 1 }) := by
  obtain ⟨value, hprevious, hfresh⟩ :=
    fresh?_of_since h.since (mt hfaithful.isDue_iff.1 hdue) (h.within 0)
  exact ⟨value, hfaithful.previous.symm.trans hprevious, get_of_fresh hfresh⟩

/-! ## Invalidations -/

variable (lifetime load) in
theorem after_append (u : Session α σ) (first rest : List (Op σ)) :
    u.after lifetime load (first ++ rest) =
      (u.after lifetime load first).after lifetime load rest :=
  List.foldl_append

variable (lifetime load) in
/-- Invalidations one after the other are written down, and leave the surroundings
    alone. -/
theorem after_replicate_invalidate (u : Session α σ) (n : Nat) :
    (u.after lifetime load (List.replicate n .invalidate)).past =
        List.replicate n .invalidated ++ u.past ∧
      (u.after lifetime load (List.replicate n .invalidate)).around = u.around := by
  induction n generalizing u with
  | zero => exact ⟨rfl, rfl⟩
  | succ n ih =>
    obtain ⟨hpast, haround⟩ := ih (u.step lifetime load .invalidate)
    refine ⟨hpast.trans ?_, haround⟩
    rw [List.replicate_succ', List.append_assoc]
    rfl

/-- However often a value is invalidated, it is loaded once when it is asked for,
    and handed over all the same; before the first load that is no different. -/
theorem Faithful.past_eq (h : u.Faithful load) {n : Nat}
    (hn : 0 < n ∨ latest? u.past = none) :
    (u.after lifetime load (List.replicate n .invalidate ++ [.get])).past =
      .loaded (latest? u.past) (Runs.run (load (latest? u.past)) u.around).1 ::
        (List.replicate n .invalidated ++ u.past) := by
  obtain ⟨hpast, haround⟩ := after_replicate_invalidate lifetime load u n
  have hfaithful := faithful_after lifetime h (List.replicate n .invalidate)
  have hget : (u.after lifetime load (List.replicate n .invalidate)).get lifetime load = _ :=
    hfaithful.get_of_due (.inr (hpast ▸ due_replicate hn))
  rw [after_append]
  change ((u.after lifetime load (List.replicate n .invalidate)).get lifetime load).2.past = _
  rw [hget, Session.reload, hpast, haround, latest?_replicate]

/-! ## Runs -/

variable (lifetime load) in
/-- However a new value is asked for and invalidated: each load is handed the value
    of the load before it, invalidated or not, and the first one none; and whoever
    asks is answered with the value of the last load. A value that is due is loaded,
    once however often it was invalidated; with a lifetime of zero it is always
    loaded, and with one that does not run out a value that is not due is not. -/
theorem reloads_when_due (readings : Readings) (s : σ) (ops : List (Op σ)) :
    let u := after lifetime load { readings, around := s } ops
    Linked load u.past ∧
      (Runs.run (Expiring.get lifetime (Readings.clock : StateT Readings m Moment)
          (fun previous => liftM (load previous)) u.entry) (u.readings, u.around) =
        let r := u.get lifetime load
        ((r.1, r.2.entry), r.2.readings, r.2.around)) ∧
      latest? (u.get lifetime load).2.past = some (u.get lifetime load).1 ∧
      (lifetime = .zero ∨ Due u.past → u.get lifetime load = u.reload load) ∧
      (readings.Lasts lifetime → ¬Due u.past → ∃ value, latest? u.past = some value ∧
        u.get lifetime load = (value, { u with readings := u.readings.drop 1 })) ∧
      ∀ n, 0 < n ∨ latest? u.past = none →
        (u.after lifetime load (List.replicate n .invalidate ++ [.get])).past =
          .loaded (latest? u.past) (Runs.run (load (latest? u.past)) u.around).1 ::
            (List.replicate n .invalidated ++ u.past) := by
  intro u
  have hstart : Faithful load { readings, around := s } := faithful_start readings s
  have hfaithful : u.Faithful load := faithful_after lifetime hstart ops
  refine ⟨hfaithful.linked, hfaithful.run_get, hfaithful.latest?_get, hfaithful.get_of_due,
    fun hlasts hdue => ?_, fun n hn => hfaithful.past_eq hn⟩
  obtain ⟨start, hwithin⟩ := hlasts.exists_within
  exact (lasting_after (lasting_start hwithin s) hstart ops).exists_get hfaithful hdue

/-- A loader that counts on from the value before, and starts at 10. -/
def counting (previous : Option Nat) : Logged Nat :=
  return previous.elim 10 (· + 1)

/-- Invalidated before the first load and twice after it, a value is loaded twice,
    and counted on. -/
theorem counts_on_after_invalidations :
    let readings : Readings := fun i => i % 2
    let u := after (.ofSeconds 60) counting { readings, around := () } [.invalidate, .get]
    readings.Lasts (.ofSeconds 60) ∧ ¬Due u.past ∧ (u.get (.ofSeconds 60) counting).1 = 10 ∧
      (u.after (.ofSeconds 60) counting [.invalidate, .invalidate, .get]).past =
        [.loaded (some 10) 11, .invalidated, .invalidated, .loaded none 10, .invalidated] := by
  intro readings u
  have hlasts : readings.Lasts (.ofSeconds 60) := by
    intro i j
    change j % 2 - i % 2 < 60 * 1000000000
    omega
  have hdue : ¬Due u.past := id
  obtain ⟨-, -, -, -, hkept, honce⟩ :=
    reloads_when_due (.ofSeconds 60) counting readings () [.invalidate, .get]
  obtain ⟨value, hvalue, hget⟩ := hkept hlasts hdue
  refine ⟨hlasts, hdue, ?_, honce 2 (.inl Nat.two_pos)⟩
  rw [hget]
  exact (Option.some.inj hvalue).symm

end Session

end Expiring

end Endorsement
