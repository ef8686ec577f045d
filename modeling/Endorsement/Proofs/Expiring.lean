import Endorsement.Expiring
import Endorsement.Proofs.Running
import Mathlib.Data.Nat.Find

/-!
# When values are loaded

A value that expires is either handed out as it is or loaded anew. With a
lifetime of zero it is loaded every time. As long as the lifetime does not run
out, it is loaded when it is due: nothing was loaded yet, or it was invalidated.

* `Expiring.IsDue`: whether the value must be loaded, whatever the time;
* `Expiring.Since`: whether it was not loaded before a moment;
* `Expiring.fresh?_zero`, `Expiring.fresh?_of_isDue`, `Expiring.fresh?_of_since`:
  which values need not be loaded again;
* `Expiring.run_get_fresh`, `Expiring.run_get_load`: asking for the value;
* `Readings.Lasts`: whether a lifetime does not run out.
-/

namespace Endorsement

/-! ## Clocks -/

/-- The readings of a clock to come, in order. -/
abbrev Readings := Nat → Moment

namespace Readings

/-- The readings after the first `n`. -/
def drop (n : Nat) (readings : Readings) : Readings :=
  fun i => readings (n + i)

/-- No reading is a lifetime or more after another one. -/
def Lasts (lifetime : Duration) (readings : Readings) : Prop :=
  ∀ i j, readings j - readings i < lifetime.nanos

/-- All readings are within the lifetime that starts at a moment. -/
def Within (start : Moment) (lifetime : Duration) (readings : Readings) : Prop :=
  ∀ i, start ≤ readings i ∧ readings i < start + lifetime.nanos

variable {readings : Readings} {lifetime : Duration} {start : Moment}

theorem Within.drop (h : readings.Within start lifetime) (n : Nat) :
    (readings.drop n).Within start lifetime :=
  fun i => h (n + i)

/-- A lifetime that does not run out can be taken to start at the least reading. -/
theorem Lasts.exists_within (h : readings.Lasts lifetime) :
    ∃ start, readings.Within start lifetime := by
  classical
  have hleast : ∃ moment, ∃ i, readings i = moment := ⟨readings 0, 0, rfl⟩
  obtain ⟨i, hi⟩ := Nat.find_spec hleast
  refine ⟨Nat.find hleast, fun j => ?_⟩
  have hle := Nat.find_min' hleast ⟨j, rfl⟩
  exact ⟨hle, (Nat.sub_lt_iff_lt_add' hle).1 (hi ▸ h i j)⟩

end Readings

namespace Expiring

variable {α : Type} {e : Expiring α} {lifetime : Duration} {now start : Moment}

/-! ## Values that are due -/

/-- Nothing was loaded yet, or the value was invalidated. -/
def IsDue (e : Expiring α) : Prop :=
  ∀ value loadedAt, e.last ≠ some ⟨value, some loadedAt⟩

/-- The value was not loaded before a moment. -/
def Since (start : Moment) (e : Expiring α) : Prop :=
  ∀ value loadedAt, e.last = some ⟨value, some loadedAt⟩ → start ≤ loadedAt

theorem isDue_empty : IsDue ({} : Expiring α) := by
  intro value loadedAt h
  cases h

theorem since_empty : Since start ({} : Expiring α) := by
  intro value loadedAt h
  cases h

theorem isDue_invalidate (e : Expiring α) : e.invalidate.IsDue := by
  intro value loadedAt h
  obtain ⟨loaded, -, h⟩ := Option.map_eq_some_iff.1 h
  cases h

theorem since_invalidate (e : Expiring α) : e.invalidate.Since start :=
  fun value loadedAt h => absurd h (isDue_invalidate e value loadedAt)

theorem previous_invalidate (e : Expiring α) : e.invalidate.previous = e.previous := by
  rw [previous, invalidate, Option.map_map]
  rfl

theorem not_isDue_store (value : α) (now : Moment) : ¬(store value now).IsDue :=
  fun h => h value now rfl

theorem since_store (value : α) (h : start ≤ now) : (store value now).Since start := by
  intro _ loadedAt hlast
  obtain ⟨rfl, hat⟩ := Loaded.mk.inj (Option.some.inj hlast)
  obtain rfl := Option.some.inj hat
  exact h

theorem previous_store (value : α) (now : Moment) : (store value now).previous = some value := rfl

/-- A lifetime of zero is over at once. -/
theorem fresh?_zero (e : Expiring α) : e.fresh? .zero now = none := by
  rw [fresh?]
  split
  · exact if_neg (Nat.not_lt_zero _)
  · rfl

theorem fresh?_of_isDue (h : e.IsDue) : e.fresh? lifetime now = none := by
  rw [fresh?]
  split
  · rename_i value loadedAt hlast
    exact absurd hlast (h value loadedAt)
  · rfl

/-- Within the lifetime, a value that is not due is fresh. -/
theorem fresh?_of_since (hsince : e.Since start) (hdue : ¬e.IsDue)
    (hnow : start ≤ now ∧ now < start + lifetime.nanos) :
    ∃ value, e.previous = some value ∧ e.fresh? lifetime now = some value := by
  obtain ⟨value, hdue⟩ := not_forall.1 hdue
  obtain ⟨loadedAt, hlast⟩ := not_forall_not.1 hdue
  refine ⟨value, by rw [previous, hlast]; rfl, ?_⟩
  have hle : now - loadedAt ≤ now - start := Nat.sub_le_sub_left (hsince value loadedAt hlast) now
  rw [fresh?, hlast]
  exact if_pos (Nat.lt_of_le_of_lt hle (Nat.sub_lt_left_of_lt_add hnow.1 hnow.2))

/-- A value that is fresh was loaded, and is not due. -/
theorem of_fresh?_eq_some {value : α} (h : e.fresh? lifetime now = some value) :
    e.previous = some value ∧ ¬e.IsDue := by
  rw [fresh?] at h
  split at h
  · rename_i value' loadedAt hlast
    split at h
    · obtain rfl := Option.some.inj h
      exact ⟨by rw [previous, hlast]; rfl, fun hdue => hdue value' loadedAt hlast⟩
    · cases h
  · cases h

/-! ## Asking for the value -/

variable {m : Type → Type} [Monad m] [MonadLiftT Logged m] {σ : Type} [Runs m σ]
  {clock : m Moment} {load : Option α → m α} {s : σ}

theorem run_get_fresh {value : α} (h : e.fresh? lifetime (Runs.run clock s).1 = some value) :
    Runs.run (get lifetime clock load e) s = ((value, e), (Runs.run clock s).2) := by
  simp only [get, Runs.run_bind, h, Runs.run_pure]

/-- A value that is not fresh is loaded, given the one before. -/
theorem run_get_load (h : e.fresh? lifetime (Runs.run clock s).1 = none) :
    Runs.run (get lifetime clock load e) s =
      let loaded := Runs.run (load e.previous) (Runs.run clock s).2
      let later := Runs.run clock loaded.2
      ((loaded.1, store loaded.1 later.1), later.2) := by
  simp only [get, Runs.run_bind, h, Runs.run_pure]

/-- Where a state is around that neither the clock nor the loader knows of, the
    value is asked for as it is without. -/
theorem run_get_lift {τ : Type} {load' : Option α → StateT τ m α} {t : τ}
    (h : ∀ previous s, Runs.run (load' previous) (t, s) =
      ((Runs.run (load previous) s).1, t, (Runs.run (load previous) s).2)) (s : σ) :
    Runs.run (get lifetime (liftM clock) load' e) (t, s) =
      let r := Runs.run (get lifetime clock load e) s
      (r.1, t, r.2) := by
  simp only [get, Runs.run_bind, Runs.run_lift]
  cases e.fresh? lifetime (Runs.run clock s).1 with
  | none => simp only [Runs.run_bind, h, Runs.run_lift, Runs.run_pure]
  | some value => simp only [Runs.run_pure]

end Expiring

end Endorsement
