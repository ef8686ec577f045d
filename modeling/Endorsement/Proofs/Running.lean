import Endorsement.Event
import Mathlib.Data.List.Forall2

/-!
# Running actions

The library acts in any monad that can report. What an action does there is
said by running it: from a state it answers a value and leaves a state.

* `Runs`: monads whose actions can be run; values with events have no state, and
  a state of its own can be added to any such monad;
* `Answers`: from every state with a property, an action answers a value with
  another, and keeps the first;
* `Follows`: an action that may fail ends as a given outcome, or fails in a way
  of its own.
-/

namespace Endorsement

/-- A monad whose actions can be run from states of type `σ`. What is reported
    changes neither answers nor states. -/
class Runs (m : Type → Type) [Monad m] [MonadLiftT Logged m] (σ : outParam Type) where
  /-- What an action answers from a state, and the state it leaves. -/
  run {α : Type} (x : m α) (s : σ) : α × σ
  run_pure {α : Type} (a : α) (s : σ) : run (pure a) s = (a, s)
  run_bind {α β : Type} (x : m α) (f : α → m β) (s : σ) :
    run (x >>= f) s = run (f (run x s).1) (run x s).2
  run_log {α : Type} (x : Logged α) (s : σ) : run (liftM x) s = (x.value, s)

namespace Runs

attribute [simp] run_pure run_bind run_log

instance : Runs Logged Unit where
  run x s := (x.value, s)
  run_pure _ _ := rfl
  run_bind _ _ _ := rfl
  run_log _ _ := rfl

variable {m : Type → Type} [Monad m] [MonadLiftT Logged m] {σ τ α β : Type} [Runs m σ]

instance : Runs (StateT τ m) (τ × σ) where
  run x s :=
    let r := run (x s.1) s.2
    (r.1.1, r.1.2, r.2)
  run_pure a s := by
    have hpure : (pure a : StateT τ m _) s.1 = pure (a, s.1) := rfl
    rw [hpure, run_pure]
  run_bind _ _ _ := by simp [bind, StateT.bind]
  run_log x s := by simp [liftM, monadLift, MonadLift.monadLift, StateT.lift]

theorem run_map [LawfulMonad m] (f : α → β) (x : m α) (s : σ) :
    run (f <$> x) s = (f (run x s).1, (run x s).2) := by
  rw [map_eq_pure_bind, run_bind, run_pure]

/-! ## States of their own -/

variable {t t' : τ} {s s' : σ}

/-- An action with a state of its own runs as it does on that state. -/
theorem run_stateT {x : StateT τ m α} {a : α} (h : run (x t) s = ((a, t'), s')) :
    run x (t, s) = (a, t', s') := by
  change ((run (x t) s).1.1, (run (x t) s).1.2, (run (x t) s).2) = _
  rw [h]

@[simp] theorem run_get : run (get : StateT τ m τ) (t, s) = (t, t, s) :=
  run_stateT (run_pure _ _)

@[simp] theorem run_set : run (set t' : StateT τ m PUnit) (t, s) = (⟨⟩, t', s) :=
  run_stateT (run_pure _ _)

@[simp] theorem run_modify (f : τ → τ) :
    run (modify f : StateT τ m PUnit) (t, s) = (⟨⟩, f t, s) :=
  run_stateT (run_pure _ _)

/-- An action that knows nothing of a state leaves it alone. -/
@[simp] theorem run_lift (x : m α) :
    run (liftM x : StateT τ m α) (t, s) = ((run x s).1, t, (run x s).2) := by
  refine run_stateT ?_
  change run (x >>= fun a => pure (a, t)) s = _
  rw [run_bind, run_pure]

end Runs

/-! ## Answers -/

variable {m : Type → Type} [Monad m] [MonadLiftT Logged m] {σ : Type} [Runs m σ]

/-- From every state with a property, an action answers a value with another,
    and leaves a state that still has the first. -/
def Answers {α : Type} (keeps : σ → Prop) (x : m α) (post : α → Prop) : Prop :=
  ∀ s, keeps s → post (Runs.run x s).1 ∧ keeps (Runs.run x s).2

namespace Answers

variable {keeps : σ → Prop} {α β : Type}

theorem pure {a : α} {post : α → Prop} (h : post a) : Answers keeps (pure a : m α) post := by
  intro s hs
  rw [Runs.run_pure]
  exact ⟨h, hs⟩

theorem bind {x : m α} {f : α → m β} {mid : α → Prop} {post : β → Prop}
    (hx : Answers keeps x mid) (hf : ∀ a, mid a → Answers keeps (f a) post) :
    Answers keeps (x >>= f) post := by
  intro s hs
  obtain ⟨ha, hs⟩ := hx s hs
  rw [Runs.run_bind]
  exact hf _ ha _ hs

/-- What follows an action is all that counts once it has led to the property. -/
theorem after {x : m α} {f : α → m β} (post : β → Prop) {s : σ} (hx : keeps (Runs.run x s).2)
    (hf : Answers keeps (f (Runs.run x s).1) post) :
    post (Runs.run (x >>= f) s).1 ∧ keeps (Runs.run (x >>= f) s).2 := by
  rw [Runs.run_bind]
  exact hf _ hx

theorem log (x : Logged α) : Answers keeps (liftM x : m α) (· = x.value) := by
  intro s hs
  rw [Runs.run_log]
  exact ⟨rfl, hs⟩

theorem mono {x : m α} {mid post : α → Prop} (hx : Answers keeps x mid)
    (h : ∀ a, mid a → post a) : Answers keeps x post :=
  fun s hs => ⟨h _ (hx s hs).1, (hx s hs).2⟩

/-- Acting on each of some items answers, item by item, what the action does. -/
theorem mapM {f : α → m β} {R : α → β → Prop} (items : List α)
    (h : ∀ a ∈ items, Answers keeps (f a) (R a)) :
    Answers keeps (items.mapM f) (List.Forall₂ R items) := by
  -- The accumulator holds what the items done so far were answered, last first.
  have hloop : ∀ bs : List β, Answers keeps (List.mapM.loop f items bs)
      fun all => ∃ rest, all = bs.reverse ++ rest ∧ List.Forall₂ R items rest := by
    induction items with
    | nil =>
      intro bs
      exact pure ⟨[], (List.append_nil _).symm, .nil⟩
    | cons a items ih =>
      intro bs
      rw [List.forall_mem_cons] at h
      refine h.1.bind fun b hb => (ih h.2 (b :: bs)).mono fun all hall => ?_
      obtain ⟨rest, hall, hrest⟩ := hall
      exact ⟨b :: rest, by simpa using hall, .cons hb hrest⟩
  refine (hloop []).mono fun all hall => ?_
  obtain ⟨rest, rfl, hrest⟩ := hall
  simpa using hrest

theorem mapM_eq {f : α → m β} {g : α → β} (items : List α)
    (h : ∀ a, Answers keeps (f a) (· = g a)) :
    Answers keeps (items.mapM f) (· = items.map g) := by
  refine (mapM items fun a _ => h a).mono fun bs hbs => ?_
  have heq : List.Forall₂ Eq bs (items.map g) := List.forall₂_map_right_iff.2 hbs.flip
  rwa [List.forall₂_eq_eq_eq] at heq

/-- An action that may fail keeps what its parts keep. -/
theorem attempt {ε : Type} {x : ExceptT ε m α} {f : α → ExceptT ε m β}
    (hx : Answers keeps x.run fun _ => True) (hf : ∀ a, Answers keeps (f a).run fun _ => True) :
    Answers keeps (x >>= f).run fun _ => True := by
  refine Answers.bind hx fun r _ => ?_
  cases r with
  | ok a => exact hf a
  | error failure => exact pure trivial

theorem lifted [LawfulMonad m] {ε : Type} {x : m α} (hx : Answers keeps x fun _ => True) :
    Answers keeps (liftM x : ExceptT ε m α).run fun _ => True := by
  intro s hs
  change True ∧ keeps (Runs.run (Except.ok <$> x) s).2
  rw [Runs.run_map]
  exact ⟨trivial, (hx s hs).2⟩

/-- What an action answers, it answers from a state with the property. -/
theorem exists_run {x : m α} {post : α → Prop} (hx : Answers keeps x post) :
    Answers keeps x fun a => post a ∧ ∃ s, keeps s ∧ a = (Runs.run x s).1 :=
  fun s hs => ⟨⟨(hx s hs).1, s, hs, rfl⟩, (hx s hs).2⟩

end Answers

/-- A state of its own has one property, and the state below it another. -/
def Both {τ : Type} (own : τ → Prop) (keeps : σ → Prop) (s : τ × σ) : Prop :=
  own s.1 ∧ keeps s.2

namespace Answers

variable {τ α : Type} {own : τ → Prop} {keeps : σ → Prop}

theorem get : Answers (Both own keeps) (get : StateT τ m τ) own := by
  rintro ⟨t, s⟩ hs
  rw [Runs.run_get]
  exact ⟨hs.1, hs⟩

theorem set {t : τ} (ht : own t) :
    Answers (Both own keeps) (set t : StateT τ m PUnit) fun _ => True := by
  rintro ⟨_, s⟩ hs
  rw [Runs.run_set]
  exact ⟨trivial, ht, hs.2⟩

theorem modify {f : τ → τ} (hf : ∀ t, own t → own (f t)) :
    Answers (Both own keeps) (modify f : StateT τ m PUnit) fun _ => True := by
  rintro ⟨t, s⟩ hs
  rw [Runs.run_modify]
  exact ⟨trivial, hf t hs.1, hs.2⟩

theorem lift {x : m α} {post : α → Prop} (hx : Answers keeps x post) :
    Answers (Both own keeps) (liftM x : StateT τ m α) post := by
  rintro ⟨t, s⟩ hs
  rw [Runs.run_lift]
  exact ⟨(hx s hs.2).1, hs.1, (hx s hs.2).2⟩

end Answers

/-! ## Outcomes -/

/-- An attempt ended as a given outcome, with a value related to its value or
    with its failure, or with a failure of its own as `fails`. -/
def EndedAs {ε α β : Type} (fails : ε → Prop) (R : α → β → Prop) (e : Except ε β) :
    Except ε α → Prop
  | .ok a => ∃ b, e = .ok b ∧ R a b
  | .error f => fails f ∨ e = .error f

/-- From every state with a property, an action that may fail ends as a given
    outcome, and leaves a state that still has the property. -/
def Follows {ε α β : Type} (keeps : σ → Prop) (fails : ε → Prop) (R : α → β → Prop)
    (x : ExceptT ε m α) (e : Except ε β) : Prop :=
  Answers keeps x.run (EndedAs fails R e)

namespace Follows

variable {keeps : σ → Prop} {ε α β γ δ : Type} {fails : ε → Prop}

theorem pure {R : α → β → Prop} {a : α} {b : β} (h : R a b) :
    Follows keeps fails R (pure a : ExceptT ε m α) (.ok b) :=
  Answers.pure ⟨b, rfl, h⟩

theorem mono {R S : α → β → Prop} {x : ExceptT ε m α} {e : Except ε β}
    (hx : Follows keeps fails R x e) (h : ∀ a b, R a b → S a b) : Follows keeps fails S x e := by
  refine Answers.mono hx fun r hr => ?_
  cases r with
  | ok a =>
    obtain ⟨b, he, hab⟩ := hr
    exact ⟨b, he, h a b hab⟩
  | error failure => exact hr

theorem bind {R : α → β → Prop} {S : γ → δ → Prop} {x : ExceptT ε m α} {f : α → ExceptT ε m γ}
    {e : Except ε β} {g : β → Except ε δ} (hx : Follows keeps fails R x e)
    (hf : ∀ a b, R a b → Follows keeps fails S (f a) (g b)) :
    Follows keeps fails S (x >>= f) (e >>= g) := by
  refine Answers.bind hx fun r hr => ?_
  cases r with
  | ok a =>
    obtain ⟨b, rfl, hab⟩ := hr
    exact hf a b hab
  | error failure =>
    refine Answers.pure (hr.imp_right fun he => ?_)
    rw [he]
    rfl

/-- An action that cannot fail has no part in the outcome. -/
theorem bind_lift [LawfulMonad m] {post : α → Prop} {S : γ → δ → Prop} {x : m α}
    {f : α → ExceptT ε m γ} {e : Except ε δ} (hx : Answers keeps x post)
    (hf : ∀ a, post a → Follows keeps fails S (f a) e) :
    Follows keeps fails S ((liftM x : ExceptT ε m α) >>= f) e := by
  -- The action itself follows an outcome that has no value to speak of.
  have hlift : Follows keeps fails (fun a (_ : Unit) => post a) (liftM x : ExceptT ε m α)
      (.ok ()) := by
    intro s hs
    change EndedAs _ _ _ (Runs.run (Except.ok <$> x) s).1 ∧ keeps (Runs.run (Except.ok <$> x) s).2
    rw [Runs.run_map]
    exact ⟨⟨(), rfl, (hx s hs).1⟩, (hx s hs).2⟩
  exact hlift.bind fun a _ ha => hf a ha

theorem ofExcept (e : Except ε α) :
    Follows keeps fails Eq (MonadExcept.ofExcept e : ExceptT ε m α) e := by
  cases e with
  | ok a => exact pure rfl
  | error f => exact Answers.pure (.inr rfl)

/-- An outcome that comes with events is the outcome. -/
theorem log (x : ExceptT ε Logged α) :
    Follows keeps fails Eq (ExceptT.mk (liftM x.run : m (Except ε α))) x.run.value := by
  refine (Answers.log x.run).mono fun r hr => ?_
  rw [hr]
  cases x.run.value with
  | ok a => exact ⟨a, rfl, rfl⟩
  | error f => exact .inr rfl

end Follows

end Endorsement
