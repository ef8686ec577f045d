/-!
# Parts of a state

Actions on a part of a state are actions on the state as a whole, which leave
the rest of it as it is.

* `Part`: how a part is read and replaced;
* `Part.act`: an action on a part, as one on the whole;
* `Part.actWithin`: the same for an action that also acts on the whole.
-/

namespace Endorsement

/-- A part of type `τ` of a state of type `σ`. -/
structure Part (σ τ : Type) where
  get : σ → τ
  set : τ → σ → σ

namespace Part

variable {σ τ α : Type} {m : Type → Type} [Monad m]

/-- An action on a part, as one on the whole. -/
def act (part : Part σ τ) (action : StateT τ m α) : StateT σ m α := fun s => do
  let (a, t) ← action (part.get s)
  return (a, part.set t s)

/-- An action on a part that also acts on the whole. The whole must leave the
    part alone, since the part is replaced at the end. -/
def actWithin (part : Part σ τ) (action : StateT τ (StateT σ m) α) : StateT σ m α := fun s => do
  let ((a, t), s) ← action (part.get s) s
  return (a, part.set t s)

end Part

end Endorsement
