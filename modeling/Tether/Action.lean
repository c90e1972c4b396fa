/-!
# Tether.Action — steps that may fail and always leave a state behind

An `Action σ ε α` runs on a state and answers a value or a failure.  Unlike a plain error monad it keeps the
state it has reached when it fails: a failed exchange has still used a transaction id and has still moved bytes.
-/

namespace Tether

/-- A step on a state `σ` that answers an `α` or fails with an `ε`; either way it leaves a state behind. -/
def Action (σ ε α : Type) : Type :=
  σ → Except ε α × σ

namespace Action

variable {σ ρ ε ε' α β γ : Type}

/-- The step that answers `a` and changes nothing. -/
def done (a : α) : Action σ ε α :=
  fun s => (.ok a, s)

/-- Runs `x`, then `f` on its value; a failure of `x` ends the step in the state that `x` left. -/
def andThen (x : Action σ ε α) (f : α → Action σ ε β) : Action σ ε β :=
  fun s =>
    match x s with
    | (.ok a, s') => f a s'
    | (.error e, s') => (.error e, s')

instance : Monad (Action σ ε) where
  pure := done
  bind := andThen

/-- Nothing behind a step changes nothing. -/
theorem andThen_done (x : Action σ ε α) : andThen x done = x := by
  funext s
  unfold andThen
  split
  · rename_i h
    exact h.symm
  · rename_i h
    exact h.symm

/-- It does not matter how three steps are bracketed. -/
theorem andThen_assoc (x : Action σ ε α) (f : α → Action σ ε β) (g : β → Action σ ε γ) :
    andThen (andThen x f) g = andThen x fun a => andThen (f a) g := by
  funext s
  simp only [andThen]
  rcases x s with ⟨_ | _, _⟩ <;> rfl

instance : LawfulMonad (Action σ ε) :=
  LawfulMonad.mk' (Action σ ε) andThen_done (fun _ _ => rfl) andThen_assoc

/-- The step that fails with `e` and changes nothing. -/
def fail (e : ε) : Action σ ε α :=
  fun s => (.error e, s)

/-- The current state. -/
def state : Action σ ε σ :=
  fun s => (.ok s, s)

/-- A value read off the current state. -/
def read (f : σ → α) : Action σ ε α :=
  fun s => (.ok (f s), s)

/-- Changes the state by `f`. -/
def change (f : σ → σ) : Action σ ε Unit :=
  fun s => (.ok (), f s)

/-- A computation that does not touch the state. -/
def ofExcept (r : Except ε α) : Action σ ε α :=
  fun s => (r, s)

/-- A computation on the state that cannot fail. -/
def ofFunction (f : σ → α × σ) : Action σ ε α :=
  fun s => (.ok (f s).1, (f s).2)

/-- Runs `x` and hands its outcome on as a value, so that a failure does not end the step. -/
def attempt (x : Action σ ε α) : Action σ ε' (Except ε α) :=
  fun s => (.ok (x s).1, (x s).2)

/-- Restates the failures of `x`. -/
def mapError (f : ε → ε') (x : Action σ ε α) : Action σ ε' α :=
  fun s =>
    match x s with
    | (.ok a, s') => (.ok a, s')
    | (.error e, s') => (.error (f e), s')

/-- Runs a step of a part `ρ` of the state and puts the part back. -/
def within (part : σ → ρ) (replace : ρ → σ → σ) (x : Action ρ ε α) : Action σ ε α :=
  fun s => ((x (part s)).1, replace (x (part s)).2 s)

/-- The value behind `o`, or a failure where there is none. -/
def ofOption (e : ε) : Option α → Action σ ε α
  | some a => done a
  | none => fail e

@[simp] theorem pure_apply (a : α) (s : σ) : (pure a : Action σ ε α) s = (.ok a, s) := rfl

@[simp] theorem bind_apply (x : Action σ ε α) (f : α → Action σ ε β) (s : σ) :
    (x >>= f) s = match x s with
      | (.ok a, s') => f a s'
      | (.error e, s') => (.error e, s') := rfl

end Action

end Tether
