import Tether.Action

/-!
# Tether.Proofs.Action — a small program logic for steps that may fail

`x.Leaves s Q E` says that `x`, run in `s`, ends in an answer and a state that satisfy `Q`, or in a failure and a
state that satisfy `E`.  The rules below take a step apart into its parts, so that a call of several steps needs
one fact about each of them.  `x.Keeps P` is the same with one condition, before and behind.
-/

namespace Tether.Action

variable {σ ρ ε ε' α β : Type}

/-- `x` run in `s` answers as `Q` says or fails as `E` says. -/
def Leaves (x : Action σ ε α) (s : σ) (Q : α → σ → Prop) (E : ε → σ → Prop) : Prop :=
  (∀ a s', x s = (.ok a, s') → Q a s') ∧ ∀ e s', x s = (.error e, s') → E e s'

section Rules

variable {x : Action σ ε α} {s : σ} {Q Q' : α → σ → Prop} {E E' : ε → σ → Prop}

theorem Leaves.mono (h : x.Leaves s Q E) (hQ : ∀ a s', Q a s' → Q' a s') (hE : ∀ e s', E e s' → E' e s') :
    x.Leaves s Q' E' :=
  ⟨fun a s' hx => hQ a s' (h.1 a s' hx), fun e s' hx => hE e s' (h.2 e s' hx)⟩

theorem Leaves.and (h : x.Leaves s Q E) (h' : x.Leaves s Q' E') :
    x.Leaves s (fun a s' => Q a s' ∧ Q' a s') fun e s' => E e s' ∧ E' e s' :=
  ⟨fun a s' hx => ⟨h.1 a s' hx, h'.1 a s' hx⟩, fun e s' hx => ⟨h.2 e s' hx, h'.2 e s' hx⟩⟩

/-- Whatever holds of both ends holds of the state that a step leaves. -/
theorem Leaves.state {P : σ → Prop} (h : x.Leaves s (fun _ s' => P s') fun _ s' => P s') : P (x s).2 := by
  cases hx : x s with
  | mk r s' =>
    cases r with
    | ok a => exact h.1 a s' hx
    | error e => exact h.2 e s' hx

/-- A step that cannot fail answers. -/
theorem Leaves.exists_ok (h : x.Leaves s Q fun _ _ => False) : ∃ a s', x s = (.ok a, s') ∧ Q a s' := by
  cases hx : x s with
  | mk r s' =>
    cases r with
    | ok a => exact ⟨a, s', rfl, h.1 a s' hx⟩
    | error e => exact (h.2 e s' hx).elim

/-- A step that cannot answer fails. -/
theorem Leaves.exists_error (h : x.Leaves s (fun _ _ => False) E) : ∃ e s', x s = (.error e, s') ∧ E e s' := by
  cases hx : x s with
  | mk r s' =>
    cases r with
    | ok a => exact (h.1 a s' hx).elim
    | error e => exact ⟨e, s', rfl, h.2 e s' hx⟩

theorem Leaves.eq_ok {a : α} (h : x.Leaves s (fun a' _ => a' = a) fun _ _ => False) : (x s).1 = .ok a := by
  obtain ⟨a', s', hx, rfl⟩ := h.exists_ok
  rw [hx]

/-- A step that cannot answer and changes nothing fails. -/
theorem Leaves.eq_error (h : x.Leaves s (fun _ _ => False) fun _ s' => s' = s) : ∃ e, x s = (.error e, s) := by
  obtain ⟨e, s', hx, rfl⟩ := h.exists_error
  exact ⟨e, hx⟩

theorem leaves_of_state {P : σ → Prop} (h : P (x s).2) : x.Leaves s (fun _ s' => P s') fun _ s' => P s' := by
  refine ⟨fun a s' hx => ?_, fun e s' hx => ?_⟩
  · rw [hx] at h
    exact h
  · rw [hx] at h
    exact h

theorem leaves_of_eq_ok {a : α} {s' : σ} (hx : x s = (.ok a, s')) (hQ : Q a s') : x.Leaves s Q E := by
  refine ⟨fun a' s'' h => ?_, fun e s'' h => ?_⟩
  · rw [hx] at h
    cases h
    exact hQ
  · rw [hx] at h
    cases h

theorem leaves_of_eq_error {e : ε} {s' : σ} (hx : x s = (.error e, s')) (hE : E e s') : x.Leaves s Q E := by
  refine ⟨fun a s'' h => ?_, fun e' s'' h => ?_⟩
  · rw [hx] at h
    cases h
  · rw [hx] at h
    cases h
    exact hE

theorem leaves_pure {a : α} (h : Q a s) : (pure a : Action σ ε α).Leaves s Q E :=
  leaves_of_eq_ok rfl h

theorem leaves_fail {e : ε} (h : E e s) : (fail e : Action σ ε α).Leaves s Q E :=
  leaves_of_eq_error rfl h

theorem leaves_state {Q : σ → σ → Prop} {E : ε → σ → Prop} (h : Q s s) : state.Leaves s Q E :=
  leaves_of_eq_ok rfl h

theorem leaves_read {f : σ → α} (h : Q (f s) s) : (read f : Action σ ε α).Leaves s Q E :=
  leaves_of_eq_ok rfl h

theorem leaves_change {f : σ → σ} {Q : Unit → σ → Prop} (h : Q () (f s)) : (change f).Leaves s Q E :=
  leaves_of_eq_ok rfl h

theorem leaves_ofFunction {f : σ → α × σ} (h : Q (f s).1 (f s).2) : (ofFunction f : Action σ ε α).Leaves s Q E :=
  leaves_of_eq_ok rfl h

theorem leaves_ofExcept {r : Except ε α} (hQ : ∀ a, r = .ok a → Q a s) (hE : ∀ e, r = .error e → E e s) :
    (ofExcept r).Leaves s Q E := by
  cases r with
  | ok a => exact leaves_of_eq_ok rfl (hQ a rfl)
  | error e => exact leaves_of_eq_error rfl (hE e rfl)

theorem leaves_attempt {Q : Except ε α → σ → Prop} {E : ε' → σ → Prop} (h : Q (x s).1 (x s).2) :
    (x.attempt : Action σ ε' (Except ε α)).Leaves s Q E :=
  leaves_of_eq_ok rfl h

/-- One step after another. -/
theorem leaves_bind {f : α → Action σ ε β} {R : β → σ → Prop}
    (h : x.Leaves s (fun a s' => (f a).Leaves s' R E) E) : (x >>= f).Leaves s R E := by
  cases hx : x s with
  | mk r s' =>
    have hb := bind_apply x f s
    rw [hx] at hb
    cases r with
    | ok a =>
      have hf := h.1 a s' hx
      exact ⟨fun b s'' hb' => hf.1 b s'' (hb.symm.trans hb'), fun e s'' hb' => hf.2 e s'' (hb.symm.trans hb')⟩
    | error e => exact leaves_of_eq_error hb (h.2 e s' hx)

/-- The last step decides what is answered, wherever the steps before it come to. -/
theorem leaves_bind_all {f : α → Action σ ε β} {R : β → σ → Prop} (hf : ∀ a s', (f a).Leaves s' R E)
    (hE : ∀ e s', E e s') : (x >>= f).Leaves s R E :=
  leaves_bind ⟨fun a s' _ => hf a s', fun e s' _ => hE e s'⟩

end Rules

/-- Restated or not, a failure leaves the same state. -/
theorem snd_mapError (f : ε → ε') (x : Action σ ε α) (s : σ) : (x.mapError f s).2 = (x s).2 := by
  unfold mapError
  split
  · rename_i h
    rw [h]
  · rename_i h
    rw [h]

/-! ## What a step keeps -/

/-- What holds before `x` holds behind it, whether `x` answers or fails. -/
def Keeps (P : σ → Prop) (x : Action σ ε α) : Prop :=
  ∀ s, P s → P (x s).2

section Keeps

variable {P : σ → Prop} {x : Action σ ε α}

theorem keeps_pure (a : α) : (pure a : Action σ ε α).Keeps P :=
  fun _ h => h

theorem keeps_fail (e : ε) : (fail e : Action σ ε α).Keeps P :=
  fun _ h => h

theorem keeps_state : (state : Action σ ε σ).Keeps P :=
  fun _ h => h

theorem keeps_read (f : σ → α) : (read f : Action σ ε α).Keeps P :=
  fun _ h => h

theorem keeps_change {f : σ → σ} (hf : ∀ s, P s → P (f s)) : (change f : Action σ ε Unit).Keeps P :=
  hf

theorem keeps_ofExcept (r : Except ε α) : (ofExcept r).Keeps P :=
  fun _ h => h

theorem keeps_ofOption (e : ε) (o : Option α) : (ofOption e o).Keeps P := by
  cases o with
  | none => exact keeps_fail e
  | some a => exact keeps_pure a

theorem keeps_attempt (hx : x.Keeps P) : (x.attempt : Action σ ε' (Except ε α)).Keeps P :=
  hx

theorem keeps_ite {p : Prop} [Decidable p] {y : Action σ ε α} (hx : x.Keeps P) (hy : y.Keeps P) :
    (if p then x else y).Keeps P := by
  split
  · exact hx
  · exact hy

/-- A step that fails under a condition and goes on otherwise. -/
theorem keeps_guard {p : Prop} [Decidable p] {e : ε} {f : Unit → Action σ ε β} (hf : (f ()).Keeps P) :
    (if p then fail e >>= f else f ()).Keeps P :=
  keeps_ite (fun _ h => h) hf

theorem keeps_bind {f : α → Action σ ε β} (hx : x.Keeps P) (hf : ∀ a, (f a).Keeps P) : (x >>= f).Keeps P := by
  intro s h
  have hs := hx s h
  rw [bind_apply]
  cases hr : x s with
  | mk r s' =>
    rw [hr] at hs
    cases r with
    | ok a => exact hf a s' hs
    | error e => exact hs

/-- A step that changes nothing. -/
theorem leaves_same {s : σ} (hx : x.Keeps fun s' => s' = s) (h : P s) :
    x.Leaves s (fun _ s' => s' = s) fun _ s' => P s' :=
  (leaves_of_state (hx s rfl)).mono (fun _ _ he => he) fun _ _ he => he ▸ h

end Keeps

end Tether.Action
