import Tether.Engine.Progress

/-!
# Tether.Proofs.Exchange.Listening — what reading containers does to the link

Reading a container only receives.  It ends with the container, with a fault of the frame after receives that all
succeeded, or with the failure of the last receive (`listened_nextContainer`).

`inbound` is everything that can be read: the containers in order, and the failure that ends them.  There is one,
since every container takes from what is pending.
-/

namespace Tether

open Ptp

variable {τ : Type} [Transport τ]

/-! ## Receiving and nothing else -/

/-- Successful receives, and nothing else, lead from one state of the link to another. -/
inductive Received (limit : Nat) : τ → τ → Prop
  | none (link : τ) : Received limit link link
  | next {link link₁ link' : τ} {bytes : Bytes} : Transport.receive limit link = (.ok bytes, link₁) →
      Received limit link₁ link' → Received limit link link'

theorem Received.trans {limit : Nat} {link link₁ link' : τ} (h : Received limit link link₁)
    (h' : Received limit link₁ link') : Received limit link link' := by
  induction h with
  | none => exact h'
  | next hr _ ih => exact .next hr (ih h')

/-- What no receive changes stays the same. -/
theorem Received.same {β : Type} {limit : Nat} {link link' : τ} {f : τ → β}
    (hf : ∀ {link link' : τ} {r}, Transport.receive limit link = (r, link') → f link' = f link)
    (h : Received limit link link') : f link' = f link := by
  induction h with
  | none => rfl
  | next hr _ ih => exact ih.trans (hf hr)

/-- What a step that only receives may end with: an answer or a framing fault after receives that succeeded, or the
failure of the last receive. -/
inductive Listened {α : Type} (limit : Nat) (link : τ) : Except PtpError α → τ → Prop
  | answered {a : α} {link' : τ} : Received limit link link' → Listened limit link (.ok a) link'
  | broken {fault : FramingFault} {link' : τ} : Received limit link link' →
      Listened limit link (.error (.framing fault)) link'
  | failed {error : TransportError} {link₁ link' : τ} : Received limit link link₁ →
      Transport.receive limit link₁ = (.error error, link') → Listened limit link (.error (.transport error)) link'

namespace Listened

variable {α β : Type} {limit : Nat} {link link₁ link' : τ}

theorem after {r : Except PtpError α} (h : Received limit link link₁) (h' : Listened limit link₁ r link') :
    Listened limit link r link' := by
  cases h' with
  | answered hr => exact .answered (h.trans hr)
  | broken hr => exact .broken (h.trans hr)
  | failed hr hf => exact .failed (h.trans hr) hf

theorem received {a : α} (h : Listened limit link (.ok a) link') : Received limit link link' := by
  cases h with
  | answered hr => exact hr

theorem same {r : Except PtpError α} {f : τ → β}
    (hf : ∀ {link link' : τ} {r}, Transport.receive limit link = (r, link') → f link' = f link)
    (h : Listened limit link r link') : f link' = f link := by
  cases h with
  | answered hr => exact hr.same hf
  | broken hr => exact hr.same hf
  | failed hr he => exact (hf he).trans (hr.same hf)

/-- A failure does not depend on what would have been answered. -/
theorem of_error {error : PtpError} (h : Listened limit link (.error error : Except PtpError α) link') :
    Listened limit link (.error error : Except PtpError β) link' := by
  cases h with
  | broken hr => exact .broken hr
  | failed hr hf => exact .failed hr hf

end Listened

/-! ## One container -/

/-- Whatever is wrong with a frame is a framing fault. -/
theorem Ptp.Container.decode_error {frame : Bytes} {error : PtpError} (h : decode frame = .error error) :
    ∃ fault, error = .framing fault := by
  unfold decode at h
  split at h
  · cases h
    exact ⟨_, rfl⟩
  · split at h
    · cases h
      exact ⟨_, rfl⟩
    · split at h
      · cases h
        exact ⟨_, rfl⟩
      · unfold ofHeader at h
        split at h
        · cases h
        · cases h
          exact ⟨_, rfl⟩
        · split at h
          · cases h
            exact ⟨_, rfl⟩
          · split at h
            · cases h
              exact ⟨_, rfl⟩
            · cases h

namespace Engine

variable {e e' : Engine τ}

theorem listened_awaitContainer (empties : Nat) (e : Engine τ) :
    Listened e.packetLimit e.link (awaitContainer empties e).1 (awaitContainer empties e).2.link := by
  fun_induction awaitContainer empties e with
  | case1 empties e declared hf => exact .broken (.none _)
  | case2 empties e frame rest hf =>
    cases hd : Container.decode frame with
    | ok c => exact .answered (.none _)
    | error error =>
      obtain ⟨fault, rfl⟩ := Container.decode_error hd
      exact .broken (.none _)
  | case3 empties e hf error link hr => exact .failed (.none _) hr
  | case4 empties e hf link hr hn => exact .broken (.next hr (.none _))
  | case5 empties e hf link hr hn ih => exact .after (.next hr (.none _)) ih
  | case6 empties e hf link b bs hr ih => exact .after (.next hr (.none _)) ih

theorem maxPacket_awaitContainer (empties : Nat) (e : Engine τ) :
    (awaitContainer empties e).2.maxPacket = e.maxPacket := by
  fun_induction awaitContainer empties e with
  | case1 => rfl
  | case2 => rfl
  | case3 => rfl
  | case4 => rfl
  | case5 _ _ _ _ _ _ ih => exact ih
  | case6 _ _ _ _ _ _ _ ih => exact ih

/-- Reading a container only receives. -/
theorem listened_nextContainer {r : Except PtpError Container} (h : nextContainer e = (r, e')) :
    Listened e.packetLimit e.link r e'.link := by
  have hl := listened_awaitContainer 0 e
  rwa [show awaitContainer 0 e = (r, e') from h] at hl

theorem packetLimit_nextContainer {r : Except PtpError Container} (h : nextContainer e = (r, e')) :
    e'.packetLimit = e.packetLimit := by
  have hm := maxPacket_awaitContainer 0 e
  rw [show awaitContainer 0 e = (r, e') from h] at hm
  unfold packetLimit
  rw [hm]

/-! ## All containers -/

/-- Every container that can be read, in order, and the failure of the read after them. -/
def inbound (e : Engine τ) : List Container × PtpError :=
  match _h : nextContainer e with
  | (.error error, _) => ([], error)
  | (.ok c, e') => (c :: (inbound e').1, (inbound e').2)
termination_by pending e
decreasing_by
  all_goals exact pending_nextContainer_lt _h

theorem inbound_of_error {error : PtpError} (h : nextContainer e = (.error error, e')) :
    inbound e = ([], error) := by
  rw [inbound]
  split
  · rename_i heq
    rw [h] at heq
    cases heq
    rfl
  · rename_i heq
    rw [h] at heq
    cases heq

theorem inbound_of_ok {c : Container} (h : nextContainer e = (.ok c, e')) :
    inbound e = (c :: (inbound e').1, (inbound e').2) := by
  rw [inbound]
  split
  · rename_i heq
    rw [h] at heq
    cases heq
  · rename_i heq
    rw [h] at heq
    cases heq
    rfl

end Engine

end Tether
