import Tether.Engine.Reassembly

/-!
# Tether.Engine.Progress — reading a container uses something up

A container that `nextContainer` takes comes from the bytes that were received or from new transfers, and the
bytes of a transfer come out of the link's backlog.  So less is `pending` after each container, and a loop that
reads them ends.
-/

namespace Tether.Engine

open Ptp

variable {τ : Type}

theorem length_rest_lt_of_front {bytes frame rest : Bytes} (h : front bytes = .whole frame rest) :
    rest.length < bytes.length := by
  unfold front at h
  split at h
  · simp at h
  · split at h
    · simp at h
    · split at h
      · simp at h
      · rename_i declared _ hd hl
        obtain ⟨-, rfl⟩ := Front.whole.inj h
        have : 0 < declared := Nat.lt_of_lt_of_le (by decide) (Nat.le_of_not_lt hd)
        simp only [List.length_drop]
        omega

variable [Transport τ]

/-- Bytes that were received and bytes and transfers that may still come. -/
def pending (e : Engine τ) : Nat :=
  Transport.backlog e.link + e.received.length

theorem pending_awaitContainer_lt {empties : Nat} {e e' : Engine τ} {c : Container}
    (h : awaitContainer empties e = (.ok c, e')) : pending e' < pending e := by
  fun_induction awaitContainer empties e with
  | case1 => simp at h
  | case2 empties e frame rest hf =>
    obtain ⟨-, rfl⟩ := Prod.mk.inj h
    exact Nat.add_lt_add_left (length_rest_lt_of_front hf) _
  | case3 => simp at h
  | case4 => simp at h
  | case5 empties e hf link hr hn ih =>
    have hb := Transport.backlog_receive_lt e.packetLimit_pos hr
    refine Nat.lt_trans (ih h) ?_
    simp only [pending]
    omega
  | case6 empties e hf link b bs hr ih =>
    have hb := Transport.backlog_receive_lt e.packetLimit_pos hr
    refine Nat.lt_of_lt_of_le (ih h) ?_
    simp only [pending, List.length_append]
    omega

theorem pending_nextContainer_lt {e e' : Engine τ} {c : Container} (h : nextContainer e = (.ok c, e')) :
    pending e' < pending e :=
  pending_awaitContainer_lt h

end Tether.Engine
