import Tether.Ptp.Container

/-!
# Tether.Ptp.Stream — containers in a stream of bytes

Containers follow one another without a mark between them; the length that each declares tells where the next
begins.  `unframe` takes all whole containers off the front of a stream.
-/

namespace Tether.Ptp

/-- A frame that is a container is not empty. -/
theorem Container.ne_nil_of_decode {frame : Bytes} {c : Container} (h : Container.decode frame = .ok c) :
    frame ≠ [] := by
  rintro rfl
  simp [Container.decode, Header.decoder, Decoder.u32] at h

/-- What the front of a stream holds. -/
structure Unframed where
  /-- The whole containers, in order. -/
  containers : List Container
  /-- What is wrong with the frame behind them, if that is why they end. -/
  fault : Option PtpError
  /-- The bytes behind the last frame taken. -/
  rest : Bytes

/-- Takes whole containers off the front of a stream, up to the first frame that is none. -/
def unframe (stream : Bytes) : Unframed :=
  match declaredLength? stream with
  | none => ⟨[], none, stream⟩
  | some length =>
    if stream.length < length then ⟨[], none, stream⟩
    else
      match _h : Container.decode (stream.take length) with
      | .error e => ⟨[], some e, stream.drop length⟩
      | .ok c =>
        let more := unframe (stream.drop length)
        { more with containers := c :: more.containers }
termination_by stream.length
decreasing_by
  have := Container.ne_nil_of_decode _h
  rw [ne_eq, List.take_eq_nil_iff, not_or] at this
  have := List.length_pos_iff.mpr this.2
  simp only [List.length_drop]
  omega

end Tether.Ptp
