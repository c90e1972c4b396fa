import Mathlib.Data.Nat.Bitwise
import Tether.Ptp.Stream

/-!
# Tether.Proofs.Ptp.Frame — containers as frames of a stream

Words and headers are read back as they were written, whatever comes behind them (`Header.decoder_encode`), so
the bytes of a container declare their own length (`Container.isFrame_of_encode`) and are taken for the container
itself (`Container.decode_of_encode`).

A byte string that declares its own length is a frame.  As long as some of its bytes are missing nothing is known
about it, and with all of them it is the same whatever follows: `unframe` takes the frames of a stream one after
the other.
-/

namespace Tether

open Ptp

/-! ## Words -/

namespace Bytes

theorem lor_shiftLeft {low n : Nat} (h : low < 2 ^ n) (high : Nat) : low ||| high <<< n = low + high * 2 ^ n := by
  rw [Nat.or_comm, ← Nat.shiftLeft_add_eq_or_of_lt h, Nat.shiftLeft_eq, Nat.add_comm]

theorem toNat_u16 (b₀ b₁ : UInt8) : (u16 b₀ b₁).toNat = b₀.toNat + b₁.toNat * 2 ^ 8 := by
  have h₀ := b₀.toNat_lt
  have h₁ := b₁.toNat_lt
  simp only [u16, UInt16.toNat_or, UInt16.toNat_shiftLeft, UInt8.toNat_toUInt16, UInt16.reduceToNat, Nat.reduceMod]
  rw [Nat.mod_eq_of_lt (by rw [Nat.shiftLeft_eq]; omega), lor_shiftLeft (by omega)]

theorem toNat_u32 (b₀ b₁ b₂ b₃ : UInt8) :
    (u32 b₀ b₁ b₂ b₃).toNat = b₀.toNat + b₁.toNat * 2 ^ 8 + b₂.toNat * 2 ^ 16 + b₃.toNat * 2 ^ 24 := by
  have h₀ := b₀.toNat_lt
  have h₁ := b₁.toNat_lt
  have h₂ := b₂.toNat_lt
  have h₃ := b₃.toNat_lt
  have hfit : ∀ {b k : Nat}, b < 2 ^ 8 → k ≤ 24 → b <<< k % 2 ^ 32 = b <<< k := by
    intro b k hb hk
    rw [Nat.shiftLeft_eq]
    refine Nat.mod_eq_of_lt (Nat.lt_of_lt_of_le (Nat.mul_lt_mul_of_pos_right hb (Nat.two_pow_pos k)) ?_)
    rw [← Nat.pow_add]
    exact Nat.pow_le_pow_right (by decide) (by omega)
  simp only [u32, UInt32.toNat_or, UInt32.toNat_shiftLeft, UInt8.toNat_toUInt32, UInt32.reduceToNat, Nat.reduceMod]
  rw [hfit h₁ (by decide), hfit h₂ (by decide), hfit h₃ (by decide), lor_shiftLeft (n := 8) h₀,
    lor_shiftLeft (n := 16) (by omega), lor_shiftLeft (n := 24) (by omega)]

theorem u16_ofU16 (w : UInt16) : u16 w.toUInt8 (w >>> 8).toUInt8 = w := by
  have hw := w.toNat_lt
  apply UInt16.toNat_inj.mp
  rw [toNat_u16]
  simp only [UInt16.toNat_toUInt8, UInt16.toNat_shiftRight, UInt16.reduceToNat, Nat.reduceMod,
    Nat.shiftRight_eq_div_pow]
  omega

theorem u32_ofU32 (w : UInt32) : u32 w.toUInt8 (w >>> 8).toUInt8 (w >>> 16).toUInt8 (w >>> 24).toUInt8 = w := by
  have hw := w.toNat_lt
  apply UInt32.toNat_inj.mp
  rw [toNat_u32]
  simp only [UInt32.toNat_toUInt8, UInt32.toNat_shiftRight, UInt32.reduceToNat, Nat.reduceMod,
    Nat.shiftRight_eq_div_pow]
  omega

theorem toU32s_ofU32s (ws : List UInt32) : toU32s (ofU32s ws) = ws := by
  induction ws with
  | nil => rfl
  | cons w ws ih =>
    show u32 _ _ _ _ :: toU32s (ofU32s ws) = _
    rw [u32_ofU32, ih]

theorem length_ofU32s (ws : List UInt32) : (ofU32s ws).length = ws.length * 4 := by
  induction ws with
  | nil => rfl
  | cons w ws ih =>
    have hcons : ofU32s (w :: ws) = ofU32 w ++ ofU32s ws := rfl
    rw [hcons, List.length_append, length_ofU32, ih, List.length_cons]
    omega

end Bytes

/-! ## Headers -/

namespace Ptp

theorem Header.decoder_encode (h : Header) (rest : Bytes) : Header.decoder (h.encode ++ rest) = (.ok h, rest) := by
  have hread : Header.decoder (h.encode ++ rest) =
      (.ok { length := Bytes.u32 _ _ _ _, kind := Bytes.u16 _ _, code := Bytes.u16 _ _,
             transaction := Bytes.u32 _ _ _ _ }, rest) := rfl
  rw [hread, Bytes.u32_ofU32, Bytes.u16_ofU16, Bytes.u16_ofU16, Bytes.u32_ofU32]

@[simp] theorem Header.length_encode (h : Header) : h.encode.length = headerLength := rfl

/-- More bytes do not change the length that a header declares. -/
theorem declaredLength?_append {bytes : Bytes} {n : Nat} (h : declaredLength? bytes = some n) (more : Bytes) :
    declaredLength? (bytes ++ more) = some n := by
  match bytes, h with
  | _ :: _ :: _ :: _ :: _ :: _ :: _ :: _ :: _ :: _ :: _ :: _ :: _, h => exact h

/-- The bytes declare their own length. -/
structure IsFrame (frame : Bytes) : Prop where
  declared : declaredLength? frame = some frame.length
  le_length : headerLength ≤ frame.length

namespace IsFrame

variable {frame : Bytes}

theorem ne_nil (h : IsFrame frame) : frame ≠ [] := by
  rintro rfl
  exact absurd h.le_length (by decide)

/-- Of a frame that is not complete either nothing is known or its length. -/
theorem declared_of_part {bytes more : Bytes} (h : IsFrame (bytes ++ more)) :
    declaredLength? bytes = none ∨ declaredLength? bytes = some (bytes ++ more).length := by
  cases hd : declaredLength? bytes with
  | none => exact .inl rfl
  | some n =>
    have hn := declaredLength?_append hd more
    rw [h.declared] at hn
    exact .inr hn.symm

end IsFrame

/-! ## Containers -/

namespace Container

/-- The container is as a decoder makes it: of a known kind, without parameters in it if it carries data, and
without a payload otherwise. -/
structure Canonical (c : Container) : Prop where
  known : ∀ code, c.kind ≠ .other code
  parameters : c.kind = .data → c.parameters = []
  payload : c.kind ≠ .data → c.payload = []

theorem canonical_command (code : UInt16) (transaction : UInt32) (parameters : List UInt32) :
    (command code transaction parameters).Canonical :=
  ⟨fun _ => by simp [command], fun h => (by simp [command] at h), fun _ => rfl⟩

theorem canonical_response (code : UInt16) (transaction : UInt32) (parameters : List UInt32) :
    (response code transaction parameters).Canonical :=
  ⟨fun _ => by simp [response], fun h => (by simp [response] at h), fun _ => rfl⟩

theorem canonical_data (code : UInt16) (transaction : UInt32) (payload : Bytes) :
    (data code transaction payload).Canonical :=
  ⟨fun _ => by simp [data], fun _ => rfl, fun h => absurd rfl h⟩

theorem length_body (c : Container) : headerLength + c.body.length = c.encodedLength := by
  unfold body encodedLength
  split
  · rfl
  · rw [Bytes.length_ofU32s]

theorem encode_eq_ok_iff {c : Container} {frame : Bytes} :
    c.encode = .ok frame ↔
      (c.kind ≠ .data → c.parameters.length ≤ maxParameters) ∧ c.encodedLength ≤ maxWord ∧
        frame = Header.encode { length := .ofNat c.encodedLength, kind := c.kind.code, code := c.code,
                                transaction := c.transaction } ++ c.body := by
  unfold encode
  split
  · rename_i h
    exact ⟨fun hc => (by cases hc), fun ⟨hp, _⟩ => absurd (hp h.1) (Nat.not_le.mpr h.2)⟩
  · rename_i h
    have hp : c.kind ≠ .data → c.parameters.length ≤ maxParameters :=
      fun hk => Nat.le_of_not_lt fun hlt => h ⟨hk, hlt⟩
    unfold Header.make
    split
    · rename_i hlt
      exact ⟨fun hc => (by cases hc), fun ⟨_, hle, _⟩ => absurd hle (Nat.not_le.mpr hlt)⟩
    · rename_i hle
      refine ⟨fun hc => ⟨hp, Nat.le_of_not_lt hle, ?_⟩, fun ⟨_, _, hf⟩ => ?_⟩
      · cases hc
        rfl
      · rw [hf]
        rfl

variable {c : Container} {frame : Bytes}

theorem length_of_encode (h : c.encode = .ok frame) : frame.length = c.encodedLength := by
  obtain ⟨-, -, rfl⟩ := encode_eq_ok_iff.mp h
  rw [List.length_append, Header.length_encode, length_body]

theorem isFrame_of_encode (h : c.encode = .ok frame) : IsFrame frame := by
  have hlength := length_of_encode h
  obtain ⟨-, hle, hf⟩ := encode_eq_ok_iff.mp h
  refine ⟨?_, ?_⟩
  · unfold declaredLength?
    rw [hlength, hf, Header.decoder_encode]
    have hw : c.encodedLength < 2 ^ 32 := Nat.lt_of_le_of_lt hle (by decide)
    exact congrArg some (UInt32.toNat_ofNat_of_lt' hw)
  · rw [hlength, ← length_body]
    exact Nat.le_add_right _ _

theorem ofHeader_of_canonical (h : c.Canonical) (hp : c.kind ≠ .data → c.parameters.length ≤ maxParameters)
    (length : UInt32) :
    ofHeader { length, kind := c.kind.code, code := c.code, transaction := c.transaction } c.body = .ok c := by
  have hbody := Bytes.length_ofU32s c.parameters
  have halign : c.parameters.length * 4 % 4 = 0 := Nat.mul_mod_left _ _
  have hcount : c.parameters.length * 4 / 4 = c.parameters.length := Nat.mul_div_cancel _ (by decide)
  obtain ⟨kind, code, transaction, parameters, payload⟩ := c
  cases kind with
  | data =>
    obtain rfl : parameters = [] := h.parameters rfl
    rfl
  | other code => exact absurd rfl (h.known code)
  | command | response | event =>
    all_goals
      obtain rfl : payload = [] := h.payload (by simp)
      have hle : parameters.length ≤ maxParameters := hp (by simp)
      simp only at hbody halign hcount
      simp only [ofHeader, ContainerKind.code, ContainerKind.ofCode, body, reduceCtorEq, if_false, hbody,
        halign, hcount, ne_eq, not_true_eq_false, Nat.not_lt.mpr hle, Bytes.toU32s_ofU32s]

/-- What was written is taken apart into its header and its body. -/
theorem decode_eq_ofHeader (he : c.encode = .ok frame) :
    decode frame = ofHeader { length := .ofNat c.encodedLength, kind := c.kind.code, code := c.code,
                              transaction := c.transaction } c.body := by
  have hframe := isFrame_of_encode he
  have hdeclared := hframe.declared
  obtain ⟨-, -, hf⟩ := encode_eq_ok_iff.mp he
  unfold declaredLength? at hdeclared
  unfold decode
  rw [hf, Header.decoder_encode] at hdeclared ⊢
  rw [← hf] at hdeclared ⊢
  have hlength := Option.some.inj hdeclared
  dsimp only
  rw [hlength, if_neg (Nat.not_lt.mpr hframe.le_length), if_neg (fun hne => hne rfl)]

/-- What was written is read back. -/
theorem decode_of_encode (h : c.Canonical) (he : c.encode = .ok frame) : decode frame = .ok c :=
  (decode_eq_ofHeader he).trans (ofHeader_of_canonical h (encode_eq_ok_iff.mp he).1 _)

end Container

/-! ## Streams -/

/-- The first frame of a stream is taken off, and the rest of the stream is looked at by itself. -/
theorem unframe_of_frame {frame rest left : Bytes} {c : Container} {cs : List Container} {fault : Option PtpError}
    (h : IsFrame frame) (hc : Container.decode frame = .ok c) (hrest : unframe rest = ⟨cs, fault, left⟩) :
    unframe (frame ++ rest) = ⟨c :: cs, fault, left⟩ := by
  have hlength : ¬ (frame ++ rest).length < frame.length := by
    rw [List.length_append]
    omega
  have htake : (frame ++ rest).take frame.length = frame := List.take_left
  have hdrop : (frame ++ rest).drop frame.length = rest := List.drop_left
  rw [unframe, declaredLength?_append h.declared rest]
  dsimp only
  rw [if_neg hlength]
  split
  · rename_i he
    rw [htake, hc] at he
    cases he
  · rename_i d hd
    rw [htake, hc] at hd
    cases hd
    rw [hdrop, hrest]

theorem unframe_of_part {bytes more : Bytes} (h : IsFrame (bytes ++ more)) (hm : more ≠ []) :
    unframe bytes = ⟨[], none, bytes⟩ := by
  have hlt : bytes.length < (bytes ++ more).length := by
    have := List.length_pos_iff.mpr hm
    rw [List.length_append]
    omega
  rw [unframe]
  rcases h.declared_of_part with hd | hd
  · rw [hd]
  · rw [hd]
    exact if_pos hlt

theorem unframe_nil : unframe [] = ⟨[], none, []⟩ := by
  rw [unframe]
  rfl

end Ptp

end Tether
