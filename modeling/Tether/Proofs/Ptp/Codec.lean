import Tether.Proofs.Ptp.Frame

/-!
# Tether.Proofs.Ptp.Codec — which byte strings are containers

Bytes are also put together as they were taken apart (`Bytes.ofU32_u32`), so every byte string of at least twelve
bytes is a header with something behind it.  The format's own account of a container looks at the numbers in this
header alone (`Container.WellFormed`); `decode` takes exactly the byte strings that it allows, and what it reads
off them is written back as the same bytes (`Container.codec`).
-/

namespace Tether

open Ptp

/-! ## Bytes from words from bytes -/

namespace Bytes

/-- The number that some bytes write, low byte first. -/
def number : Bytes → Nat
  | [] => 0
  | b :: rest => b.toNat + 256 * number rest

theorem ofU16_u16 (b₀ b₁ : UInt8) : ofU16 (u16 b₀ b₁) = [b₀, b₁] := by
  have h₀ := b₀.toNat_lt
  have h₁ := b₁.toNat_lt
  have hsum := toNat_u16 b₀ b₁
  have hlow : (u16 b₀ b₁).toUInt8 = b₀ := by
    apply UInt8.toNat_inj.mp
    rw [UInt16.toNat_toUInt8, hsum]
    omega
  have hhigh : (u16 b₀ b₁ >>> 8).toUInt8 = b₁ := by
    apply UInt8.toNat_inj.mp
    simp only [UInt16.toNat_toUInt8, UInt16.toNat_shiftRight, UInt16.reduceToNat, Nat.reduceMod,
      Nat.shiftRight_eq_div_pow, hsum]
    omega
  rw [ofU16, hlow, hhigh]

theorem ofU32_u32 (b₀ b₁ b₂ b₃ : UInt8) : ofU32 (u32 b₀ b₁ b₂ b₃) = [b₀, b₁, b₂, b₃] := by
  have h₀ := b₀.toNat_lt
  have h₁ := b₁.toNat_lt
  have h₂ := b₂.toNat_lt
  have h₃ := b₃.toNat_lt
  have hsum := toNat_u32 b₀ b₁ b₂ b₃
  have hlow : (u32 b₀ b₁ b₂ b₃).toUInt8 = b₀ := by
    apply UInt8.toNat_inj.mp
    rw [UInt32.toNat_toUInt8, hsum]
    omega
  -- the other bytes are found below the bits that are shifted out
  have hbyte : ∀ (k : UInt32) (b : UInt8), (u32 b₀ b₁ b₂ b₃).toNat / 2 ^ (k.toNat % 32) % 2 ^ 8 = b.toNat →
      (u32 b₀ b₁ b₂ b₃ >>> k).toUInt8 = b := by
    intro k b hk
    apply UInt8.toNat_inj.mp
    rw [UInt32.toNat_toUInt8, UInt32.toNat_shiftRight, Nat.shiftRight_eq_div_pow]
    exact hk
  have h8 := hbyte 8 b₁ (by simp only [UInt32.reduceToNat, Nat.reduceMod, hsum]; omega)
  have h16 := hbyte 16 b₂ (by simp only [UInt32.reduceToNat, Nat.reduceMod, hsum]; omega)
  have h24 := hbyte 24 b₃ (by simp only [UInt32.reduceToNat, Nat.reduceMod, hsum]; omega)
  rw [ofU32, hlow, h8, h16, h24]

theorem ofU32s_toU32s (bytes : Bytes) (h : bytes.length % 4 = 0) : ofU32s (toU32s bytes) = bytes := by
  fun_induction toU32s bytes with
  | case1 b₀ b₁ b₂ b₃ rest ih =>
    have hrest : rest.length % 4 = 0 := by
      simp only [List.length_cons] at h
      omega
    show ofU32 (u32 b₀ b₁ b₂ b₃) ++ ofU32s (toU32s rest) = _
    rw [ofU32_u32, ih hrest]
    rfl
  | case2 bytes hshort =>
    match bytes, h, hshort with
    | [], _, _ => rfl
    | [_], h, _ | [_, _], h, _ | [_, _, _], h, _ => simp at h
    | b₀ :: b₁ :: b₂ :: b₃ :: rest, _, hshort => exact absurd rfl (hshort b₀ b₁ b₂ b₃ rest)

theorem number_ofU16 (w : UInt16) : number (ofU16 w) = w.toNat := by
  have hw := w.toNat_lt
  simp only [ofU16, number, UInt16.toNat_toUInt8, UInt16.toNat_shiftRight, UInt16.reduceToNat, Nat.reduceMod,
    Nat.shiftRight_eq_div_pow]
  omega

theorem number_ofU32 (w : UInt32) : number (ofU32 w) = w.toNat := by
  have hw := w.toNat_lt
  simp only [ofU32, number, UInt32.toNat_toUInt8, UInt32.toNat_shiftRight, UInt32.reduceToNat, Nat.reduceMod,
    Nat.shiftRight_eq_div_pow]
  omega

end Bytes

namespace Ptp

/-! ## Headers -/

namespace Header

/-- Every byte string that is long enough begins with a header. -/
theorem exists_eq_append {bytes : Bytes} (h : headerLength ≤ bytes.length) :
    ∃ (header : Header) (rest : Bytes), bytes = header.encode ++ rest := by
  match bytes, h with
  | l₀ :: l₁ :: l₂ :: l₃ :: k₀ :: k₁ :: c₀ :: c₁ :: t₀ :: t₁ :: t₂ :: t₃ :: rest, _ =>
    refine ⟨{ length := Bytes.u32 l₀ l₁ l₂ l₃, kind := Bytes.u16 k₀ k₁, code := Bytes.u16 c₀ c₁,
              transaction := Bytes.u32 t₀ t₁ t₂ t₃ }, rest, ?_⟩
    simp only [Header.encode, Bytes.ofU32_u32, Bytes.ofU16_u16, List.cons_append, List.nil_append]

theorem take_encode_append (h : Header) (rest : Bytes) : (h.encode ++ rest).take 4 = Bytes.ofU32 h.length :=
  rfl

theorem kind_encode_append (h : Header) (rest : Bytes) : ((h.encode ++ rest).drop 4).take 2 = Bytes.ofU16 h.kind :=
  rfl

end Header

/-! ## Kinds -/

namespace ContainerKind

/-- The codes from 1 to 4 are the ones in use. -/
theorem known_ofCode_iff (code : UInt16) : (∀ c, ofCode code ≠ .other c) ↔ 1 ≤ code.toNat ∧ code.toNat ≤ 4 := by
  have hback := code_ofCode code
  constructor
  · intro hknown
    cases hk : ofCode code with
    | other c => exact absurd hk (hknown c)
    | command | data | response | event =>
      all_goals
        rw [hk] at hback
        rw [← hback]
        decide
  · rintro ⟨hlow, hhigh⟩ c hk
    have hcases : code.toNat = 1 ∨ code.toNat = 2 ∨ code.toNat = 3 ∨ code.toNat = 4 := by omega
    have hof : ∀ w : UInt16, code.toNat = w.toNat → ofCode w = .other c := by
      intro w hw
      rw [← UInt16.toNat_inj.mp hw]
      exact hk
    rcases hcases with h | h | h | h
    · cases hof 1 h
    · cases hof 2 h
    · cases hof 3 h
    · cases hof 4 h

theorem ofCode_eq_data_iff (code : UInt16) : ofCode code = .data ↔ code.toNat = 2 := by
  constructor
  · intro h
    have hback := code_ofCode code
    rw [h] at hback
    rw [← hback]
    rfl
  · intro h
    rw [UInt16.toNat_inj.mp (show code.toNat = (2 : UInt16).toNat from h)]
    rfl

end ContainerKind

namespace Container

/-! ## Bytes that are a container -/

/-- What the format asks of a container's bytes: a whole header that declares their number, a kind in use, and,
unless the kind is that of data, up to five parameters and nothing else behind the header. -/
structure WellFormed (bytes : Bytes) : Prop where
  header : 12 ≤ bytes.length
  length : Bytes.number (bytes.take 4) = bytes.length
  kind : 1 ≤ Bytes.number ((bytes.drop 4).take 2) ∧ Bytes.number ((bytes.drop 4).take 2) ≤ 4
  parameters : Bytes.number ((bytes.drop 4).take 2) ≠ 2 → ∃ n ≤ 5, bytes.length = 12 + 4 * n

/-- What a container with a parameter block asks of the bytes behind its header. -/
def IsBlock (rest : Bytes) : Prop :=
  rest.length % 4 = 0 ∧ rest.length / 4 ≤ maxParameters

theorem isBlock_iff {rest : Bytes} : IsBlock rest ↔ ∃ n ≤ 5, rest.length = 4 * n := by
  constructor
  · rintro ⟨halign, hcount⟩
    exact ⟨rest.length / 4, hcount, by omega⟩
  · rintro ⟨n, hn, hlength⟩
    refine ⟨by omega, ?_⟩
    show rest.length / 4 ≤ 5
    omega

/-- Something is read behind a header of a known kind, if what it has for parameters is a block. -/
theorem exists_ofHeader_iff {header : Header} {rest : Bytes} :
    (∃ c, ofHeader header rest = .ok c) ↔
      (∀ code, ContainerKind.ofCode header.kind ≠ .other code) ∧
        (ContainerKind.ofCode header.kind ≠ .data → IsBlock rest) := by
  unfold ofHeader
  cases hk : ContainerKind.ofCode header.kind with
  | data => simp
  | other code => simp
  | command | response | event =>
    all_goals
      have hblock : IsBlock rest ↔ ¬ rest.length % 4 ≠ 0 ∧ ¬ maxParameters < rest.length / 4 := by
        unfold IsBlock
        omega
      simp only [ne_eq, reduceCtorEq, not_false_eq_true, forall_const, true_and, hblock]
      split
      · rename_i halign
        simp [halign]
      · rename_i halign
        split
        · rename_i hcount
          simp [hcount]
        · rename_i hcount
          simp [halign, hcount]

/-- What is read behind a header has the header's fields and the bytes behind it. -/
structure Reads (header : Header) (rest : Bytes) (c : Container) : Prop where
  kind : c.kind.code = header.kind
  code : c.code = header.code
  transaction : c.transaction = header.transaction
  body : c.body = rest
  parameters : c.kind ≠ .data → c.parameters.length ≤ maxParameters

theorem reads_of_ofHeader {header : Header} {rest : Bytes} {c : Container} (h : ofHeader header rest = .ok c) :
    Reads header rest c := by
  have hback := ContainerKind.code_ofCode header.kind
  unfold ofHeader at h
  cases hk : ContainerKind.ofCode header.kind with
  | data =>
    rw [hk] at h hback
    cases h
    exact ⟨hback, rfl, rfl, rfl, fun hne => absurd rfl hne⟩
  | other code =>
    rw [hk] at h
    cases h
  | command | response | event =>
    all_goals
      rw [hk] at h hback
      dsimp only at h
      split at h
      · cases h
      · rename_i halign
        split at h
        · cases h
        · rename_i hcount
          cases h
          have hbody := Bytes.ofU32s_toU32s rest (by omega)
          have hlength := Bytes.length_ofU32s (Bytes.toU32s rest)
          rw [hbody] at hlength
          refine ⟨hback, rfl, rfl, hbody, fun _ => ?_⟩
          show (Bytes.toU32s rest).length ≤ maxParameters
          omega

section Append

variable {header : Header} {rest : Bytes} {c : Container}

/-- A frame is read if its header declares its length and something is read behind the header. -/
theorem decode_append_eq_ok_iff :
    decode (header.encode ++ rest) = .ok c ↔
      header.length.toNat = headerLength + rest.length ∧ ofHeader header rest = .ok c := by
  have hlength : (header.encode ++ rest).length = headerLength + rest.length := by
    rw [List.length_append, Header.length_encode]
  unfold decode
  rw [Header.decoder_encode]
  dsimp only
  rw [hlength]
  constructor
  · intro h
    split at h
    · cases h
    · split at h
      · cases h
      · rename_i hdeclared
        exact ⟨Decidable.not_not.mp hdeclared, h⟩
  · rintro ⟨hdeclared, h⟩
    rw [if_neg (by omega), if_neg (by omega)]
    exact h

theorem wellFormed_append_iff :
    WellFormed (header.encode ++ rest) ↔
      header.length.toNat = headerLength + rest.length ∧
        (∀ code, ContainerKind.ofCode header.kind ≠ .other code) ∧
        (ContainerKind.ofCode header.kind ≠ .data → IsBlock rest) := by
  have hlength : (header.encode ++ rest).length = 12 + rest.length := by
    rw [List.length_append, Header.length_encode]
    rfl
  have hdeclared : Bytes.number ((header.encode ++ rest).take 4) = header.length.toNat := by
    rw [Header.take_encode_append, Bytes.number_ofU32]
  have hkind : Bytes.number (((header.encode ++ rest).drop 4).take 2) = header.kind.toNat := by
    rw [Header.kind_encode_append, Bytes.number_ofU16]
  have hblock : IsBlock rest ↔ ∃ n ≤ 5, 12 + rest.length = 12 + 4 * n := by
    rw [isBlock_iff]
    simp only [Nat.add_left_cancel_iff]
  rw [ContainerKind.known_ofCode_iff, ne_eq, ContainerKind.ofCode_eq_data_iff, hblock]
  constructor
  · rintro ⟨-, hl, hk, hp⟩
    rw [hdeclared, hlength] at hl
    rw [hkind] at hk hp
    rw [hlength] at hp
    exact ⟨hl, hk, hp⟩
  · rintro ⟨hl, hk, hp⟩
    refine ⟨by omega, ?_, ?_, ?_⟩
    · rw [hdeclared, hlength]
      exact hl
    · rw [hkind]
      exact hk
    · rw [hkind, hlength]
      exact hp

end Append

/-- Nothing is read off bytes that are no whole header. -/
theorem le_length_of_decode {bytes : Bytes} {c : Container} (h : decode bytes = .ok c) :
    headerLength ≤ bytes.length := by
  match bytes, h with
  | _ :: _ :: _ :: _ :: _ :: _ :: _ :: _ :: _ :: _ :: _ :: _ :: rest, _ =>
      exact Nat.le_add_left headerLength rest.length

/-- The byte strings that are read are the ones that the format allows. -/
theorem exists_decode_iff {bytes : Bytes} : (∃ c, decode bytes = .ok c) ↔ WellFormed bytes := by
  by_cases hshort : bytes.length < headerLength
  · constructor
    · rintro ⟨c, hc⟩
      exact absurd (le_length_of_decode hc) (Nat.not_le.mpr hshort)
    · intro h
      exact absurd h.header (Nat.not_le.mpr hshort)
  · obtain ⟨header, rest, rfl⟩ := Header.exists_eq_append (Nat.le_of_not_lt hshort)
    simp only [decode_append_eq_ok_iff, exists_and_left, exists_ofHeader_iff, wellFormed_append_iff]

/-- What is read is written back as it was. -/
theorem encode_of_decode {bytes : Bytes} {c : Container} (h : decode bytes = .ok c) : c.encode = .ok bytes := by
  obtain ⟨header, rest, rfl⟩ := Header.exists_eq_append (exists_decode_iff.mp ⟨c, h⟩).header
  obtain ⟨hdeclared, hc⟩ := decode_append_eq_ok_iff.mp h
  have hr := reads_of_ofHeader hc
  have hlength : c.encodedLength = header.length.toNat := by
    rw [← length_body, hr.body, hdeclared]
  have hword := header.length.toNat_lt
  refine encode_eq_ok_iff.mpr ⟨hr.parameters, ?_, ?_⟩
  · rw [hlength]
    show header.length.toNat ≤ 2 ^ 32 - 1
    omega
  · rw [hlength, hr.kind, hr.code, hr.transaction, hr.body, UInt32.ofNat_toNat]

/-- What a sender may put together: up to five parameters and no payload, or data of a length that fits the
length field and no parameters. -/
def Sendable (c : Container) : Prop :=
  (c.kind = .command ∨ c.kind = .response ∨ c.kind = .event) ∧ c.parameters.length ≤ 5 ∧ c.payload = [] ∨
    c.kind = .data ∧ c.payload.length ≤ 2 ^ 32 - 13 ∧ c.parameters = []

namespace Sendable

variable {c : Container}

theorem canonical (h : c.Sendable) : c.Canonical := by
  rcases h with ⟨hkind, -, hpayload⟩ | ⟨hkind, -, hparameters⟩
  · refine ⟨fun code hc => ?_, fun hc => ?_, fun _ => hpayload⟩
    · rw [hc] at hkind
      simp at hkind
    · rw [hc] at hkind
      simp at hkind
  · refine ⟨fun code hc => ?_, fun _ => hparameters, fun hc => absurd hkind hc⟩
    rw [hc] at hkind
    cases hkind

theorem exists_encode (h : c.Sendable) : ∃ frame, c.encode = .ok frame := by
  have hlength : c.encodedLength ≤ 2 ^ 32 - 1 := by
    unfold encodedLength
    have hheader : headerLength = 12 := rfl
    rcases h with ⟨hkind, hcount, -⟩ | ⟨hkind, hpayload, -⟩
    · have hne : c.kind ≠ .data := by
        rintro hc
        rw [hc] at hkind
        simp at hkind
      rw [if_neg hne]
      omega
    · rw [if_pos hkind]
      omega
  have hcount : c.kind ≠ .data → c.parameters.length ≤ maxParameters := by
    intro hne
    rcases h with ⟨-, hcount, -⟩ | ⟨hkind, -, -⟩
    · exact hcount
    · exact absurd hkind hne
  exact ⟨_, encode_eq_ok_iff.mpr ⟨hcount, hlength, rfl⟩⟩

end Sendable

/-- What a sender may put together is written with the length foretold and read back.  A byte string is read
exactly when the format allows it, and what is read is written back as the same bytes. -/
theorem codec :
    (∀ c : Container, c.Sendable →
      ∃ frame, c.encode = .ok frame ∧ frame.length = c.encodedLength ∧ decode frame = .ok c) ∧
    (∀ bytes, (∃ c, decode bytes = .ok c) ↔ WellFormed bytes) ∧
    ∀ bytes c, decode bytes = .ok c → c.encode = .ok bytes := by
  refine ⟨fun c hc => ?_, fun _ => exists_decode_iff, fun _ _ => encode_of_decode⟩
  obtain ⟨frame, he⟩ := hc.exists_encode
  exact ⟨frame, he, length_of_encode he, decode_of_encode hc.canonical he⟩

/-- A response with two parameters there and back, and the bytes of a data container back and forth. -/
theorem codec_response :
    ((response 0x2001 9 [0x00010001, 42]).Sendable ∧
      ∃ frame, (response 0x2001 9 [0x00010001, 42]).encode = .ok frame ∧
        frame.length = 20 ∧ decode frame = .ok (response 0x2001 9 [0x00010001, 42])) ∧
    (decode [14, 0, 0, 0, 2, 0, 9, 16, 3, 0, 0, 0, 104, 105] = .ok (data 0x1009 3 [104, 105]) ∧
      WellFormed [14, 0, 0, 0, 2, 0, 9, 16, 3, 0, 0, 0, 104, 105] ∧
      (data 0x1009 3 [104, 105]).encode = .ok [14, 0, 0, 0, 2, 0, 9, 16, 3, 0, 0, 0, 104, 105]) := by
  obtain ⟨hwritten, hread, hback⟩ := codec
  have hsendable : (response 0x2001 9 [0x00010001, 42]).Sendable := .inl ⟨.inr (.inl rfl), by decide, rfl⟩
  have hdata : decode [14, 0, 0, 0, 2, 0, 9, 16, 3, 0, 0, 0, 104, 105] =
      .ok (data 0x1009 3 [104, 105]) := by decide
  exact ⟨⟨hsendable, hwritten _ hsendable⟩, hdata, (hread _).mp ⟨_, hdata⟩, hback _ _ hdata⟩

end Container

end Ptp

end Tether
