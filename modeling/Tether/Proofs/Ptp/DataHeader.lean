import Tether.Proofs.Exchange.Outcome
import Tether.Proofs.Ptp.Codec

/-!
# Tether.Proofs.Ptp.DataHeader — the length that is declared for data

The header of a data container is sent ahead of the data and made of their length alone.  Its own length is added
to theirs before the sum is compared with what the length field can tell.  For a payload in memory the header
declares exactly itself and the payload, or is refused (`exact_payloadHeader`).  A length that is only given as a
64-bit word may be one of the twelve largest, whose sum with the length of a header is no such word; then there
is no answer where there should be a refusal (`dataHeader_exact_iff`).

The host never comes near these lengths: what it lets through has been compared with the length field as a number
without a bound (`Engine.dataHeader_of_checkCall`).
-/

namespace Tether

open Ptp

namespace Ptp

/-- The header of a data container of so many bytes in all, by the numbers in it. -/
structure Announces (header : Bytes) (code : UInt16) (id : UInt32) (total : Nat) : Prop where
  size : header.length = 12
  length : Bytes.number (header.take 4) = total
  kind : Bytes.number ((header.drop 4).take 2) = 2
  operation : Bytes.number ((header.drop 6).take 2) = code.toNat
  transaction : Bytes.number (header.drop 8) = id.toNat

/-- There is an answer for so many bytes of data: a header that declares itself and them, or a refusal where no
header can. -/
structure Exact (code : UInt16) (id : UInt32) (n : Nat) (answer : Option (Except PtpError Bytes)) : Prop where
  declared : 12 + n ≤ 2 ^ 32 - 1 → ∃ header, answer = some (.ok header) ∧ Announces header code id (12 + n)
  refused : 2 ^ 32 - 1 < 12 + n → answer = some (.error (.invalidArgument (.containerTooLong (12 + n))))

/-- A number of bytes is either declared or refused, so that it has an answer. -/
theorem Exact.answered {code : UInt16} {id : UInt32} {n : Nat} {answer : Option (Except PtpError Bytes)}
    (h : Exact code id n answer) : answer ≠ none := by
  intro hnone
  rcases Nat.lt_or_ge (2 ^ 32 - 1) (12 + n) with hlong | hfits
  · cases hnone.symm.trans (h.refused hlong)
  · obtain ⟨header, hheader, -⟩ := h.declared hfits
    cases hnone.symm.trans hheader

/-! ## The header of a payload -/

/-- The header that is made for so many bytes of data. -/
def Header.forData (code : UInt16) (transaction : UInt32) (n : Nat) : Header :=
  { length := .ofNat (headerLength + n), kind := ContainerKind.data.code, code, transaction }

section Made

variable {n : Nat} (code : UInt16) (transaction : UInt32)

theorem Header.toNat_length_forData (h : headerLength + n ≤ maxWord) :
    (forData code transaction n).length.toNat = headerLength + n :=
  UInt32.toNat_ofNat_of_lt' (Nat.lt_of_le_of_lt h (by decide))

theorem announces_forData (h : headerLength + n ≤ maxWord) :
    Announces (Header.forData code transaction n).encode code transaction (headerLength + n) := by
  refine ⟨rfl, ?_, Bytes.number_ofU16 2, Bytes.number_ofU16 code, Bytes.number_ofU32 transaction⟩
  exact (Bytes.number_ofU32 _).trans (Header.toNat_length_forData code transaction h)

/-- Behind the header exactly a payload of the length that was declared is read. -/
theorem decode_forData_eq_ok_iff (h : headerLength + n ≤ maxWord) {payload : Bytes} {c : Container} :
    Container.decode ((Header.forData code transaction n).encode ++ payload) = .ok c ↔
      payload.length = n ∧ c = .data code transaction payload := by
  have hdata : Container.ofHeader (Header.forData code transaction n) payload =
      .ok (.data code transaction payload) := rfl
  rw [Container.decode_append_eq_ok_iff, Header.toNat_length_forData code transaction h, hdata, Except.ok.injEq,
    Nat.add_left_cancel_iff, eq_comm, @eq_comm _ c]

theorem payloadHeader_of_lt (h : maxWord < headerLength + n) :
    payloadHeader code transaction n = .error (.invalidArgument (.containerTooLong (headerLength + n))) := by
  rw [payloadHeader, Header.make, if_pos h]
  rfl

theorem exact_payloadHeader (n : Nat) : Exact code transaction n (some (payloadHeader code transaction n)) where
  declared h :=
    ⟨_, congrArg some (payloadHeader_of_le h code transaction), announces_forData code transaction h⟩
  refused h := congrArg some (payloadHeader_of_lt code transaction h)

end Made

/-! ## The header of a length -/

section Declared

variable {n : UInt64} (code : UInt16) (transaction : UInt32)

theorem dataHeader_of_lt (h : headerLength + n.toNat < 2 ^ 64) :
    dataHeader code transaction n = some (payloadHeader code transaction n.toNat) :=
  if_pos h

theorem dataHeader_of_ge (h : 2 ^ 64 ≤ headerLength + n.toNat) : dataHeader code transaction n = none :=
  if_neg (Nat.not_lt.mpr h)

end Declared

/-- The header for so many bytes of data declares itself and them, or is refused where no header can, just when
the sum of both lengths is a 64-bit word; there is no answer for any other length.  Behind the header exactly the
payloads of the declared length are read, as the container of the data. -/
theorem dataHeader_exact_iff (code : UInt16) (transaction : UInt32) (n : UInt64) :
    (Exact code transaction n.toNat (dataHeader code transaction n) ↔ 12 + n.toNat < 2 ^ 64) ∧
    (dataHeader code transaction n = none ↔ 2 ^ 64 ≤ 12 + n.toNat) ∧
    (12 + n.toNat ≤ 2 ^ 32 - 1 → ∃ header, dataHeader code transaction n = some (.ok header) ∧
      ∀ payload c, Container.decode (header ++ payload) = .ok c ↔
        payload.length = n.toNat ∧ c = .data code transaction payload) := by
  have hexact (h : 12 + n.toNat < 2 ^ 64) : Exact code transaction n.toNat (dataHeader code transaction n) := by
    rw [dataHeader_of_lt code transaction h]
    exact exact_payloadHeader code transaction n.toNat
  have hnone (h : 2 ^ 64 ≤ 12 + n.toNat) : dataHeader code transaction n = none :=
    dataHeader_of_ge code transaction h
  refine ⟨⟨fun h => ?_, hexact⟩, ⟨fun h => ?_, hnone⟩, fun hfits => ?_⟩
  · exact Nat.lt_of_not_le fun hlong => h.answered (hnone hlong)
  · exact Nat.le_of_not_lt fun hshort => (hexact hshort).answered h
  · have hword : headerLength + n.toNat < 2 ^ 64 := Nat.lt_of_le_of_lt hfits (by decide)
    rw [dataHeader_of_lt code transaction hword, payloadHeader_of_le hfits]
    exact ⟨_, rfl, fun _ _ => decode_forData_eq_ok_iff code transaction hfits⟩

/-- Three bytes of data, and the smallest length without an answer. -/
theorem dataHeader_exact_three :
    (Exact 0x100D 7 3 (dataHeader 0x100D 7 3) ∧
      ∃ header, dataHeader 0x100D 7 3 = some (.ok header) ∧
        Container.decode (header ++ [1, 2, 3]) = .ok (.data 0x100D 7 [1, 2, 3])) ∧
    dataHeader 0x100D 7 0xFFFFFFFFFFFFFFF4 = none :=
  ⟨⟨(dataHeader_exact_iff 0x100D 7 3).1.mpr (by decide),
      ((dataHeader_exact_iff 0x100D 7 3).2.2 (by decide)).imp fun _ h => ⟨h.1, (h.2 _ _).mpr ⟨rfl, rfl⟩⟩⟩,
    (dataHeader_exact_iff 0x100D 7 0xFFFFFFFFFFFFFFF4).2.1.mpr (by decide)⟩

/-- A header for 2^64 - 12 bytes is not refused: there is no answer at all. -/
theorem dataHeader_unanswered :
    dataHeader 0x100D 7 0xFFFFFFFFFFFFFFF4 = none ∧
      ¬ Exact 0x100D 7 0xFFFFFFFFFFFFFFF4 (dataHeader 0x100D 7 0xFFFFFFFFFFFFFFF4) :=
  ⟨rfl, fun h => h.answered rfl⟩

end Ptp

/-! ## The data of a call -/

/-- The header of the data of a call that the host lets through is the answer for their length, and declares
exactly what is sent. -/
theorem Engine.dataHeader_of_checkCall {τ : Type} {operation : Operation} {parameters : List UInt32}
    {payload : Bytes} {e : Engine τ} (h : checkCall operation parameters (some payload) e = .ok ())
    (transaction : UInt32) :
    dataHeader operation.code transaction (UInt64.ofNat payload.length) =
        some (payloadHeader operation.code transaction payload.length) ∧
      ∃ header, payloadHeader operation.code transaction payload.length = .ok header ∧
        Announces header operation.code transaction (12 + payload.length) := by
  have hfits : headerLength + payload.length ≤ maxWord := (length_le_of_checkCall h).2 payload rfl
  have hsum : headerLength + payload.length < 2 ^ 64 := Nat.lt_of_le_of_lt hfits (by decide)
  have hword : (UInt64.ofNat payload.length).toNat = payload.length :=
    UInt64.toNat_ofNat_of_lt' (Nat.lt_of_le_of_lt (Nat.le_add_left _ _) hsum)
  refine ⟨?_, _, payloadHeader_of_le hfits _ _, announces_forData _ _ hfits⟩
  rw [dataHeader_of_lt, hword]
  rwa [hword]

end Tether
