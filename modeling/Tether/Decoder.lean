import Tether.Action
import Tether.Bytes

/-!
# Tether.Decoder — reading values off the front of a byte string

A decoder takes a value off the front of a byte string and leaves the bytes behind it.  Every value it takes is a
field with a name; when the bytes do not suffice the decoder tells which field, how many bytes it needs and how
many are left.
-/

namespace Tether

/-- Where a byte string ends too early. -/
structure Shortfall where
  /-- Name of the field. -/
  field : String
  /-- Bytes that the field needs. -/
  need : Nat
  /-- Bytes that are left. -/
  left : Nat
deriving DecidableEq

/-- A reader of one value; the state is what is left to read. -/
abbrev Decoder (α : Type) := Action Bytes Shortfall α

namespace Decoder

/-- One byte. -/
def u8 (field : String) : Decoder UInt8 := fun
  | b :: rest => (.ok b, rest)
  | bs => (.error ⟨field, 1, bs.length⟩, bs)

/-- A 16-bit word. -/
def u16 (field : String) : Decoder UInt16 := fun
  | b₀ :: b₁ :: rest => (.ok (Bytes.u16 b₀ b₁), rest)
  | bs => (.error ⟨field, 2, bs.length⟩, bs)

/-- A 32-bit word. -/
def u32 (field : String) : Decoder UInt32 := fun
  | b₀ :: b₁ :: b₂ :: b₃ :: rest => (.ok (Bytes.u32 b₀ b₁ b₂ b₃), rest)
  | bs => (.error ⟨field, 4, bs.length⟩, bs)

/-- A 64-bit word. -/
def u64 (field : String) : Decoder UInt64 := fun
  | b₀ :: b₁ :: b₂ :: b₃ :: b₄ :: b₅ :: b₆ :: b₇ :: rest =>
    (.ok (Bytes.u64 (Bytes.u32 b₀ b₁ b₂ b₃) (Bytes.u32 b₄ b₅ b₆ b₇)), rest)
  | bs => (.error ⟨field, 8, bs.length⟩, bs)

/-- The next `n` bytes. -/
def raw (field : String) (n : Nat) : Decoder Bytes := fun bs =>
  if bs.length < n then (.error ⟨field, n, bs.length⟩, bs) else (.ok (bs.take n), bs.drop n)

/-- A list of 16-bit words behind their number. -/
def u16s (field : String) : Decoder (List UInt16) := do
  let count ← u32 field
  let bytes ← raw field (2 * count.toNat)
  return Bytes.toU16s bytes

/-- A list of 32-bit words behind their number. -/
def u32s (field : String) : Decoder (List UInt32) := do
  let count ← u32 field
  let bytes ← raw field (4 * count.toNat)
  return Bytes.toU32s bytes

end Decoder

end Tether
