/-!
# Tether.Bytes — byte strings and little-endian words

A byte string is a list of bytes.  Words travel with their low byte first: `ofU16`, `ofU32` and `ofU64` write a
word, `u16`, `u32` and `u64` put it together again from its bytes.
-/

namespace Tether

/-- A byte string. -/
abbrev Bytes := List UInt8

namespace Bytes

/-- The two bytes of a 16-bit word, low byte first. -/
def ofU16 (w : UInt16) : Bytes :=
  [w.toUInt8, (w >>> 8).toUInt8]

/-- The four bytes of a 32-bit word, low byte first. -/
def ofU32 (w : UInt32) : Bytes :=
  [w.toUInt8, (w >>> 8).toUInt8, (w >>> 16).toUInt8, (w >>> 24).toUInt8]

/-- The eight bytes of a 64-bit word, low byte first. -/
def ofU64 (w : UInt64) : Bytes :=
  ofU32 w.toUInt32 ++ ofU32 (w >>> 32).toUInt32

/-- The 16-bit word of two bytes, low byte first. -/
def u16 (b₀ b₁ : UInt8) : UInt16 :=
  b₀.toUInt16 ||| (b₁.toUInt16 <<< 8)

/-- The 32-bit word of four bytes, low byte first. -/
def u32 (b₀ b₁ b₂ b₃ : UInt8) : UInt32 :=
  b₀.toUInt32 ||| (b₁.toUInt32 <<< 8) ||| (b₂.toUInt32 <<< 16) ||| (b₃.toUInt32 <<< 24)

/-- The 64-bit word of its low and its high half. -/
def u64 (low high : UInt32) : UInt64 :=
  low.toUInt64 ||| (high.toUInt64 <<< 32)

/-- A byte string read as 16-bit words; an odd byte at the end is dropped. -/
def toU16s : Bytes → List UInt16
  | b₀ :: b₁ :: rest => u16 b₀ b₁ :: toU16s rest
  | _ => []

/-- A byte string read as 32-bit words; up to three bytes at the end are dropped. -/
def toU32s : Bytes → List UInt32
  | b₀ :: b₁ :: b₂ :: b₃ :: rest => u32 b₀ b₁ b₂ b₃ :: toU32s rest
  | _ => []

/-- The bytes of a list of 16-bit words. -/
def ofU16s (ws : List UInt16) : Bytes :=
  ws.flatMap ofU16

/-- The bytes of a list of 32-bit words. -/
def ofU32s (ws : List UInt32) : Bytes :=
  ws.flatMap ofU32

@[simp] theorem length_ofU16 (w : UInt16) : (ofU16 w).length = 2 := rfl

@[simp] theorem length_ofU32 (w : UInt32) : (ofU32 w).length = 4 := rfl

@[simp] theorem length_ofU64 (w : UInt64) : (ofU64 w).length = 8 := rfl

end Bytes

end Tether
