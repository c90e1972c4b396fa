/-!
# Tether.Text.Utf16 — text as 16-bit code units

The strings of a dataset are sequences of 16-bit code units.  `encode` gives the units of a text: one for a
character below 2^16, a surrogate pair for any other.  `decode` reads units as text and puts the replacement
character for every surrogate that is not part of a pair.
-/

namespace Tether.Text.Utf16

/-- Whether a unit is the first half of a surrogate pair. -/
def isHigh (u : UInt16) : Bool :=
  0xD800 ≤ u && u ≤ 0xDBFF

/-- Whether a unit is the second half of a surrogate pair. -/
def isLow (u : UInt16) : Bool :=
  0xDC00 ≤ u && u ≤ 0xDFFF

/-- The units of one character. -/
def unitsOf (c : Char) : List UInt16 :=
  if c.toNat < 0x10000 then [c.toNat.toUInt16]
  else
    let n := c.toNat - 0x10000
    [(0xD800 + n / 0x400).toUInt16, (0xDC00 + n % 0x400).toUInt16]

/-- The units of a text. -/
def encode (cs : List Char) : List UInt16 :=
  cs.flatMap unitsOf

/-- The character of a surrogate pair. -/
def pair (high low : UInt16) : Char :=
  Char.ofNat (0x10000 + (high.toNat - 0xD800) * 0x400 + (low.toNat - 0xDC00))

/-- Stands for a surrogate without its other half. -/
def replacement : Char := '\uFFFD'

/-- The text of a sequence of units; a surrogate without its other half becomes the replacement character. -/
def decode : List UInt16 → List Char
  | [] => []
  | [u] => [if isHigh u || isLow u then replacement else Char.ofNat u.toNat]
  | u :: v :: rest =>
    if isHigh u then
      if isLow v then pair u v :: decode rest else replacement :: decode (v :: rest)
    else (if isLow u then replacement else Char.ofNat u.toNat) :: decode (v :: rest)

end Tether.Text.Utf16
