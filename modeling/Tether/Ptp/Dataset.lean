import Tether.Calendar.DateText
import Tether.Decoder
import Tether.Ptp.Error
import Tether.Text.Utf16

/-!
# Tether.Ptp.Dataset — the fields of a dataset

Datasets are made of little-endian words, lists of words behind their number, texts and dates.  A text is the
number of its 16-bit units with the closing NUL counted, then the units; the empty text is the number 0 alone.  A
date is a text, empty where there is no date.

Each `of…` writes a field and the decoder of the same name reads it.
-/

namespace Tether.Ptp.Dataset

open Calendar (Instant DateText.parse DateText.format)

/-- Most units of a text in a dataset, the closing NUL not counted. -/
def maxTextUnits : Nat := 254

/-- Units without the NULs at their end. -/
def dropNuls (units : List UInt16) : List UInt16 :=
  (units.reverse.dropWhile (· == 0)).reverse

/-- A text. -/
def text (field : String) : Decoder String := do
  let count ← Decoder.u8 field
  let bytes ← Decoder.raw field (2 * count.toNat)
  return String.ofList (Text.Utf16.decode (dropNuls (Bytes.toU16s bytes)))

/-- A date; a text that is none reads as no date. -/
def date (field : String) : Decoder (Option Instant) := do
  let written ← text field
  return DateText.parse written

/-- A text as bytes, cut behind its first 254 units. -/
def ofText (s : String) : Bytes :=
  match (Text.Utf16.encode s.toList).take maxTextUnits with
  | [] => [0]
  | units => UInt8.ofNat (units.length + 1) :: (Bytes.ofU16s units ++ Bytes.ofU16 0)

/-- A date as bytes. -/
def ofDate (d : Option Instant) : Bytes :=
  match d with
  | some t => ofText (DateText.format t)
  | none => ofText ""

/-- A list of 16-bit words as bytes. -/
def ofU16List (values : List UInt16) : Bytes :=
  Bytes.ofU32 (UInt32.ofNat values.length) ++ Bytes.ofU16s values

/-- A list of 32-bit words as bytes. -/
def ofU32List (values : List UInt32) : Bytes :=
  Bytes.ofU32 (UInt32.ofNat values.length) ++ Bytes.ofU32s values

/-- Reads a dataset; bytes behind its last field are ignored. -/
def parse {α : Type} (dataset : String) (decoder : Decoder α) (payload : Bytes) : Except PtpError α :=
  match decoder payload with
  | (.ok value, _) => .ok value
  | (.error s, _) => .error (.invalidDataset (.truncated dataset s.field s.need s.left))

/-- Reads the list of words that storages and handles are reported as. -/
def parseU32List (what : String) (payload : Bytes) : Except PtpError (List UInt32) :=
  parse what (Decoder.u32s what) payload

end Tether.Ptp.Dataset
