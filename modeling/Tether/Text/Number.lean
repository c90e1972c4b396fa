/-!
# Tether.Text.Number — numbers as text

Decimal numbers as people write them (`readNatural`, `readInteger`), and the fixed-width forms in which codes,
handles and dates are shown.
-/

namespace Tether.Text

/-- One more than the largest 32-bit word. -/
def limit32 : Nat := 0x100000000

/-- One more than the largest 64-bit word. -/
def limit64 : Nat := 0x10000000000000000

/-- The value of a decimal digit of ASCII. -/
def digit? (c : Char) : Option Nat :=
  if '0' ≤ c ∧ c ≤ '9' then some (c.toNat - '0'.toNat) else none

/-- Reads on the decimal digits of `cs` after a number `n`; `none` at the first other character. -/
def readDigits (n : Nat) : List Char → Option Nat
  | [] => some n
  | c :: cs => (digit? c).bind fun d => readDigits (10 * n + d) cs

/-- A number of one or more decimal digits, with nothing before or after it. -/
def readUnsigned : List Char → Option Nat
  | [] => none
  | cs => readDigits 0 cs

/-- A natural number below `limit`: decimal digits, with or without a plus sign. -/
def readNatural (limit : Nat) (cs : List Char) : Option Nat :=
  let digits := match cs with
    | '+' :: rest => rest
    | _ => cs
  (readUnsigned digits).filter (· < limit)

/-- An integer: decimal digits, with or without a sign. -/
def readInteger : List Char → Option Int
  | '+' :: rest => (readUnsigned rest).map Int.ofNat
  | '-' :: rest => (readUnsigned rest).map fun n => -(Int.ofNat n)
  | cs => (readUnsigned cs).map Int.ofNat

/-- `text` with zeros before it up to `width` characters. -/
def padZero (width : Nat) (text : String) : String :=
  String.ofList (List.replicate (width - text.length) '0') ++ text

/-- The decimal digits of `n`. -/
def natural (n : Nat) : String :=
  String.ofList (Nat.toDigits 10 n)

/-- The decimal digits of `n`, at least `width` of them. -/
def decimal (width n : Nat) : String :=
  padZero width (natural n)

/-- The hexadecimal digits of `n` in capitals, at least `width` of them. -/
def hexCapital (width n : Nat) : String :=
  padZero width (String.ofList ((Nat.toDigits 16 n).map Char.toUpper))

/-- The hexadecimal digits of `n` in small letters. -/
def hexSmall (n : Nat) : String :=
  String.ofList (Nat.toDigits 16 n)

end Tether.Text
