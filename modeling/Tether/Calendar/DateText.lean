import Tether.Calendar.Instant
import Tether.Text.Blank
import Tether.Text.Number

/-!
# Tether.Calendar.DateText — the dates of a dataset

A dataset writes an instant as `YYYYMMDDThhmmss`.  A reader accepts more: blanks around the text, tenths of a
second behind a point, which are not kept, and `Z` or an offset `±hhmm` from universal time.  Without an offset
the time is taken as universal time.

The first fifteen bytes are the date and the time.  Each number in them may stand behind blanks and may be
shorter than its width when something else than a digit ends it; the year may carry a sign and is then as long as
its digits go on.
-/

namespace Tether.Calendar.DateText

open Tether.Text

/-- Splits a text behind its first `n` bytes, if a character ends there. -/
def splitBytes : Nat → List Char → Option (List Char × List Char)
  | 0, cs => some ([], cs)
  | _ + 1, [] => none
  | n + 1, c :: cs =>
    if c.utf8Size ≤ n + 1 then (splitBytes (n + 1 - c.utf8Size) cs).map fun (a, b) => (c :: a, b) else none
termination_by _ cs => cs.length

/-- Reads on the decimal digits at the start of `cs`, at most `width` of them, after a number `n`. -/
def digits (width n : Nat) : List Char → Nat × List Char
  | [] => (n, [])
  | c :: cs =>
    match width, digit? c with
    | w + 1, some d => digits w (10 * n + d) cs
    | _, _ => (n, c :: cs)

/-- A number of one to `width` digits. -/
def number (width : Nat) (cs : List Char) : Option (Nat × List Char) :=
  match cs with
  | c :: _ => if (digit? c).isSome then some (digits width 0 cs) else none
  | [] => none

/-- A number of one or two digits, behind blanks or not. -/
def twoDigits (cs : List Char) : Option (Nat × List Char) :=
  number 2 (trimStart cs)

/-- A year: one to four digits, or a sign and any number of digits; behind blanks or not. -/
def year (cs : List Char) : Option (Int × List Char) :=
  match trimStart cs with
  | '-' :: rest => (number rest.length rest).map fun (n, cs) => (-(n : Int), cs)
  | '+' :: rest => (number rest.length rest).map fun (n, cs) => ((n : Int), cs)
  | rest => (number 4 rest).map fun (n, cs) => ((n : Int), cs)

/-- The letter between the date and the time. -/
def separator : List Char → Option (List Char)
  | 'T' :: rest => some rest
  | _ => none

/-- Date and time of day, taken as universal time. -/
def base (cs : List Char) : Option Instant := do
  let (y, cs) ← year cs
  let (m, cs) ← twoDigits cs
  let (d, cs) ← twoDigits cs
  let cs ← separator cs
  let (hour, cs) ← twoDigits cs
  let (minute, cs) ← twoDigits cs
  let (second, cs) ← twoDigits cs
  let date ← Date.of? y m d
  if h : hour < 24 ∧ minute < 60 ∧ second < 61 ∧ cs = [] then
    some { date, minute := ⟨hour * 60 + minute, by omega⟩, second := ⟨second, h.2.2.1⟩,
           nanosecond := Instant.noFraction }
  else none

/-- What stands behind the tenths of a second, which begin with a point and go on with digits or none. -/
def skipTenths : List Char → List Char
  | '.' :: rest => rest.dropWhile fun c => (digit? c).isSome
  | rest => rest

/-- The offset of an hour and a minute, in minutes and with its sign; an offset is shorter than a day. -/
def offset (negative : Bool) (hours minutes : List Char) : Option Int := do
  let h ← readInteger hours
  let m ← readInteger minutes
  let total := if negative then -(h * 60 + m) else h * 60 + m
  if -1440 < total ∧ total < 1440 then some total else none

/-- The offset from universal time at the end of a date, in minutes: none, `Z`, or a sign and four digits. -/
def zone : List Char → Option Int
  | [] => some 0
  | ['Z'] => some 0
  | [sign, h₁, h₂, m₁, m₂] =>
    if sign = '+' then offset false [h₁, h₂] [m₁, m₂]
    else if sign = '-' then offset true [h₁, h₂] [m₁, m₂]
    else none
  | _ => none

/-- Reads a date of a dataset. -/
def parse (text : String) : Option Instant := do
  let (head, rest) ← splitBytes 15 (trim text.toList)
  let there ← base head
  let minutes ← zone (skipTenths rest)
  some (there.minusMinutes minutes)

/-- Four digits, or a sign and at least four digits where the year is negative or has more. -/
def yearText (y : Int) : String :=
  if 0 ≤ y ∧ y ≤ 9999 then decimal 4 y.toNat
  else (if y < 0 then "-" else "+") ++ decimal 4 y.natAbs

/-- Writes an instant as a dataset does, to the second. -/
def format (t : Instant) : String :=
  yearText t.date.year ++ decimal 2 t.date.month ++ decimal 2 t.date.day ++ "T" ++
    decimal 2 (t.minute.val / 60) ++ decimal 2 (t.minute.val % 60) ++ decimal 2 t.second.val

/-- Writes an instant as answers show it, to the second: `2024-03-15T14:25:01Z`. -/
def formatAnswer (t : Instant) : String :=
  yearText t.date.year ++ "-" ++ decimal 2 t.date.month ++ "-" ++ decimal 2 t.date.day ++ "T" ++
    decimal 2 (t.minute.val / 60) ++ ":" ++ decimal 2 (t.minute.val % 60) ++ ":" ++ decimal 2 t.second.val ++ "Z"

end Tether.Calendar.DateText
