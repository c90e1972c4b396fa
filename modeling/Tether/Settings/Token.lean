import Tether.Text.Number
import Tether.Text.Utf16

/-!
# Tether.Settings.Token — the words of a settings document

Settings are written as JSON.  `Token.ofText` cuts a document into its tokens.  Blanks are the space, the tab and
the two characters that end lines; nothing else may stand between tokens.

A text may spell any 16-bit unit by an escape, and so also half of a surrogate pair.  Such a text is a token
without a value: it may stand where it is ignored, but it is no key.
-/

namespace Tether.Settings

open Text

/-- A token of a document. -/
inductive Token where
  | openBrace
  | closeBrace
  | openBracket
  | closeBracket
  | colon
  | comma
  /-- A text, with its value if its surrogates are all in pairs. -/
  | text (value : Option String)
  /-- A number of decimal digits only. -/
  | natural (n : Nat)
  /-- Any other number. -/
  | number
  | truth (b : Bool)
  | null
deriving DecidableEq

namespace Token

/-- The characters that may stand between tokens. -/
def isSpace (c : Char) : Bool :=
  c = ' ' || c = '\n' || c = '\t' || c = '\r'

/-- The characters of numbers. -/
def isNumeric (c : Char) : Bool :=
  c.isDigit || c = '-' || c = '+' || c = '.' || c = 'e' || c = 'E'

/-- Digits at the front, at least one, and the rest. -/
def digitsFirst (cs : List Char) : Option (List Char × List Char) :=
  let digits := cs.takeWhile Char.isDigit
  if digits = [] then none else some (digits, cs.dropWhile Char.isDigit)

/-- Whether this is all of an exponent, or nothing. -/
def isExponent : List Char → Bool
  | [] => true
  | e :: rest =>
    let digits := match rest with
      | '+' :: ds => ds
      | '-' :: ds => ds
      | ds => ds
    (e = 'e' || e = 'E') && digits ≠ [] && digits.all Char.isDigit

/-- Whether this is all of a fraction and an exponent, or of one of them, or nothing. -/
def isFractionExponent : List Char → Bool
  | '.' :: rest =>
    match digitsFirst rest with
    | some (_, rest) => isExponent rest
    | none => false
  | cs => isExponent cs

/-- Reads a number.  It has no needless zeros at its front. -/
def ofNumber (cs : List Char) : Option Token :=
  let (negative, unsigned) := match cs with
    | '-' :: rest => (true, rest)
    | _ => (false, cs)
  match digitsFirst unsigned with
  | none => none
  | some (digits, rest) =>
    if digits.head? = some '0' ∧ digits.length ≠ 1 then none
    else if rest = [] ∧ ¬ negative then (readUnsigned digits).map natural
    else if isFractionExponent rest then some number
    else none

/-- The value of a hexadecimal digit. -/
def hexDigit? (c : Char) : Option Nat :=
  if '0' ≤ c ∧ c ≤ '9' then some (c.toNat - '0'.toNat)
  else if 'a' ≤ c ∧ c ≤ 'f' then some (c.toNat - 'a'.toNat + 10)
  else if 'A' ≤ c ∧ c ≤ 'F' then some (c.toNat - 'A'.toNat + 10)
  else none

/-- The unit that four hexadecimal digits spell. -/
def hexUnit? (a b c d : Char) : Option UInt16 := do
  let a ← hexDigit? a
  let b ← hexDigit? b
  let c ← hexDigit? c
  let d ← hexDigit? d
  return UInt16.ofNat (((a * 16 + b) * 16 + c) * 16 + d)

/-- The character of an escape of one letter. -/
def escaped? : Char → Option Char
  | '"' => some '"'
  | '\\' => some '\\'
  | '/' => some '/'
  | 'b' => some '\x08'
  | 'f' => some '\x0c'
  | 'n' => some '\n'
  | 'r' => some '\r'
  | 't' => some '\t'
  | _ => none

/-- The units of a text up to its closing quote, and what is behind it.  Control characters may only stand there as
escapes. -/
def textUnits : List Char → Option (List UInt16 × List Char)
  | [] => none
  | '"' :: rest => some ([], rest)
  | '\\' :: 'u' :: a :: b :: c :: d :: rest => do
    let unit ← hexUnit? a b c d
    let (units, rest) ← textUnits rest
    return (unit :: units, rest)
  | '\\' :: c :: rest => do
    let c ← escaped? c
    let (units, rest) ← textUnits rest
    return (Utf16.unitsOf c ++ units, rest)
  | c :: rest =>
    if c.toNat < 0x20 then none
    else do
      let (units, rest) ← textUnits rest
      return (Utf16.unitsOf c ++ units, rest)

/-- The text of some units, if their surrogates are all in pairs. -/
def ofUnits (units : List UInt16) : Token :=
  let cs := Utf16.decode units
  text (if Utf16.encode cs = units then some (String.ofList cs) else none)

/-- The token of a word. -/
def ofWord (word : List Char) : Option Token :=
  match String.ofList word with
  | "true" => some (truth true)
  | "false" => some (truth false)
  | "null" => some null
  | _ => none

/-- The token of one character. -/
def punctuation? : Char → Option Token
  | '\x7b' => some openBrace
  | '\x7d' => some closeBrace
  | '[' => some openBracket
  | ']' => some closeBracket
  | ':' => some colon
  | ',' => some comma
  | _ => none

/-- The token at the front and what is behind it. -/
def first : List Char → Option (Token × List Char)
  | [] => none
  | c :: rest =>
    match punctuation? c with
    | some t => some (t, rest)
    | none =>
      if c = '"' then (textUnits rest).map fun (units, rest) => (ofUnits units, rest)
      else if isNumeric c then
        (ofNumber (c :: rest.takeWhile isNumeric)).map fun t => (t, rest.dropWhile isNumeric)
      else
        (ofWord (c :: rest.takeWhile Char.isAlpha)).map fun t => (t, rest.dropWhile Char.isAlpha)

theorem length_rest_le_of_textUnits {cs rest : List Char} {units : List UInt16}
    (h : textUnits cs = some (units, rest)) : rest.length ≤ cs.length := by
  fun_induction textUnits cs generalizing units rest with
  | case1 => simp at h
  | case2 => simp_all
  | case3 a b c d cs ih =>
    simp only [Option.bind_eq_bind, Option.bind_eq_some_iff, Option.pure_def, Option.some.injEq] at h
    obtain ⟨_, -, ⟨us, r⟩, hr, he⟩ := h
    obtain ⟨-, rfl⟩ := Prod.mk.inj he
    have := ih hr
    simp only [List.length_cons]
    omega
  | case4 c cs _ ih =>
    simp only [Option.bind_eq_bind, Option.bind_eq_some_iff, Option.pure_def, Option.some.injEq] at h
    obtain ⟨_, -, ⟨us, r⟩, hr, he⟩ := h
    obtain ⟨-, rfl⟩ := Prod.mk.inj he
    have := ih hr
    simp only [List.length_cons]
    omega
  | case5 => simp_all
  | case6 c cs _ _ _ _ ih =>
    simp only [Option.bind_eq_bind, Option.bind_eq_some_iff, Option.pure_def, Option.some.injEq] at h
    obtain ⟨⟨us, r⟩, hr, he⟩ := h
    obtain ⟨-, rfl⟩ := Prod.mk.inj he
    have := ih hr
    simp only [List.length_cons]
    omega

theorem length_dropWhile_lt (p : Char → Bool) (c : Char) (cs : List Char) :
    (cs.dropWhile p).length < (c :: cs).length :=
  Nat.lt_succ_of_le (List.dropWhile_sublist p).length_le

theorem length_rest_lt_of_first {cs rest : List Char} {t : Token} (h : first cs = some (t, rest)) :
    rest.length < cs.length := by
  unfold first at h
  split at h
  · simp at h
  · split at h
    · obtain ⟨-, rfl⟩ := Prod.mk.inj (Option.some.inj h)
      simp
    · split at h
      · obtain ⟨⟨us, r⟩, hr, he⟩ := Option.map_eq_some_iff.mp h
        obtain ⟨-, rfl⟩ := Prod.mk.inj he
        exact Nat.lt_succ_of_le (length_rest_le_of_textUnits hr)
      · split at h <;>
        · obtain ⟨t', -, he⟩ := Option.map_eq_some_iff.mp h
          obtain ⟨-, rfl⟩ := Prod.mk.inj he
          exact length_dropWhile_lt _ _ _

/-- The tokens of a document. -/
def ofText (cs : List Char) : Option (List Token) :=
  match cs with
  | [] => some []
  | c :: rest =>
    if isSpace c then ofText rest
    else
      match _h : first (c :: rest) with
      | none => none
      | some (t, rest) => (ofText rest).map (t :: ·)
termination_by cs.length
decreasing_by
  · simp
  · exact length_rest_lt_of_first _h

end Token

end Tether.Settings
