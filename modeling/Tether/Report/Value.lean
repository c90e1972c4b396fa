import Tether.Calendar.DateText

/-!
# Tether.Report.Value — values for other programs

Everything that is shown to other programs is put into the form of a JSON value first.  Records hold their fields
under names in camel case; what there is none of is null.  Numbers are natural.
-/

namespace Tether.Report

/-- A value as other programs see it. -/
inductive Value where
  | null
  | truth (b : Bool)
  | number (n : Nat)
  | text (s : String)
  | list (items : List Value)
  | record (fields : List (String × Value))
deriving Inhabited

namespace Value

/-- A 16-bit word. -/
def u16 (w : UInt16) : Value :=
  number w.toNat

/-- A 32-bit word. -/
def u32 (w : UInt32) : Value :=
  number w.toNat

/-- A 64-bit word. -/
def u64 (w : UInt64) : Value :=
  number w.toNat

/-- A value there may be none of. -/
def optional {α : Type} (render : α → Value) : Option α → Value
  | some a => render a
  | none => null

/-- A date there may be none of. -/
def date (d : Option Calendar.Instant) : Value :=
  optional (fun t => text (Calendar.DateText.formatAnswer t)) d

/-- A record of one among several kinds; the kind comes first. -/
def kind (type : String) (fields : List (String × Value)) : Value :=
  record (("type", text type) :: fields)

end Value

end Tether.Report
