import Tether.Settings.Token

/-!
# Tether.Settings.Document — settings documents

A document is a JSON value.  Of numbers only those are told apart that are written with digits alone, since no
setting is any other.  `fields` picks the settings of a record out of a document: a table with some of their
names, or a list of the first of them in order.  Names that are not asked for are ignored, at whatever they hold;
a name that is asked for may not stand there twice.
-/

namespace Tether.Settings

/-- A settings document, or a part of one. -/
inductive Document where
  | null
  | truth (b : Bool)
  /-- A number of digits alone. -/
  | natural (n : Nat)
  /-- Any other number. -/
  | number
  | text (value : Option String)
  | list (items : List Document)
  | table (entries : List (Option String × Document))

namespace Document

/-- What was read at the front of some tokens, and the tokens behind it, which are fewer. -/
abbrev Parsed (α : Type) (ts : List Token) : Type :=
  Option (α × { rest : List Token // rest.length < ts.length })

mutual

/-- The document at the front of some tokens. -/
def value : (ts : List Token) → Parsed Document ts
  | .null :: rest => some (.null, ⟨rest, by simp⟩)
  | .truth b :: rest => some (.truth b, ⟨rest, by simp⟩)
  | .natural n :: rest => some (.natural n, ⟨rest, by simp⟩)
  | .number :: rest => some (.number, ⟨rest, by simp⟩)
  | .text t :: rest => some (.text t, ⟨rest, by simp⟩)
  | .openBracket :: .closeBracket :: rest => some (.list [], ⟨rest, by simp only [List.length_cons]; omega⟩)
  | .openBracket :: rest => (items rest).map fun (ds, r) =>
      (.list ds, ⟨r.1, by have := r.2; simp only [List.length_cons]; omega⟩)
  | .openBrace :: .closeBrace :: rest => some (.table [], ⟨rest, by simp only [List.length_cons]; omega⟩)
  | .openBrace :: rest => (entries rest).map fun (es, r) =>
      (.table es, ⟨r.1, by have := r.2; simp only [List.length_cons]; omega⟩)
  | _ => none
termination_by ts => (ts.length, 0)

/-- The items of a list up to its closing bracket. -/
def items (ts : List Token) : Parsed (List Document) ts :=
  match value ts with
  | some (d, ⟨.comma :: rest, h⟩) =>
    have : rest.length < ts.length := by simp only [List.length_cons] at h; omega
    (items rest).map fun (ds, r) => (d :: ds, ⟨r.1, by have := r.2; omega⟩)
  | some (d, ⟨.closeBracket :: rest, h⟩) => some ([d], ⟨rest, by simp only [List.length_cons] at h; omega⟩)
  | _ => none
termination_by (ts.length, 1)

/-- The entries of a table up to its closing brace. -/
def entries : (ts : List Token) → Parsed (List (Option String × Document)) ts
  | .text key :: .colon :: ts =>
    match value ts with
    | some (d, ⟨.comma :: rest, h⟩) =>
      have : rest.length < ts.length := by simp only [List.length_cons] at h; omega
      (entries rest).map fun (es, r) => ((key, d) :: es,
        ⟨r.1, by have := r.2; simp only [List.length_cons]; omega⟩)
    | some (d, ⟨.closeBrace :: rest, h⟩) =>
        some ([(key, d)], ⟨rest, by simp only [List.length_cons] at h ⊢; omega⟩)
    | _ => none
  | _ => none
termination_by ts => (ts.length, 1)

end

/-- Reads a document; nothing may stand behind it. -/
def read (text : String) : Option Document := do
  let tokens ← Token.ofText text.toList
  match value tokens with
  | some (d, ⟨[], _⟩) => some d
  | _ => none

/-- The values that a table has for a name. -/
def named (entries : List (Option String × Document)) (name : String) : List Document :=
  entries.filterMap fun (key, d) => if key = some name then some d else none

/-- What a document has for each of some names, in order. -/
def fields (names : List String) : Document → Option (List (Option Document))
  | list items =>
    if names.length < items.length then none
    else some (names.mapIdx fun i _ => items[i]?)
  | table entries =>
    if entries.any (·.1.isNone) ∨ (names.any fun name => 1 < (named entries name).length) then none
    else some (names.map fun name => (named entries name).head?)
  | _ => none

/-- A natural number below `limit`. -/
def natural? (limit : Nat) : Document → Option Nat
  | natural n => if n < limit then some n else none
  | _ => none

/-- A number of 64 bits. -/
def u64? (d : Document) : Option UInt64 :=
  (d.natural? Text.limit64).map UInt64.ofNat

/-- A number of 32 bits. -/
def u32? (d : Document) : Option UInt32 :=
  (d.natural? Text.limit32).map UInt32.ofNat

/-- A truth value. -/
def truth? : Document → Option Bool
  | truth b => some b
  | _ => none

/-- A value that may be absent, written as null. -/
def optional? {α : Type} (read : Document → Option α) : Document → Option (Option α)
  | null => some none
  | d => (read d).map some

/-- A field, or its default where the document does not have it. -/
def orDefault {α : Type} (read : Document → Option α) (default : α) : Option Document → Option α
  | some d => read d
  | none => some default

end Document

end Tether.Settings
