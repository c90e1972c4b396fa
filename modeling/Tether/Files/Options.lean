import Tether.Settings.Document
import Tether.StorageError
import Tether.Text.Blank
import Tether.Text.Number
import Tether.Text.Split

/-!
# Tether.Files.Options — how a file system is mounted

The options of a mount are written as items between commas, as in `slot=1,ro,cache_size=4096`.  Blanks around
items and around the two sides of an equals sign do not count, nor do empty items.  Of two items about the same
thing the later one holds.
-/

namespace Tether

open Settings (Document)
open Text

/-- How a file system is mounted. -/
structure MountOptions where
  /-- The slot whose card is shown. -/
  slot : UInt64 := 0
  /-- Whether writing is refused. -/
  readOnly : Bool := false
  /-- Bytes that may be cached while mounted, if not as many as configured. -/
  cacheSize : Option UInt64 := none
deriving DecidableEq

/-- One item among written options. -/
inductive MountOption where
  | slot (n : UInt64)
  | readOnly
  | readWrite
  | cacheSize (bytes : UInt64)
deriving DecidableEq

namespace MountOption

/-- Reads the number of an item. -/
def readNumber (item value : List Char) : Except StorageError UInt64 :=
  match readNatural limit64 value with
  | some n => .ok (.ofNat n)
  | none => .error (.invalidArgument (.badMountOption (String.ofList item)))

/-- Reads an item that has no blanks around it. -/
def ofItem (item : List Char) : Except StorageError MountOption :=
  match (cutAt '=' item).map fun (key, value) => (String.ofList (trim key), trim value) with
  | some ("slot", value) => (readNumber item value).map slot
  | some ("cache_size", value) => (readNumber item value).map cacheSize
  | none =>
    match String.ofList item with
    | "ro" => .ok readOnly
    | "rw" => .ok readWrite
    | unknown => .error (.invalidArgument (.unknownMountOption unknown))
  | some _ => .error (.invalidArgument (.unknownMountOption (String.ofList item)))

/-- Lets an item take effect. -/
def apply (o : MountOptions) : MountOption → MountOptions
  | slot n => { o with slot := n }
  | readOnly => { o with readOnly := true }
  | readWrite => { o with readOnly := false }
  | cacheSize bytes => { o with cacheSize := some bytes }

end MountOption

namespace MountOptions

/-- The items of written options. -/
def items (text : List Char) : List (List Char) :=
  ((pieces ',' text).map trim).filter (· ≠ [])

/-- Reads written options; the first item that is none is the failure. -/
def parse (text : String) : Except StorageError MountOptions := do
  let options ← (items text.toList).mapM MountOption.ofItem
  return options.foldl MountOption.apply {}

/-- The options in a settings document; what the document does not tell has its default. -/
def ofDocument (d : Document) : Option MountOptions := do
  match ← d.fields ["slot", "readOnly", "cacheSize"] with
  | [slot, readOnly, cacheSize] =>
    return {
      slot := ← Document.orDefault Document.u64? 0 slot
      readOnly := ← Document.orDefault Document.truth? false readOnly
      cacheSize := ← Document.orDefault (Document.optional? Document.u64?) none cacheSize }
  | _ => none

/-- The options as they are written; what is not there by default is left out. -/
def render (o : MountOptions) : String :=
  "slot=" ++ natural o.slot.toNat ++ (if o.readOnly then ",ro" else "") ++
    match o.cacheSize with
    | some bytes => ",cache_size=" ++ natural bytes.toNat
    | none => ""

end MountOptions

end Tether
