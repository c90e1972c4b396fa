import Tether.Files.Node
import Tether.Files.Options
import Tether.Host.Objects

/-!
# Tether.Files.Mount — a camera's card as a file system

A mount shows the active card: its root is the root of the card's storage.  The camera is asked for every
listing, and names are looked up in listings because a camera knows no names.  Files are replaced by uploading
the new content first and deleting the old object then.  Directories can neither be made nor removed.
-/

namespace Tether

open Ptp

/-- A mounted file system. -/
structure Mount where
  /-- How it was mounted. -/
  options : MountOptions
  /-- Bytes in a block, at least one. -/
  blockSize : UInt32
  /-- The override of the cache's budget that ends with the mount. -/
  budget : Option OverrideToken
deriving DecidableEq

/-- Capacity of a file system, in blocks. -/
structure Capacity where
  blockSize : UInt32
  blocks : UInt64 := 0
  blocksFree : UInt64 := 0
  /-- Blocks that can be written. -/
  blocksAvailable : UInt64 := 0
  files : UInt32 := 0
  /-- Files that could be added; a camera does not limit them. -/
  filesFree : Nat := 0
deriving DecidableEq

namespace Capacity

/-- Identifies the kind of file system. -/
def magic : UInt32 := 0x43355235

/-- Longest name, in bytes. -/
def maxName : Nat := maxNameLength

/-- Files that could be added to any card. -/
def unlimitedFiles : Nat := 999999

end Capacity

namespace Mount

variable {τ : Type}

/-- Mounts a card as a file system: its slot is mounted if it is not yet, and becomes the active one. -/
def ofOptions (options : MountOptions) (blockSize : UInt32) : Action (Host τ) StorageError Mount := do
  let slot := options.slot.toNat
  let v ← Host.onBay (Bay.volume slot)
  if v.status = .inserted then Host.onBay (Bay.mount slot)
  else if ¬ v.isMounted then .fail (.noSuchDevice (some slot))
  Host.onBay (Bay.setActive slot)
  let budget ← match options.cacheSize with
    | some bytes => do
      let token ← Host.onStore (Store.overrideBudget bytes.toNat)
      pure (some token)
    | none => pure none
  return { options, blockSize := if blockSize = 0 then 1 else blockSize, budget }

/-- Ends a mount. -/
def release (m : Mount) (h : Host τ) : Host τ :=
  match m.budget with
  | some token => h.updateStore (·.releaseBudget token)
  | none => h

/-- A value read off the index. -/
def look {α : Type} (f : Index → α) : Action (Host τ) StorageError α :=
  .read fun h => f h.store.index

/-- The active slot. -/
def activeSlot : Action (Host τ) StorageError Slot := do
  let active ← .read fun h : Host τ => h.bay.table.active
  .ofOption (.noSuchDevice none) active

/-- Refuses to write where the mount or the active card does not allow it. -/
def checkWritable (m : Mount) : Action (Host τ) StorageError Unit := do
  if m.options.readOnly then .fail .readOnly
  let slot ← activeSlot
  if ← .read fun h : Host τ => (h.bay.table.volume slot).writeProtected then .fail .readOnly

/-- The object behind a node. -/
def objectOf (n : Node) : Action (Host τ) StorageError ObjectRef := do
  let name ← look n.name
  .ofOption (.noSuchFile name) n.ref?

/-- The file behind a node. -/
def fileOf (n : Node) : Action (Host τ) StorageError ObjectRef := do
  let ref ← objectOf n
  let o ← look (·.object ref)
  if o.metadata.isFolder then .fail (.invalidArgument (.isADirectory o.metadata.name))
  return ref

/-- The attributes of a node. -/
def attributes (n : Node) : Action (Host τ) StorageError NodeAttributes := do
  if n = .unbound then .fail (.noSuchFile "")
  look fun x => .ofNode x n

variable [Transport τ]

/-- The lines for the objects of a list; an object that cannot be described is left out. -/
def describeAll : List UInt32 → Host τ → List DirectoryEntry × Host τ
  | [], h => ([], h)
  | handle :: rest, h =>
    match Host.fetch handle h with
    | (.ok ref, h) =>
      let (entries, h') := describeAll rest h
      (.ofObject (h.store.index.object ref) :: entries, h')
    | (.error _, h) => describeAll rest h

/-- The lines for the children of a directory, in the camera's order. -/
def children (dir : Node) : Action (Host τ) StorageError (List DirectoryEntry) := do
  let x ← look id
  if ¬ dir.isDirectory x then .fail (.invalidArgument (.notADirectory (dir.name x)))
  let slot ← activeSlot
  let storage ← .read fun h : Host τ => (h.bay.table.volume slot).storageId
  let handles ← Host.call none (Engine.handles storage (dir.handle x))
  let entries ← .ofFunction (describeAll handles)
  .change fun h => { h with bay := h.bay.touch slot }
  return entries

/-- The handle of the directory above; the root is above itself. -/
def parentHandle (x : Index) (dir : Node) : UInt32 :=
  match dir.object? x with
  | some o => o.metadata.parent
  | none => 0

/-- The listing of a directory: itself, the one above it, and its children. -/
def list (dir : Node) : Action (Host τ) StorageError (List DirectoryEntry) := do
  let x ← look id
  let entries ← children dir
  return .dot "." (dir.handle x) :: .dot ".." (parentHandle x dir) :: entries

/-- The directory above a node. -/
def parentOf (n : Node) : Action (Host τ) StorageError Node := do
  let parent ← look fun x => parentHandle x n
  if parent = 0 then return .root
  let ref ← Host.fetch parent
  return .bound ref

/-- The node of a name in a directory. -/
def lookup (dir : Node) (name : String) : Action (Host τ) StorageError Node :=
  match name with
  | "." => pure dir
  | ".." => parentOf dir
  | _ => do
    let entries ← children dir
    let entry ← .ofOption (.noSuchFile name) (entries.find? fun e => e.name = name)
    let ref ← Host.fetch entry.handle
    return .bound ref

/-- Up to `length` bytes of a file from `offset` on. -/
def read (n : Node) (length offset : Nat) : Action (Host τ) StorageError Bytes := do
  let ref ← fileOf n
  let bytes ← Host.readRange ref length offset
  if offset = 0 then .change (Host.count Stats.recordFileRead)
  return bytes

/-- Replaces the content of a file and answers its new node.  That the old object cannot be deleted is no
failure. -/
def write (m : Mount) (n : Node) (content : Bytes) : Action (Host τ) StorageError Node := do
  checkWritable m
  let old ← fileOf n
  let metadata ← look fun x => (x.object old).metadata
  let new ← Host.writeNew metadata.name content metadata.parent
  let _ ← (Host.delete old).attempt
  return .bound new

/-- Puts a file into a directory, in the place of one of the same name. -/
def create (m : Mount) (dir : Node) (name : String) (content : Bytes) : Action (Host τ) StorageError Node := do
  checkWritable m
  if maxNameLength < name.utf8ByteSize then .fail (.invalidArgument (.nameTooLong name))
  match ← (lookup dir name).attempt with
  | .ok existing => write m existing content
  | .error (.noSuchFile _) => do
    let handle ← look dir.handle
    let ref ← Host.writeNew name content handle
    return .bound ref
  | .error e => .fail e

/-- Deletes a file; its node has no object then. -/
def unlink (m : Mount) (n : Node) : Action (Host τ) StorageError Node := do
  checkWritable m
  let ref ← objectOf n
  if ← look fun x => (x.object ref).metadata.isFolder then .fail (.permissionDenied "unlink of a directory")
  Host.delete ref
  return .unbound

/-- Making a directory is refused. -/
def makeDirectory (_dir : Node) (_name : String) : Except StorageError Node :=
  .error (.permissionDenied "mkdir")

/-- Removing a directory is refused. -/
def removeDirectory (_dir : Node) (_name : String) : Except StorageError Unit :=
  .error (.permissionDenied "rmdir")

/-- The capacity of the active card; no blocks and no files when none is active. -/
def capacity (m : Mount) (h : Host τ) : Capacity :=
  match h.bay.table.activeVolume with
  | none => { blockSize := m.blockSize }
  | some v =>
    { blockSize := m.blockSize
      blocks := v.totalBytes / m.blockSize.toUInt64
      blocksFree := v.freeBytes / m.blockSize.toUInt64
      blocksAvailable := if v.writeProtected then 0 else v.freeBytes / m.blockSize.toUInt64
      files := v.fileCount
      filesFree := Capacity.unlimitedFiles }

end Mount

end Tether
