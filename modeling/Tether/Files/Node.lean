import Tether.Store.Index

/-!
# Tether.Files.Node — files and directories as a file system shows them

A node is the root, or stands for an object, or has lost its object because the file was deleted.  Everything
that is shown of a node is read off the object behind it, at the moment of asking.
-/

namespace Tether

open Calendar (Instant)

/-- A file or a directory. -/
inductive Node where
  /-- The root of the active card. -/
  | root
  /-- A file or a directory that is an object. -/
  | bound (ref : ObjectRef)
  /-- A file that was deleted. -/
  | unbound
deriving DecidableEq

namespace Node

/-- The reference to the object behind a node. -/
def ref? : Node → Option ObjectRef
  | .bound ref => some ref
  | _ => none

/-- The object behind a node. -/
def object? (x : Index) (n : Node) : Option RemoteObject :=
  n.ref?.map x.object

/-- The handle of the object, or 0. -/
def handle (x : Index) (n : Node) : UInt32 :=
  ((n.object? x).map RemoteObject.handle).getD 0

/-- The kind of the node's content; a deleted file has none that is known. -/
def fileType (x : Index) : Node → FileType
  | .root => .folder
  | .bound ref => (x.object ref).metadata.fileType
  | .unbound => .unknown

/-- Whether the node is a directory. -/
def isDirectory (x : Index) (n : Node) : Bool :=
  n.fileType x = .folder

/-- The name of the node; a deleted file has none. -/
def name (x : Index) : Node → String
  | .root => "/"
  | .bound ref => (x.object ref).metadata.name
  | .unbound => ""

/-- Bytes in the file. -/
def size (x : Index) (n : Node) : UInt32 :=
  ((n.object? x).map fun o => o.metadata.size).getD 0

end Node

/-- One line of a directory's listing. -/
structure DirectoryEntry where
  name : String
  handle : UInt32
  fileType : FileType
  size : UInt32
  modified : Option Instant
deriving DecidableEq

namespace DirectoryEntry

/-- The line for the directory itself or the one above it. -/
def dot (name : String) (handle : UInt32) : DirectoryEntry :=
  { name, handle, fileType := .folder, size := 0, modified := none }

/-- The line for an object. -/
def ofObject (o : RemoteObject) : DirectoryEntry where
  name := o.metadata.name
  handle := o.handle
  fileType := o.metadata.fileType
  size := o.metadata.size
  modified := o.metadata.modified

/-- Whether the line is about a directory. -/
def isDirectory (e : DirectoryEntry) : Bool :=
  e.fileType = .folder

end DirectoryEntry

/-- The attributes of a node as a file system reports them. -/
structure NodeAttributes where
  handle : UInt32
  isDirectory : Bool
  size : UInt32
  created : Option Instant
  modified : Option Instant
deriving DecidableEq

namespace NodeAttributes

/-- The attributes of a node. -/
def ofNode (x : Index) (n : Node) : NodeAttributes where
  handle := n.handle x
  isDirectory := n.isDirectory x
  size := n.size x
  created := (n.object? x).bind fun o => o.metadata.created
  modified := (n.object? x).bind fun o => o.metadata.modified

/-- Blocks of 512 bytes, the last one maybe in part. -/
def blocks (a : NodeAttributes) : Nat :=
  (a.size.toNat + 511) / 512

/-- Permissions: owners write, everyone reads, and directories can be entered. -/
def mode (a : NodeAttributes) : Nat :=
  if a.isDirectory then 0o755 else 0o644

/-- Names of the node; a directory has its own and the one inside it. -/
def links (a : NodeAttributes) : Nat :=
  if a.isDirectory then 2 else 1

end NodeAttributes

end Tether
