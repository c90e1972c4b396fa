import Tether.Config
import Tether.Files.Mount
import Tether.Report.Ptp

/-!
# Tether.Report.Camera — cards, objects and files as values
-/

namespace Tether

open Report (Value)

/-- The kind of a storage as a word. -/
def VolumeKind.word : VolumeKind → String
  | .none => "none"
  | .cfExpress => "cfExpress"
  | .sd => "sd"
  | .internal => "internal"

/-- The state of a slot as a word. -/
def VolumeStatus.word : VolumeStatus → String
  | .empty => "empty"
  | .inserted => "inserted"
  | .mounted => "mounted"
  | .error => "error"
  | .writeProtected => "writeProtected"
  | .full => "full"

/-- Reads the state of a slot. -/
def VolumeStatus.ofWord? (word : String) : Option VolumeStatus :=
  [empty, inserted, mounted, error, writeProtected, full].find? fun status => status.word = word

/-- The record of a slot as a value. -/
def Volume.report (v : Volume) : Value :=
  .record [
    ("slot", .number v.slot),
    ("storageId", .u32 v.storageId),
    ("kind", .text v.kind.word),
    ("status", .text v.status.word),
    ("label", .text v.label),
    ("description", .text v.description),
    ("totalBytes", .u64 v.totalBytes),
    ("freeBytes", .u64 v.freeBytes),
    ("filesystem", .text v.filesystem),
    ("clusterSize", .u32 v.clusterSize),
    ("fileCount", .u32 v.fileCount),
    ("folderCount", .u32 v.folderCount),
    ("lastAccess", .date v.lastAccess),
    ("writeProtected", .truth v.writeProtected),
    ("needsFormat", .truth v.needsFormat)]

/-- A change of a slot as a value. -/
def VolumeChange.report : VolumeChange → Value
  | .unmounted slot => .list [.text "unmounted", .number slot]
  | .formatted slot => .list [.text "formatted", .number slot]

/-- The counters of the traffic as a value. -/
def Stats.report (s : Stats) : Value :=
  .record [
    ("filesRead", .number s.filesRead),
    ("filesWritten", .number s.filesWritten),
    ("bytesRead", .number s.bytesRead),
    ("bytesWritten", .number s.bytesWritten),
    ("cacheHits", .number s.cacheHits),
    ("cacheMisses", .number s.cacheMisses),
    ("ptpOperations", .number s.ptpOperations),
    ("ptpErrors", .number s.ptpErrors),
    ("used", .truth s.lastOperation.isSome),
    ("averages", .list [.truth s.readSpeedKnown, .truth s.writeSpeedKnown, .truth s.responseTimeKnown])]

/-- A kind of content as a word. -/
def FileType.word : FileType → String
  | .unknown => "unknown"
  | .jpeg => "jpeg"
  | .rawCr3 => "rawCr3"
  | .rawCr2 => "rawCr2"
  | .heif => "heif"
  | .mov => "mov"
  | .mp4 => "mp4"
  | .wav => "wav"
  | .folder => "folder"

/-- How an image or a video was taken, as a value. -/
def CaptureMetadata.report (c : CaptureMetadata) : Value :=
  .record [
    ("width", .u32 c.width),
    ("height", .u32 c.height),
    ("iso", .optional .u32 c.iso),
    ("cameraModel", .optional .text c.cameraModel),
    ("lensModel", .optional .text c.lensModel)]

/-- What is known about an object, as a value. -/
def ObjectMetadata.report (m : ObjectMetadata) : Value :=
  .record [
    ("parent", .u32 m.parent),
    ("storageId", .u32 m.storageId),
    ("slot", .optional .number m.slot),
    ("name", .text m.name),
    ("fileType", .text m.fileType.word),
    ("size", .u32 m.size),
    ("sizeSaturated", .truth m.isSaturated),
    ("created", .date m.created),
    ("modified", .date m.modified),
    ("attributes", .u16 m.attributes),
    ("capture", .optional CaptureMetadata.report m.capture)]

/-- An object as a value. -/
def RemoteObject.report (o : RemoteObject) : Value :=
  .record [
    ("handle", .u32 o.handle),
    ("metadata", o.metadata.report),
    ("dir", .truth o.metadata.isFolder),
    ("cached", .truth o.isCached),
    ("cachedLen", .number o.cachedLength)]

/-- A node as a value. -/
def Node.report (x : Index) (n : Node) : Value :=
  .record [
    ("handle", .u32 (n.handle x)),
    ("root", .truth (n = .root)),
    ("dir", .truth (n.isDirectory x)),
    ("type", .text (n.fileType x).word),
    ("name", .text (n.name x)),
    ("size", .u32 (n.size x)),
    ("bound", .truth n.ref?.isSome)]

/-- A line of a listing as a value. -/
def DirectoryEntry.report (e : DirectoryEntry) : Value :=
  .record [
    ("name", .text e.name),
    ("handle", .u32 e.handle),
    ("fileType", .text e.fileType.word),
    ("size", .u32 e.size),
    ("modified", .date e.modified),
    ("isDir", .truth e.isDirectory)]

/-- The attributes of a node as a value. -/
def NodeAttributes.report (a : NodeAttributes) : Value :=
  .record [
    ("handle", .u32 a.handle),
    ("kind", .text (if a.isDirectory then "directory" else "file")),
    ("size", .u32 a.size),
    ("blocks", .number a.blocks),
    ("mode", .number a.mode),
    ("nlink", .number a.links),
    ("created", .date a.created),
    ("modified", .date a.modified)]

/-- The capacity of a file system as a value. -/
def Capacity.report (c : Capacity) : Value :=
  .record [
    ("magic", .u32 magic),
    ("blockSize", .u32 c.blockSize),
    ("blocks", .u64 c.blocks),
    ("blocksFree", .u64 c.blocksFree),
    ("blocksAvailable", .u64 c.blocksAvailable),
    ("files", .u32 c.files),
    ("filesFree", .number c.filesFree),
    ("nameLen", .number maxName)]

/-- Mount options as a value. -/
def MountOptions.report (o : MountOptions) : Value :=
  .record [
    ("slot", .u64 o.slot),
    ("readOnly", .truth o.readOnly),
    ("cacheSize", .optional .u64 o.cacheSize)]

/-- A configuration as a value. -/
def Config.report (c : Config) : Value :=
  .record [
    ("cacheMaxBytes", .u64 c.cacheMaxBytes),
    ("cacheTimeoutSecs", .u64 c.cacheTimeoutSecs),
    ("cleanupIntervalSecs", .u64 c.cleanupIntervalSecs),
    ("refreshIntervalSecs", .u64 c.refreshIntervalSecs),
    ("refreshInitialDelaySecs", .u64 c.refreshInitialDelaySecs),
    ("maxPacketSize", .u64 c.maxPacketSize),
    ("blockSize", .u32 c.blockSize)]

end Tether
