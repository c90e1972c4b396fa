import Tether.Ptp.Code

/-!
# Tether.FileType — kinds of content

The kind of an object follows from the extension of its name and, where that tells nothing, from its format.
-/

namespace Tether

open Ptp (ObjectFormat)

/-- Kind of an object's content. -/
inductive FileType where
  | unknown
  | jpeg
  | rawCr3
  | rawCr2
  | heif
  | mov
  | mp4
  | wav
  | folder
deriving DecidableEq

namespace FileType

/-- What stands behind the last point of a name, if there is one. -/
def extension? (name : String) : Option String :=
  let reversed := name.toList.reverse
  let tail := reversed.takeWhile (· ≠ '.')
  if tail.length = reversed.length then none else some (String.ofList tail.reverse)

/-- The kind that an extension stands for; capital and small letters of ASCII are alike. -/
def ofExtension (extension : String) : FileType :=
  match String.ofList (extension.toList.map Char.toLower) with
  | "jpg" | "jpeg" => .jpeg
  | "cr3" => .rawCr3
  | "cr2" => .rawCr2
  | "heic" | "heif" => .heif
  | "mov" => .mov
  | "mp4" => .mp4
  | "wav" => .wav
  | _ => .unknown

/-- The kind that a name shows. -/
def detect (name : String) : FileType :=
  match extension? name with
  | some extension => ofExtension extension
  | none => .unknown

/-- The kind that a format stands for, files only. -/
def ofFormat : ObjectFormat → FileType
  | .exifJpeg => .jpeg
  | .canonCr3 => .rawCr3
  | .canonCr2 => .rawCr2
  | .canonHeif => .heif
  | .quickTime | .canonMov => .mov
  | .mp4 => .mp4
  | .wav => .wav
  | _ => .unknown

/-- The kind of an object that a camera describes: a folder by its format, a file by its name and then its
format. -/
def ofObject (format : ObjectFormat) (name : String) : FileType :=
  if format = .association then .folder
  else
    match detect name with
    | .unknown => ofFormat format
    | detected => detected

/-- The format with which content of a kind is uploaded. -/
def objectFormat : FileType → ObjectFormat
  | .unknown => .undefined
  | .jpeg => .exifJpeg
  | .rawCr3 => .canonCr3
  | .rawCr2 => .canonCr2
  | .heif => .canonHeif
  | .mov => .quickTime
  | .mp4 => .mp4
  | .wav => .wav
  | .folder => .association

/-- The kind as people call it. -/
def name : FileType → String
  | .unknown => "Unknown"
  | .jpeg => "JPEG"
  | .rawCr3 => "RAW CR3"
  | .rawCr2 => "RAW CR2"
  | .heif => "HEIF"
  | .mov => "MOV"
  | .mp4 => "MP4"
  | .wav => "WAV"
  | .folder => "Folder"

/-- Whether objects of a kind carry details of how they were taken: images and videos do. -/
def hasCaptureMetadata : FileType → Bool
  | .jpeg | .rawCr3 | .rawCr2 | .heif | .mov | .mp4 => true
  | _ => false

end FileType

end Tether
