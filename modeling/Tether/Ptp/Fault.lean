import Tether.Ptp.Code
import Tether.Text.Quoted

/-!
# Tether.Ptp.Fault — what can be wrong with a call, a container or a dataset

Three lists of causes: calls that are refused before anything is sent, containers that break the protocol, and
datasets that end too early.  `message` words each of them.  `stated` stands for a cause given in words by
someone else.
-/

namespace Tether.Ptp

open Text (hexCapital natural)
open Text.Quoted (quote)

/-- Bytes of a container's header. -/
def headerLength : Nat := 12

/-- Most parameters that a container carries. -/
def maxParameters : Nat := 5

/-- Longest name of an upload, in bytes. -/
def maxNameLength : Nat := 255

/-- Largest 32-bit word. -/
def maxWord : Nat := 0xFFFFFFFF

/-- Why a call is refused before anything is sent. -/
inductive ArgumentFault where
  /-- A container to be written has too many parameters. -/
  | containerParameters (count : Nat)
  /-- A container to be written is longer than its length field can tell. -/
  | containerTooLong (bytes : Nat)
  /-- An operation is given too many parameters. -/
  | operationParameters (operation : Operation) (count : Nat)
  /-- An operation is given more data than one container holds. -/
  | payloadTooLong (operation : Operation) (bytes : Nat)
  /-- The camera found fault with the parameters. -/
  | rejected (operation : Operation) (code : ResponseCode)
  /-- The root is not an object. -/
  | rootHasNoObject
  /-- Content that long cannot be uploaded. -/
  | uploadTooLarge (bytes : Nat)
  /-- The empty name and the two names that directories use. -/
  | notAFileName (name : String)
  /-- The name holds a slash or a NUL. -/
  | pathSeparator (name : String)
  /-- The name of an upload has too many bytes. -/
  | nameLength (bytes : Nat)
  /-- The name of a new file has too many bytes. -/
  | nameTooLong (name : String)
  /-- A directory is needed. -/
  | notADirectory (name : String)
  /-- A file is needed. -/
  | isADirectory (name : String)
  /-- The mount option does not exist. -/
  | unknownMountOption (option : String)
  /-- The number in the mount option cannot be read. -/
  | badMountOption (option : String)
  /-- The settings are not a document of the right form. -/
  | malformedSettings
  /-- A cause in words. -/
  | stated (text : String)
deriving DecidableEq

/-- The refusal in words. -/
def ArgumentFault.message : ArgumentFault → String
  | .containerParameters n => natural n ++ " parameters exceed the limit of " ++ natural maxParameters
  | .containerTooLong n => "container of " ++ natural n ++ " bytes exceeds the 32-bit length field"
  | .operationParameters op n =>
    op.label ++ " given " ++ natural n ++ " parameters, the limit is " ++ natural maxParameters
  | .payloadTooLong op n => op.label ++ " payload of " ++ natural n ++ " bytes does not fit a container"
  | .rejected op code => op.label ++ " rejected with " ++ code.label
  | .rootHasNoObject => "the root has no object"
  | .uploadTooLarge n => natural n ++ " bytes is too large to upload"
  | .notAFileName name => quote name ++ " is not a file name"
  | .pathSeparator name => quote name ++ " contains a path separator"
  | .nameLength n => "name is " ++ natural n ++ " bytes, the limit is " ++ natural maxNameLength
  | .nameTooLong name => quote name ++ " is too long"
  | .notADirectory name => name ++ " is not a directory"
  | .isADirectory name => name ++ " is a directory"
  | .unknownMountOption option => "unknown mount option " ++ quote option
  | .badMountOption option => "bad value in mount option " ++ quote option
  | .malformedSettings => "can't parse the settings"
  | .stated text => text

/-- What breaks the protocol in a container or in the order of containers. -/
inductive FramingFault where
  /-- The frame has no complete header. -/
  | headerIncomplete (bytes : Nat)
  /-- The frame declares less than a header. -/
  | lengthBelowHeader (declared : Nat)
  /-- The frame declares another length than it has. -/
  | lengthMismatch (declared bytes : Nat)
  /-- The parameters are no whole number of words. -/
  | unalignedParameters (bytes : Nat)
  /-- There are more parameters than a container carries. -/
  | tooManyParameters (count : Nat)
  /-- The kind of the container is none of the four. -/
  | unknownKind (code : UInt16)
  /-- An event was expected. -/
  | notAnEvent (kind : ContainerKind)
  /-- The event has to name what it is about. -/
  | eventWithoutParameter (code : UInt16)
  /-- The container belongs to another transaction. -/
  | foreignTransaction (operation : Operation) (expected got : UInt32) (kind : ContainerKind)
  /-- Such a container has no place before the response. -/
  | unexpectedContainer (operation : Operation) (kind : ContainerKind)
  /-- The stream goes on with a container that declares less than a header. -/
  | streamLengthBelowHeader (declared : Nat)
  /-- One empty transfer came after another. -/
  | onlyEmptyTransfers
  /-- The operation answers with data and none came. -/
  | noDataPhase (operation : Operation)
  /-- The response has to tell a count. -/
  | noCount
  /-- The response has to tell the new handle. -/
  | noHandle
  /-- A cause in words. -/
  | stated (text : String)
deriving DecidableEq

/-- The fault in words. -/
def FramingFault.message : FramingFault → String
  | .headerIncomplete n => "container shorter than header (" ++ natural n ++ " bytes)"
  | .lengthBelowHeader n => "declared length " ++ natural n ++ " is below the header size"
  | .lengthMismatch n bytes =>
    "declared length " ++ natural n ++ " does not match frame of " ++ natural bytes ++ " bytes"
  | .unalignedParameters n => "parameter block of " ++ natural n ++ " bytes is not u32-aligned"
  | .tooManyParameters n => natural n ++ " parameters exceed the limit of " ++ natural maxParameters
  | .unknownKind code => "unknown container type 0x" ++ hexCapital 4 code.toNat
  | .notAnEvent kind => "expected an event container, got " ++ kind.label
  | .eventWithoutParameter code => "event 0x" ++ hexCapital 4 code.toNat ++ " is missing its parameter"
  | .foreignTransaction op expected got kind =>
    op.label ++ ": expected transaction id " ++ natural expected.toNat ++ ", got " ++ natural got.toNat ++
      " in " ++ kind.label ++ " container"
  | .unexpectedContainer op kind =>
    op.label ++ ": unexpected " ++ kind.label ++ " container while waiting for the response"
  | .streamLengthBelowHeader n => "declared container length " ++ natural n ++ " is below the header size"
  | .onlyEmptyTransfers => "transport keeps returning empty transfers"
  | .noDataPhase op => op.label ++ " returned no data phase"
  | .noCount => Operation.name .getNumObjects ++ " response carried no count"
  | .noHandle => Operation.name .sendObjectInfo ++ " response carried no object handle"
  | .stated text => text

/-- What is wrong with a dataset. -/
inductive DatasetFault where
  /-- The dataset ends before the field does. -/
  | truncated (dataset field : String) (need left : Nat)
  /-- A cause in words. -/
  | stated (text : String)
deriving DecidableEq

/-- The fault in words. -/
def DatasetFault.message : DatasetFault → String
  | .truncated dataset field need left =>
    dataset ++ " truncated at " ++ field ++ ": need " ++ natural need ++ " bytes, have " ++ natural left
  | .stated text => text

end Tether.Ptp
