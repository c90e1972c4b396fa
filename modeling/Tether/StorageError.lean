import Tether.Ptp.Error

/-!
# Tether.StorageError — the failures of volumes, objects and files

What a caller above the protocol sees.  `ofPtp` restates the failure of an exchange; an answer of the camera
becomes the closest failure that has a meaning for files.  `errno` numbers the failures for a file system of a
POSIX system, with Linux's numbers.
-/

namespace Tether

open Ptp Text

/-- Why a call about volumes, objects or files failed. -/
inductive StorageError where
  /-- No session is open, here or by the camera's account. -/
  | notConnected
  /-- A transfer was not complete in time. -/
  | timeout
  /-- The link is gone. -/
  | disconnected
  /-- A transfer failed otherwise. -/
  | transport (message : String)
  /-- A container or a dataset broke the protocol. -/
  | protocol (message : String)
  /-- The camera is busy; a later call may succeed. -/
  | deviceBusy
  /-- The card is full. -/
  | storageFull
  /-- The camera refused to change a protected object or card. -/
  | writeProtected
  /-- Writing is refused here: the card is protected or mounted for reading only. -/
  | readOnly
  /-- No object has this handle. -/
  | objectNotFound (handle : UInt32)
  /-- No card to work on: the slot is not in the needed state, or none is active. -/
  | noSuchDevice (slot : Option Nat)
  /-- There is no such slot. -/
  | invalidSlot (slot : Nat)
  /-- Refused here. -/
  | invalidArgument (fault : ArgumentFault)
  /-- A node without an object, or no entry of that name. -/
  | noSuchFile (name : String)
  /-- These files do not allow the operation. -/
  | permissionDenied (operation : String)
  /-- There is no room for that many bytes. -/
  | outOfMemory (bytes : Nat)
  /-- The object has 4 GiB or more, and its content past that cannot be reached. -/
  | fileTooLarge (handle : UInt32)
  /-- A settings file could not be read. -/
  | io (message : String)
  /-- Any other answer of the camera. -/
  | device (operation : Operation) (code : ResponseCode)
deriving DecidableEq

namespace StorageError

/-- Whether the call may succeed when it is made again. -/
def isRetryable : StorageError → Bool
  | .timeout | .deviceBusy => true
  | _ => false

/-- Whether the failure was decided here, without a word from the camera. -/
def isLocal : StorageError → Bool
  | .readOnly | .noSuchDevice _ | .invalidSlot _ | .invalidArgument _ | .noSuchFile _ | .permissionDenied _
  | .outOfMemory _ | .fileTooLarge _ | .io _ => true
  | _ => false

/-- The number of the failure on Linux. -/
def errno : StorageError → Nat
  | .notConnected => 107
  | .timeout => 110
  | .disconnected => 19
  | .transport _ => 5
  | .io _ => 5
  | .protocol _ => 71
  | .deviceBusy => 16
  | .storageFull => 28
  | .writeProtected => 30
  | .readOnly => 30
  | .objectNotFound _ => 2
  | .noSuchFile _ => 2
  | .noSuchDevice _ => 19
  | .invalidSlot _ => 22
  | .invalidArgument _ => 22
  | .permissionDenied _ => 1
  | .outOfMemory _ => 12
  | .fileTooLarge _ => 27
  | .device _ _ => 5

/-- A handle as messages show it. -/
def handleText (handle : UInt32) : String :=
  "0x" ++ hexCapital 8 handle.toNat

/-- The failure in words. -/
def message : StorageError → String
  | .notConnected => "camera is not connected"
  | .timeout => "camera did not answer in time"
  | .disconnected => "camera disconnected"
  | .transport text => "transport error: " ++ text
  | .protocol text => "protocol error: " ++ text
  | .deviceBusy => "camera is busy"
  | .storageFull => "card is full"
  | .writeProtected => "card or object is write-protected"
  | .readOnly => "read-only filesystem"
  | .objectNotFound handle => "object " ++ handleText handle ++ " not found"
  | .noSuchDevice (some slot) => "no usable card in slot " ++ natural slot
  | .noSuchDevice none => "no active card"
  | .invalidSlot slot => "invalid slot " ++ natural slot
  | .invalidArgument fault => "invalid argument: " ++ fault.message
  | .noSuchFile name => "no such file: " ++ name
  | .permissionDenied operation => operation ++ " is not permitted"
  | .outOfMemory n => "could not allocate " ++ natural n ++ " bytes"
  | .fileTooLarge handle => "object " ++ handleText handle ++ " is larger than 4 GiB"
  | .io text => "I/O error: " ++ text
  | .device op code => op.label ++ " failed with " ++ code.label

/-- The failure behind an answer of the camera; `handle` is the object that the operation was about. -/
def ofResponse (operation : Operation) (code : ResponseCode) (handle : Option UInt32) : StorageError :=
  match code with
  | .sessionNotOpen => .notConnected
  | .deviceBusy | .canonDeviceBusy => .deviceBusy
  | .storeFull => .storageFull
  | .objectWriteProtected | .storeReadOnly => .writeProtected
  | .invalidObjectHandle => .objectNotFound (handle.getD 0)
  | .invalidStorageId | .storeNotAvailable => .noSuchDevice none
  | .invalidParameter | .parameterNotSupported | .invalidParentObject =>
      .invalidArgument (.rejected operation code)
  | .accessDenied => .permissionDenied operation.name
  | _ => .device operation code

/-- The failure of an exchange about the object `handle`, if it was about one. -/
def ofPtp (handle : Option UInt32) : PtpError → StorageError
  | .notConnected => .notConnected
  | .invalidArgument fault => .invalidArgument fault
  | .transport .timeout => .timeout
  | .transport .disconnected => .disconnected
  | .transport (.io text) => .transport text
  | .framing fault => .protocol fault.message
  | .invalidDataset fault => .protocol fault.message
  | .outOfMemory n => .outOfMemory n
  | .device operation code => ofResponse operation code handle

end StorageError

end Tether
