import Tether.Decoder
import Tether.Ptp.Error

/-!
# Tether.Ptp.Container — the units of the wire

Everything that goes over the wire is a container.  It begins with a header of twelve bytes: its whole length,
its kind, a code and a transaction id.  Commands, responses and events carry up to five 32-bit parameters behind
the header, data containers carry a payload of any length.

`encode` refuses what the format cannot express, `decode` accepts exactly one whole container.
-/

namespace Tether.Ptp

/-- A container. -/
structure Container where
  /-- What the container is. -/
  kind : ContainerKind
  /-- Code of the operation, response or event. -/
  code : UInt16
  /-- Transaction that the container belongs to. -/
  transaction : UInt32
  /-- Parameters; none in a data container. -/
  parameters : List UInt32
  /-- Payload of a data container; empty in any other. -/
  payload : Bytes
deriving DecidableEq

/-- The first twelve bytes of a container. -/
structure Header where
  /-- Declared length of the whole container. -/
  length : UInt32
  /-- Kind of the container, as a code. -/
  kind : UInt16
  /-- Code of the operation, response or event. -/
  code : UInt16
  /-- Transaction that the container belongs to. -/
  transaction : UInt32
deriving DecidableEq

namespace Header

/-- The header as bytes. -/
def encode (h : Header) : Bytes :=
  Bytes.ofU32 h.length ++ Bytes.ofU16 h.kind ++ Bytes.ofU16 h.code ++ Bytes.ofU32 h.transaction

/-- Takes a header off the front of a byte string. -/
def decoder : Decoder Header := do
  let length ← Decoder.u32 "Length"
  let kind ← Decoder.u16 "Type"
  let code ← Decoder.u16 "Code"
  let transaction ← Decoder.u32 "TransactionID"
  return { length, kind, code, transaction }

/-- The header of a container of `length` bytes, unless that does not fit the length field. -/
def make (length : Nat) (kind : ContainerKind) (code : UInt16) (transaction : UInt32) : Except PtpError Header :=
  if maxWord < length then .error (.invalidArgument (.containerTooLong length))
  else .ok { length := UInt32.ofNat length, kind := kind.code, code, transaction }

end Header

/-- The length that a container declares, once its header is complete. -/
def declaredLength? (bytes : Bytes) : Option Nat :=
  match Header.decoder bytes with
  | (.ok header, _) => some header.length.toNat
  | (.error _, _) => none

/-- The header of the data container for a payload of so many bytes, unless the whole does not fit the length
field. -/
def payloadHeader (code : UInt16) (transaction : UInt32) (length : Nat) : Except PtpError Bytes :=
  (Header.make (headerLength + length) .data code transaction).map Header.encode

/-- The header of the data container for a payload whose length is a 64-bit word.  Its sum with the length of the
header has to be such a word too; no answer is possible where it is not. -/
def dataHeader (code : UInt16) (transaction : UInt32) (length : UInt64) : Option (Except PtpError Bytes) :=
  if headerLength + length.toNat < UInt64.size then some (payloadHeader code transaction length.toNat) else none

namespace Container

/-- A command. -/
def command (code : UInt16) (transaction : UInt32) (parameters : List UInt32) : Container :=
  { kind := .command, code, transaction, parameters, payload := [] }

/-- A response. -/
def response (code : UInt16) (transaction : UInt32) (parameters : List UInt32) : Container :=
  { kind := .response, code, transaction, parameters, payload := [] }

/-- An event. -/
def event (code : UInt16) (transaction : UInt32) (parameters : List UInt32) : Container :=
  { kind := .event, code, transaction, parameters, payload := [] }

/-- A data container. -/
def data (code : UInt16) (transaction : UInt32) (payload : Bytes) : Container :=
  { kind := .data, code, transaction, parameters := [], payload }

/-- Bytes behind the header. -/
def body (c : Container) : Bytes :=
  if c.kind = .data then c.payload else Bytes.ofU32s c.parameters

/-- Length of the container on the wire. -/
def encodedLength (c : Container) : Nat :=
  if c.kind = .data then headerLength + c.payload.length else headerLength + c.parameters.length * 4

/-- The container as bytes; refused when it has too many parameters or is too long for its length field. -/
def encode (c : Container) : Except PtpError Bytes :=
  if c.kind ≠ .data ∧ maxParameters < c.parameters.length then
    .error (.invalidArgument (.containerParameters c.parameters.length))
  else
    (Header.make c.encodedLength c.kind c.code c.transaction).map fun header => header.encode ++ c.body

/-- The container behind a header and the bytes after it. -/
def ofHeader (header : Header) (rest : Bytes) : Except PtpError Container :=
  match ContainerKind.ofCode header.kind with
  | .data => .ok (data header.code header.transaction rest)
  | .other code => .error (.framing (.unknownKind code))
  | kind =>
    if rest.length % 4 ≠ 0 then .error (.framing (.unalignedParameters rest.length))
    else if maxParameters < rest.length / 4 then .error (.framing (.tooManyParameters (rest.length / 4)))
    else .ok { kind, code := header.code, transaction := header.transaction,
               parameters := Bytes.toU32s rest, payload := [] }

/-- The container that a frame is; the frame has to be as long as its header declares. -/
def decode (frame : Bytes) : Except PtpError Container :=
  match Header.decoder frame with
  | (.error _, _) => .error (.framing (.headerIncomplete frame.length))
  | (.ok header, rest) =>
    if header.length.toNat < headerLength then .error (.framing (.lengthBelowHeader header.length.toNat))
    else if header.length.toNat ≠ frame.length then
      .error (.framing (.lengthMismatch header.length.toNat frame.length))
    else ofHeader header rest

end Container

end Tether.Ptp
