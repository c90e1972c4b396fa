import Tether.Engine.Progress

/-!
# Tether.Engine.Exchange — one command and its answer

An exchange sends a command under a fresh transaction id, with its data if it has any, and reads containers until
the response comes.  Data containers on the way are the data of the answer.  Any other container, one of another
transaction, or a failed transfer ends the exchange; nothing is repeated, and what was received so far is dropped
because its place in the stream is unknown.
-/

namespace Tether

open Ptp

/-- What a camera answered to a command. -/
structure Response where
  /-- The operation that was asked for. -/
  operation : Operation
  /-- The transaction of the exchange. -/
  transaction : UInt32
  /-- The answer's code; any code is an answer. -/
  code : ResponseCode
  /-- The answer's parameters. -/
  parameters : List UInt32
  /-- The data that came before the response, if any did. -/
  data : Option Bytes
deriving DecidableEq

namespace Response

/-- Whether the camera did what it was asked for. -/
def isOk (r : Response) : Bool :=
  r.code.isOk

/-- The answer, unless it is a refusal. -/
def accepted (r : Response) : Except PtpError Response :=
  if r.isOk then .ok r else .error (.device r.operation r.code)

/-- The data of an answer that has to have some. -/
def expectData (r : Response) : Except PtpError Bytes :=
  match r.data with
  | some bytes => .ok bytes
  | none => .error (.framing (.noDataPhase r.operation))

end Response

namespace Engine

variable {τ : Type} [Transport τ]

/-- Data received so far with some more behind it. -/
def extendData (data : Option Bytes) (payload : Bytes) : Option Bytes :=
  some (data.getD [] ++ payload)

/-- Reads containers of a transaction up to its response; `data` is what came so far. -/
def collect (operation : Operation) (transaction : UInt32) (data : Option Bytes) (e : Engine τ) :
    Except PtpError Response × Engine τ :=
  match _h : nextContainer e with
  | (.error error, e') => (.error error, e')
  | (.ok c, e') =>
    if c.transaction ≠ transaction then
      (.error (.framing (.foreignTransaction operation transaction c.transaction c.kind)), e')
    else
      match c.kind with
      | .data => collect operation transaction (extendData data c.payload) e'
      | .response =>
        (.ok { operation, transaction, code := .ofCode c.code, parameters := c.parameters, data }, e')
      | kind => (.error (.framing (.unexpectedContainer operation kind)), e')
termination_by pending e
decreasing_by
  exact pending_nextContainer_lt _h

/-- Sends one transfer. -/
def transmit (bytes : Bytes) : Action (Engine τ) PtpError Unit :=
  .within Engine.link (fun link e => { e with link }) ((Transport.send bytes).mapError .transport)

/-- Sends the data of a command: its header and, if there is any, its content.  `checkCall` lets no data through
that are too long for a header. -/
def transmitData (operation : Operation) (transaction : UInt32) (payload : Bytes) :
    Action (Engine τ) PtpError Unit := do
  let header ← .ofExcept (payloadHeader operation.code transaction payload.length)
  transmit header
  if payload ≠ [] then transmit payload

/-- Sends a command and its data and reads the answer. -/
def exchange (operation : Operation) (transaction : UInt32) (parameters : List UInt32) (payload : Option Bytes) :
    Action (Engine τ) PtpError Response := do
  let command ← .ofExcept (Container.command operation.code transaction parameters).encode
  transmit command
  match payload with
  | some payload => transmitData operation transaction payload
  | none => pure ()
  collect operation transaction none

/-- Refuses what no exchange can carry, and any operation but the one that opens a session while none is open. -/
def checkCall (operation : Operation) (parameters : List UInt32) (payload : Option Bytes) (e : Engine τ) :
    Except PtpError Unit :=
  let payloadLength := (payload.map List.length).getD 0
  if maxParameters < parameters.length then
    .error (.invalidArgument (.operationParameters operation parameters.length))
  else if payload.isSome ∧ maxWord < headerLength + payloadLength then
    .error (.invalidArgument (.payloadTooLong operation payloadLength))
  else if operation ≠ .openSession ∧ e.session = none then .error .notConnected
  else .ok ()

/-- Settles the outcome of an exchange: it is counted, and a failed one leaves no received bytes. -/
def settle (outcome : Except PtpError Response × Engine τ) : Except PtpError Response × Engine τ :=
  match outcome with
  | (.ok response, e) => (.ok response, e.count (Stats.recordExchange e.clock response.isOk))
  | (.error error, e) => (.error error, { e with received := [] }.count (Stats.recordExchange e.clock false))

/-- Runs one transaction.  A call that is refused here leaves the engine as it was. -/
def execute (operation : Operation) (parameters : List UInt32) (payload : Option Bytes) :
    Action (Engine τ) PtpError Response := fun e =>
  match checkCall operation parameters payload e with
  | .error error => (.error error, e)
  | .ok () =>
    let transaction := e.nextTransaction
    settle (exchange operation transaction parameters payload { e with nextTransaction := nextId transaction })

/-- Runs one transaction that the camera has to answer with `ok`. -/
def executeOk (operation : Operation) (parameters : List UInt32) (payload : Option Bytes) :
    Action (Engine τ) PtpError Response := do
  let response ← execute operation parameters payload
  .ofExcept response.accepted

end Engine

end Tether
