import Tether.Camera.Operation

/-!
# Tether.Camera.Wire — a camera at the other end of the link

The camera puts containers together from what the host sends, carries out the commands among them and queues what
it answers.  A command of an upload waits for its data.
-/

namespace Tether.Camera

open Ptp

/-- Queues a container for the host. -/
def push (c : Camera) (container : Container) : Camera :=
  match container.encode with
  | .ok bytes => { c with inbound := c.inbound ++ [bytes] }
  | .error _ => c

/-- Queues a response. -/
def respond (c : Camera) (code : ResponseCode) (transaction : UInt32) (parameters : List UInt32) : Camera :=
  c.push (.response code.code transaction parameters)

/-- Takes the first fault out that is armed for an operation. -/
def takeFault (operation : Operation) : List (Operation × Fault) → Option Fault × List (Operation × Fault)
  | [] => (none, [])
  | f :: fs =>
    if f.1 = operation then (some f.2, fs)
    else
      let (found, rest) := takeFault operation fs
      (found, f :: rest)

/-- Carries out a command and queues its answer. -/
def answer (c : Camera) (operation : Operation) (command : Container) (data : Option Bytes) : Camera :=
  match perform operation command.parameters data c with
  | (.error code, c) => c.respond code command.transaction []
  | (.ok reply, c) =>
    let c := match reply.data with
      | some payload => c.push (.data operation.code command.transaction payload)
      | none => c
    c.respond .ok command.transaction reply.parameters

/-- Answers a command that is complete with its data: as an armed fault has it, or by carrying it out. -/
def dispatch (c : Camera) (operation : Operation) (command : Container) (data : Option Bytes) : Camera :=
  let (fault, faults) := takeFault operation c.faults
  let c := { c with faults }
  match fault with
  | none => c.answer operation command data
  | some (.respond code) => c.respond code command.transaction []
  | some .mismatch => c.respond .ok (command.transaction + 100) []
  | some .malformed =>
      c.push { Container.response ResponseCode.ok.code command.transaction [] with kind := .other 7 }
  | some .noResponse => c
  | some .disconnect => c.disconnect

/-- Takes in one container from the host. -/
def accept (c : Camera) (incoming : Container) : Camera :=
  match incoming.kind with
  | .command =>
    let operation := Operation.ofCode incoming.code
    let c := { c with commands := c.commands ++ [(operation, incoming.transaction)] }
    if operation = .sendObjectInfo ∨ operation = .sendObject then { c with awaitingData := some incoming }
    else c.dispatch operation incoming none
  | .data =>
    match c.awaitingData with
    | none => c
    | some command =>
      let c := { c with awaitingData := none }
      if command.transaction ≠ incoming.transaction then c.respond .invalidTransactionId command.transaction []
      else c.dispatch (.ofCode command.code) command (some incoming.payload)
  | _ => c

/-- Takes in one transfer from the host. -/
def send (bytes : Bytes) : Action Camera TransportError Unit := fun c =>
  if ¬ c.connected then (.error .disconnected, c)
  else
    let stream := unframe (c.outbound ++ bytes)
    let c := stream.containers.foldl accept { c with sends := c.sends + 1, outbound := stream.rest }
    match stream.fault with
    | none => (.ok (), c)
    | some e => (.error (.io e.message), c)

/-- Hands out one transfer of at most `limit` bytes; a longer one is cut and its rest stays first in the queue. -/
def receive (limit : Nat) : Action Camera TransportError Bytes := fun c =>
  if ¬ c.connected then (.error .disconnected, c)
  else
    match c.inbound with
    | [] => (.error .timeout, c)
    | chunk :: rest =>
      let n := min limit c.maxChunk
      if n < chunk.length then (.ok (chunk.take n), { c with inbound := chunk.drop n :: rest })
      else (.ok chunk, { c with inbound := rest })

/-- One more than twice its bytes for every transfer, which may be cut. -/
def weight : List Bytes → Nat
  | [] => 0
  | chunk :: rest => 2 * chunk.length + 1 + weight rest

/-- The weight of the transfers that wait. -/
def backlog (c : Camera) : Nat :=
  weight c.inbound

theorem backlog_receive_lt {limit : Nat} {c c' : Camera} {bytes : Bytes} (hl : 0 < limit)
    (h : receive limit c = (.ok bytes, c')) : bytes.length + backlog c' < backlog c := by
  unfold receive at h
  split at h
  · simp at h
  · split at h
    · simp at h
    · rename_i chunk rest hc
      have hn : 0 < min limit c.maxChunk := by have := c.maxChunk_pos; omega
      dsimp only at h
      split at h <;> obtain ⟨hb, rfl⟩ := Prod.mk.inj h <;> cases hb <;> simp [backlog, hc, weight] <;> omega

instance : Transport Camera where
  send := send
  receive := receive
  backlog := backlog
  backlog_receive_lt := backlog_receive_lt

end Tether.Camera
