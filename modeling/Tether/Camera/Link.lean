import Tether.Camera.Wire

/-!
# Tether.Camera.Link — a link that can play scripts

A link stands between a host and a camera, keeps a record of everything that passes, and can be given scripts.  A
script waits for a command of its operation; from that command on and until the next one nothing reaches the
camera, and the host receives what the script holds, then nothing.  A script can also let one of the host's
transfers fail.
-/

namespace Tether

open Ptp

/-- One transfer, or a failure to receive. -/
inductive Delivery where
  | transfer (bytes : Bytes)
  | failure (error : TransportError)
deriving DecidableEq

/-- What a script puts into a transfer. -/
inductive ScriptContent where
  /-- Bytes as they are. -/
  | raw (bytes : Bytes)
  /-- A container; its transaction id is that of the command and so much more. -/
  | container (kind : ContainerKind) (code : UInt16) (parameters : List UInt32) (payload : Bytes) (shift : UInt32)
deriving DecidableEq

/-- One line of a script. -/
inductive ScriptItem where
  /-- A failure to receive. -/
  | failure (error : TransportError)
  /-- Some empty transfers. -/
  | empty (count : Nat)
  /-- Content, cut into transfers of these lengths and one for the rest. -/
  | content (what : ScriptContent) (cuts : List Nat)
  /-- Content behind that of the transfer before; where there is none, content of its own, cut likewise. -/
  | joined (what : ScriptContent) (cuts : List Nat)
deriving DecidableEq

/-- A script. -/
structure Script where
  /-- The operation that starts it. -/
  trigger : Operation
  /-- What the host receives. -/
  items : List ScriptItem
  /-- Which of the host's transfers fails, counted from the command, and how. -/
  failingSend : Option (Nat × TransportError)
deriving DecidableEq

/-- A script that has started. -/
structure Playback where
  /-- What the host has yet to receive. -/
  deliveries : List Delivery
  /-- Which of the host's transfers fails and how. -/
  failingSend : Option (Nat × TransportError)
  /-- Transfers of the host so far, the command counted. -/
  sent : Nat
deriving DecidableEq

namespace Script

/-- The bytes of a content within a transaction. -/
def bytes (transaction : UInt32) : ScriptContent → Bytes
  | .raw bytes => bytes
  | .container kind code parameters payload shift =>
    let c : Container := { kind, code, transaction := transaction + shift, parameters, payload }
    c.encode.toOption.getD []

/-- Bytes cut into pieces of the given lengths and the rest, empty ones where there are not enough bytes. -/
def cut : List Nat → Bytes → List Bytes
  | [], bytes => [bytes]
  | n :: ns, bytes => bytes.take n :: cut ns (bytes.drop n)

/-- Cutting loses nothing. -/
theorem flatten_cut (ns : List Nat) (bytes : Bytes) : (cut ns bytes).flatten = bytes := by
  induction ns generalizing bytes with
  | nil => simp [cut]
  | cons n ns ih => rw [cut, List.flatten_cons, ih, List.take_append_drop]

/-- Adds a line to the deliveries before it. -/
def addItem (transaction : UInt32) (before : List Delivery) : ScriptItem → List Delivery
  | .failure error => before ++ [.failure error]
  | .empty count => before ++ List.replicate count (.transfer [])
  | .content what cuts => before ++ (cut cuts (bytes transaction what)).map .transfer
  | .joined what cuts =>
    match before.getLast? with
    | some (.transfer last) => before.dropLast ++ [.transfer (last ++ bytes transaction what)]
    | _ => before ++ (cut cuts (bytes transaction what)).map .transfer

/-- The script as started by a command of a transaction. -/
def start (script : Script) (transaction : UInt32) : Playback where
  deliveries := script.items.foldl (addItem transaction) []
  failingSend := script.failingSend
  sent := 0

end Script

/-- A camera and the link to it. -/
structure Link where
  /-- The camera at the other end. -/
  camera : Camera
  /-- Scripts that have not started. -/
  waiting : List Script := []
  /-- The script that plays. -/
  playing : Option Playback := none
  /-- Every transfer that the host sent. -/
  sends : List Bytes := []
  /-- The limit of every transfer that the host asked for. -/
  receives : List Nat := []

namespace Link

/-- The header of a transfer that is a command: it declares its own length. -/
def commandHeader? (bytes : Bytes) : Option Header :=
  match Header.decoder bytes with
  | (.ok header, _) =>
    if header.length.toNat = bytes.length ∧ header.kind = ContainerKind.command.code then some header else none
  | (.error _, _) => none

/-- Takes the first script out that waits for an operation. -/
def takeScript (operation : Operation) : List Script → Option Script × List Script
  | [] => (none, [])
  | s :: rest =>
    if s.trigger = operation then (some s, rest)
    else
      let (found, rest) := takeScript operation rest
      (found, s :: rest)

/-- Ends the script that plays and starts the one that waits for the command, if the transfer is a command. -/
def cue (bytes : Bytes) (l : Link) : Link :=
  match commandHeader? bytes with
  | none => l
  | some header =>
    let (script, waiting) := takeScript (.ofCode header.code) l.waiting
    { l with waiting, playing := script.map fun s => s.start header.transaction }

/-- Takes one transfer from the host: the script's, if one plays, or else the camera's. -/
def send (bytes : Bytes) : Action Link TransportError Unit := fun l =>
  let l := cue bytes { l with sends := l.sends ++ [bytes] }
  match l.playing with
  | some p =>
    let l := { l with playing := some { p with sent := p.sent + 1 } }
    match p.failingSend with
    | some (k, error) => if k = p.sent then (.error error, l) else (.ok (), l)
    | none => (.ok (), l)
  | none =>
    let (result, camera) := Camera.send bytes l.camera
    (result, { l with camera })

/-- Hands out one transfer: the script's, if one plays, or else the camera's. -/
def receive (limit : Nat) : Action Link TransportError Bytes := fun l =>
  let l := { l with receives := l.receives ++ [limit] }
  match l.playing with
  | some p =>
    match p.deliveries with
    | [] => (.error .timeout, l)
    | .failure error :: rest => (.error error, { l with playing := some { p with deliveries := rest } })
    | .transfer bytes :: rest =>
      if limit < bytes.length then
        (.ok (bytes.take limit),
          { l with playing := some { p with deliveries := .transfer (bytes.drop limit) :: rest } })
      else (.ok bytes, { l with playing := some { p with deliveries := rest } })
  | none =>
    let (result, camera) := Camera.receive limit l.camera
    (result, { l with camera })

/-- One more than twice its bytes for every delivery. -/
def weight : List Delivery → Nat
  | [] => 0
  | .transfer bytes :: rest => 2 * bytes.length + 1 + weight rest
  | .failure _ :: rest => 1 + weight rest

/-- The backlog of the script that plays, or else of the camera. -/
def backlog (l : Link) : Nat :=
  match l.playing with
  | some p => weight p.deliveries
  | none => l.camera.backlog

theorem backlog_receive_lt {limit : Nat} {l l' : Link} {bytes : Bytes} (hl : 0 < limit)
    (h : receive limit l = (.ok bytes, l')) : bytes.length + backlog l' < backlog l := by
  unfold receive at h
  dsimp only at h
  split at h
  · rename_i p hp
    split at h
    · simp at h
    · simp at h
    · rename_i chunk rest hd
      split at h <;> obtain ⟨hb, rfl⟩ := Prod.mk.inj h <;> cases hb <;> simp [backlog, hp, hd, weight] <;> omega
  · rename_i hp
    obtain ⟨hr, rfl⟩ := Prod.mk.inj h
    simpa [backlog, hp] using Camera.backlog_receive_lt hl (Prod.ext hr rfl)

instance : Transport Link where
  send := send
  receive := receive
  backlog := backlog
  backlog_receive_lt := backlog_receive_lt

end Link

end Tether
