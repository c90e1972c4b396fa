import Tether.Engine.Basic

/-!
# Tether.Engine.Reassembly — the next container from the link

Transfers need not match containers: a container may come in many transfers and a transfer may hold many
containers.  `nextContainer` receives until the front of what was received is a whole container and leaves the
rest for the next call.  Up to four empty transfers in a row are passed over.  Every transfer takes from the
link's backlog, so reading ends whatever the camera answers.
-/

namespace Tether.Engine

open Ptp

variable {τ : Type}

/-- Empty transfers in a row that are passed over. -/
def maxEmptyTransfers : Nat := 4

/-- What is known about the container at the front of some bytes. -/
inductive Front where
  /-- It is not complete. -/
  | incomplete
  /-- It declares less than a header. -/
  | broken (declared : Nat)
  /-- It is complete. -/
  | whole (frame rest : Bytes)
deriving DecidableEq

/-- Looks at the container at the front of some bytes. -/
def front (bytes : Bytes) : Front :=
  match declaredLength? bytes with
  | none => .incomplete
  | some declared =>
    if declared < headerLength then .broken declared
    else if bytes.length < declared then .incomplete
    else .whole (bytes.take declared) (bytes.drop declared)

variable [Transport τ]

/-- Receives until a container is whole, after so many empty transfers in a row, and takes it.

Before the rest of a container is received, room is made for it, and the refusal is `outOfMemory` when there is
none.  That depends on the memory of the host and on nothing that was sent or received; it is left out, and room
is taken for granted. -/
def awaitContainer (empties : Nat) (e : Engine τ) : Except PtpError Container × Engine τ :=
  match front e.received with
  | .broken declared => (.error (.framing (.streamLengthBelowHeader declared)), e)
  | .whole frame rest => (Container.decode frame, { e with received := rest })
  | .incomplete =>
    match _h : Transport.receive e.packetLimit e.link with
    | (.error error, link) => (.error (.transport error), { e with link })
    | (.ok [], link) =>
      if maxEmptyTransfers ≤ empties then (.error (.framing .onlyEmptyTransfers), { e with link })
      else awaitContainer (empties + 1) { e with link }
    | (.ok (b :: bs), link) => awaitContainer 0 { e with link, received := e.received ++ b :: bs }
termination_by Transport.backlog e.link
decreasing_by
  all_goals exact Nat.lt_of_le_of_lt (Nat.le_add_left _ _) (Transport.backlog_receive_lt e.packetLimit_pos _h)

/-- The next container from the link. -/
def nextContainer : Action (Engine τ) PtpError Container :=
  awaitContainer 0

end Tether.Engine
