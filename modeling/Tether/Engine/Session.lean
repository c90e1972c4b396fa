import Tether.Engine.Exchange

/-!
# Tether.Engine.Session — opening and closing the session

The engine refuses operations while no session is open, so all that is left here is to exchange the two commands
and to keep what is recorded true.  A camera may still hold a session of an earlier host; that session is taken
over.
-/

namespace Tether.Engine

open Ptp

variable {τ : Type} [Transport τ]

/-- The id of every session. -/
def sessionId : UInt32 := 1

/-- Whether an answer to the command that opens a session means that one is open. -/
def opensSession (code : ResponseCode) : Bool :=
  code = .ok || code = .sessionAlreadyOpen

/-- Opens the session; does nothing while one is open. -/
def openSession : Action (Engine τ) PtpError Unit := do
  if ← .read Engine.isSessionOpen then return
  let response ← execute .openSession [sessionId] none
  if opensSession response.code then .change fun e => { e with session := some sessionId }
  else .fail (.device response.operation response.code)

/-- Closes the session, whatever the camera answers; does nothing while none is open. -/
def closeSession (e : Engine τ) : Engine τ :=
  if e.isSessionOpen then { (execute .closeSession [] none e).2 with session := none } else e

end Tether.Engine
