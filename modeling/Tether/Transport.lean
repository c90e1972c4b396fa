import Tether.Action
import Tether.Bytes

/-!
# Tether.Transport — the link to a camera

A transport carries transfers, byte strings of any length, to a camera and back, in order and without loss.
Sending and receiving end or fail on their own; nothing here repeats a failed call.

Every transport has a backlog, a bound on the transfers and on the bytes in them that can still be received
before it fails or something is sent.  It makes reading until a response comes a terminating loop, whatever the
camera answers.
-/

namespace Tether

/-- Why a transfer failed. -/
inductive TransportError where
  /-- It was not complete within the transport's time. -/
  | timeout
  /-- The link is gone. -/
  | disconnected
  /-- Anything else. -/
  | io (message : String)
deriving DecidableEq

/-- Kinds of failure that an operating system reports for a link. -/
inductive LinkFailure where
  | timedOut
  | wouldBlock
  | brokenPipe
  | connectionReset
  | connectionAborted
  | notConnected
  | unexpectedEof
  | unclassified
deriving DecidableEq

namespace TransportError

/-- The failure of a transfer behind a reported failure; the message is kept only for one without a meaning
here. -/
def ofLink (failure : LinkFailure) (message : String) : TransportError :=
  match failure with
  | .timedOut | .wouldBlock => .timeout
  | .brokenPipe | .connectionReset | .connectionAborted | .notConnected | .unexpectedEof => .disconnected
  | .unclassified => .io message

/-- The failure in words. -/
def message : TransportError → String
  | .timeout => "transport timed out"
  | .disconnected => "transport disconnected"
  | .io text => "transport I/O error: " ++ text

end TransportError

/-- Links that carry transfers. -/
class Transport (τ : Type) where
  /-- Sends one transfer. -/
  send : Bytes → Action τ TransportError Unit
  /-- Receives one transfer of at most so many bytes. -/
  receive : Nat → Action τ TransportError Bytes
  /-- Bounds the transfers and the bytes in them that can be received before something is sent. -/
  backlog : τ → Nat
  /-- A transfer received takes its bytes and one more from the backlog. -/
  backlog_receive_lt : ∀ {limit : Nat} {link link' : τ} {bytes : Bytes}, 0 < limit →
    receive limit link = (.ok bytes, link') → bytes.length + backlog link' < backlog link

end Tether
