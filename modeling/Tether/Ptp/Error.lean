import Tether.Ptp.Fault
import Tether.Transport

/-!
# Tether.Ptp.Error — the failures of an exchange

The constructors keep apart where a call failed: before anything was sent, on the link, in the form of what came
back, or by the camera's own answer, which is left to the caller to interpret.
-/

namespace Tether

open Ptp Text

/-- Why a call to the camera failed. -/
inductive PtpError where
  /-- No session is open and the operation is not the one that opens it. -/
  | notConnected
  /-- Refused before anything was sent. -/
  | invalidArgument (fault : ArgumentFault)
  /-- A transfer failed. -/
  | transport (error : TransportError)
  /-- A container broke the protocol. -/
  | framing (fault : FramingFault)
  /-- A dataset could not be read. -/
  | invalidDataset (fault : DatasetFault)
  /-- The camera answered with another code than `ok`. -/
  | device (operation : Operation) (code : ResponseCode)
  /-- There is no room for that many bytes. -/
  | outOfMemory (bytes : Nat)
deriving DecidableEq

namespace PtpError

/-- The camera's own answer, if that is the failure. -/
def responseCode : PtpError → Option ResponseCode
  | .device _ code => some code
  | _ => none

/-- The failure in words. -/
def message : PtpError → String
  | .notConnected => "no PTP session is open"
  | .invalidArgument fault => "invalid argument: " ++ fault.message
  | .transport error => error.message
  | .framing fault => "protocol framing error: " ++ fault.message
  | .invalidDataset fault => "invalid dataset: " ++ fault.message
  | .device op code => op.label ++ " failed with " ++ code.label
  | .outOfMemory n => "could not allocate " ++ natural n ++ " bytes"

end PtpError

end Tether
