import Tether.Ptp.Container

/-!
# Tether.Ptp.Event — what a camera reports on its own
-/

namespace Tether.Ptp

/-- An event, by what it is about. -/
inductive DeviceEvent where
  | objectAdded (handle : UInt32)
  | objectRemoved (handle : UInt32)
  | objectInfoChanged (handle : UInt32)
  | storeAdded (storageId : UInt32)
  | storeRemoved (storageId : UInt32)
  | storageInfoChanged (storageId : UInt32)
  | storeFull (storageId : UInt32)
  | deviceReset
  | captureComplete
  /-- An event without a meaning here. -/
  | other (code : UInt16) (parameters : List UInt32)
deriving DecidableEq

namespace DeviceEvent

/-- An event about its first parameter, which must be there. -/
def about (build : UInt32 → DeviceEvent) (c : Container) : Except PtpError DeviceEvent :=
  match c.parameters with
  | first :: _ => .ok (build first)
  | [] => .error (.framing (.eventWithoutParameter c.code))

/-- The event of an event container. -/
def ofContainer (c : Container) : Except PtpError DeviceEvent :=
  if c.kind ≠ .event then .error (.framing (.notAnEvent c.kind))
  else
    match EventCode.ofCode c.code with
    | .objectAdded => about objectAdded c
    | .objectRemoved => about objectRemoved c
    | .objectInfoChanged => about objectInfoChanged c
    | .storeAdded => about storeAdded c
    | .storeRemoved => about storeRemoved c
    | .storageInfoChanged => about storageInfoChanged c
    | .storeFull => about storeFull c
    | .deviceReset => .ok deviceReset
    | .captureComplete => .ok captureComplete
    | code => .ok (other code.code c.parameters)

/-- The event of a frame. -/
def decode (frame : Bytes) : Except PtpError DeviceEvent :=
  (Container.decode frame).bind ofContainer

end DeviceEvent

end Tether.Ptp
