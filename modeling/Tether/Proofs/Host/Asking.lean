import Tether.Files.Mount
import Tether.Proofs.Cache.Runs
import Tether.Proofs.Camera.Performing
import Tether.Proofs.Volume.Steps

/-!
# Tether.Proofs.Host.Asking — a host speaks to its camera by requests alone

Every call of a host, of its bay and of its store asks the engine for some operations and does the rest by
itself.  So what requests keep of an engine (`Lasting`) is kept by every call, uploads as long as they are
allowed.
-/

namespace Tether

open Ptp Tether.Action
open Calendar (Instant)

open Engine (Lasting Request)

/-! ## Calls of a bay -/

namespace Bay

variable {may P : Engine Camera → Prop} (hP : Lasting may P)
include hP

theorem lasts_inspect (storage : UInt32) (v : Volume) {b : Bay Camera} (h : P b.engine) :
    P (inspect storage v b).2.engine :=
  preserves_inspect (fun other _ => hP.ask (.storageInfo other) id)
    (fun other format _ => hP.ask (.countObjects other format) id)
    storage v h

omit hP in
theorem engine_vacate (slot : Slot) (b : Bay Camera) : (b.vacate slot).engine = b.engine :=
  engine_reportUnmounted slot b

theorem lasts_scan : scan.Keeps fun b : Bay Camera => P b.engine :=
  preserves_scan (fun storage _ => hP.ask (.storageInfo storage) id)
    (fun storage format _ => hP.ask (.countObjects storage format) id) fun _ => hP.ask .storageIds id

theorem lasts_refreshSlot (slot : Slot) {b : Bay Camera} (h : P b.engine) : P (b.refreshSlot slot).1.engine := by
  unfold refreshSlot
  dsimp only
  split
  · exact h
  · have hinspect := lasts_inspect hP (b.table.volume slot).storageId (b.table.volume slot) h
    cases hx : inspect (b.table.volume slot).storageId (b.table.volume slot) b with
    | mk r b' =>
      rw [hx] at hinspect
      cases r with
      | ok v => exact hinspect
      | error error =>
        dsimp only
        split
        · rw [engine_vacate]
          exact hinspect
        · exact hinspect

theorem lasts_refresh {b : Bay Camera} (h : P b.engine) : P b.refresh.2.engine :=
  lasts_refreshSlot hP 1 (lasts_refreshSlot hP 0 h)

omit hP in
theorem lasts_mount (slot : Nat) : (mount slot).Keeps fun b : Bay Camera => P b.engine :=
  keeps_bind (keeps_ofExcept _) fun _ => keeps_bind keeps_state fun _ => keeps_guard (keeps_change fun _ h => h)

omit hP in
theorem lasts_setActive (slot : Nat) : (setActive slot).Keeps fun b : Bay Camera => P b.engine :=
  keeps_bind (keeps_ofExcept _) fun _ => keeps_bind keeps_state fun _ => keeps_guard (keeps_change fun _ h => h)

omit hP in
theorem lasts_unmount (slot : Nat) : (unmount slot).Keeps fun b : Bay Camera => P b.engine := by
  refine keeps_bind (keeps_ofExcept _) fun slot => keeps_change fun b h => ?_
  rw [engine_vacate]
  exact h

theorem lasts_format (slot : Nat) : (format slot).Keeps fun b : Bay Camera => P b.engine := by
  refine keeps_bind (keeps_ofExcept _) fun slot => keeps_bind (keeps_read _) fun v => ?_
  refine keeps_guard ?_
  exact keeps_bind (preserves_call fun e h => hP.ask (.formatStore _) id h) fun _ => keeps_change fun _ h => h

omit hP in
theorem lasts_welcome (slot : Nat) : (welcome slot).Keeps fun b : Bay Camera => P b.engine :=
  keeps_bind (keeps_volume slot) fun _ => keeps_ite (lasts_mount slot) (keeps_pure _)

omit hP in
theorem lasts_noteFailed (slot : Slot) {b : Bay Camera} (h : P b.engine) : P (noteFailed slot b).engine := by
  show P (b.reportUnmounted slot).engine
  rw [engine_reportUnmounted]
  exact h

theorem lasts_handleCard (slot : Nat) (status : VolumeStatus) :
    (handleCard slot status).Keeps fun b : Bay Camera => P b.engine := by
  refine keeps_bind (keeps_ofExcept _) fun s => ?_
  cases status with
  | inserted | mounted => exact keeps_bind (lasts_scan hP) fun _ => lasts_welcome slot
  | empty => exact lasts_unmount slot
  | full | writeProtected => exact keeps_change fun _ h => h
  | error => exact keeps_change fun _ h => lasts_noteFailed s h

theorem lasts_handleStorage (storage : UInt32) (status : VolumeStatus) :
    (handleStorage storage status).Keeps fun b : Bay Camera => P b.engine := by
  refine keeps_bind (keeps_read _) fun slot => ?_
  cases slot with
  | none => exact keeps_pure _
  | some slot => exact lasts_handleCard hP slot status

theorem lasts_reactTo (event : DeviceEvent) : (reactTo event).Keeps fun b : Bay Camera => P b.engine := by
  cases event with
  | storeAdded storage =>
    refine keeps_bind (lasts_scan hP) fun _ => keeps_bind (keeps_read _) fun slot => ?_
    cases slot with
    | none => exact keeps_pure _
    | some slot => exact lasts_welcome _
  | storeRemoved storage => exact lasts_handleStorage hP storage .empty
  | storeFull storage => exact lasts_handleStorage hP storage .full
  | storageInfoChanged storage => exact keeps_change fun _ h => lasts_refresh hP h
  | deviceReset => exact keeps_bind (lasts_scan hP) fun _ => keeps_pure _
  | _ => exact keeps_pure _

end Bay

/-- The step is not one in which anything may happen to the link. -/
def BayStep.Plain : BayStep Camera → Prop
  | .engine _ => False
  | _ => True

/-- The call is not one in which anything may happen to the link. -/
def BayCall.Plain : BayCall Camera → Prop
  | .step s => s.Plain
  | _ => True

/-- The call is not one in which anything may happen to the bay. -/
def StoreCall.Plain : StoreCall Camera → Prop
  | .bay _ => False
  | _ => True

section Calls

variable {may P : Engine Camera → Prop} (hP : Lasting may P)
include hP

theorem BayStep.lasts_run {s : BayStep Camera} (hs : s.Plain) {b : Bay Camera}
    (h : P b.engine) : P (s.run b).engine := by
  cases s with
  | scan => exact Bay.lasts_scan hP b h
  | refresh => exact Bay.lasts_refresh hP h
  | mount n => exact Bay.lasts_mount n b h
  | unmount n => exact Bay.lasts_unmount n b h
  | format n => exact Bay.lasts_format hP n b h
  | setActive n => exact Bay.lasts_setActive n b h
  | touch slot => exact h
  | noteFull slot => exact h
  | noteProtected slot => exact h
  | noteFailed slot => exact Bay.lasts_noteFailed slot h
  | takeUploads uploads => exact h
  | engine f => exact hs.elim

/-- Calls of a bay keep what lasts. -/
theorem BayCall.lasts_run {c : BayCall Camera} (hc : c.Plain) {b : Bay Camera}
    (h : P b.engine) : P (c.run b).engine := by
  cases c with
  | step s => exact s.lasts_run hP hc h
  | unmountAll =>
    show P ((b.vacate 0).vacate 1).engine
    rw [Bay.engine_vacate, Bay.engine_vacate]
    exact h
  | card n status => exact Bay.lasts_handleCard hP n status b h
  | report event => exact Bay.lasts_reactTo hP event b h

end Calls

/-! ## Calls of a host -/

namespace Host

variable {may P : Engine Camera → Prop} (hP : Lasting may P)
include hP

omit hP in
theorem lasts_call {α : Type} {handle : Option UInt32} {x : Action (Engine Camera) PtpError α} (hx : x.Keeps P) :
    (call handle x).Keeps fun h : Host Camera => P h.bay.engine :=
  fun h hp => Bay.preserves_call hx h.bay hp

omit hP in
theorem keeps_onStore {Q : Engine Camera → Prop} {α : Type} (f : Store → α × Store) :
    (onStore f : Action (Host Camera) StorageError α).Keeps fun h => Q h.bay.engine :=
  fun _ h => h

theorem keeps_count (f : Stats → Stats) :
    (Action.change (count f) : Action (Host Camera) StorageError Unit).Keeps fun h => P h.bay.engine :=
  keeps_change fun _ h => hP.idle h rfl rfl

theorem lasts_fetch (handle : UInt32) : (fetch handle).Keeps fun h : Host Camera => P h.bay.engine := by
  refine keeps_guard ?_
  refine keeps_bind (lasts_call fun e h => hP.ask (.objectInfo handle) id h) fun info => ?_
  exact keeps_bind (keeps_read _) fun metadata => keeps_onStore _

theorem lasts_readRange (ref : ObjectRef) (length offset : Nat) :
    (readRange ref length offset).Keeps fun h : Host Camera => P h.bay.engine := by
  refine keeps_bind (keeps_read _) fun o => ?_
  refine keeps_ite (keeps_bind (keeps_change fun _ h => hP.idle h rfl rfl) fun _ => keeps_pure _) ?_
  refine keeps_guard ?_
  refine keeps_ite (keeps_pure _) ?_
  refine keeps_bind (lasts_call fun e h => hP.ask (.downloadPart _ _ _) id h) fun data => ?_
  exact keeps_bind (keeps_count hP _) fun _ => keeps_pure _

theorem lasts_cache (ref : ObjectRef) : (cache ref).Keeps fun h : Host Camera => P h.bay.engine := by
  refine keeps_bind keeps_state fun h => ?_
  refine keeps_ite (keeps_bind (keeps_change fun _ h => h) fun _ => keeps_pure _) ?_
  refine keeps_ite (keeps_pure _) ?_
  refine keeps_bind (lasts_call fun e h => hP.ask (.download _) id h) fun payload => ?_
  exact keeps_bind (keeps_count hP _) fun _ => keeps_ite (keeps_pure _) (keeps_onStore _)

theorem lasts_delete (ref : ObjectRef) : (delete ref).Keeps fun h : Host Camera => P h.bay.engine := by
  refine keeps_bind (keeps_read _) fun handle => ?_
  exact keeps_bind (lasts_call fun e h => hP.ask (.deleteObject _) id h) fun _ => keeps_change fun _ h => h

theorem lasts_writeNew (name : String) (content : Bytes) (parent : UInt32) {h : Host Camera} (hp : P h.bay.engine)
    (hmay : may h.bay.engine) : P (writeNew name content parent h).2.bay.engine := by
  refine Leaves.state (P := fun h' : Host Camera => P h'.bay.engine) ?_
  refine leaves_bind (leaves_ofExcept (fun _ _ => ?_) fun _ _ => hp)
  refine leaves_bind (leaves_ofExcept (fun size _ => ?_) fun _ _ => hp)
  refine leaves_bind (leaves_state ?_)
  refine leaves_bind (leaves_ofExcept (fun target _ => ?_) fun _ _ => hp)
  refine leaves_bind (leaves_call_of
    ((leaves_of_state (hP.announceUpload _ _ _ hp hmay)).mono ?_ fun _ _ he => he))
  intro handle engine he
  refine leaves_bind (leaves_call_of ((leaves_of_state (hP.keeps_sendContent content engine he)).mono ?_
    fun _ _ he' => he'))
  intro _ engine' he'
  refine leaves_bind (leaves_change (leaves_bind (leaves_read (leaves_ofFunction ?_))))
  exact hP.idle he' rfl rfl

end Host

/-- The call uploads an object. -/
def StoreCall.TakesHandle : StoreCall Camera → Prop
  | .writeNew .. => True
  | _ => False

/-- Calls of a store keep what lasts. -/
theorem StoreCall.lasts_run {may P : Engine Camera → Prop} (hP : Lasting may P) {c : StoreCall Camera}
    (hc : c.Plain)
    {h : Host Camera} (hp : P h.bay.engine) (hmay : c.TakesHandle → may h.bay.engine) :
    P (c.run h).bay.engine := by
  cases c with
  | fetch handle => exact Host.lasts_fetch hP handle h hp
  | readRange ref length offset => exact Host.lasts_readRange hP ref length offset h hp
  | cache ref => exact Host.lasts_cache hP ref h hp
  | writeNew name content parent => exact Host.lasts_writeNew hP name content parent hp (hmay trivial)
  | delete ref => exact Host.lasts_delete hP ref h hp
  | bay f => exact hc.elim
  | _ => exact hp

end Tether
