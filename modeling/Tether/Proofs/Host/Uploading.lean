import Tether.Proofs.Camera.Faultless
import Tether.Proofs.Camera.Tree
import Tether.Proofs.Host.Effects
import Tether.Proofs.Volume.Turn

/-!
# Tether.Proofs.Host.Uploading — what an upload leaves

An upload goes to the active volume and takes the camera's next handle, and the store describes the object by
what was sent without asking the camera.  Without faults at the camera, an upload that succeeds is just that
(`Host.leaves_writeNew_uploaded`).
-/

namespace Tether

open Ptp Tether.Action
open Camera (Below)
open Engine (Faultless Ready)

/-- The format that an upload is given says no more than its name. -/
theorem FileType.ofObject_objectFormat (name : String) :
    ofObject (detect name).objectFormat name = detect name := by
  have hne := detect_ne_folder name
  unfold ofObject
  cases h : detect name with
  | folder => exact absurd h hne
  | _ => rfl

/-- An access is recorded, and the slots hold what they held. -/
theorem Bay.storageId_touch {τ : Type} (slot other : Slot) (b : Bay τ) :
    ((b.touch slot).table.volume other).storageId = (b.table.volume other).storageId := by
  unfold touch updateTable
  by_cases hne : other = slot
  · rw [hne, VolumeTable.volume_adjust_self]
  · rw [VolumeTable.volume_adjust_of_ne hne]

namespace Host

/-- Uploads go to the active card. -/
theorem activeVolume_of_uploadTarget {h : Host Camera} {slot : Slot} {storage : UInt32}
    (ht : uploadTarget h = .ok (slot, storage)) :
    h.bay.table.active = some slot ∧ (h.bay.table.volume slot).storageId = storage := by
  unfold uploadTarget at ht
  split at ht
  · cases ht
  · rename_i hactive
    dsimp only at ht
    split at ht
    · cases ht
    · cases ht
      exact ⟨hactive, rfl⟩

/-- The description with which the upload of a file begins. -/
def announcement (h : Host Camera) (storage parent : UInt32) (name : String) (content : Bytes) : ObjectInfo :=
  { ObjectInfo.forUpload storage parent name (FileType.detect name).objectFormat (.ofNat content.length) with
    captureDate := some h.bay.engine.clock.wholeSecond
    modificationDate := some h.bay.engine.clock.wholeSecond }

/-- From `h` to `h'` a file was put into a folder of the active storage, and `ref` stands for it. -/
structure Uploaded (storage parent : UInt32) (name : String) (content : Bytes) (h : Host Camera) (ref : ObjectRef)
    (h' : Host Camera) : Prop where
  named : checkName name = .ok ()
  fits : headerLength + content.length ≤ maxWord
  target : ∃ slot, uploadTarget h = .ok (slot, storage)
  canWrite : h.bay.engine.link.CanWrite storage
  folder : Camera.folderOf parent ≠ 0 →
    ∃ o, h.bay.engine.link.objects.get? (Camera.folderOf parent) = some o ∧ o.info.isFolder = true
  camera : (h.bay.engine.link.stored storage parent (h.announcement storage parent name content) content).Alike
    h'.bay.engine.link
  active : h'.bay.table.active = h.bay.table.active
  storageId : ∀ slot, (h'.bay.table.volume slot).storageId = (h.bay.table.volume slot).storageId
  index : ∃ slot, h'.store.index = (h.store.index.insert
    { handle := h.bay.engine.link.nextHandle
      metadata := .ofInfo (h.announcement storage parent name content) slot h.store.cameraModel }).2
  ref : ref = h.store.index.objects.size

variable {connected : Bool} {session : Option UInt32} {h : Host Camera}

/-- Without faults, an upload that succeeds puts the file into the camera and the store. -/
theorem leaves_writeNew_uploaded (hf : Faultless connected session h.bay.engine) (name : String) (content : Bytes)
    (parent : UInt32) : (writeNew name content parent).Leaves h
      (fun ref h' => Faultless connected session h'.bay.engine ∧
        ∃ storage, h.Uploaded storage parent name content ref h')
      fun _ h' => Faultless connected session h'.bay.engine := by
  unfold writeNew
  refine leaves_bind (leaves_ofExcept (fun _ hnamed => ?_) fun _ _ => hf)
  refine leaves_bind (leaves_ofExcept (fun size hsize => ?_) fun _ _ => hf)
  obtain rfl : size = .ofNat content.length := by
    unfold checkSize at hsize
    split at hsize
    · exact (Except.ok.inj hsize).symm
    · cases hsize
  refine leaves_bind (leaves_state ?_)
  refine leaves_bind (leaves_ofExcept (fun target htarget => ?_) fun _ _ => hf)
  obtain ⟨slot, storage⟩ := target
  refine leaves_bind (leaves_call_of ((hf.leaves_announceUpload storage parent
    (ObjectInfo.isFolder_upload storage parent name _ _)).mono ?_ fun _ _ he => he.1))
  rintro handle e₁ ⟨hf₁, rfl, hwrite, hfolder, hannounced⟩
  refine leaves_bind (leaves_call_of ((hf₁.leaves_sendContent hannounced.pendingUpload content).mono ?_
    fun _ _ he => he.1))
  rintro _ e₂ ⟨hf₂, hfits, hcompleted⟩
  refine leaves_bind (leaves_change (leaves_bind (leaves_read (leaves_ofFunction ⟨?_, storage, ?_⟩))))
  · exact ⟨⟨hf₂.received, hf₂.clear⟩, hf₂.connected_eq, hf₂.session_eq, hf₂.faults⟩
  · exact {
      named := hnamed
      fits := hfits
      target := ⟨slot, htarget⟩
      canWrite := hwrite
      folder := hfolder
      camera := (hannounced.completed _ content).trans hcompleted
      active := rfl
      storageId := fun other => Bay.storageId_touch slot other { h.bay with engine := e₂ }
      index := ⟨_, rfl⟩
      ref := rfl }

/-- An object with a name that an upload may have is one of the store's. -/
theorem lt_size_of_checkName {x : Index} {ref : ObjectRef}
    (hname : checkName (x.object ref).metadata.name = .ok ()) :
    ref < x.objects.size := by
  by_contra hle
  rw [Index.object_of_le (Nat.le_of_not_lt hle)] at hname
  exact absurd hname (by decide)

namespace Uploaded

variable {storage parent : UInt32} {name : String} {content : Bytes} {ref : ObjectRef} {h' : Host Camera}
  (hu : h.Uploaded storage parent name content ref h')
include hu

/-- The camera has one object more. -/
theorem exists_new :
    ∃ o', h'.bay.engine.link.objects = h.bay.engine.link.objects.insert h.bay.engine.link.nextHandle o' ∧
    o'.data = content ∧ o'.info.filename = Dataset.told name ∧ o'.info.parent = Camera.folderOf parent ∧
    o'.info.storageId = storage :=
  ⟨⟨h.bay.engine.link.received storage parent (h.announcement storage parent name content), content⟩,
    hu.camera.objects, rfl, rfl, rfl, rfl⟩

/-- Nothing comes below a handle with the upload, unless the folder was below it. -/
theorem not_below {top handle : UInt32} (hfolder : ¬ Below h.bay.engine.link.objects top (Camera.folderOf parent))
    (hnot : ¬ Below h.bay.engine.link.objects top handle) : ¬ Below h'.bay.engine.link.objects top handle := by
  obtain ⟨o', hobjects, -, -, hparent, -⟩ := hu.exists_new
  intro hbelow
  rw [hobjects] at hbelow
  rcases hbelow.of_insert with hbelow | hbelow
  · exact hnot hbelow
  · exact hfolder (hparent ▸ hbelow)

theorem canWrite' : h'.bay.engine.link.CanWrite storage := by
  have hstorages :
      (h.bay.engine.link.stored storage parent (h.announcement storage parent name content) content).storages =
      h.bay.engine.link.storages.adjust storage fun s =>
        { s with freeSpaceBytes := UInt64.ofNat (s.freeSpaceBytes.toNat - content.length) } := rfl
  exact hu.camera.canWrite_iff.mpr (hu.canWrite.adjust hstorages fun s => rfl)

/-- The store has the object as it was announced. -/
theorem object_new : ∃ slot, h'.store.index.object ref =
    { handle := h.bay.engine.link.nextHandle
      metadata := .ofInfo (h.announcement storage parent name content) slot h.store.cameraModel } := by
  obtain ⟨slot, hindex⟩ := hu.index
  refine ⟨slot, ?_⟩
  rw [hindex, hu.ref, Index.object_insert, if_pos rfl]

theorem handle_new : (h'.store.index.object ref).handle = h.bay.engine.link.nextHandle := by
  obtain ⟨slot, hobject⟩ := hu.object_new
  rw [hobject]

/-- It is shown as a file. -/
theorem isFolder_new : (h'.store.index.object ref).metadata.isFolder = false := by
  obtain ⟨slot, hobject⟩ := hu.object_new
  rw [hobject]
  refine decide_eq_false fun hfolder => FileType.detect_ne_folder name ?_
  exact (FileType.ofObject_objectFormat name).symm.trans hfolder

/-- The session stays open. -/
theorem ready' (hready : Ready h.bay.engine) (hf : Faultless true h.bay.engine.session h'.bay.engine) :
    Ready h'.bay.engine where
  toFaultless := ⟨hf.toCalm, hf.connected_eq, rfl, hf.faults⟩
  session := hf.session_eq ▸ hready.session
  sessionOpen := hu.camera.sessionOpen.trans hready.sessionOpen

/-- The other objects are what they were. -/
theorem object_of_lt {ref' : ObjectRef} (hlt : ref' < h.store.index.objects.size) :
    h'.store.index.object ref' = h.store.index.object ref' := by
  obtain ⟨slot, hindex⟩ := hu.index
  rw [hindex, Index.object_insert, if_neg (Nat.ne_of_lt hlt)]

end Uploaded

end Host

end Tether
