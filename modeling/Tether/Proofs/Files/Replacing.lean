import Tether.Proofs.Host.Described
import Tether.Proofs.Host.Uploading
import Tether.Proofs.Files.Failing

/-!
# Tether.Proofs.Files.Replacing — where a replaced file comes to lie

A write uploads the new content under the name and into the folder of the file, and deletes the old object then.
The new object has the content, the name and the folder; it lies on the active storage, which is the storage of
the old object only while that one's card is active (`Operated.replaced_in_place`).  With another card active the
file moves (`Operated.replaced_elsewhere`).
-/

namespace Tether

open Ptp Tether.Action
open Camera (Below Pruned)
open Engine (Calm Faultless)
open Index (SameRecords)

variable {h : Host Camera}

/-- What a deletion leaves, whether it succeeds or not: the store knows the same, and nothing went on the camera
but the object and what is below it. -/
structure Host.Deleted (ref : ObjectRef) (h h' : Host Camera) : Prop where
  pruned : Pruned h.bay.engine.link.objects (h.store.index.object ref).handle h'.bay.engine.link.objects
  records : SameRecords h.store.index h'.store.index

theorem Host.deleted_delete (hcalm : Calm h.bay.engine) (ref : ObjectRef) : h.Deleted ref (delete ref h).2 := by
  have hsame : ∀ {e : Engine Camera}, h.bay.engine.link.Alike e.link →
      h.Deleted ref { h with bay := { h.bay with engine := e } } := by
    intro e halike
    refine ⟨?_, .refl _⟩
    show Pruned _ _ e.link.objects
    rw [halike.objects]
    exact .refl _ _
  refine Leaves.state (P := h.Deleted ref) ?_
  unfold delete
  refine leaves_bind (leaves_read (leaves_bind (leaves_call_of ((Engine.leaves_deleteObject hcalm _).mono ?_ ?_))))
  · rintro _ e ⟨-, hasked⟩
    refine leaves_change ⟨?_, .remove _ _⟩
    show Pruned _ _ e.link.objects
    rcases hasked with halike | ⟨c₁, c₂, reply, halike, hdelete, halike'⟩
    · exact (hsame halike).pruned
    · have hpruned := Camera.pruned_delete (h.store.index.object ref).handle c₁
      rw [hdelete, halike.objects] at hpruned
      rw [halike'.objects]
      exact hpruned
  · rintro error e ⟨-, halike⟩
    exact hsame halike

namespace Mount

/-- The file behind a node is an object that is no folder. -/
theorem leaves_fileOf (n : Node) : (fileOf n).Leaves h
    (fun ref h' => h' = h ∧ n = .bound ref ∧ (h.store.index.object ref).metadata.isFolder = false)
    fun _ h' => h' = h ∧ ∀ ref, n = .bound ref → (h.store.index.object ref).metadata.isFolder = true := by
  unfold fileOf objectOf
  refine leaves_bind (leaves_bind (leaves_read ?_))
  cases n with
  | bound ref =>
    refine leaves_pure (leaves_bind (leaves_read ?_))
    dsimp only [id]
    split
    · rename_i hfolder
      refine leaves_bind (leaves_fail ⟨rfl, ?_⟩)
      rintro ref' hbound
      cases hbound
      exact hfolder
    · rename_i hfile
      exact leaves_pure ⟨rfl, rfl, Bool.eq_false_iff.mpr hfile⟩
  | root | unbound => exact leaves_fail ⟨rfl, fun ref hbound => by cases hbound⟩

/-- A write that succeeds uploads the file anew, and then tries to delete the old object. -/
theorem leaves_write {connected : Bool} {session : Option UInt32} (hf : Faultless connected session h.bay.engine)
    (m : Mount) (n : Node) (content : Bytes) :
    (m.write n content).Leaves h
      (fun n' h' => ∃ old new storage h₁, n = .bound old ∧ n' = .bound new ∧
        (h.store.index.object old).metadata.isFolder = false ∧ Faultless connected session h₁.bay.engine ∧
        h.Uploaded storage (h.store.index.object old).metadata.parent
          (h.store.index.object old).metadata.name content new h₁ ∧
        h' = (Host.delete old h₁).2)
      fun _ _ => True := by
  unfold write
  refine leaves_bind ((leaves_same m.keeps_checkWritable trivial).mono ?_ fun _ _ hs => hs)
  rintro _ h' rfl
  refine leaves_bind ((leaves_fileOf n).mono ?_ fun _ _ _ => trivial)
  rintro old h'' ⟨rfl, hbound, hfile⟩
  refine leaves_bind (leaves_read ?_)
  refine leaves_bind ((Host.leaves_writeNew_uploaded hf _ content _).mono ?_ fun _ _ _ => trivial)
  rintro new h₁ ⟨hf₁, storage, huploaded⟩
  exact leaves_bind (leaves_attempt (leaves_pure ⟨old, new, storage, h₁, hbound, rfl, hfile, hf₁, huploaded, rfl⟩))

end Mount

/-- On a camera without armed faults, wherever a run came as long as the camera had handles left: a file that a
write replaces has the new content under the old name and in the old folder, as the camera tells them.  It is on
the old storage just when that is the active one. -/
theorem Operated.replaced_in_place (hr : Operated Engine.HasHandle h) (hfaults : h.bay.engine.link.faults = [])
    (m : Mount) (n n' : Node) (content : Bytes) (h' : Host Camera)
    (hw : m.write n content h = (.ok n', h')) :
    ∃ old new, n = .bound old ∧ n' = .bound new ∧
      ∀ o, h.bay.engine.link.objects.get? (h.store.index.object old).handle = some o →
        ¬ Below h.bay.engine.link.objects (h.store.index.object old).handle (Camera.folderOf o.info.parent) →
          ∃ o', h'.bay.engine.link.objects.get? (h'.store.index.object new).handle = some o' ∧ o'.data = content ∧
            o'.info.filename = Dataset.told o.info.filename ∧ o'.info.parent = Camera.folderOf o.info.parent ∧
            (o'.info.storageId = o.info.storageId ↔
              h.bay.table.activeVolume.map Volume.storageId = some o.info.storageId) := by
  have hf : Faultless h.bay.engine.link.connected h.bay.engine.session h.bay.engine := ⟨hr.calm, rfl, rfl, hfaults⟩
  obtain ⟨old, new, storage, h₁, rfl, rfl, -, hf₁, huploaded, rfl⟩ := (m.leaves_write hf n content).1 n' h' hw
  refine ⟨old, new, rfl, rfl, fun o ho hnotin => ?_⟩
  have hm := hr.matches_camera
  have hlt := Host.lt_size_of_checkName huploaded.named
  have hvouches := hm.vouches hlt
  obtain ⟨hname, hparent⟩ := hvouches.agrees (.object ho)
  have hdeleted := Host.deleted_delete hf₁.toCalm old
  have hnew : ((Host.delete old h₁).2.store.index.object new).handle = h.bay.engine.link.nextHandle := by
    rw [(RemoteObject.eq_of_record (hdeleted.records.record new)).1, huploaded.handle_new]
  obtain ⟨o', hobjects, hdata, hfilename, hfolder, hlies⟩ := huploaded.exists_new
  -- the new object has a handle that nothing had, and its folder is not deleted with the old one
  have hspared :
      ¬ Below h₁.bay.engine.link.objects (h₁.store.index.object old).handle h.bay.engine.link.nextHandle := by
    rw [huploaded.object_of_lt hlt]
    refine huploaded.not_below (hparent ▸ hnotin) fun hbelow => ?_
    exact UInt32.lt_irrefl _ (hbelow.lt hvouches.lt fun ho' => hm.numbered.lt (.object ho'))
  refine ⟨o', ?_, hdata, hfilename.trans hname, hfolder.trans hparent, ?_⟩
  · rw [hnew, hdeleted.pruned.kept hspared, hobjects]
    exact OrderedMap.get?_insert_self _ _ _
  · obtain ⟨slot, htarget⟩ := huploaded.target
    obtain ⟨hactive, hstorage⟩ := Host.activeVolume_of_uploadTarget htarget
    rw [VolumeTable.activeVolume, hactive, Option.map_map, Option.map_some, Option.some.injEq, hlies]
    exact Eq.congr_left hstorage.symm

/-- A picture on the first of two cards, which is active. -/
def Host.filed : Host Camera :=
  Host.twoCards.given Host.picture [1, 2, 3]

theorem Operated.filed : Operated Engine.HasHandle Host.filed :=
  Operated.twoCards.given Host.picture [1, 2, 3] (by decide +kernel)

theorem Operated.replaced_in_place_filed :
    (Operated Engine.HasHandle Host.filed ∧ Host.filed.bay.engine.link.faults = [] ∧
      (Mount.writing.write (.bound 0) [4, 5] Host.filed).1 = .ok (.bound 1) ∧
      ¬ Below Host.filed.bay.engine.link.objects 1 0) ∧
    ∃ o', (Mount.writing.write (.bound 0) [4, 5] Host.filed).2.bay.engine.link.objects.get?
        ((Mount.writing.write (.bound 0) [4, 5] Host.filed).2.store.index.object 1).handle = some o' ∧
      o'.data = [4, 5] ∧ o'.info.filename = "a.jpg" ∧ o'.info.parent = 0 ∧
      o'.info.storageId = Camera.cfExpressId := by
  have hfaults : Host.filed.bay.engine.link.faults = [] := by decide +kernel
  have hw : (Mount.writing.write (.bound 0) [4, 5] Host.filed).1 = .ok (.bound 1) := by decide +kernel
  have hhandle : (Host.filed.store.index.object 0).handle = 1 := by decide +kernel
  have hnone : Host.filed.bay.engine.link.objects.get? 0 = none := by decide +kernel
  have hnotin : ¬ Below Host.filed.bay.engine.link.objects 1 0 := by
    generalize Host.filed.bay.engine.link.objects = objects at hnone
    intro hbelow
    cases hbelow with
    | inside ho _ =>
      rw [hnone] at ho
      cases ho
  refine ⟨⟨Operated.filed, hfaults, hw, hnotin⟩, ?_⟩
  obtain ⟨old, new, hold, hnew, hall⟩ :=
    Operated.filed.replaced_in_place hfaults Mount.writing (.bound 0) (.bound 1) [4, 5] _
    (Prod.ext hw rfl)
  cases hold
  cases hnew
  rw [hhandle] at hall
  obtain ⟨o', ho', hdata, hname, hparent, hstorage⟩ := hall ⟨Host.picture, [1, 2, 3]⟩ (by decide +kernel) hnotin
  exact ⟨o', ho', hdata, hname.trans (by decide), hparent, hstorage.mpr (by decide +kernel)⟩

/-- The same with the other card active. -/
def Host.filedElsewhere : Host Camera :=
  Host.filed.updateBay (BayCall.step (.setActive 1)).run

/-- A picture that is replaced while the other card is active moves to the other card. -/
theorem Operated.replaced_elsewhere :
    Operated Engine.HasHandle Host.filedElsewhere ∧ Host.filedElsewhere.bay.engine.link.faults = [] ∧
      (Host.filedElsewhere.bay.engine.link.objects.get? (Host.filedElsewhere.store.index.object 0).handle).map
        (fun o => o.info.storageId) = some Camera.cfExpressId ∧
      (Mount.writing.write (.bound 0) [4, 5] Host.filedElsewhere).1 = .ok (.bound 1) ∧
      ((Mount.writing.write (.bound 0) [4, 5] Host.filedElsewhere).2.bay.engine.link.objects.entries.map
        fun e => (e.1, e.2.info.storageId, e.2.info.filename, e.2.data)) = [(2, Camera.sdId, "a.jpg", [4, 5])] :=
  ⟨Operated.filed.bay (.step (.setActive 1)) trivial, by decide +kernel, by decide +kernel, by decide +kernel,
    by decide +kernel⟩

end Tether
