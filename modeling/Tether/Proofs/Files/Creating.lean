import Tether.Proofs.Files.Placing

/-!
# Tether.Proofs.Files.Creating — a file that was created is found and read back

A creation looks the name up first, replaces the file that it finds and uploads a new one otherwise.  A name is
looked up on the active card alone, so what has the name in the same folder but lies on another card is neither
found nor replaced.  Where nothing of the kind is in the way, there is one file of the name afterwards, it is
looked up under its handle, and reads of it give back what was written (`Mount.create_reads_back`).
-/

namespace Tether

open Ptp Tether.Action
open Camera (Below)
open Index (Linked)

namespace Mount

variable {h h' h₁ h₂ : Host Camera} {dir : Node} {slot : Slot} {name : String} {content : Bytes} {ref : ObjectRef}

/-! ## Creations -/

/-- A file that a name is looked up as has the name and is in the directory; nothing there has a name that is not
found. -/
theorem leaves_lookup_file (hlinked : Linked h.store.index) (hc : Creatable h dir slot name) :
    (lookup dir name).Leaves h
      (fun n h' => h.Consulted h' ∧ ∀ old, n = .bound old → (h'.store.index.object old).metadata.isFolder = false →
        (h'.store.index.object old).metadata.name = name ∧
        (h'.store.index.object old).metadata.parent = dir.handle h.store.index ∧
        ∃ o, Holds h dir slot name (h'.store.index.object old).handle o)
      fun _ h' => h.Consulted h' ∧ (Host.checkName name = .ok () → Listable h dir slot →
        ∀ {handle o}, handle ∈ listed h dir slot → h.bay.engine.link.objects.get? handle = some o →
          Dataset.told o.info.filename ≠ name) := by
  have hrefl := Host.Consulted.refl hc.ready hlinked
  by_cases hdot : name = "."
  · subst hdot
    refine leaves_pure ⟨hrefl, ?_⟩
    rintro old rfl hfile
    exact absurd (hc.directory.symm.trans hfile) (by decide)
  by_cases hup : name = ".."
  · subst hup
    refine leaves_bind (leaves_read ?_)
    split
    · refine leaves_pure ⟨hrefl, ?_⟩
      rintro old hbound
      cases hbound
    · refine leaves_bind ((Host.leaves_fetch hc.ready hlinked _).mono ?_ ?_)
      · rintro ref h' ⟨hconsulted, -, -, o, ho, hshows⟩
        refine leaves_pure ⟨hconsulted, ?_⟩
        rintro old hbound hfile
        cases hbound
        exact absurd (hshows.isFolder (hc.above o ho)) (of_decide_eq_false hfile)
      · rintro error h' ⟨hconsulted, -⟩
        exact ⟨hconsulted, fun hnamed => absurd hnamed (by decide)⟩
  refine (leaves_lookup hc.ready hlinked (fun ho => (hc.orderly.handle ho).1) dir hdot hup).mono ?_ ?_
  · rintro n h' ⟨hconsulted, slot', hlistable, ref, o, rfl, -, hmem, ho, hname, hshows⟩
    obtain rfl : slot = slot' := Option.some.inj (hc.active.symm.trans hlistable.active)
    obtain ⟨o', ho', hlies, hparent⟩ := (mem_listed_iff hc.wire).mp hmem
    obtain rfl : o = o' := Option.some.inj (ho.symm.trans ho')
    refine ⟨hconsulted, ?_⟩
    rintro old hbound -
    cases hbound
    exact ⟨hshows.name.trans hname, hshows.parent.trans hparent, o, ho, hparent, fun _ => hlies, hname⟩
  · rintro error h' ⟨hconsulted, hnone⟩
    refine ⟨hconsulted, fun _ hlistable {handle o} hmem ho hname => hnone ?_⟩
    exact ⟨slot, hlistable, Nat.le_of_lt hc.room, handle, hmem, o, ho, hname⟩

/-- Uploads go to the storage of the active card. -/
theorem storage_of_uploaded {storage parent : UInt32} (hactive : h.bay.table.active = some slot)
    (hconsulted : h.Consulted h₁) (huploaded : h₁.Uploaded storage parent name content ref h₂) :
    storage = (h.bay.table.volume slot).storageId := by
  obtain ⟨slot', htarget⟩ := huploaded.target
  obtain ⟨hactive', hstorage⟩ := Host.activeVolume_of_uploadTarget htarget
  obtain rfl : slot = slot' := Option.some.inj (hactive.symm.trans (hconsulted.active.symm.trans hactive'))
  rw [← hstorage, hconsulted.storageId]

theorem linked_of_uploaded {storage parent : UInt32} (hlinked : Linked h₁.store.index)
    (huploaded : h₁.Uploaded storage parent name content ref h₂) : Linked h₂.store.index := by
  obtain ⟨model, hindex⟩ := huploaded.index
  rw [hindex]
  exact hlinked.insert rfl

/-- A file that has the name is replaced. -/
theorem leaves_write_found (hc : Creatable h dir slot name)
    (hhere : ∀ {k o}, Holds h dir slot name k o → o.info.storageId = (h.bay.table.volume slot).storageId)
    (hconsulted : h.Consulted h₁) (m : Mount) (n : Node)
    (hfound : ∀ old, n = .bound old → (h₁.store.index.object old).metadata.isFolder = false →
      (h₁.store.index.object old).metadata.name = name ∧
      (h₁.store.index.object old).metadata.parent = dir.handle h.store.index ∧
      ∃ o, Holds h dir slot name (h₁.store.index.object old).handle o) :
    (m.write n content).Leaves h₁ (fun n' h' => ∃ ref, n' = .bound ref ∧ Placed dir slot name content ref h')
      fun _ _ => True := by
  refine (m.leaves_write hconsulted.ready.toFaultless n content).mono ?_ fun _ _ _ => trivial
  rintro n' h' ⟨old, new, storage, h₂, rfl, rfl, hfile, hf, huploaded, rfl⟩
  obtain ⟨hname, hparent, o, hchild⟩ := hfound old rfl hfile
  rw [hname, hparent] at huploaded
  obtain rfl := storage_of_uploaded hc.active hconsulted huploaded
  refine ⟨new, rfl, placed_of_uploaded hc hconsulted huploaded ?_⟩
  have hold : h₂.store.index.object old = h₁.store.index.object old :=
    huploaded.object_of_lt (Host.lt_size_of_checkName (hname ▸ huploaded.named))
  rw [← hold] at hchild
  have hnext : (h₂.store.index.object new).handle = h.bay.engine.link.nextHandle :=
    huploaded.handle_new.trans hconsulted.alike.nextHandle
  have hlt := (hc.orderly.handle hchild.object).2
  obtain ⟨o', hobjects, -⟩ := huploaded.exists_new
  -- what is uploaded into the directory is not below the old file, because the directory is not
  have hspared : ∀ {handle}, ¬ Below h.bay.engine.link.objects (h₂.store.index.object old).handle handle →
      ¬ Below h₂.bay.engine.link.objects (h₂.store.index.object old).handle handle := by
    intro handle hnot
    refine huploaded.not_below ?_ (hconsulted.alike.objects.symm ▸ hnot)
    rw [hconsulted.alike.objects, Camera.folderOf_of_ne hc.wire]
    exact hc.outside hchild
  refine cleared_delete (o := o) (huploaded.ready' hconsulted.ready hf)
    (linked_of_uploaded hconsulted.linked huploaded)
    ?_ (hc.unprotected hchild) ?_ (hspared (hc.outside hchild)) ?_ ?_
  · rw [hobjects, hconsulted.alike.objects, hconsulted.alike.nextHandle, OrderedMap.get?_insert,
      if_neg (UInt32.ne_of_lt hlt)]
    exact hchild.object
  · rw [hhere hchild]
    exact huploaded.canWrite'
  · rw [hnext]
    exact hspared fun hbelow => UInt32.lt_irrefl _ (hbelow.lt hlt fun ho => (hc.orderly.handle ho).2)
  · intro handle o'' hheld
    exact (holds_of_uploaded hconsulted huploaded hheld).symm.imp_left fun hholds => hc.unique hholds hchild

/-- A file that is not there is uploaded. -/
theorem leaves_writeNew_missing (hc : Creatable h dir slot name)
    (hhere : ∀ {k o}, Holds h dir slot name k o → o.info.storageId = (h.bay.table.volume slot).storageId)
    (hconsulted : h.Consulted h₁) (hnone : Host.checkName name = .ok () → Listable h dir slot →
      ∀ {handle o}, handle ∈ listed h dir slot → h.bay.engine.link.objects.get? handle = some o →
        Dataset.told o.info.filename ≠ name) :
    (Host.writeNew name content (dir.handle h.store.index)).Leaves h₁
      (fun ref h' => Placed dir slot name content ref h')
      fun _ _ => True := by
  refine (Host.leaves_writeNew_uploaded hconsulted.ready.toFaultless name content _).mono ?_ fun _ _ _ => trivial
  rintro ref h₂ ⟨hf, storage, huploaded⟩
  obtain rfl := storage_of_uploaded hc.active hconsulted huploaded
  have hlistable := listable_of_uploaded hc hconsulted huploaded
  refine placed_of_uploaded hc hconsulted huploaded ?_
  exact {
    ready := huploaded.ready' hconsulted.ready hf
    linked := linked_of_uploaded hconsulted.linked huploaded
    active := rfl
    storageId := fun _ => rfl
    records := .refl _
    payload := id
    canWrite := id
    sub := id
    kept := fun _ => rfl
    only := by
      intro handle o hchild
      refine (holds_of_uploaded hconsulted huploaded hchild).resolve_right fun hholds => ?_
      have hlies : Camera.liesOn (h.bay.table.volume slot).storageId o = true :=
        hhere hholds ▸ Camera.liesOn_self o
      have hmem := (mem_listed_iff hc.wire).mpr ⟨o, hholds.object, hlies, hholds.parent⟩
      exact hnone huploaded.named hlistable hmem hholds.object hholds.name }

/-- A creation that succeeds puts the file in its place. -/
theorem leaves_create (hlinked : Linked h.store.index) (hc : Creatable h dir slot name)
    (hhere : ∀ {k o}, Holds h dir slot name k o → o.info.storageId = (h.bay.table.volume slot).storageId)
    (m : Mount) (content : Bytes) :
    (m.create dir name content).Leaves h
      (fun n h' => ∃ ref, n = .bound ref ∧ Placed dir slot name content ref h') fun _ _ => True := by
  unfold create
  refine leaves_bind ((leaves_same m.keeps_checkWritable trivial).mono ?_ fun _ _ hs => hs)
  rintro _ h rfl
  have hlookup := leaves_lookup_file hlinked hc
  split
  · exact leaves_bind (leaves_fail trivial)
  refine leaves_bind (leaves_attempt ?_)
  cases hx : lookup dir name h with
  | mk r h₁ =>
    dsimp only
    cases r with
    | ok n =>
      obtain ⟨hconsulted, hfound⟩ := hlookup.1 n h₁ hx
      exact leaves_write_found hc hhere hconsulted m n hfound
    | error error =>
      obtain ⟨hconsulted, hnone⟩ := hlookup.2 error h₁ hx
      split
      · contradiction
      · refine leaves_bind (leaves_read ?_)
        dsimp only
        rw [hconsulted.handle_directory hc.directory]
        refine leaves_bind ((leaves_writeNew_missing hc hhere hconsulted hnone).mono ?_ fun _ _ _ => trivial)
        rintro ref h' hplaced
        exact leaves_pure ⟨ref, rfl, hplaced⟩
      · exact leaves_fail trivial

/-- Wherever a run came, at a camera without faults with an open session: where a file can be created, and what
has its name lies on the active card, a creation that succeeds leaves one object of the name in the directory,
that of the answered node; it is looked up, and any part of the content is read back. -/
theorem create_reads_back (hr : Reached True h) (hc : Creatable h dir slot name)
    (hhere : ∀ {k o}, Holds h dir slot name k o → o.info.storageId = (h.bay.table.volume slot).storageId)
    (m : Mount) (content : Bytes) (n : Node) (h' : Host Camera)
    (hcreate : m.create dir name content h = (.ok n, h')) :
    (∀ handle, (∃ o, Holds h' dir slot name handle o) ↔ handle = n.handle h'.store.index) ∧
      (∃ found h'', lookup dir name h' = (.ok found, h'') ∧
        found.handle h''.store.index = n.handle h'.store.index) ∧
      ∀ length offset, (read n length offset h').1 = .ok ((content.drop offset).take length) := by
  obtain ⟨ref, rfl, hplaced⟩ := (leaves_create hr.linked hc hhere m content).1 n h' hcreate
  refine ⟨fun handle => ⟨?_, ?_⟩, hplaced.lookup_eq, hplaced.read_eq⟩
  · rintro ⟨o, hholds⟩
    exact hplaced.only hholds
  · rintro rfl
    obtain ⟨o, hholds, -⟩ := hplaced.child
    exact ⟨o, hholds⟩

end Mount

/-! ## A run with a folder -/

namespace Host

/-- A folder on the first card. -/
def folder : ObjectInfo :=
  .forUpload Camera.cfExpressId 0 "DCIM" .association 0

/-- A picture in that folder. -/
def shelvedPicture : ObjectInfo :=
  { picture with parent := 1 }

/-- Both are there, and the first card is active. -/
def shelved : Host Camera :=
  (twoCards.given folder []).given shelvedPicture [1, 2, 3]

/-- The same with the other card active. -/
def shelvedElsewhere : Host Camera :=
  shelved.updateBay (BayCall.step (.setActive 1)).run

end Host

theorem Operated.shelved : Operated Engine.HasHandle Host.shelved :=
  (Operated.twoCards.given Host.folder [] (by decide +kernel)).given Host.shelvedPicture [1, 2, 3]
    (by decide +kernel)

theorem Operated.shelvedElsewhere : Operated Engine.HasHandle Host.shelvedElsewhere :=
  Operated.shelved.bay (.step (.setActive 1)) trivial

namespace Mount

/-- A session is open, the folder and the picture are all that the camera has, and the store knows the folder as
its first object. -/
def Shelf (h : Host Camera) (slot : Slot) : Prop :=
  (h.bay.engine.link.connected = true ∧ h.bay.engine.link.faults = [] ∧ h.bay.engine.session ≠ none ∧
    h.bay.engine.link.sessionOpen = true) ∧
  (h.bay.engine.link.objects.entries = [(1, ⟨Host.folder, []⟩), (2, ⟨Host.shelvedPicture, [1, 2, 3]⟩)] ∧
    h.bay.engine.link.nextHandle = 3) ∧
  (Node.handle h.store.index (.bound 0) = 1 ∧ Node.isDirectory h.store.index (.bound 0) = true ∧
    parentHandle h.store.index (.bound 0) = 0) ∧
  h.bay.table.active = some slot ∧ (listed h (.bound 0) slot).length < Camera.maxListing

instance (h : Host Camera) (slot : Slot) : Decidable (Shelf h slot) :=
  inferInstanceAs (Decidable (_ ∧ _))

namespace Shelf

variable {h : Host Camera} {slot : Slot} {k : UInt32} {o : CameraObject} (hs : Shelf h slot)
include hs

theorem cases_get? (ho : h.bay.engine.link.objects.get? k = some o) :
    (k = 1 ∧ o = ⟨Host.folder, []⟩) ∨ (k = 2 ∧ o = ⟨Host.shelvedPicture, [1, 2, 3]⟩) := by
  have hmem := OrderedMap.mem_entries_iff.mpr ho
  rw [hs.2.1.1] at hmem
  simpa using hmem

/-- The picture is all that has its name in the folder. -/
theorem eq_of_holds (ho : Holds h (.bound 0) slot "a.jpg" k o) : k = 2 ∧ o = ⟨Host.shelvedPicture, [1, 2, 3]⟩ := by
  refine (hs.cases_get? ho.object).resolve_left ?_
  rintro ⟨-, rfl⟩
  exact absurd (ho.parent.trans hs.2.2.1.1) (by decide)

/-- It can be created there whichever card is active. -/
theorem creatable {may : Engine Camera → Prop} (hr : Operated may h) : Creatable h (.bound 0) slot "a.jpg" := by
  have ⟨⟨hconnected, hfaults, hsession, hopen⟩, ⟨_, hnext⟩, ⟨hdir, hdirectory, hparent⟩, hactive, hroom⟩ := hs
  exact {
    ready := ⟨⟨hr.calm, hconnected, rfl, hfaults⟩, hsession, hopen⟩
    orderly := by
      refine ⟨fun {k o} ho => ?_, hnext ▸ by decide⟩
      rw [hnext]
      rcases hs.cases_get? ho with ⟨rfl, -⟩ | ⟨rfl, -⟩ <;> decide
    directory := hdirectory
    wire := hdir ▸ by decide
    above := by
      intro o ho
      rw [hparent] at ho
      rcases hs.cases_get? ho with ⟨hzero, -⟩ | ⟨hzero, -⟩ <;> exact absurd hzero (by decide)
    active := hactive
    units := by decide +kernel
    room := hroom
    unique := fun ho ho' => (hs.eq_of_holds ho).1.trans (hs.eq_of_holds ho').1.symm
    unprotected := by
      intro k o ho
      rw [(hs.eq_of_holds ho).2]
      rfl
    outside := by
      intro k o ho hbelow
      rw [(hs.eq_of_holds ho).1, hdir] at hbelow
      refine absurd (hbelow.eq_of_empty fun ho' => ?_) (by decide)
      rcases hs.cases_get? ho' with ⟨-, rfl⟩ | ⟨-, rfl⟩ <;> decide }

end Shelf

/-- With the card of the folder active the picture is replaced. -/
theorem create_reads_back_shelved :
    (Reached True Host.shelved ∧ Creatable Host.shelved (.bound 0) 0 "a.jpg" ∧
      (∀ k o, Holds Host.shelved (.bound 0) 0 "a.jpg" k o →
        o.info.storageId = (Host.shelved.bay.table.volume 0).storageId) ∧
      (writing.create (.bound 0) "a.jpg" [4, 5] Host.shelved).1 = .ok (.bound 2)) ∧
    (∀ handle, (∃ o, Holds (writing.create (.bound 0) "a.jpg" [4, 5] Host.shelved).2
      (.bound 0) 0 "a.jpg" handle o) ↔
      handle = 3) ∧
    ∀ length offset, (read (.bound 2) length offset (writing.create (.bound 0) "a.jpg" [4, 5] Host.shelved).2).1 =
      .ok (([4, 5].drop offset).take length) := by
  have hs : Shelf Host.shelved 0 := by decide +kernel
  have hc := hs.creatable Operated.shelved
  have hhere : ∀ k o, Holds Host.shelved (.bound 0) 0 "a.jpg" k o →
      o.info.storageId = (Host.shelved.bay.table.volume 0).storageId := by
    intro k o ho
    rw [(hs.eq_of_holds ho).2]
    decide +kernel
  have hcreate : (writing.create (.bound 0) "a.jpg" [4, 5] Host.shelved).1 = .ok (.bound 2) := by decide +kernel
  have hhandle :
      Node.handle (writing.create (.bound 0) "a.jpg" [4, 5] Host.shelved).2.store.index (.bound 2) = 3 := by
    decide +kernel
  obtain ⟨hholds, -, hread⟩ := create_reads_back Operated.shelved.reached hc (hhere _ _) writing [4, 5]
    (.bound 2) _
    (Prod.ext hcreate rfl)
  exact ⟨⟨Operated.shelved.reached, hc, hhere, hcreate⟩, hhandle ▸ hholds, hread⟩

/-- With the other card active a second file of the name comes into the folder. -/
theorem create_leaves_another :
    Reached True Host.shelvedElsewhere ∧ Creatable Host.shelvedElsewhere (.bound 0) 1 "a.jpg" ∧
      (writing.create (.bound 0) "a.jpg" [4, 5] Host.shelvedElsewhere).1 = .ok (.bound 2) ∧
      ∀ handle ∈ [2, 3], ∃ o,
        Holds (writing.create (.bound 0) "a.jpg" [4, 5] Host.shelvedElsewhere).2
          (.bound 0) 1 "a.jpg" handle o := by
  have hs : Shelf Host.shelvedElsewhere 1 := by decide +kernel
  have hc := hs.creatable Operated.shelvedElsewhere
  have hdir : Node.handle (writing.create (.bound 0) "a.jpg" [4, 5] Host.shelvedElsewhere).2.store.index
      (.bound 0) = 1 := by
    decide +kernel
  have hnamed : ([2, 3].all fun handle => ((writing.create (.bound 0) "a.jpg" [4, 5]
      Host.shelvedElsewhere).2.bay.engine.link.objects.get? handle).any
        fun o => o.info.parent = 1 ∧ Dataset.told o.info.filename = "a.jpg") = true := by decide +kernel
  refine ⟨Operated.shelvedElsewhere.reached, hc, by decide +kernel, fun handle hmem => ?_⟩
  obtain ⟨o, ho, hchild⟩ := (Option.any_eq_true ..).mp (List.all_eq_true.mp hnamed handle hmem)
  obtain ⟨hparent, hname⟩ := of_decide_eq_true hchild
  refine ⟨o, ho, hparent.trans hdir.symm, fun hzero => ?_, hname⟩
  exact absurd (hdir.symm.trans hzero) (by decide)

end Mount

end Tether
