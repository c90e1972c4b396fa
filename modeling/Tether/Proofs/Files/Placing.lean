import Tether.Proofs.Cache.Contents
import Tether.Proofs.Files.Replacing
import Tether.Proofs.Host.Naming

/-!
# Tether.Proofs.Files.Placing — a file in its place

A file is in its place when it is the only thing of its name in its directory and has its content
(`Mount.Placed`).  Then it is looked up by its name and read back.  An upload puts a file into its place, once
what had the name before is deleted (`Mount.placed_of_uploaded`).
-/

namespace Tether

open Ptp Tether.Action
open Camera (Objects Below listing)
open Engine (Ready wireParent)
open Index (Linked SameRecords)

/-! ## What is in a directory -/

namespace Camera

/-- Handles were given out in order from 1, and there is one left. -/
structure Orderly (c : Camera) : Prop where
  handle : ∀ {handle o}, c.objects.get? handle = some o → handle ≠ 0 ∧ handle < c.nextHandle
  next : c.nextHandle ≠ 0

/-- The object is in a folder and called `name`; the root is that of one storage. -/
structure Child (objects : Objects) (storage folder : UInt32) (name : String) (handle : UInt32)
    (o : CameraObject) : Prop where
  object : objects.get? handle = some o
  parent : o.info.parent = folder
  storage : folder = 0 → liesOn storage o = true
  name : Dataset.told o.info.filename = name

/-- With one object more there is at most one more to list. -/
theorem length_listing_le {objects objects' : Objects} {new : UInt32}
    (h : ∀ {handle o}, objects'.get? handle = some o → handle = new ∨ objects.get? handle = some o)
    (storage parent : UInt32) :
    (listing objects' storage (wireParent parent)).length ≤
      (listing objects storage (wireParent parent)).length + 1 := by
  have hsubset : listing objects' storage (wireParent parent) ⊆
      new :: listing objects storage (wireParent parent) := by
    intro handle hmem
    obtain ⟨o, ho, hlies, hparent⟩ := mem_listing_iff.mp hmem
    rcases h ho with rfl | ho
    · exact List.mem_cons_self
    · exact List.mem_cons_of_mem _ (mem_listing_iff.mpr ⟨o, ho, hlies, hparent⟩)
  have hnodup : (listing objects' storage (wireParent parent)).Nodup := OrderedMap.nodup_keys _
  exact (List.subperm_of_subset hnodup hsubset).length_le

/-- The root can be listed, and every folder that is there. -/
theorem hasFolder_wireParent {c : Camera} {folder : UInt32}
    (h : folder ≠ 0 → ∃ o, c.objects.get? folder = some o) :
    c.HasFolder (wireParent folder) := by
  by_cases hzero : folder = 0
  · rw [hzero]
    exact .inr (.inl rfl)
  · have hwire : wireParent folder = folder := if_neg hzero
    rw [hwire]
    exact .inr (.inr (OrderedMap.contains_iff.mpr (h hzero)))

end Camera

/-- What is a folder on the camera is shown as one. -/
theorem RemoteObject.Shows.isFolder {r : RemoteObject} {o : CameraObject} (h : r.Shows o)
    (hfolder : o.info.isFolder = true) :
    r.metadata.fileType = .folder := by
  have hformat : o.info.format = .association := of_decide_eq_true hfolder
  have htold : o.described.told.format = .association := by
    show ObjectFormat.ofCode o.info.format.code = .association
    rw [hformat]
    rfl
  rw [h.fileType, htold]
  rfl

/-- An object that is a folder is one of the store's. -/
theorem Index.lt_size_of_directory {x : Index} {ref : ObjectRef} (hdir : Node.isDirectory x (.bound ref) = true) :
    ref < x.objects.size := by
  by_contra hle
  have hkind : (x.object ref).metadata.fileType = .folder := of_decide_eq_true hdir
  rw [Index.object_of_le (Nat.le_of_not_lt hle)] at hkind
  cases hkind

/-- Consulting leaves directories their handles. -/
theorem Host.Consulted.handle_directory {h h' : Host Camera} (hconsulted : h.Consulted h') {dir : Node}
    (hdir : dir.isDirectory h.store.index = true) : dir.handle h'.store.index = dir.handle h.store.index := by
  cases dir with
  | root => rfl
  | unbound => cases hdir
  | bound ref => exact hconsulted.learned.handle (Index.lt_size_of_directory hdir)

namespace Mount

/-- On the camera the object is in a directory and called `name`; the root is that of the card in a slot. -/
abbrev Holds (h : Host Camera) (dir : Node) (slot : Slot) (name : String) : UInt32 → CameraObject → Prop :=
  Camera.Child h.bay.engine.link.objects (h.bay.table.volume slot).storageId (dir.handle h.store.index) name

/-- A file of a name can be created in a directory of the active card: at most one thing in the directory has the
name, and that is not protected.  No file is in the way, neither as what the store takes for the directory above
nor as something of the name that the directory itself lies in, and a listing of the directory has room for one
more. -/
structure Creatable (h : Host Camera) (dir : Node) (slot : Slot) (name : String) : Prop where
  ready : Ready h.bay.engine
  orderly : h.bay.engine.link.Orderly
  directory : dir.isDirectory h.store.index = true
  wire : dir.handle h.store.index ≠ wireRoot
  above : ∀ o, h.bay.engine.link.objects.get? (parentHandle h.store.index dir) = some o → o.info.isFolder = true
  active : h.bay.table.active = some slot
  units : (Text.Utf16.encode name.toList).length ≤ Dataset.maxTextUnits
  room : (listed h dir slot).length < Camera.maxListing
  unique : ∀ {k k' o o'}, Holds h dir slot name k o → Holds h dir slot name k' o' → k = k'
  unprotected : ∀ {k o}, Holds h dir slot name k o → o.info.protectionStatus = 0
  outside : ∀ {k o}, Holds h dir slot name k o → ¬ Below h.bay.engine.link.objects k (dir.handle h.store.index)

/-- A directory on the active card has one file of a name, for which `ref` stands, and it has this content. -/
structure Placed (dir : Node) (slot : Slot) (name : String) (content : Bytes) (ref : ObjectRef)
    (h : Host Camera) : Prop where
  ready : Ready h.bay.engine
  linked : Linked h.store.index
  listable : Listable h dir slot
  wire : dir.handle h.store.index ≠ wireRoot
  short : (listed h dir slot).length ≤ Camera.maxListing
  nonzero : ∀ {handle o}, h.bay.engine.link.objects.get? handle = some o → handle ≠ 0
  payload : (h.store.index.object ref).payload = none
  file : (h.store.index.object ref).metadata.isFolder = false
  size : (h.store.index.object ref).metadata.size = .ofNat content.length
  named : Host.checkName name = .ok ()
  fits : headerLength + content.length ≤ maxWord
  child : ∃ o, Holds h dir slot name (h.store.index.object ref).handle o ∧
    Camera.liesOn (h.bay.table.volume slot).storageId o = true ∧ o.data = content
  only : ∀ {handle o}, Holds h dir slot name handle o → handle = (h.store.index.object ref).handle

variable {h h' h₁ h₂ : Host Camera} {dir : Node} {slot : Slot} {name : String} {content : Bytes} {ref : ObjectRef}

/-- What is listed for a directory is in it, and lies on the active card. -/
theorem mem_listed_iff (hwire : dir.handle h.store.index ≠ wireRoot) {handle : UInt32} :
    handle ∈ listed h dir slot ↔ ∃ o, h.bay.engine.link.objects.get? handle = some o ∧
      Camera.liesOn (h.bay.table.volume slot).storageId o = true ∧ o.info.parent = dir.handle h.store.index := by
  have hfolder := Camera.folderOf_of_ne hwire
  rw [listed, Camera.mem_listing_iff, hfolder]

namespace Placed

variable (hp : Placed dir slot name content ref h)
include hp

/-- Reads give back the content. -/
theorem read_eq (length offset : Nat) :
    (read (.bound ref) length offset h).1 = .ok ((content.drop offset).take length) := by
  obtain ⟨o, hchild, -, rfl⟩ := hp.child
  refine Leaves.eq_ok ?_
  unfold read
  refine leaves_bind ((leaves_fileOf (.bound ref)).mono ?_ ?_)
  · rintro ref' h' ⟨rfl, hbound, -⟩
    cases hbound
    have hhit : ((h'.store.index.object ref).payload.getD []).length ≤ offset := by
      rw [hp.payload]
      exact Nat.zero_le _
    have hshort : o.data.length < maxWord := by
      have hfits := hp.fits
      have hheader : headerLength = 12 := rfl
      omega
    have hpart : headerLength + ((o.data.drop offset).take length).length ≤ maxWord := by
      have hfits := hp.fits
      rw [List.length_take, List.length_drop]
      omega
    have hread := Host.leaves_readRange hp.ready hchild.object hshort hp.size length hhit
    refine leaves_bind (hread.mono ?_ fun _ _ he => he)
    rintro bytes h'' ⟨-, -, -, hbytes⟩
    obtain rfl := hbytes.trans (fitting_of_le hpart)
    split
    · exact leaves_bind (leaves_change (leaves_pure rfl))
    · exact leaves_pure rfl
  · rintro error h' ⟨-, hfolder⟩
    have hfile := hp.file
    rw [hfolder ref rfl] at hfile
    cases hfile

/-- The name is looked up. -/
theorem lookup_eq : ∃ found h', lookup dir name h = (.ok found, h') ∧
    found.handle h'.store.index = (h.store.index.object ref).handle := by
  have hdot : name ≠ "." := by
    rintro rfl
    exact absurd hp.named (by decide)
  have hup : name ≠ ".." := by
    rintro rfl
    exact absurd hp.named (by decide)
  have hlookup := leaves_lookup hp.ready hp.linked hp.nonzero dir hdot hup
  obtain ⟨o, hchild, hlies, -⟩ := hp.child
  cases hx : lookup dir name h with
  | mk r h' =>
    cases r with
    | ok n =>
      obtain ⟨-, slot', hlistable, found, o', rfl, -, hmem, ho', hname, -⟩ := hlookup.1 n h' hx
      obtain rfl : slot = slot' := Option.some.inj (hp.listable.active.symm.trans hlistable.active)
      obtain ⟨o'', ho'', hlies', hparent⟩ := (mem_listed_iff hp.wire).mp hmem
      obtain rfl : o' = o'' := Option.some.inj (ho'.symm.trans ho'')
      exact ⟨.bound found, h', rfl, hp.only ⟨ho', hparent, fun _ => hlies', hname⟩⟩
    | error error =>
      have hmem := (mem_listed_iff hp.wire).mpr ⟨o, hchild.object, hlies, hchild.parent⟩
      exact absurd ⟨slot, hp.listable, hp.short, _, hmem, o, hchild.object, hchild.name⟩ (hlookup.2 error h' hx).2

end Placed

/-! ## From an upload to a file in its place -/

/-- From `h` to `h'` the camera deleted what else was called `name` in a folder, if there was something, and
neither the folder nor the object for which `ref` stands. -/
structure Cleared (storage folder : UInt32) (name : String) (ref : ObjectRef) (h h' : Host Camera) : Prop where
  ready : Ready h'.bay.engine
  linked : Linked h'.store.index
  active : h'.bay.table.active = h.bay.table.active
  storageId : ∀ slot, (h'.bay.table.volume slot).storageId = (h.bay.table.volume slot).storageId
  records : SameRecords h.store.index h'.store.index
  payload : (h.store.index.object ref).payload = none → (h'.store.index.object ref).payload = none
  canWrite : h.bay.engine.link.CanWrite storage → h'.bay.engine.link.CanWrite storage
  sub : ∀ {handle o}, h'.bay.engine.link.objects.get? handle = some o →
    h.bay.engine.link.objects.get? handle = some o
  kept : ∀ {handle}, handle = folder ∨ handle = (h.store.index.object ref).handle →
    h'.bay.engine.link.objects.get? handle = h.bay.engine.link.objects.get? handle
  only : ∀ {handle o}, Camera.Child h'.bay.engine.link.objects storage folder name handle o →
    handle = (h.store.index.object ref).handle

/-- A deletion clears the place when it takes the one other file of the name, and the folder does not lie in
that. -/
theorem cleared_delete {storage folder : UInt32} {old : ObjectRef} {o : CameraObject}
    (hready : Ready h.bay.engine) (hlinked : Linked h.store.index)
    (ho : h.bay.engine.link.objects.get? (h.store.index.object old).handle = some o)
    (hprotection : o.info.protectionStatus = 0) (hwrite : h.bay.engine.link.CanWrite o.info.storageId)
    (hfolder : ¬ Below h.bay.engine.link.objects (h.store.index.object old).handle folder)
    (hnew : ¬ Below h.bay.engine.link.objects (h.store.index.object old).handle (h.store.index.object ref).handle)
    (honly : ∀ {handle o}, Camera.Child h.bay.engine.link.objects storage folder name handle o →
      handle = (h.store.index.object old).handle ∨ handle = (h.store.index.object ref).handle) :
    Cleared storage folder name ref h (Host.delete old h).2 := by
  refine Leaves.state (P := Cleared storage folder name ref h) ?_
  unfold Host.delete
  refine leaves_bind (leaves_read (leaves_bind (Host.leaves_call_of ((hready.leaves_deleteObject _).mono ?_ ?_))))
  · rintro _ e ⟨hready', o', -, hdeleted⟩
    have hobjects : e.link.objects = (Camera.removeTree _ h.bay.engine.link.objects).2 := hdeleted.objects
    have hpruned := Camera.pruned_removeTree (h.store.index.object old).handle h.bay.engine.link.objects
    have hgone := Camera.get?_removeTree_self (h.store.index.object old).handle h.bay.engine.link.objects
    rw [← hobjects] at hpruned hgone
    refine leaves_change ?_
    exact {
      ready := hready'
      linked := hlinked.remove _
      active := rfl
      storageId := fun _ => rfl
      records := .remove _ _
      payload := Index.payload_remove_of_none _ _
      canWrite := fun hcan => hdeleted.canWrite_iff.mpr (hcan.deleted _ o')
      sub := hpruned.sub
      kept := by
        rintro handle (rfl | rfl)
        · exact hpruned.kept hfolder
        · exact hpruned.kept hnew
      only := by
        intro handle o hchild
        refine (honly ⟨hpruned.sub hchild.object, hchild.parent, hchild.storage, hchild.name⟩).resolve_left ?_
        rintro rfl
        have hsome : e.link.objects.get? (h.store.index.object old).handle = some o := hchild.object
        rw [hgone] at hsome
        cases hsome }
  · rintro error e ⟨-, -, hrefused⟩
    exact absurd ⟨o, ho, hprotection, hwrite⟩ hrefused

section Placing

variable (hc : Creatable h dir slot name) (hconsulted : h.Consulted h₁)
  (huploaded : h₁.Uploaded (h.bay.table.volume slot).storageId (dir.handle h.store.index) name content ref h₂)
include hconsulted huploaded

/-- What the camera has after the upload it had before, or it was uploaded. -/
theorem object_of_uploaded {handle : UInt32} {o : CameraObject}
    (ho : h₂.bay.engine.link.objects.get? handle = some o) :
    handle = (h₂.store.index.object ref).handle ∨ h.bay.engine.link.objects.get? handle = some o := by
  obtain ⟨o', hobjects, -⟩ := huploaded.exists_new
  rw [hobjects, OrderedMap.get?_insert, hconsulted.alike.objects] at ho
  split at ho
  · rename_i hnew
    exact .inl (hnew.trans huploaded.handle_new.symm)
  · exact .inr ho

/-- What has the name then had it before, or was uploaded. -/
theorem holds_of_uploaded {handle : UInt32} {o : CameraObject}
    (hchild : Camera.Child h₂.bay.engine.link.objects (h.bay.table.volume slot).storageId
      (dir.handle h.store.index) name handle o) :
    handle = (h₂.store.index.object ref).handle ∨ Holds h dir slot name handle o :=
  (object_of_uploaded hconsulted huploaded hchild.object).imp_right fun ho =>
    ⟨ho, hchild.parent, hchild.storage, hchild.name⟩

include hc

/-- The directory was there. -/
theorem directory_of_uploaded (hd : dir.handle h.store.index ≠ 0) :
    ∃ o, h.bay.engine.link.objects.get? (dir.handle h.store.index) = some o ∧ o.info.isFolder = true := by
  have hfolder := Camera.folderOf_of_ne hc.wire
  obtain ⟨o, ho, hkind⟩ := huploaded.folder (hfolder.symm ▸ hd)
  rw [hfolder, hconsulted.alike.objects] at ho
  exact ⟨o, ho, hkind⟩

/-- It could be listed. -/
theorem listable_of_uploaded : Listable h dir slot where
  directory := hc.directory
  active := hc.active
  storage := (hconsulted.alike.canWrite_iff.mp huploaded.canWrite).hasStorage
  folder := Camera.hasFolder_wireParent fun hd =>
    (directory_of_uploaded hc hconsulted huploaded hd).imp fun _ ho => ho.1

variable (hcleared : Cleared (h.bay.table.volume slot).storageId (dir.handle h.store.index) name ref h₂ h')
include hcleared

/-- The directory stays one, under its handle. -/
theorem directory_kept : dir.handle h'.store.index = dir.handle h.store.index ∧
    dir.isDirectory h'.store.index = true := by
  have hdir := hc.directory
  cases dir with
  | root => exact ⟨rfl, rfl⟩
  | unbound => cases hdir
  | bound r =>
    have hkind : (h.store.index.object r).metadata.fileType = .folder := of_decide_eq_true hdir
    have hlt := Index.lt_size_of_directory hdir
    have hsame : (h'.store.index.object r).record = (h₁.store.index.object r).record := by
      rw [hcleared.records.record, huploaded.object_of_lt (Nat.lt_of_lt_of_le hlt hconsulted.learned.size_le)]
    obtain ⟨hhandle, -, -, hfileType⟩ := RemoteObject.eq_of_record hsame
    refine ⟨hhandle.trans (hconsulted.learned.handle hlt), decide_eq_true (hfileType.trans ?_)⟩
    rcases hconsulted.learned.object hlt with hsame' | ⟨-, o, ho, hshows⟩
    · exact (RemoteObject.eq_of_record hsame').2.2.2.trans hkind
    · -- it was asked for anew; the camera took the upload into it, so it is a folder there
      obtain ⟨o', ho', hfolder⟩ := directory_of_uploaded hc hconsulted huploaded (hc.orderly.handle ho).1
      obtain rfl : o = o' := Option.some.inj (ho.symm.trans ho')
      exact hshows.isFolder hfolder

omit hc in
theorem storageId_kept : (h'.bay.table.volume slot).storageId = (h.bay.table.volume slot).storageId := by
  rw [hcleared.storageId, huploaded.storageId, hconsulted.storageId]

/-- It can still be listed. -/
theorem listable_kept : Listable h' dir slot where
  directory := (directory_kept hc hconsulted huploaded hcleared).2
  active := by rw [hcleared.active, huploaded.active, hconsulted.active, hc.active]
  storage := storageId_kept hconsulted huploaded hcleared ▸ (hcleared.canWrite huploaded.canWrite').hasStorage
  folder := by
    rw [(directory_kept hc hconsulted huploaded hcleared).1]
    refine Camera.hasFolder_wireParent fun hd => ?_
    obtain ⟨o, ho, -⟩ := directory_of_uploaded hc hconsulted huploaded hd
    obtain ⟨o', hobjects, -⟩ := huploaded.exists_new
    rw [hcleared.kept (.inl rfl), hobjects, OrderedMap.get?_insert, hconsulted.alike.objects, ho]
    split
    · exact ⟨o', rfl⟩
    · exact ⟨o, rfl⟩

/-- The listing is longer by one at most, for which there was room. -/
theorem length_listed_kept : (listed h' dir slot).length ≤ Camera.maxListing := by
  have hle := Camera.length_listing_le (fun ho => object_of_uploaded hconsulted huploaded (hcleared.sub ho))
    (h.bay.table.volume slot).storageId (dir.handle h.store.index)
  have hroom := hc.room
  unfold listed at hroom ⊢
  rw [storageId_kept hconsulted huploaded hcleared, (directory_kept hc hconsulted huploaded hcleared).1]
  omega

/-- What was uploaded is in its place once the rest is cleared. -/
theorem placed_of_uploaded : Placed dir slot name content ref h' := by
  have hhandle := (directory_kept hc hconsulted huploaded hcleared).1
  have hstorage := storageId_kept hconsulted huploaded hcleared
  have hrecord := hcleared.records.record ref
  obtain ⟨hsame, -, -, hkind⟩ := RemoteObject.eq_of_record hrecord
  obtain ⟨model, hobject⟩ := huploaded.object_new
  obtain ⟨o', hobjects, hdata, hfilename, hparent, hlies⟩ := huploaded.exists_new
  exact {
    ready := hcleared.ready
    linked := hcleared.linked
    listable := listable_kept hc hconsulted huploaded hcleared
    wire := hhandle ▸ hc.wire
    short := length_listed_kept hc hconsulted huploaded hcleared
    nonzero := by
      intro handle o ho
      rcases object_of_uploaded hconsulted huploaded (hcleared.sub ho) with rfl | ho
      · rw [huploaded.handle_new, hconsulted.alike.nextHandle]
        exact hc.orderly.next
      · exact (hc.orderly.handle ho).1
    payload := hcleared.payload (by rw [hobject])
    file := by
      have hfile := huploaded.isFolder_new
      unfold ObjectMetadata.isFolder at hfile ⊢
      rwa [hkind]
    size := by
      have hsize := RemoteObject.size_of_record hrecord
      rw [hobject] at hsize
      exact hsize
    named := huploaded.named
    fits := huploaded.fits
    child := by
      have htold : Dataset.told name = name := Host.told_of_checkName huploaded.named hc.units
      have hfolder := Camera.folderOf_of_ne hc.wire
      have hlies' : Camera.liesOn (h.bay.table.volume slot).storageId o' = true := hlies ▸ Camera.liesOn_self o'
      have hget := hcleared.kept (.inr rfl)
      rw [huploaded.handle_new, hobjects, OrderedMap.get?_insert_self] at hget
      unfold Holds
      rw [hstorage, hhandle, hsame, huploaded.handle_new]
      exact ⟨o', ⟨hget, hparent.trans hfolder, fun _ => hlies', by rw [hfilename, htold, htold]⟩, hlies', hdata⟩
    only := by
      intro handle o hchild
      unfold Holds at hchild
      rw [hstorage, hhandle] at hchild
      rw [hcleared.only hchild, hsame] }

end Placing

end Mount

end Tether
