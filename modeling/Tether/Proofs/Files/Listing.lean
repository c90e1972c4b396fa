import Tether.Proofs.Files.Placing

/-!
# Tether.Proofs.Files.Listing — directories as the camera has them

To the host the root is 0, on the wire it is the last word, and to the camera 0 means any folder.  For all that,
a directory has one line for every object that lies in it on the active card, in the order of handles and as the
camera describes it (`Mount.Lines`).  A name is looked up as its first line, and from there the way up leads back
(`Mount.Finds`).

Two things stand in the way.  A card must not have the last word for its id: that stands for all cards, and what
lies on the others is listed then, too.  And a directory with more objects than a container can name is not
listed at all.
-/

namespace Tether

open Ptp Tether.Action
open Camera (Objects allStorages listing maxListing)
open Engine (Ready Request wireParent)
open Index (Linked)

/-! ## Folders of a camera -/

namespace Camera

variable {objects : Objects} {storage folder handle : UInt32} {o : CameraObject}

/-- The handle of a folder, or the root's. -/
def IsFolder (objects : Objects) (folder : UInt32) : Prop :=
  folder = 0 ∨ ∃ o, objects.get? folder = some o ∧ o.info.isFolder = true

/-- Listings ascend, so nothing is listed twice. -/
theorem ascending_listing (objects : Objects) (storage parent : UInt32) :
    (listing objects storage parent).Pairwise (· < ·) :=
  List.pairwise_map.mpr (OrderedMap.sorted _)

/-- Where the storage is not all of them, what is listed lies on it. -/
theorem mem_listing_of_ne (hstorage : storage ≠ allStorages) (hwire : folder ≠ wireRoot) :
    handle ∈ listing objects storage (wireParent folder) ↔
      ∃ o, objects.get? handle = some o ∧ o.info.storageId = storage ∧ o.info.parent = folder := by
  rw [mem_listing_iff, folderOf_of_ne hwire]
  simp [liesOn, hstorage]

/-- An object in a folder is listed there and nowhere else. -/
theorem existsUnique_listing (hhandles : ∀ {handle o}, objects.get? handle = some o → handle ≠ wireRoot)
    (ho : objects.get? handle = some o) (hstorage : o.info.storageId ≠ allStorages)
    (hparent : IsFolder objects o.info.parent) :
    ∃! folder, IsFolder objects folder ∧ handle ∈ listing objects o.info.storageId (wireParent folder) := by
  have hwire : ∀ {folder}, IsFolder objects folder → folder ≠ wireRoot := by
    rintro folder (rfl | ⟨o', ho', -⟩)
    · decide
    · exact hhandles ho'
  refine ⟨o.info.parent, ⟨hparent, (mem_listing_of_ne hstorage (hwire hparent)).mpr ⟨o, ho, rfl, rfl⟩⟩, ?_⟩
  rintro folder ⟨hfolder, hmem⟩
  obtain ⟨o', ho', -, rfl⟩ := (mem_listing_of_ne hstorage (hwire hfolder)).mp hmem
  obtain rfl : o = o' := Option.some.inj (ho.symm.trans ho')
  rfl

end Camera

/-- The line says of its object what the camera answers when it is asked for a description. -/
def DirectoryEntry.Tells (entry : DirectoryEntry) (e : Engine Camera) : Prop :=
  ∃ info, (Engine.objectInfo entry.handle e).1 = .ok info ∧ entry.name = info.filename ∧
    entry.fileType = .ofObject info.format info.filename ∧ entry.size = info.compressedSize

/-- A line that shows an object says what the camera answers. -/
theorem RemoteObject.Shows.tells {r : RemoteObject} {o : CameraObject} {e : Engine Camera} (h : r.Shows o)
    (hready : Ready e) (ho : e.link.objects.get? r.handle = some o) : (DirectoryEntry.ofObject r).Tells e := by
  have hanswer :
      (Engine.objectInfo r.handle).Leaves e (fun info _ => info = o.described.told) fun _ _ => False := by
    refine (hready.leaves_objectInfo r.handle).mono ?_ ?_
    · rintro info e' ⟨-, -, o', ho', rfl⟩
      rw [Option.some.inj (ho.symm.trans ho')]
    · rintro error e' ⟨-, -, hnone⟩
      rw [ho] at hnone
      cases hnone
  exact ⟨_, hanswer.eq_ok, h.name, h.fileType, h.size⟩

/-- An object that the camera has is fetched as it is described. -/
theorem Host.fetch_of_get? {h : Host Camera} (hready : Ready h.bay.engine) (hlinked : Linked h.store.index)
    {handle : UInt32} (hne : handle ≠ 0) {o : CameraObject}
    (ho : h.bay.engine.link.objects.get? handle = some o) :
    ∃ ref h', fetch handle h = (.ok ref, h') ∧ h.Consulted h' ∧ (h'.store.index.object ref).handle = handle ∧
      (h'.store.index.object ref).Shows o := by
  have hfetch : (fetch handle).Leaves h
      (fun ref h' => h.Consulted h' ∧ (h'.store.index.object ref).handle = handle ∧
        (h'.store.index.object ref).Shows o)
      fun _ _ => False := by
    refine (leaves_fetch hready hlinked handle).mono ?_ ?_
    · rintro ref h' ⟨hconsulted, -, hhandle, o', ho', hshows⟩
      obtain rfl : o = o' := Option.some.inj (ho.symm.trans ho')
      exact ⟨hconsulted, hhandle, hshows⟩
    · rintro error h' ⟨-, hnone⟩
      rcases hnone with hzero | hnone
      · exact hne hzero
      · rw [ho] at hnone
        cases hnone
  exact hfetch.exists_ok

namespace Mount

variable {h h' h'' : Host Camera} {dir : Node} {slot : Slot} {name : String} {entries : List DirectoryEntry}

/-! ## Listings -/

/-- A directory: the root, or a folder that is on the camera. -/
inductive Directory (h : Host Camera) : Node → Prop
  | root : Directory h .root
  | folder {ref : ObjectRef} {o : CameraObject} : Node.isDirectory h.store.index (.bound ref) = true →
      h.bay.engine.link.objects.get? (h.store.index.object ref).handle = some o → o.info.isFolder = true →
      Directory h (.bound ref)

theorem Directory.isDirectory (hd : Directory h dir) : dir.isDirectory h.store.index = true := by
  cases hd with
  | root => rfl
  | folder hdirectory _ _ => exact hdirectory

theorem Directory.isFolder (hd : Directory h dir) :
    Camera.IsFolder h.bay.engine.link.objects (dir.handle h.store.index) := by
  cases hd with
  | root => exact .inl rfl
  | folder _ ho hfolder => exact .inr ⟨_, ho, hfolder⟩

/-- A session is open at a camera without faults, and a slot is active.  No object has one of the two handles
that stand for the root. -/
structure Browsable (h : Host Camera) (slot : Slot) : Prop where
  ready : Ready h.bay.engine
  linked : Linked h.store.index
  active : h.bay.table.active = some slot
  handle : ∀ {handle o}, h.bay.engine.link.objects.get? handle = some o → handle ≠ 0 ∧ handle ≠ wireRoot

theorem Directory.handle_ne (hd : Directory h dir) (hb : Browsable h slot) :
    dir.handle h.store.index ≠ wireRoot := by
  cases hd with
  | root => exact (by decide : (0 : UInt32) ≠ wireRoot)
  | folder _ ho _ => exact (hb.handle ho).2

/-- A directory can be listed as long as the card is in the camera. -/
theorem Directory.listable (hd : Directory h dir) (hb : Browsable h slot)
    (hthere : h.bay.engine.link.HasStorage (h.bay.table.volume slot).storageId) : Listable h dir slot where
  directory := hd.isDirectory
  active := hb.active
  storage := hthere
  folder := Camera.hasFolder_wireParent fun hne => (hd.isFolder.resolve_left hne).imp fun _ ho => ho.1

/-- The lines for what is in a directory on the card in a slot: one for each object there, in the order of
handles, which says of it what the camera does. -/
structure Lines (h : Host Camera) (dir : Node) (slot : Slot) (entries : List DirectoryEntry) : Prop where
  handles : entries.map DirectoryEntry.handle = listed h dir slot
  ascending : (entries.map DirectoryEntry.handle).Pairwise (· < ·)
  mem_iff : ∀ handle, handle ∈ entries.map DirectoryEntry.handle ↔
    ∃ o, h.bay.engine.link.objects.get? handle = some o ∧ o.info.storageId = (h.bay.table.volume slot).storageId ∧
      o.info.parent = dir.handle h.store.index
  tells : ∀ entry ∈ entries, entry.Tells h.bay.engine

/-- A listing begins with the directory and the one above it. -/
theorem list_of_children (hx : children dir h = (.ok entries, h')) :
    list dir h = (.ok (.dot "." (dir.handle h.store.index) :: .dot ".." (parentHandle h.store.index dir) ::
      entries), h') := by
  unfold list
  rw [bind_apply]
  show (children dir >>= _) h = _
  rw [bind_apply, hx]
  rfl

theorem list_of_error {error : StorageError} (hx : children dir h = (.error error, h')) :
    list dir h = (.error error, h') := by
  unfold list
  rw [bind_apply]
  show (children dir >>= _) h = _
  rw [bind_apply, hx]

/-! ## Names -/

/-- A name without a line is missing. -/
theorem lookup_of_none (hdot : name ≠ ".") (hup : name ≠ "..") (hx : children dir h = (.ok entries, h'))
    (hnone : entries.find? (fun e => e.name = name) = none) :
    lookup dir name h = (.error (.noSuchFile name), h') := by
  have hfails : (lookup dir name).Leaves h (fun _ _ => False) fun e s => e = .noSuchFile name ∧ s = h' := by
    refine leaves_lookup_of hdot hup (leaves_of_eq_ok hx ?_)
    rw [hnone]
    exact ⟨rfl, rfl⟩
  obtain ⟨_, _, hfailed, rfl, rfl⟩ := hfails.exists_error
  exact hfailed

/-- A name with a line is the object of its first line. -/
theorem lookup_of_some {entry : DirectoryEntry} {ref : ObjectRef} (hdot : name ≠ ".") (hup : name ≠ "..")
    (hx : children dir h = (.ok entries, h')) (hfound : entries.find? (fun e => e.name = name) = some entry)
    (hfetch : Host.fetch entry.handle h' = (.ok ref, h'')) : lookup dir name h = (.ok (.bound ref), h'') := by
  have hfinds : (lookup dir name).Leaves h (fun n s => n = .bound ref ∧ s = h'') fun _ _ => False := by
    refine leaves_lookup_of hdot hup (leaves_of_eq_ok hx ?_)
    rw [hfound]
    exact leaves_of_eq_ok hfetch ⟨rfl, rfl⟩
  obtain ⟨_, _, hlooked, rfl, rfl⟩ := hfinds.exists_ok
  exact hlooked

/-- The way up from a node leads to a directory of some handle. -/
def LeadsUp (n : Node) (h : Host Camera) (folder : UInt32) : Prop :=
  ∃ up h', lookup n ".." h = (.ok up, h') ∧ Directory h' up ∧ up.handle h'.store.index = folder

/-- A name is the object of its first line, from which the way up leads back; without a line it is missing. -/
def Finds (h : Host Camera) (dir : Node) (entries : List DirectoryEntry) (name : String) : Prop :=
  match entries.find? fun e => e.name = name with
  | none => (lookup dir name h).1 = .error (.noSuchFile name)
  | some entry => ∃ ref h', lookup dir name h = (.ok (.bound ref), h') ∧
      (h'.store.index.object ref).handle = entry.handle ∧
      (DirectoryEntry.ofObject (h'.store.index.object ref)).Tells h.bay.engine ∧
      LeadsUp (.bound ref) h' (dir.handle h.store.index)

section Ready

variable (hready : Ready h.bay.engine) (hlinked : Linked h.store.index)
include hready hlinked

/-- A folder that is fetched is a directory. -/
theorem directory_of_fetch {folder : UInt32} (hne : folder ≠ 0)
    (hfolder : Camera.IsFolder h.bay.engine.link.objects folder) :
    ∃ ref h', Host.fetch folder h = (.ok ref, h') ∧ h.Consulted h' ∧ Directory h' (.bound ref) ∧
      (h'.store.index.object ref).handle = folder := by
  obtain ⟨o, ho, hkind⟩ := hfolder.resolve_left hne
  obtain ⟨ref, h', hfetch, hconsulted, hhandle, hshows⟩ := Host.fetch_of_get? hready hlinked hne ho
  have ho' : h'.bay.engine.link.objects.get? (h'.store.index.object ref).handle = some o := by
    rw [hhandle, hconsulted.alike.objects, ho]
  exact ⟨ref, h', hfetch, hconsulted, .folder (decide_eq_true (hshows.isFolder hkind)) ho' hkind, hhandle⟩

/-- Every folder of the camera has a node that is a directory. -/
theorem exists_directory {folder : UInt32} (hfolder : Camera.IsFolder h.bay.engine.link.objects folder) :
    ∃ dir h', h.Consulted h' ∧ Directory h' dir ∧ dir.handle h'.store.index = folder := by
  by_cases hzero : folder = 0
  · exact ⟨.root, h, .refl hready hlinked, .root, hzero.symm⟩
  · obtain ⟨ref, h', -, hconsulted, hdirectory, hhandle⟩ := directory_of_fetch hready hlinked hzero hfolder
    exact ⟨.bound ref, h', hconsulted, hdirectory, hhandle⟩

/-- The way up leads to the folder that is taken for the one above, if that is there. -/
theorem leadsUp_parentHandle (n : Node)
    (hfolder : Camera.IsFolder h.bay.engine.link.objects (parentHandle h.store.index n)) :
    LeadsUp n h (parentHandle h.store.index n) := by
  have hup : (parentOf n).Leaves h
      (fun up h' => Directory h' up ∧ up.handle h'.store.index = parentHandle h.store.index n)
          fun _ _ => False := by
    refine leaves_bind (leaves_read ?_)
    split
    · rename_i hzero
      exact leaves_pure ⟨.root, hzero.symm⟩
    · rename_i hne
      obtain ⟨ref, h', hfetch, -, hdirectory, hhandle⟩ := directory_of_fetch hready hlinked hne hfolder
      exact leaves_bind (leaves_of_eq_ok hfetch (leaves_pure ⟨hdirectory, hhandle⟩))
  exact hup.exists_ok

end Ready

namespace Browsable

variable (hb : Browsable h slot)
include hb

/-- A directory is listed just when its card is in the camera and the list can be sent. -/
theorem children_cases (hd : Directory h dir) :
    ((h.bay.engine.link.HasStorage (h.bay.table.volume slot).storageId ∧ (listed h dir slot).length ≤ maxListing) ∧
      ∃ entries h', children dir h = (.ok entries, h') ∧ h.Consulted h' ∧
        Lists h.bay.engine.link.objects (listed h dir slot) entries) ∨
    (¬ (h.bay.engine.link.HasStorage (h.bay.table.volume slot).storageId ∧
      (listed h dir slot).length ≤ maxListing) ∧
      ∃ error h', children dir h = (.error error, h')) := by
  have hchildren := leaves_children hb.ready hb.linked (fun ho => (hb.handle ho).1) dir
  cases hx : children dir h with
  | mk r h' =>
    cases r with
    | ok entries =>
      obtain ⟨hconsulted, slot', hlistable, hlength, hlists⟩ := hchildren.1 entries h' hx
      obtain rfl : slot = slot' := Option.some.inj (hb.active.symm.trans hlistable.active)
      exact .inl ⟨⟨hlistable.storage, hlength⟩, entries, h', rfl, hconsulted, hlists⟩
    | error error =>
      have hnot := (hchildren.2 error h' hx).2
      exact .inr ⟨fun ⟨hthere, hlength⟩ => hnot ⟨slot, hd.listable hb hthere, hlength⟩, error, h', rfl⟩

/-- What is listed is what lies in the directory, on the card. -/
theorem lines (hstorage : (h.bay.table.volume slot).storageId ≠ allStorages) (hd : Directory h dir)
    (hlists : Lists h.bay.engine.link.objects (listed h dir slot) entries) : Lines h dir slot entries where
  handles := hlists.handles
  ascending := hlists.handles ▸ Camera.ascending_listing _ _ _
  mem_iff handle := hlists.handles ▸ Camera.mem_listing_of_ne hstorage (hd.handle_ne hb)
  tells entry hmem := by
    obtain ⟨r, o, rfl, ho, hshows⟩ := hlists.shows entry hmem
    exact hshows.tells hb.ready ho

/-- Names are looked up among the lines of a listing. -/
theorem finds (hd : Directory h dir) (hx : children dir h = (.ok entries, h')) (hconsulted : h.Consulted h')
    (hlines : Lines h dir slot entries) (hdot : name ≠ ".") (hup : name ≠ "..") : Finds h dir entries name := by
  unfold Finds
  split
  · rename_i hnone
    exact congrArg Prod.fst (lookup_of_none hdot hup hx hnone)
  · rename_i entry hfound
    obtain ⟨o, ho, -, hparent⟩ := (hlines.mem_iff _).mp (List.mem_map_of_mem (List.mem_of_find?_eq_some hfound))
    have ho' : h'.bay.engine.link.objects.get? entry.handle = some o := hconsulted.alike.objects ▸ ho
    obtain ⟨ref, h'', hfetch, hconsulted', hhandle, hshows⟩ :=
      Host.fetch_of_get? hconsulted.ready hconsulted.linked (hb.handle ho).1 ho'
    have habove : parentHandle h''.store.index (.bound ref) = dir.handle h.store.index :=
      hshows.parent.trans hparent
    refine ⟨ref, h'', lookup_of_some hdot hup hx hfound hfetch, hhandle, hshows.tells hb.ready (hhandle ▸ ho), ?_⟩
    have hfolder : Camera.IsFolder h''.bay.engine.link.objects (parentHandle h''.store.index (.bound ref)) := by
      rw [habove, hconsulted'.alike.objects, hconsulted.alike.objects]
      exact hd.isFolder
    exact habove ▸ leadsUp_parentHandle hconsulted'.ready hconsulted'.linked (.bound ref) hfolder

/-- The listing of a directory begins with the directory and the one above it; then comes one line for each
object that lies in it on the active card, in the order of handles and as the camera describes it.  Every name is
that of its first line, from which the way up leads back to the directory, and a name without a line is missing.
A listing fails only when the card is gone or has more in the directory than a container can name.  Every folder
has such a directory, and every object in a folder is listed in exactly one. -/
theorem lists_camera_tree (hstorage : (h.bay.table.volume slot).storageId ≠ allStorages) :
    (∀ dir, Directory h dir →
      (h.bay.engine.link.HasStorage (h.bay.table.volume slot).storageId ∧ (listed h dir slot).length ≤ maxListing →
        ∃ entries h', list dir h =
            (.ok (.dot "." (dir.handle h.store.index) :: .dot ".." (parentHandle h.store.index dir) :: entries),
              h') ∧
          Lines h dir slot entries ∧ ∀ name, name ≠ "." → name ≠ ".." → Finds h dir entries name) ∧
      (¬ (h.bay.engine.link.HasStorage (h.bay.table.volume slot).storageId ∧
        (listed h dir slot).length ≤ maxListing) →
        ∃ error h', list dir h = (.error error, h'))) ∧
    (∀ folder, Camera.IsFolder h.bay.engine.link.objects folder →
      ∃ dir h', h.Consulted h' ∧ Directory h' dir ∧ dir.handle h'.store.index = folder) ∧
    ∀ handle o, h.bay.engine.link.objects.get? handle = some o →
      o.info.storageId = (h.bay.table.volume slot).storageId →
      Camera.IsFolder h.bay.engine.link.objects o.info.parent →
      ∃! folder, Camera.IsFolder h.bay.engine.link.objects folder ∧
        handle ∈ listing h.bay.engine.link.objects (h.bay.table.volume slot).storageId (wireParent folder) := by
  refine ⟨fun dir hd => ?_, fun folder => exists_directory hb.ready hb.linked, fun handle o ho hlies hparent => ?_⟩
  · rcases hb.children_cases hd with ⟨hcan, entries, h', hx, hconsulted, hlists⟩ | ⟨hcannot, error, h', hx⟩
    · have hlines := hb.lines hstorage hd hlists
      refine ⟨fun _ => ⟨entries, h', list_of_children hx, hlines, fun name => ?_⟩,
        fun hcannot => absurd hcan hcannot⟩
      exact hb.finds hd hx hconsulted hlines
    · exact ⟨fun hcan => absurd hcan hcannot, fun _ => ⟨error, h', list_of_error hx⟩⟩
  · rw [← hlies] at hstorage ⊢
    exact Camera.existsUnique_listing (fun ho' => (hb.handle ho').2) ho hstorage hparent

end Browsable

end Mount

/-! ## A folder on one of two cards -/

theorem Camera.handles_of_all {objects : Objects}
    (h : (objects.keys.all fun handle => handle ≠ 0 ∧ handle ≠ wireRoot) = true) {handle : UInt32}
    {o : CameraObject} (ho : objects.get? handle = some o) : handle ≠ 0 ∧ handle ≠ wireRoot :=
  of_decide_eq_true (List.all_eq_true.mp h handle (OrderedMap.mem_keys_iff.mpr ⟨o, ho⟩))

/-- A folder on the first card with a picture in it, and a picture on the other card. -/
def Host.foldered : Host Camera :=
  ((Host.twoCards.given (.forUpload Camera.cfExpressId 0 "DCIM" .association 0) []).given
    { Host.picture with parent := 1 } [1, 2, 3]).given { Host.picture with storageId := Camera.sdId } [4]

theorem Operated.foldered : Operated (fun _ => True) Host.foldered :=
  ((Operated.twoCards.given _ _ trivial).given _ _ trivial).given _ _ trivial

namespace Mount

theorem browsable_foldered : Browsable Host.foldered 0 where
  ready :=
    ⟨⟨Operated.foldered.calm, by decide +kernel, rfl, by decide +kernel⟩, by decide +kernel, by decide +kernel⟩
  linked := Operated.foldered.reached.linked
  active := by decide +kernel
  handle := Camera.handles_of_all (by decide +kernel)

theorem lists_camera_tree_foldered :
    (Browsable Host.foldered 0 ∧ (Host.foldered.bay.table.volume 0).storageId ≠ allStorages ∧
      Directory Host.foldered (.bound 0) ∧
      Host.foldered.bay.engine.link.HasStorage (Host.foldered.bay.table.volume 0).storageId ∧
      (listed Host.foldered (.bound 0) 0).length ≤ maxListing) ∧
    ∃ entries h', list (.bound 0) Host.foldered = (.ok (.dot "." 1 :: .dot ".." 0 :: entries), h') ∧
      Lines Host.foldered (.bound 0) 0 entries ∧ Finds Host.foldered (.bound 0) entries "a.jpg" := by
  have hdirectory : Directory Host.foldered (.bound 0) := by
    refine .folder (o := ⟨.forUpload Camera.cfExpressId 0 "DCIM" .association 0, []⟩) ?_ ?_ ?_ <;> decide +kernel
  have hstorage : (Host.foldered.bay.table.volume 0).storageId ≠ allStorages := by decide +kernel
  have hthere : Host.foldered.bay.engine.link.HasStorage (Host.foldered.bay.table.volume 0).storageId :=
    .inr (by decide +kernel)
  have hlength : (listed Host.foldered (.bound 0) 0).length ≤ maxListing := by decide +kernel
  refine ⟨⟨browsable_foldered, hstorage, hdirectory, hthere, hlength⟩, ?_⟩
  obtain ⟨hlists, -, -⟩ := browsable_foldered.lists_camera_tree hstorage
  obtain ⟨entries, h', hlist, hlines, hfinds⟩ := (hlists _ hdirectory).1 ⟨hthere, hlength⟩
  have hself : Node.handle Host.foldered.store.index (.bound 0) = 1 := by decide +kernel
  have habove : parentHandle Host.foldered.store.index (.bound 0) = 0 := by decide +kernel
  rw [hself, habove] at hlist
  exact ⟨entries, h', hlist, hlines, hfinds "a.jpg" (by decide) (by decide)⟩

end Mount

/-! ## A directory that is too full -/

/-- Pictures under the handles from 1 on, in the root of the first card. -/
def Camera.pictures : Nat → Objects
  | 0 => .empty
  | n + 1 => (pictures n).insert (UInt32.ofNat (n + 1)) ⟨Host.picture, []⟩

theorem Camera.get?_pictures {handle : UInt32} : ∀ {n : Nat}, n < UInt32.size → (pictures n).get? handle =
    if 0 < handle.toNat ∧ handle.toNat ≤ n then some ⟨Host.picture, []⟩ else none
  | 0, _ => by
    rw [if_neg (by omega)]
    rfl
  | n + 1, hn => by
    have hword : (UInt32.ofNat (n + 1)).toNat = n + 1 := UInt32.toNat_ofNat_of_lt' hn
    rw [pictures, OrderedMap.get?_insert, get?_pictures (Nat.lt_of_succ_lt hn)]
    by_cases hnew : handle = UInt32.ofNat (n + 1)
    · rw [if_pos hnew, hnew, hword, if_pos ⟨Nat.succ_pos n, Nat.le_refl _⟩]
    · have hne : handle.toNat ≠ n + 1 := fun heq => hnew (UInt32.toNat_inj.mp (heq.trans hword.symm))
      have hle : handle.toNat ≤ n + 1 ↔ handle.toNat ≤ n := by omega
      simp only [if_neg hnew, hle]

/-- All of them are listed. -/
theorem Camera.le_length_pictures {n : Nat} (hn : n < UInt32.size) :
    n ≤ (listing (pictures n) cfExpressId (wireParent 0)).length := by
  have hword : ∀ {i}, i < n → (UInt32.ofNat (i + 1)).toNat = i + 1 :=
    fun hi => UInt32.toNat_ofNat_of_lt' (by omega)
  have hnodup : ((List.range n).map fun i => UInt32.ofNat (i + 1)).Nodup := by
    refine List.Nodup.map_on (fun i hi j hj hij => ?_) List.nodup_range
    have hnat := congrArg UInt32.toNat hij
    rw [hword (List.mem_range.mp hi), hword (List.mem_range.mp hj)] at hnat
    omega
  have hsubset : ((List.range n).map fun i => UInt32.ofNat (i + 1)) ⊆
      listing (pictures n) cfExpressId (wireParent 0) := by
    intro handle hmem
    obtain ⟨i, hi, rfl⟩ := List.mem_map.mp hmem
    have hlt := List.mem_range.mp hi
    refine (mem_listing_of_ne (by decide) (by decide)).mpr ⟨⟨Host.picture, []⟩, ?_, rfl, rfl⟩
    rw [get?_pictures hn, hword hlt, if_pos (by omega)]
  have hle := (List.subperm_of_subset hnodup hsubset).length_le
  rwa [List.length_map, List.length_range] at hle

/-- The host with two cards, at a camera with so many pictures. -/
def Host.crowded (n : Nat) : Host Camera :=
  { Host.twoCards with bay := { Host.twoCards.bay with engine :=
    { Host.twoCards.bay.engine with link :=
      { Host.twoCards.bay.engine.link with objects := Camera.pictures n } } } }

namespace Mount

/-- Nothing in the way of browsing has to do with the objects, but their handles. -/
theorem browsable_crowded {n : Nat} (hn : n < UInt32.size - 1) : Browsable (Host.crowded n) 0 where
  ready := by
    have hready := Host.ready_twoCards
    refine ⟨⟨⟨hready.received, fun hc => ?_⟩, hready.connected_eq, rfl, hready.faults⟩, hready.session,
      hready.sessionOpen⟩
    exact ⟨(hready.clear hc).inbound, (hready.clear hc).outbound, (hready.clear hc).awaitingData⟩
  linked := by
    have hr : Operated (fun _ => True) Host.twoCards := .twoCards
    exact hr.reached.linked
  active := by
    show Host.twoCards.bay.table.active = some 0
    decide +kernel
  handle {handle o} ho := by
    have hget : (Camera.pictures n).get? handle = some o := ho
    rw [Camera.get?_pictures (by omega)] at hget
    split at hget
    · rename_i hbounds
      have hlast : wireRoot.toNat = UInt32.size - 1 := rfl
      constructor
      · rintro rfl
        exact absurd hbounds.1 (by decide)
      · rintro rfl
        omega
    · cases hget

/-- What no container can name is not listed. -/
theorem list_crowded {n : Nat} (hmany : maxListing < n) (hn : n < UInt32.size - 1) :
    ∃ error h', list .root (Host.crowded n) = (.error error, h') := by
  have hcard : ((Host.crowded n).bay.table.volume 0).storageId = Camera.cfExpressId := by
    show (Host.twoCards.bay.table.volume 0).storageId = _
    decide +kernel
  have hlong : ¬ (listed (Host.crowded n) .root 0).length ≤ maxListing := by
    unfold listed
    rw [hcard]
    exact Nat.not_le.mpr (Nat.lt_of_lt_of_le hmany (Camera.le_length_pictures (by omega)))
  obtain ⟨-, error, h', hx⟩ := ((browsable_crowded hn).children_cases .root).resolve_left fun hcan =>
    hlong hcan.1.2
  exact ⟨error, h', list_of_error hx⟩

end Mount

/-! ## A card with the id of all cards -/

/-- A new host at a camera whose second card has the id that stands for all of them. -/
def Host.mislabelled : Host Camera :=
  (Host.unplugged.updateEngine fun e =>
    { e with link := (CameraStep.removeStorage Camera.sdId).run e.link }).updateEngine
    fun e => { e with link := (CameraStep.addStorage allStorages (Camera.removableCard "SD" 1000 900)).run e.link }

/-- The second card is mounted and active; a picture lies on the first. -/
def Host.reserved : Host Camera :=
  ((((Host.mislabelled.updateEngine Request.openSession.run).updateBay (BayCall.step .scan).run).updateBay
    (BayCall.step (.mount 1)).run).updateBay (BayCall.step (.setActive 1)).run).given Host.picture [1, 2, 3]

theorem Operated.reserved : Operated (fun _ => True) Host.reserved := by
  have huntouched : (Camera.withTwoCards Engine.idle.clock).Untouched :=
    ⟨⟨rfl, rfl, rfl⟩, rfl, fun h => by cases h⟩
  have hnew : Operated (fun _ => True) Host.unplugged := .new 100 300 rfl huntouched
  have hcards : Operated (fun _ => True) Host.mislabelled :=
    (hnew.camera (.removeStorage _) fun h => h.elim).camera (.addStorage _ _) fun h => h.elim
  have hscanned := (hcards.request .openSession fun h => h.elim).bay (.step .scan) trivial
  exact ((hscanned.bay (.step (.mount 1)) trivial).bay (.step (.setActive 1)) trivial).given _ _ trivial

namespace Mount

theorem browsable_reserved : Browsable Host.reserved 1 where
  ready :=
    ⟨⟨Operated.reserved.calm, by decide +kernel, rfl, by decide +kernel⟩, by decide +kernel, by decide +kernel⟩
  linked := Operated.reserved.reached.linked
  active := by decide +kernel
  handle := Camera.handles_of_all (by decide +kernel)

/-- The picture lies on the other card, and yet it is listed in the root of the active one.  And with one picture
more than a container can name, the root of a card that is in the camera cannot be listed at all. -/
theorem lists_other_cards :
    (Operated (fun _ => True) Host.reserved ∧ Browsable Host.reserved 1 ∧ Directory Host.reserved .root ∧
      Host.reserved.bay.engine.link.storages.contains (Host.reserved.bay.table.volume 1).storageId = true ∧
      ∃ entries h', list .root Host.reserved = (.ok (.dot "." 0 :: .dot ".." 0 :: entries), h') ∧
        1 ∈ entries.map DirectoryEntry.handle ∧
        Host.reserved.bay.engine.link.objects.get? 1 = some ⟨Host.picture, [1, 2, 3]⟩ ∧
        Host.picture.storageId ≠ (Host.reserved.bay.table.volume 1).storageId ∧
        ¬ Lines Host.reserved .root 1 entries) ∧
    (Browsable (Host.crowded (maxListing + 1)) 0 ∧ Directory (Host.crowded (maxListing + 1)) .root ∧
      Host.twoCards.bay.engine.link.storages.contains (Host.twoCards.bay.table.volume 0).storageId = true ∧
      ∃ error h', list .root (Host.crowded (maxListing + 1)) = (.error error, h')) := by
  have hthere :
      Host.reserved.bay.engine.link.storages.contains (Host.reserved.bay.table.volume 1).storageId = true := by
    decide +kernel
  have hlisted : listed Host.reserved .root 1 = [1] := by decide +kernel
  have hpicture : Host.reserved.bay.engine.link.objects.get? 1 = some ⟨Host.picture, [1, 2, 3]⟩ := by
    decide +kernel
  have hother : Host.picture.storageId ≠ (Host.reserved.bay.table.volume 1).storageId := by decide +kernel
  have hroom : maxListing + 1 < UInt32.size - 1 := by decide
  refine ⟨⟨Operated.reserved, browsable_reserved, .root, hthere, ?_⟩,
    ⟨browsable_crowded hroom, .root, by decide +kernel, list_crowded (Nat.lt_succ_self _) hroom⟩⟩
  have hshort : (listed Host.reserved .root 1).length ≤ maxListing := by
    rw [hlisted]
    decide
  obtain ⟨-, entries, h', hx, -, hlists⟩ := (browsable_reserved.children_cases .root).resolve_right fun hcannot =>
    hcannot.1 ⟨.inr hthere, hshort⟩
  have hmem : 1 ∈ entries.map DirectoryEntry.handle := by
    rw [hlists.handles, hlisted]
    exact List.mem_cons_self
  refine ⟨entries, h', list_of_children hx, hmem, hpicture, hother, fun hlines => ?_⟩
  obtain ⟨o, ho, hlies, -⟩ := (hlines.mem_iff 1).mp hmem
  obtain rfl := Option.some.inj (hpicture.symm.trans ho)
  exact hother hlies

end Mount

end Tether
