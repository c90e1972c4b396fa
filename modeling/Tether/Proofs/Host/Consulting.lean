import Tether.Proofs.Cache.Records
import Tether.Proofs.Host.Operated
import Tether.Proofs.Host.Uploading

/-!
# Tether.Proofs.Host.Consulting — what a host learns about a folder

Listing a folder and looking a name up ask the camera and change nothing that it holds; all that the store learns
is what the camera says (`Host.Consulted`).  At a camera without faults a folder that is there is listed as the
camera has it (`Mount.leaves_children`), and a name is found just when something in the folder is told by it
(`Mount.leaves_lookup`).
-/

namespace Tether

open Ptp Tether.Action
open Camera (Objects listing)
open Engine (Ready wireParent)
open Index (Linked)

/-! ## Descriptions -/

/-- The object is described as the camera describes `o`. -/
structure RemoteObject.Shows (r : RemoteObject) (o : CameraObject) : Prop where
  name : r.metadata.name = Dataset.told o.info.filename
  parent : r.metadata.parent = o.info.parent
  fileType : r.metadata.fileType = .ofObject o.described.told.format o.described.told.filename
  size : r.metadata.size = .ofNat o.data.length

/-- From `x` to `y` nothing was learnt but what the camera has under the handles of objects. -/
structure Index.Learned (objects : Objects) (x y : Index) : Prop where
  size_le : x.objects.size ≤ y.objects.size
  object : ∀ {ref}, ref < x.objects.size → (y.object ref).record = (x.object ref).record ∨
    (y.object ref).handle = (x.object ref).handle ∧
      ∃ o, objects.get? (x.object ref).handle = some o ∧ (y.object ref).Shows o

namespace Index.Learned

variable {objects : Objects} {x y z : Index}

theorem refl (objects : Objects) (x : Index) : Learned objects x x :=
  ⟨Nat.le_refl _, fun _ => .inl rfl⟩

theorem handle (h : Learned objects x y) {ref : ObjectRef} (hlt : ref < x.objects.size) :
    (y.object ref).handle = (x.object ref).handle := by
  rcases h.object hlt with hsame | ⟨hhandle, -⟩
  · exact (RemoteObject.eq_of_record hsame).1
  · exact hhandle

theorem trans (h : Learned objects x y) (h' : Learned objects y z) : Learned objects x z := by
  refine ⟨Nat.le_trans h.size_le h'.size_le, fun {ref} hlt => ?_⟩
  have hlt' := Nat.lt_of_lt_of_le hlt h.size_le
  rcases h'.object hlt' with hsame' | ⟨hhandle', o, ho, hshows⟩
  · rcases h.object hlt with hsame | ⟨hhandle, o, ho, hshows⟩
    · exact .inl (hsame'.trans hsame)
    · obtain ⟨hh, hname, hparent, hkind⟩ := RemoteObject.eq_of_record hsame'
      exact .inr ⟨hh.trans hhandle, o, ho, hname.trans hshows.name, hparent.trans hshows.parent,
        hkind.trans hshows.fileType, (RemoteObject.size_of_record hsame').trans hshows.size⟩
  · rw [h.handle hlt] at hhandle' ho
    exact .inr ⟨hhandle', o, ho, hshows⟩

end Index.Learned

namespace Host

variable {h h' h'' : Host Camera}

/-- From `h` to `h'` the camera was only asked, and what it said was learnt. -/
structure Consulted (h h' : Host Camera) : Prop where
  ready : Ready h'.bay.engine
  alike : h.bay.engine.link.Alike h'.bay.engine.link
  active : h'.bay.table.active = h.bay.table.active
  storageId : ∀ slot, (h'.bay.table.volume slot).storageId = (h.bay.table.volume slot).storageId
  linked : Linked h'.store.index
  learned : Index.Learned h.bay.engine.link.objects h.store.index h'.store.index

theorem Consulted.refl (hready : Ready h.bay.engine) (hlinked : Linked h.store.index) : h.Consulted h :=
  ⟨hready, .refl _, rfl, fun _ => rfl, hlinked, .refl _ _⟩

theorem Consulted.trans (hc : h.Consulted h') (hc' : h'.Consulted h'') : h.Consulted h'' where
  ready := hc'.ready
  alike := hc.alike.trans hc'.alike
  active := hc'.active.trans hc.active
  storageId slot := (hc'.storageId slot).trans (hc.storageId slot)
  linked := hc'.linked
  learned := hc.learned.trans (hc.alike.objects ▸ hc'.learned)

/-- That a card was accessed is written down. -/
theorem Consulted.touch (hc : h.Consulted h') (slot : Slot) : h.Consulted { h' with bay := h'.bay.touch slot } :=
  ⟨hc.ready, hc.alike, hc.active, fun other => (Bay.storageId_touch slot other h'.bay).trans
    (hc.storageId other), hc.linked, hc.learned⟩

/-- A call to the camera that changes nothing there. -/
theorem Consulted.engine (hlinked : Linked h.store.index) {e : Engine Camera} (hready : Ready e)
    (halike : h.bay.engine.link.Alike e.link) : h.Consulted { h with bay := { h.bay with engine := e } } :=
  ⟨hready, halike, rfl, fun _ => rfl, hlinked, .refl _ _⟩

/-- A store that learns what the camera describes shows it. -/
theorem shows_learn {s : Store} (hx : Index.Rooted s.index) (handle : UInt32) (o : CameraObject)
    (h : Host Camera) :
    ((s.learn handle (metadataOf o.described.told h)).2.index.object
      (s.learn handle (metadataOf o.described.told h)).1).Shows o := by
  have hself := (Store.recorded_learn hx handle (metadataOf o.described.told h)).self
  obtain ⟨-, hname, hparent, hkind⟩ := RemoteObject.eq_of_record hself
  exact ⟨hname.trans rfl, hparent.trans rfl, hkind.trans rfl, (RemoteObject.size_of_record hself).trans rfl⟩

/-- An object is fetched when the camera has it. -/
theorem leaves_fetch (hready : Ready h.bay.engine) (hlinked : Linked h.store.index) (handle : UInt32) :
    (fetch handle).Leaves h
      (fun ref h' => h.Consulted h' ∧ ref < h'.store.index.objects.size ∧
        (h'.store.index.object ref).handle = handle ∧
        ∃ o, h.bay.engine.link.objects.get? handle = some o ∧ (h'.store.index.object ref).Shows o)
      fun _ h' => h.Consulted h' ∧ (handle = 0 ∨ h.bay.engine.link.objects.get? handle = none) := by
  unfold fetch
  split
  · rename_i hzero
    exact leaves_bind (leaves_fail ⟨.refl hready hlinked, .inl hzero⟩)
  · refine leaves_bind (leaves_call_of ((hready.leaves_objectInfo handle).mono ?_ ?_))
    · rintro info e ⟨hready', halike, o, ho, rfl⟩
      refine leaves_bind (leaves_read (leaves_ofFunction ?_))
      have hshows := shows_learn hlinked.toRooted handle o { h with bay := { h.bay with engine := e } }
      generalize hmetadata : metadataOf o.described.told _ = metadata at *
      have hrecorded := Store.recorded_learn hlinked.toRooted handle metadata
      have hhandle := (RemoteObject.eq_of_record hrecorded.self).1
      refine ⟨⟨hready', halike, rfl, fun _ => rfl, kept_linked.learn handle metadata hlinked,
        hrecorded.size_le, ?_⟩, hrecorded.lt_size, hhandle, o, ho, hshows⟩
      intro ref hlt
      by_cases hne : ref = (h.store.learn handle metadata).1
      · right
        rw [hne] at hlt ⊢
        rw [hrecorded.handle hlt]
        exact ⟨hhandle, o, ho, hshows⟩
      · exact .inl (hrecorded.other hne)
    · rintro error e ⟨hready', halike, hnone⟩
      exact ⟨.engine hlinked hready' halike, .inr hnone⟩

/-- Of an object that has the size that was told, any part is read from the camera that is not cached; what would
not fit a container is missing. -/
theorem leaves_readRange (hready : Ready h.bay.engine) {ref : ObjectRef} {o : CameraObject}
    (ho : h.bay.engine.link.objects.get? (h.store.index.object ref).handle = some o)
    (hshort : o.data.length < maxWord) (hsize : (h.store.index.object ref).metadata.size = .ofNat o.data.length)
    (length : Nat) {offset : Nat} (hmiss : ((h.store.index.object ref).payload.getD []).length ≤ offset) :
    (readRange ref length offset).Leaves h
      (fun bytes h' => Ready h'.bay.engine ∧ h.bay.engine.link.Alike h'.bay.engine.link ∧ h'.store = h.store ∧
        bytes = fitting ((o.data.drop offset).take length))
      fun _ _ => False := by
  have hmax : maxWord = UInt32.size - 1 := rfl
  have hword : ∀ {n}, n ≤ o.data.length → (UInt32.ofNat n).toNat = n :=
    fun hle => UInt32.toNat_ofNat_of_lt' (by omega)
  have hunsaturated : (h.store.index.object ref).metadata.isSaturated = false := by
    refine decide_eq_false fun hlast => ?_
    have hnat := congrArg UInt32.toNat (hsize.symm.trans hlast)
    rw [hword (Nat.le_refl _)] at hnat
    exact Nat.ne_of_lt hshort hnat
  unfold readRange
  refine leaves_bind (leaves_read ?_)
  dsimp only
  rw [if_neg (Nat.not_lt.mpr hmiss), hsize, hunsaturated, hword (Nat.le_refl _)]
  simp only [and_false, Bool.false_eq_true, if_false]
  split
  · rename_i hnone
    have hempty : (o.data.drop offset).take length = [] := by
      rcases hnone with hend | hzero
      · rw [List.drop_of_length_le hend, List.take_nil]
      · rw [hzero, List.take_zero]
    exact leaves_pure ⟨hready, .refl _, rfl, by rw [hempty]; rfl⟩
  · rename_i hsome
    rw [not_or, Nat.not_le] at hsome
    have hwanted : min length (o.data.length - offset) ≤ o.data.length := by omega
    refine leaves_bind (leaves_call_of ((hready.leaves_downloadPart _ _ _).mono ?_ ?_))
    · rintro data e ⟨hready', halike, o', ho', hdata⟩
      obtain rfl : o = o' := Option.some.inj (ho.symm.trans ho')
      -- what is asked for ends with the content, or with what is wanted of it
      have hpart : (o.data.drop offset).take (min length (o.data.length - offset)) =
          (o.data.drop offset).take length := by
        rw [← List.length_drop]
        exact List.take_eq_take_min.symm
      rw [hword (Nat.le_of_lt hsome.1), hword hwanted, hpart] at hdata
      have hshort' : (fitting ((o.data.drop offset).take length)).length ≤ length :=
        Nat.le_trans (length_fitting_le _) (List.length_take_le _ _)
      refine leaves_bind (leaves_change (leaves_pure ⟨hready'.count _, halike, rfl, ?_⟩))
      rw [hdata, List.take_of_length_le hshort']
    · rintro error e ⟨-, -, hnone⟩
      rw [ho] at hnone
      cases hnone

end Host

/-! ## Folders -/

namespace Mount

variable {h : Host Camera}

/-- The lines are about the objects of some handles, as the camera describes them. -/
structure Lists (objects : Objects) (handles : List UInt32) (entries : List DirectoryEntry) : Prop where
  handles : entries.map DirectoryEntry.handle = handles
  shows : ∀ entry ∈ entries, ∃ r o, entry = .ofObject r ∧ objects.get? r.handle = some o ∧ r.Shows o

/-- The names are those that are told of the objects. -/
theorem Lists.names {objects : Objects} {handles : List UInt32} {entries : List DirectoryEntry}
    (h : Lists objects handles entries) :
    ∀ entry ∈ entries, ∃ o, objects.get? entry.handle = some o ∧ entry.name = Dataset.told o.info.filename := by
  intro entry hmem
  obtain ⟨r, o, rfl, ho, hshows⟩ := h.shows entry hmem
  exact ⟨o, ho, hshows.name⟩

/-- The first line of a name is that of an object that is told by it; there is none just when no object is. -/
theorem Lists.find? {objects : Objects} {handles : List UInt32} {entries : List DirectoryEntry}
    (h : Lists objects handles entries) (name : String) :
    match entries.find? fun e => e.name = name with
    | some entry => entry.handle ∈ handles ∧
        ∃ o, objects.get? entry.handle = some o ∧ Dataset.told o.info.filename = name
    | none => ∀ handle ∈ handles, ∀ o, objects.get? handle = some o → Dataset.told o.info.filename ≠ name := by
  cases hfind : entries.find? fun e => e.name = name with
  | none =>
    intro handle hmem o ho hname
    rw [← h.handles] at hmem
    obtain ⟨entry, hentry, rfl⟩ := List.mem_map.mp hmem
    obtain ⟨o', ho', hshown⟩ := h.names entry hentry
    obtain rfl : o = o' := Option.some.inj (ho.symm.trans ho')
    exact List.find?_eq_none.mp hfind entry hentry (decide_eq_true (hshown.trans hname))
  | some entry =>
    have hentry := List.mem_of_find?_eq_some hfind
    have hname : entry.name = name := by
      have hfound := List.find?_some hfind
      exact of_decide_eq_true hfound
    obtain ⟨o, ho, hshown⟩ := h.names entry hentry
    exact ⟨h.handles ▸ List.mem_map_of_mem hentry, o, ho, hshown.symm.trans hname⟩

/-- Of objects that the camera has, each gets a line. -/
theorem describeAll_lists : ∀ (handles : List UInt32) {h : Host Camera}, Ready h.bay.engine →
    Linked h.store.index →
    (∀ handle ∈ handles, handle ≠ 0 ∧ ∃ o, h.bay.engine.link.objects.get? handle = some o) →
      h.Consulted (describeAll handles h).2 ∧ Lists h.bay.engine.link.objects handles (describeAll handles h).1
  | [], _, hready, hlinked, _ => ⟨.refl hready hlinked, rfl, fun entry hmem => by cases hmem⟩
  | handle :: rest, h, hready, hlinked, hknown => by
    have hfetch := Host.leaves_fetch hready hlinked handle
    obtain ⟨hzero, o, ho⟩ := hknown handle List.mem_cons_self
    unfold describeAll
    cases hx : Host.fetch handle h with
    | mk r h' =>
      cases r with
      | ok ref =>
        obtain ⟨hconsulted, -, hhandle, o', ho', hshows⟩ := hfetch.1 ref h' hx
        obtain ⟨hrest, hlists⟩ := describeAll_lists rest hconsulted.ready hconsulted.linked fun handle' hmem => by
          rw [hconsulted.alike.objects]
          exact hknown handle' (List.mem_cons_of_mem _ hmem)
        rw [hconsulted.alike.objects] at hlists
        refine ⟨hconsulted.trans hrest, congrArg₂ List.cons hhandle hlists.handles, fun entry hmem => ?_⟩
        rcases List.mem_cons.mp hmem with rfl | hmem
        · exact ⟨_, o', rfl, (congrArg _ hhandle).trans ho', hshows⟩
        · exact hlists.shows entry hmem
      | error error =>
        rcases (hfetch.2 error h' hx).2 with hnone | hnone
        · exact absurd hnone hzero
        · rw [hnone] at ho
          cases ho

/-- The folder behind a node can be listed: it is there, as is the storage of the active card. -/
structure Listable (h : Host Camera) (dir : Node) (slot : Slot) : Prop where
  directory : dir.isDirectory h.store.index = true
  active : h.bay.table.active = some slot
  storage : h.bay.engine.link.HasStorage (h.bay.table.volume slot).storageId
  folder : h.bay.engine.link.HasFolder (wireParent (dir.handle h.store.index))

/-- The handles that the camera lists for a node on the card in a slot. -/
def listed (h : Host Camera) (dir : Node) (slot : Slot) : List UInt32 :=
  listing h.bay.engine.link.objects (h.bay.table.volume slot).storageId (wireParent (dir.handle h.store.index))

/-- A folder is listed as the camera has it, if it is there and not too long to send. -/
theorem leaves_children (hready : Ready h.bay.engine) (hlinked : Linked h.store.index)
    (hhandles : ∀ {handle o}, h.bay.engine.link.objects.get? handle = some o → handle ≠ 0) (dir : Node) :
    (children dir).Leaves h
      (fun entries h' => h.Consulted h' ∧ ∃ slot, Listable h dir slot ∧
        (listed h dir slot).length ≤ Camera.maxListing ∧
        Lists h.bay.engine.link.objects (listed h dir slot) entries)
      fun _ h' => h.Consulted h' ∧ ¬ ∃ slot, Listable h dir slot ∧
        (listed h dir slot).length ≤ Camera.maxListing := by
  have hrefl := Host.Consulted.refl hready hlinked
  refine leaves_children_of (fun hfile => ⟨hrefl, ?_⟩) (fun hnone => ⟨hrefl, ?_⟩) fun hdirectory slot hactive => ?_
  · rintro ⟨slot, hlistable, -⟩
    exact hfile hlistable.directory
  · rintro ⟨slot, hlistable, -⟩
    have hsome := hlistable.active
    rw [hnone] at hsome
    cases hsome
  · refine Host.leaves_call_of ((hready.leaves_handles _ _).mono ?_ ?_)
    · rintro handles e ⟨hready', halike, hstorage, hfolder, rfl, hlength⟩
      have hconsulted := Host.Consulted.engine hlinked hready' halike
      have hknown : ∀ handle ∈ listed h dir slot, handle ≠ 0 ∧ ∃ o, e.link.objects.get? handle = some o := by
        intro handle hmem
        obtain ⟨o, ho, -⟩ := Camera.mem_listing_iff.mp hmem
        exact ⟨hhandles ho, o, halike.objects ▸ ho⟩
      obtain ⟨hall, hlists⟩ := describeAll_lists (listed h dir slot)
        (h := { h with bay := { h.bay with engine := e } }) hready' hlinked hknown
      have hlists' : Lists e.link.objects (listed h dir slot) _ := hlists
      rw [halike.objects] at hlists'
      exact ⟨hconsulted.trans (hall.touch slot), slot, ⟨hdirectory, hactive, hstorage, hfolder⟩, hlength, hlists'⟩
    · rintro error e ⟨hready', halike, hnot⟩
      refine ⟨.engine hlinked hready' halike, ?_⟩
      rintro ⟨slot', hlistable, hlength⟩
      obtain rfl : slot = slot' := Option.some.inj (hactive.symm.trans hlistable.active)
      exact hnot ⟨hlistable.storage, hlistable.folder, hlength⟩

/-- A name that is neither the folder's own nor that of the one above is found just when something in the folder
is told by it. -/
theorem leaves_lookup (hready : Ready h.bay.engine) (hlinked : Linked h.store.index)
    (hhandles : ∀ {handle o}, h.bay.engine.link.objects.get? handle = some o → handle ≠ 0) (dir : Node)
    {name : String} (hdot : name ≠ ".") (hup : name ≠ "..") :
    (lookup dir name).Leaves h
      (fun n h' => h.Consulted h' ∧ ∃ slot, Listable h dir slot ∧ ∃ ref o, n = .bound ref ∧
        ref < h'.store.index.objects.size ∧ (h'.store.index.object ref).handle ∈ listed h dir slot ∧
        h.bay.engine.link.objects.get? (h'.store.index.object ref).handle = some o ∧
        Dataset.told o.info.filename = name ∧ (h'.store.index.object ref).Shows o)
      fun _ h' => h.Consulted h' ∧ ¬ ∃ slot, Listable h dir slot ∧ (listed h dir slot).length ≤ Camera.maxListing ∧
        ∃ handle ∈ listed h dir slot, ∃ o, h.bay.engine.link.objects.get? handle = some o ∧
          Dataset.told o.info.filename = name := by
  refine leaves_lookup_of hdot hup ((leaves_children hready hlinked hhandles dir).mono ?_ ?_)
  · rintro entries h' ⟨hconsulted, slot, hlistable, -, hlists⟩
    have hfind := hlists.find? name
    cases hfound : entries.find? fun e => e.name = name with
    | none =>
      rw [hfound] at hfind
      refine ⟨hconsulted, ?_⟩
      rintro ⟨slot', hlistable', -, handle, hmem, o, ho, hname⟩
      obtain rfl : slot = slot' := Option.some.inj (hlistable.active.symm.trans hlistable'.active)
      exact hfind handle hmem o ho hname
    | some entry =>
      rw [hfound] at hfind
      obtain ⟨hmem, o, ho, hname⟩ := hfind
      refine (Host.leaves_fetch hconsulted.ready hconsulted.linked entry.handle).mono ?_ ?_
      · rintro ref h'' ⟨hconsulted', hlt, hhandle, o', ho', hshows⟩
        rw [hconsulted.alike.objects, ho] at ho'
        cases ho'
        rw [← hhandle] at hmem ho
        exact ⟨hconsulted.trans hconsulted', slot, hlistable, ref, o, rfl, hlt, hmem, ho, hname, hshows⟩
      · rintro error h'' ⟨-, hnone⟩
        rcases hnone with hzero | hnone
        · exact absurd hzero (hhandles ho)
        · rw [hconsulted.alike.objects, ho] at hnone
          cases hnone
  · rintro error h' ⟨hconsulted, hnot⟩
    refine ⟨hconsulted, ?_⟩
    rintro ⟨slot, hlistable, hlength, -⟩
    exact hnot ⟨slot, hlistable, hlength⟩

end Mount

/-- The session of the host with two cards is open. -/
theorem Host.ready_twoCards : Ready Host.twoCards.bay.engine := by
  have hr : Operated (fun _ => True) Host.twoCards := .twoCards
  exact ⟨⟨hr.calm, by decide +kernel, rfl, by decide +kernel⟩, by decide +kernel, by decide +kernel⟩

end Tether
