import Tether.Proofs.Cache.Attached
import Tether.Proofs.Files.Replacing

/-!
# Tether.Proofs.Host.Deleting — what a deletion takes out of the store and out of the camera

A camera deletes an object with everything below it; the store takes the object's own handle out and looks at
nothing else (`Index.Without`).  So objects below a deleted folder stay in the store, and their contents in the
cache, exactly as far as the store knew them (`Operated.deleted_forgotten_iff`).
-/

namespace Tether

open Ptp Tether.Action
open Camera (Below Felled Pruned Rising)
open Engine (Calm HasHandle)
open Index (Linked)

/-! ## Handles of uploads -/

/-- The object of an upload that succeeds has the next handle of the camera. -/
theorem Host.leaves_writeNew_handle {h : Host Camera} (hcalm : Calm h.bay.engine) (name : String) (content : Bytes)
    (parent : UInt32) : (writeNew name content parent).Leaves h
      (fun ref h' => (h'.store.index.object ref).handle = h.bay.engine.link.nextHandle) fun _ _ => True := by
  unfold writeNew
  refine leaves_bind (leaves_ofExcept (fun _ _ => ?_) fun _ _ => trivial)
  refine leaves_bind (leaves_ofExcept (fun size _ => ?_) fun _ _ => trivial)
  refine leaves_bind (leaves_state ?_)
  refine leaves_bind (leaves_ofExcept (fun target _ => ?_) fun _ _ => trivial)
  obtain ⟨slot, storage⟩ := target
  refine leaves_bind (leaves_call_of ((Engine.leaves_announceUpload hcalm storage parent
    (ObjectInfo.isFolder_upload storage parent name size _)).mono ?_ fun _ _ _ => trivial))
  rintro handle e ⟨-, hhandle, -⟩
  refine leaves_bind (leaves_call (fun _ engine => ?_) fun _ _ => trivial)
  refine leaves_bind (leaves_change (leaves_bind (leaves_read (leaves_ofFunction ?_))))
  exact (congrArg RemoteObject.handle ((Index.object_insert _ _ _).trans (if_pos rfl))).trans hhandle

/-- As long as the camera has handles left, uploads are given new ones. -/
theorem Operated.reached_fresh {h : Host Camera} (hr : Operated HasHandle h) : Reached False h := by
  induction hr with
  | new budget staleness _ _ => exact .new _ _ budget staleness rfl
  | @store c h hr _ _ ih =>
    refine .call c ih (.inr ?_)
    cases c with
    | writeNew name content parent =>
      intro ref h' hw
      have hhandle := (Host.leaves_writeNew_handle hr.calm name content parent).1 ref h' hw
      rw [hhandle]
      -- every handle that the store knows was given out before
      refine Option.eq_none_iff_forall_ne_some.mpr fun ref' hf => ?_
      have hroot := ih.linked.toRooted
      have hlt := (hr.matches_camera.vouches (hroot.ref_lt hf)).lt
      rw [hroot.handle_eq hf] at hlt
      exact UInt32.lt_irrefl _ hlt
    | _ => exact trivial
  | bay c _ _ ih => exact ih.bay _
  | request r _ _ ih => exact ih.bay _
  | idle f _ _ ih => exact ih.bay _
  | camera s _ _ ih => exact ih.bay _

/-! ## What a deletion takes out -/

/-- From `x` to `y` one handle left the tree and the order of use, and its object was emptied; all else is as it
was. -/
structure Index.Without (handle : UInt32) (x y : Index) : Prop where
  find? : ∀ k, y.find? k = if k = handle then none else x.find? k
  object : ∀ ref, y.object ref = if x.find? handle = some ref then (x.object ref).emptied else x.object ref
  order : y.cachedHandles = x.cachedHandles.filter (· ≠ handle)
  budget : y.budget = x.budget

/-- The index knows no object of the handle and has no content for it, not even outside the tree. -/
structure Index.Forgets (x : Index) (handle : UInt32) : Prop where
  find? : x.find? handle = none
  order : handle ∉ x.cachedHandles
  contents : ∀ ref, (x.object ref).handle = handle → (x.object ref).payload = none

theorem Index.Linked.without_remove {x : Index} (hx : Linked x) (handle : UInt32) :
    Index.Without handle x (x.remove handle).2 where
  find? := hx.find?_remove handle
  object := hx.object_remove handle
  order := hx.cachedHandles_remove handle
  budget := hx.budget_uncache handle

/-- Where every content is behind a handle, what has no object has no content. -/
theorem Index.Housed.forgets_iff {x : Index} (hx : Index.Housed x) (handle : UInt32) :
    x.Forgets handle ↔ x.find? handle = none := by
  refine ⟨Index.Forgets.find?, fun hf => ⟨hf, fun hc => ?_, fun ref hh => ?_⟩⟩
  · obtain ⟨tick, ht⟩ := hx.toOrdered.mem_cachedHandles_iff.mp hc
    obtain ⟨o, ho⟩ := hx.known ht
    rw [Index.lookup?_eq_none_iff.mpr hf] at ho
    cases ho
  · refine Option.eq_none_iff_forall_ne_some.mpr fun payload hp => ?_
    obtain ⟨k, hk⟩ := hx.attached ref (by rw [RemoteObject.isCached, hp]; rfl)
    rw [← hx.handle_eq hk, hh, hf] at hk
    cases hk

namespace Host

variable {h h' : Host Camera} {ref : ObjectRef} {top handle : UInt32}

/-- From `h` to `h'` the camera lost the object of a handle. -/
def Lost (h h' : Host Camera) (handle : UInt32) : Prop :=
  (∃ o, h.bay.engine.link.objects.get? handle = some o) ∧ h'.bay.engine.link.objects.get? handle = none

theorem Lost.below (hl : h.Lost h' handle)
    (hpruned : Pruned h.bay.engine.link.objects top h'.bay.engine.link.objects) :
    Below h.bay.engine.link.objects top handle := by
  by_contra hb
  obtain ⟨⟨o, ho⟩, hgone⟩ := hl
  rw [hpruned.kept hb, ho] at hgone
  cases hgone

/-- What is lost when all below an object goes. -/
theorem lost_iff_of_felled (hf : Felled h.bay.engine.link.objects [top] h'.bay.engine.link.objects)
    (handle : UInt32) :
    h.Lost h' handle ↔
      (∃ o, h.bay.engine.link.objects.get? handle = some o) ∧ Below h.bay.engine.link.objects top handle := by
  refine and_congr_right fun ⟨o, ho⟩ => ⟨fun hgone => ?_, hf.gone List.mem_cons_self⟩
  by_contra hb
  rw [hf.kept fun top' ht => List.mem_singleton.mp ht ▸ hb, ho] at hgone
  cases hgone

/-- A deletion that succeeds was carried out by the camera, or an armed fault answered in its place. -/
theorem leaves_delete_felled (hcalm : Calm h.bay.engine) (hrising : Rising h.bay.engine.link.objects)
    (ref : ObjectRef) :
    (delete ref).Leaves h
      (fun _ h' => h'.bay.engine.link.objects = h.bay.engine.link.objects ∨
        Felled h.bay.engine.link.objects [(h.store.index.object ref).handle] h'.bay.engine.link.objects)
      fun _ _ => True := by
  unfold delete
  refine leaves_bind (leaves_read (leaves_bind (leaves_call_of ((Engine.leaves_deleteObject hcalm _).mono ?_
    fun _ _ _ => trivial))))
  rintro _ e ⟨-, hasked⟩
  refine leaves_change ?_
  show e.link.objects = _ ∨ Felled _ _ e.link.objects
  rcases hasked with halike | ⟨c₁, c₂, reply, halike, hdelete, halike'⟩
  · exact .inl halike.objects
  · obtain ⟨o, -, rfl⟩ := (Camera.leaves_delete _ c₁).1 reply c₂ hdelete
    have hfelled := Camera.felled_removeTree hrising.acyclic (h.store.index.object ref).handle
    rw [halike'.objects]
    rw [← halike.objects] at hfelled ⊢
    exact .inr hfelled

end Host

/-- Where an object was deleted, its handle is gone from the store and all else is as before.  What the camera
lost lies below the object, and is all that lies there unless nothing was lost at all.  So the store forgets all
that the camera lost exactly if it knew nothing of it but the object. -/
theorem Operated.deleted_forgotten_iff {h h' : Host Camera} (hr : Operated HasHandle h) {ref : ObjectRef}
    (hd : Host.delete ref h = (.ok (), h')) :
    Index.Without (h.store.index.object ref).handle h.store.index h'.store.index ∧
    h'.store = { h.store with index := h'.store.index } ∧
    (∀ {handle}, h.Lost h' handle → Below h.bay.engine.link.objects (h.store.index.object ref).handle handle) ∧
    (Rising h.bay.engine.link.objects → (∀ {handle}, ¬ h.Lost h' handle) ∨
      ∀ {handle}, h.Lost h' handle ↔ (∃ o, h.bay.engine.link.objects.get? handle = some o) ∧
        Below h.bay.engine.link.objects (h.store.index.object ref).handle handle) ∧
    ((∀ {handle}, h.Lost h' handle → h'.store.index.Forgets handle) ↔
      ∀ {handle}, h.Lost h' handle → handle ≠ (h.store.index.object ref).handle →
        h.store.index.find? handle = none) := by
  have hhoused := hr.reached_fresh.index Index.kept_housed
  obtain ⟨-, rfl, hstore, -⟩ := (Host.serves_delete ref h).1 () h' hd
  have hindex : h'.store.index = (h.store.index.remove (h.store.index.object ref).handle).2 := by
    rw [hstore]
    rfl
  have hwithout := hhoused.toLinked.without_remove (h.store.index.object ref).handle
  have hhoused' := hhoused.remove (h.store.index.object ref).handle
  rw [← hindex] at hwithout hhoused'
  have hpruned := (Host.deleted_delete hr.calm ref).pruned
  rw [hd] at hpruned
  refine ⟨hwithout, ?_, fun hl => hl.below hpruned, fun hrising => ?_, ?_⟩
  · rw [hstore]
    rfl
  · rcases (Host.leaves_delete_felled hr.calm hrising ref).1 () h' hd with hsame | hfelled
    · refine .inl fun {handle} hl => ?_
      obtain ⟨⟨o, ho⟩, hgone⟩ := hl
      rw [hsame, ho] at hgone
      cases hgone
    · exact .inr (Host.lost_iff_of_felled hfelled _)
  · refine forall_congr' fun handle => forall_congr' fun _ => ?_
    rw [hhoused'.forgets_iff, hwithout.find?]
    by_cases hself : handle = (h.store.index.object ref).handle
    · rw [if_pos hself]
      exact iff_of_true rfl fun hne => absurd hself hne
    · rw [if_neg hself]
      exact ⟨fun hf _ => hf, fun hf => hf hself⟩

/-! ## A folder with a picture -/

/-- A folder on the first card. -/
def Host.album : ObjectInfo :=
  .forUpload Camera.cfExpressId 0 "DCIM" .association 0

/-- A picture in the folder with handle 2. -/
def Host.inAlbum : ObjectInfo :=
  .forUpload Camera.cfExpressId 2 "b.jpg" .exifJpeg 2

/-- Beside the cached picture there is a folder with another one, of which the store knows only the folder. -/
def Host.archived : Host Camera :=
  (Host.pictured.given Host.album []).updateEngine fun e =>
    { e with link := (CameraStep.addObject Host.inAlbum [4, 5]).run e.link }

/-- The store knows the picture in the folder as well and has cached it. -/
def Host.browsed : Host Camera :=
  (StoreCall.cache 2).run ((StoreCall.fetch 3).run Host.archived)

theorem Operated.archived : Operated HasHandle Host.archived := by
  have hpictured : Operated HasHandle Host.pictured := .pictured (by decide +kernel)
  have halbum := hpictured.given Host.album [] (by decide +kernel)
  exact halbum.camera (.addObject Host.inAlbum [4, 5]) fun _ => by decide +kernel

/-- With the folder the camera loses the picture in it.  The store, which did not know that one, forgets both and
keeps the other picture. -/
theorem Operated.deleted_forgotten_archived :
    Operated HasHandle Host.archived ∧ Host.delete 1 Host.archived = (.ok (), (Host.delete 1 Host.archived).2) ∧
      Host.archived.Lost (Host.delete 1 Host.archived).2 3 ∧
      (∀ {handle}, Host.archived.Lost (Host.delete 1 Host.archived).2 handle →
        (Host.delete 1 Host.archived).2.store.index.Forgets handle) ∧
      (Host.delete 1 Host.archived).2.store.index.cachedHandles = [1] := by
  have hd : Host.delete 1 Host.archived = (.ok (), (Host.delete 1 Host.archived).2) :=
    Prod.ext (by decide +kernel : (Host.delete 1 Host.archived).1 = .ok ()) rfl
  have hlost : Host.archived.Lost (Host.delete 1 Host.archived).2 3 :=
    ⟨⟨⟨Host.inAlbum, [4, 5]⟩, by decide +kernel⟩, by decide +kernel⟩
  refine ⟨.archived, hd, hlost, (Operated.deleted_forgotten_iff .archived hd).2.2.2.2.mpr ?_, by decide +kernel⟩
  -- over the list of the keys, since there are too many words to decide this for each
  have hunknown : (Host.archived.bay.engine.link.objects.keys.all fun handle =>
      decide ((Host.delete 1 Host.archived).2.bay.engine.link.objects.get? handle = none →
        handle ≠ (Host.archived.store.index.object 1).handle →
        Host.archived.store.index.find? handle = none)) = true := by
    decide +kernel
  rintro handle ⟨hobject, hgone⟩
  exact of_decide_eq_true (List.all_eq_true.mp hunknown handle (OrderedMap.mem_keys_iff.mpr hobject)) hgone

/-- When the store knows the picture in the folder, it keeps it, and a read still serves the content from the
cache. -/
theorem delete_keeps_lost :
    Operated HasHandle Host.browsed ∧ (Host.delete 1 Host.browsed).1 = .ok () ∧
      Host.browsed.Lost (Host.delete 1 Host.browsed).2 3 ∧
      (Host.delete 1 Host.browsed).2.store.index.find? 3 = some 2 ∧
      (Host.delete 1 Host.browsed).2.store.index.cachedHandles = [1, 3] ∧
      (Host.readRange 2 2 0 (Host.delete 1 Host.browsed).2).1 = .ok [4, 5] := by
  have hbrowsed : Operated HasHandle Host.browsed :=
    (Operated.archived.store (.fetch 3) trivial fun h => h.elim).store (.cache 2) trivial fun h => h.elim
  exact ⟨hbrowsed, by decide +kernel, ⟨⟨⟨Host.inAlbum, [4, 5]⟩, by decide +kernel⟩, by decide +kernel⟩,
    by decide +kernel, by decide +kernel, by decide +kernel⟩

end Tether
