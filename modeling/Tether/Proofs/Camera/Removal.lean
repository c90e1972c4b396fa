import Mathlib.Logic.Relation
import Tether.Proofs.Camera.Handles

/-!
# Tether.Proofs.Camera.Removal — what a removal takes out of a camera

Where no object lies below itself, the removal of an object comes to an end, takes out the object and what lies
below it, each once, and nothing else (`removals_exact`).  A camera only ever puts a new object into the root or
into a folder that it has, so as long as there are handles left every object has a greater one than its folder,
and none lies below itself (`Ascending.run`).
-/

namespace Tether.Camera

open Ptp Tether.Action
open Relation (ReflTransGen)

/-! ## Bytes of content -/

/-- Bytes of content of some objects. -/
def bytes (objects : Objects) : Nat :=
  (objects.entries.map fun e => e.2.data.length).sum

variable {objects objects' : Objects} {handles : List UInt32} {handle : UInt32} {freed : Nat}

/-- The content under a handle goes with it. -/
theorem bytes_erase (objects : Objects) (handle : UInt32) :
    bytesAt objects handle + bytes (objects.erase handle) = bytes objects := by
  unfold bytesAt bytes
  cases ho : objects.get? handle with
  | none =>
    rw [OrderedMap.erase_of_get?_eq_none ho]
    exact Nat.zero_add _
  | some o =>
    have hperm := (OrderedMap.entries_perm ho fun _ _ => rfl).map fun e => e.2.data.length
    rw [hperm.sum_nat, List.map_cons, List.sum_cons]
    rfl

/-- What is kept and what is not add up. -/
theorem bytes_filter (objects : Objects) (p : UInt32 → CameraObject → Bool) :
    bytes (objects.filter p) + bytes (objects.filter fun k o => !p k o) = bytes objects := by
  have hperm := (List.filter_append_perm (fun e => p e.1 e.2) objects.entries).map fun e => e.2.data.length
  rw [List.map_append] at hperm
  exact List.sum_append_nat.symm.trans hperm.sum_nat

/-- What is removed and what stays add up. -/
theorem Removes.bytes_add (h : Removes handles objects freed objects') :
    freed + bytes objects' = bytes objects := by
  induction h with
  | nil objects => exact Nat.zero_add _
  | @cons handle rest objects objects' objects'' freed more _ _ ihbelow ihrest =>
    have herase := bytes_erase objects' handle
    omega

open Classical in
/-- The objects without those below a handle. -/
theorem Felled.eq_filter (h : Felled objects [handle] objects') :
    objects' = objects.filter fun k _ => !decide (Below objects handle k) := by
  refine OrderedMap.eq_of_get? fun k => ?_
  rw [OrderedMap.get?_filter]
  by_cases hb : Below objects handle k
  · rw [h.gone List.mem_cons_self hb]
    simp [hb]
  · rw [h.kept fun top ht => List.mem_singleton.mp ht ▸ hb]
    cases objects.get? k with
    | none => rfl
    | some o => simp [hb, Option.filter]

open Classical in
/-- A removal without a bound takes out what is below the handle and answers its bytes. -/
theorem Removes.eq_of_single (h : Removes [handle] objects freed objects') :
    freed = bytes (objects.filter fun k _ => Below objects handle k) ∧
      objects' = objects.filter fun k _ => !decide (Below objects handle k) := by
  have hstays := h.felled.eq_filter
  have hfreed := h.bytes_add
  have hparts := bytes_filter objects fun k _ => decide (Below objects handle k)
  rw [← hstays] at hparts
  exact ⟨by omega, hstays⟩

/-! ## Uploads -/

variable {c c' : Camera}

/-- What a camera has under its handles, pending uploads as well, has a greater handle than its folder, and the
next handle is greater than all of them, so there is one left. -/
structure Ascending (c : Camera) : Prop where
  parent_lt : ∀ {handle info}, c.Knows handle info → info.parent < handle
  lt : ∀ {handle info}, c.Knows handle info → handle < c.nextHandle
  left : c.nextHandle ≠ 0

theorem Ascending.rising (h : c.Ascending) : Rising c.objects :=
  fun ho => h.parent_lt (.object ho)

/-- While no upload waits for its content, only the objects count. -/
theorem ascending_of_entries (hobjects : ∀ e ∈ c.objects.entries, e.2.info.parent < e.1 ∧ e.1 < c.nextHandle)
    (hpending : c.pendingUpload = none) (hleft : c.nextHandle ≠ 0) : c.Ascending := by
  have hknows : ∀ {handle info}, c.Knows handle info → info.parent < handle ∧ handle < c.nextHandle := by
    intro handle info hknows
    cases hknows with
    | object ho => exact hobjects _ (OrderedMap.mem_entries_iff.mpr ho)
    | upload hp _ =>
      rw [hpending] at hp
      cases hp
  exact ⟨fun hk => (hknows hk).1, fun hk => (hknows hk).2, hleft⟩

/-- A counter that gave a handle out and is not at its end had one more. -/
theorem spares_of_left (h : c'.nextHandle = c.nextHandle + 1) (hleft : c'.nextHandle ≠ 0) :
    c.nextHandle ≠ 0xFFFFFFFF := by
  intro hlast
  rw [h, hlast] at hleft
  exact hleft rfl

/-- A change keeps the handles ascending if what is new under the next handle lies in a folder before it. -/
theorem Change.ascending (h : Change c c') (hc : c.Ascending) (hleft : c'.nextHandle ≠ 0)
    (hnew : c'.nextHandle = c.nextHandle + 1 → ∀ {info}, c'.Knows c.nextHandle info → info.parent < c.nextHandle) :
    c'.Ascending := by
  have hspare : c.Spares c' := h.next.imp_right fun hnext => spares_of_left hnext hleft
  refine ⟨fun {handle info'} hknows => ?_, h.lt_next hc.lt hspare, hleft⟩
  rcases h.knows hknows with ⟨info, hbefore, -, hparent⟩ | ⟨rfl, hnext⟩
  · rw [hparent]
    exact hc.parent_lt hbefore
  · exact hnew hnext hknows

/-- A folder that a camera has comes before its next handle, and so does the root. -/
theorem Ascending.lt_next_of_place (hc : c.Ascending) {parent : UInt32}
    (h : parent = 0 ∨ ∃ o, c.objects.get? parent = some o) : parent < c.nextHandle := by
  rcases h with rfl | ⟨o, ho⟩
  · exact UInt32.pos_iff_ne_zero.mpr hc.left
  · exact hc.lt (.object ho)

/-- The next handle of a camera stands for nothing. -/
theorem Ascending.not_knows_next (hc : c.Ascending) {info : ObjectInfo} : ¬ c.Knows c.nextHandle info :=
  fun hknows => UInt32.lt_irrefl _ (hc.lt hknows)

theorem ascending_beginUpload (hc : c.Ascending) (storage parent : UInt32) (data : Option Bytes)
    (hleft : (beginUpload storage parent data c).2.nextHandle ≠ 0) :
    (beginUpload storage parent data c).2.Ascending := by
  refine (change_beginUpload storage parent data c).ascending hc hleft fun _ {info'} hknows => ?_
  rcases beginUpload_cases storage parent data c with h | ⟨info, hplace, h | h⟩
  · rw [h] at hknows
    exact absurd hknows hc.not_knows_next
  · rw [h] at hknows
    cases hknows with
    | object ho =>
      rw [OrderedMap.get?_insert_self] at ho
      cases ho
      exact hc.lt_next_of_place hplace
    | upload hp hh => exact absurd (.upload hp hh) hc.not_knows_next
  · rw [h] at hknows
    cases hknows with
    | object ho => exact absurd (.object ho) hc.not_knows_next
    | upload hp hh =>
      cases hp
      exact hc.lt_next_of_place hplace

/-- Whatever a camera carries out or refuses keeps its handles ascending, as long as there is one left. -/
theorem ascending_perform (hc : c.Ascending) (operation : Operation) (parameters : List UInt32)
    (data : Option Bytes)
    (hleft : (perform operation parameters data c).2.nextHandle ≠ 0) :
    (perform operation parameters data c).2.Ascending := by
  by_cases hinfo : operation = .sendObjectInfo
  · subst hinfo
    by_cases hopen : c.sessionOpen = true
    · have heq : perform .sendObjectInfo parameters data c =
          beginUpload (parameter parameters 0) (parameter parameters 1) data c := if_pos hopen
      rw [heq] at hleft ⊢
      exact ascending_beginUpload hc _ _ data hleft
    · have heq : perform .sendObjectInfo parameters data c = (.error .sessionNotOpen, c) := if_neg hopen
      rw [heq]
      exact hc
  · have hkept : (perform operation parameters data c).2.nextHandle = c.nextHandle :=
      keeps_nextHandle hinfo parameters data c.nextHandle c rfl
    refine (change_perform operation parameters data c).ascending hc hleft fun hnext => ?_
    rw [hkept] at hnext
    simp at hnext

/-- From `c` to `c'` the camera carried out or refused one operation and has a handle left. -/
def Operates (c c' : Camera) : Prop :=
  ∃ operation parameters data, c' = (perform operation parameters data c).2 ∧ c'.nextHandle ≠ 0

/-- The same along any operations. -/
theorem Ascending.run (hc : c.Ascending) (h : ReflTransGen Operates c c') : c'.Ascending := by
  induction h with
  | refl => exact hc
  | tail _ hstep ih =>
    obtain ⟨operation, parameters, data, rfl, hleft⟩ := hstep
    exact ascending_perform ih operation parameters data hleft

/-! ## Removals -/

open Classical in
/-- Where no object lies below itself, a removal comes to an end without a bound on its depth, and to one end
only: the objects that stay are those that are not below the handle, as they were, and the bytes are those of the
objects that go.  A camera whose handles ascend has no object below itself, and its handles ascend after any
operation that leaves it a handle. -/
theorem removals_exact :
    (∀ objects : Objects, Acyclic objects → ∀ handle,
      (∀ freed remaining, Removes [handle] objects freed remaining ↔
        removeTree handle objects = (freed, remaining)) ∧
      removeTree handle objects = (bytes (objects.filter fun k _ => Below objects handle k),
        objects.filter fun k _ => !decide (Below objects handle k))) ∧
    ∀ c : Camera, c.Ascending → Acyclic c.objects ∧
      ∀ operation parameters data, (perform operation parameters data c).2.nextHandle ≠ 0 →
        (perform operation parameters data c).2.Ascending := by
  refine ⟨fun objects ha handle => ⟨fun freed remaining => ⟨fun h => ?_, fun h => ?_⟩, ?_⟩, fun c hc => ⟨?_, ?_⟩⟩
  · obtain ⟨hfreed, hremaining⟩ := (removes_removeTree ha handle).unique h
    exact Prod.ext hfreed hremaining
  · have hremoves := removes_removeTree ha handle
    rwa [h] at hremoves
  · obtain ⟨hfreed, hremaining⟩ := (removes_removeTree ha handle).eq_of_single
    exact Prod.ext hfreed hremaining
  · exact Rising.acyclic hc.rising
  · exact ascending_perform hc

/-- A camera with an open session, a folder, a picture of three bytes in it and another picture beside it. -/
def archive : Camera :=
  let c := { withTwoCards Engine.idle.clock with sessionOpen := true }
  let c := (c.addObject (.forUpload sdId 0 "DCIM" .association 0) []).2
  let c := (c.addObject (.forUpload sdId 1 "a.jpg" .exifJpeg 3) [1, 2, 3]).2
  (c.addObject (.forUpload sdId 0 "b.jpg" .exifJpeg 2) [4, 5]).2

/-- With the folder goes the picture in it, and the other one stays. -/
theorem removals_exact_archive :
    (archive.Ascending ∧ Acyclic archive.objects ∧ (perform .deleteObject [1] none archive).2.nextHandle ≠ 0) ∧
      Removes [1] archive.objects 3 (removeTree 1 archive.objects).2 ∧
      (removeTree 1 archive.objects).2.keys = [3] ∧
      (perform .deleteObject [1] none archive).2.objects.keys = [3] ∧
      (perform .deleteObject [1] none archive).2.Ascending := by
  have hascending : archive.Ascending := ascending_of_entries (by decide +kernel) rfl (by decide)
  have hleft : (perform .deleteObject [1] none archive).2.nextHandle ≠ 0 := by decide +kernel
  have hfreed : (removeTree 1 archive.objects).1 = 3 := by decide +kernel
  obtain ⟨hacyclic, hkept⟩ := removals_exact.2 archive hascending
  have hremoves := ((removals_exact.1 archive.objects hacyclic 1).1 3 _).mpr (Prod.ext hfreed rfl)
  exact ⟨⟨hascending, hacyclic, hleft⟩, hremoves, by decide +kernel, by decide +kernel, hkept _ _ _ hleft⟩

end Tether.Camera
