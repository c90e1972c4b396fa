import Tether.Proofs.Cache.Contents
import Tether.Proofs.Cache.LeastRecent
import Tether.Proofs.Cache.Upload

/-!
# Tether.Proofs.Cache.Attached — contents and the handles that they are behind

An operation on a handle empties the object that stands for the handle, and leaves every other object as it is,
those outside the tree among them.  As long as no upload takes the handle of another object, an object loses its
content before it leaves the tree, so that no object outside the tree holds any (`Reached.allAttached`).
-/

namespace Tether

namespace Index

variable {x y : Index} {handle : UInt32} {ref : ObjectRef}

/-! ## Objects behind references -/

theorem object_takePayload (hx : Rooted x) (handle : UInt32) (ref : ObjectRef) :
    (x.takePayload handle).2.object ref =
      if x.find? handle = some ref then (x.object ref).emptied else x.object ref := by
  unfold takePayload
  cases hf : x.find? handle with
  | none => rfl
  | some ref' =>
    cases hp : (x.object ref').payload with
    | none =>
      simp only [hp]
      split
      · rename_i hr
        cases hr
        exact (RemoteObject.emptied_of_not_cached (by rw [RemoteObject.isCached, hp]; rfl)).symm
      · rfl
    | some payload =>
      simp only [hp]
      show (x.modify ref' RemoteObject.emptied).object ref = _
      rw [object_modify]
      by_cases hr : ref = ref'
      · rw [hr, if_pos ⟨rfl, hx.ref_lt hf⟩, if_pos rfl]
      · rw [if_neg fun h => hr h.1, if_neg fun h => hr (Option.some.inj h).symm]

/-- The object of the handle is empty, and no other is concerned. -/
theorem Linked.object_uncache (hx : Linked x) (handle : UInt32) (ref : ObjectRef) :
    (x.uncache handle).2.object ref = if x.find? handle = some ref then (x.object ref).emptied
      else x.object ref := by
  have hobject : (x.dropTick handle).object ref = x.object ref := by
    unfold object
    rw [objects_dropTick]
  have hfind : (x.dropTick handle).find? handle = x.find? handle := by
    unfold find?
    rw [tree_dropTick]
  rw [hx.uncache_eq, object_takePayload (hx.rooted_dropTick handle), hobject, hfind]

/-- The object that leaves the tree is empty, and no other is concerned. -/
theorem Linked.object_remove (hx : Linked x) (handle : UInt32) (ref : ObjectRef) :
    (x.remove handle).2.object ref = if x.find? handle = some ref then (x.object ref).emptied else x.object ref :=
  hx.object_uncache handle ref

/-- The object that got the content has it, and no other is concerned. -/
theorem Linked.object_place (hx : Linked x) (hf : x.find? handle = some ref) (payload : Bytes) (ref' : ObjectRef) :
    (x.place handle ref payload).object ref' =
      if ref' = ref then { x.object ref with payload := some payload } else x.object ref' := by
  have hlt : ref < (x.takePayload handle).2.objects.size := (objects_takePayload x handle).1 ▸ hx.ref_lt hf
  have htaken := object_takePayload hx.toRooted handle
  rw [hf] at htaken
  unfold Index.place object
  rw [objects_pushTick]
  show ((x.takePayload handle).2.modify ref fun o => { o with payload := some payload }).object ref' = _
  rw [object_modify]
  by_cases hr : ref' = ref
  · rw [hr, if_pos ⟨rfl, hlt⟩, if_pos rfl, htaken, if_pos rfl]
    rfl
  · rw [if_neg fun h => hr h.1, if_neg hr, htaken, if_neg fun h => hr (Option.some.inj h).symm]
    rfl

theorem Linked.cachedHandles_remove (hx : Linked x) (handle : UInt32) :
    (x.remove handle).2.cachedHandles = x.cachedHandles.filter (· ≠ handle) :=
  hx.cachedHandles_uncache handle

/-! ## Contents outside the tree -/

theorem AllAttached.of_same (hx : AllAttached x) (ht : y.tree = x.tree)
    (ho : ∀ ref, (y.object ref).isCached = (x.object ref).isCached) : AllAttached y := by
  intro ref hc
  obtain ⟨handle, hf⟩ := hx ref (ho ref ▸ hc)
  refine ⟨handle, ?_⟩
  unfold find?
  rw [ht]
  exact hf

/-- A linked index in which every content is behind a handle. -/
structure Housed (x : Index) : Prop extends Linked x where
  attached : AllAttached x

namespace Housed

variable (hx : Housed x)
include hx

theorem uncache (handle : UInt32) : Housed (x.uncache handle).2 where
  toLinked := hx.toLinked.uncache handle
  attached := by
    intro ref hc
    rw [hx.object_uncache] at hc
    split at hc
    · cases hc
    · obtain ⟨h, hf⟩ := hx.attached ref hc
      refine ⟨h, ?_⟩
      unfold find?
      rw [hx.tree_uncache]
      exact hf

theorem remove (handle : UInt32) : Housed (x.remove handle).2 where
  toLinked := hx.toLinked.remove handle
  attached := by
    intro ref hc
    rw [hx.object_remove] at hc
    split at hc
    · cases hc
    · rename_i hother
      obtain ⟨h, hf⟩ := hx.attached ref hc
      have hne : h ≠ handle := by
        rintro rfl
        exact hother hf
      exact ⟨h, by rw [hx.find?_remove, if_neg hne, hf]⟩

theorem touch (handle : UInt32) : Housed (x.touch handle) where
  toLinked := hx.toLinked.touch handle
  attached := by
    rcases touch_cases x handle with h | ⟨tick, -, h⟩
    · rw [h]
      exact hx.attached
    · rw [h]
      refine hx.attached.of_same (tree_pushTick x handle) fun ref => ?_
      unfold object
      rw [objects_pushTick]

theorem evict (keep : Option UInt32) : Housed (x.evict keep).2 :=
  evictFrom_induction (fun _ _ h => h.uncache _) _ x hx

theorem clear : Housed x.clear.2 where
  toLinked := hx.toLinked.clear
  attached := by
    intro ref hc
    have hy : Housed (x.uncacheAll x.cachedHandles).2 := uncacheAll_induction (fun _ _ h => h.uncache _) _ x hx
    -- nothing in the tree is cached any more, so nothing is
    obtain ⟨handle, hf⟩ := hy.attached ref hc
    have hempty := hy.not_cached (hx.ticks_clear handle) (lookup?_of_find? hf)
    rw [show ((x.uncacheAll x.cachedHandles).2.object ref).isCached = true from hc] at hempty
    cases hempty

theorem insertCached (handle : UInt32) (payload : Bytes) : Housed (x.insertCached handle payload).2 := by
  cases hf : x.find? handle with
  | none =>
    rw [insertCached_of_find?_none hf]
    exact hx
  | some ref =>
    rw [insertCached_of_find? hf]
    refine evict ⟨hx.toLinked.place payload hf, fun ref' hc => ?_⟩ _
    have htree : (x.place handle ref payload).tree = x.tree := (sameEntries_place x handle ref payload).tree
    unfold Attached find?
    rw [htree]
    rw [hx.object_place hf] at hc
    split at hc
    · rename_i hr
      exact ⟨handle, hr ▸ hf⟩
    · exact hx.attached ref' hc

end Housed

/-- Unless an upload takes a handle that has an object, contents stay behind their handles. -/
theorem kept_housed : Kept False Housed where
  new budget := ⟨linked_new budget, fun ref hc => by rw [object_of_le (Nat.zero_le ref)] at hc; cases hc⟩
  books hx h _ := ⟨h.linked hx.toLinked, hx.attached.of_same h.tree fun ref => by
    unfold RemoteObject.isCached
    rw [h.payload]⟩
  insert {x o} hx ho hf := by
    have hnone : x.ticks.get? o.handle = none := by
      refine Option.eq_none_iff_forall_ne_some.mpr fun tick ht => ?_
      obtain ⟨o', ho'⟩ := hx.known ht
      rw [lookup?_eq_none_iff.mpr (hf.resolve_left id)] at ho'
      cases ho'
    exact ⟨hx.toLinked.insert ho, (hx.allAttached_insert_iff ho hnone).mpr hx.attached⟩
  touch handle hx := hx.touch handle
  uncache handle hx := hx.uncache handle
  remove handle hx := hx.remove handle
  clear hx := hx.clear
  setBudget {x} budget hx := by
    have hrated : Housed { x with budget } :=
      ⟨(sameBooks_budget x budget).linked hx.toLinked, hx.attached.of_same rfl fun _ => rfl⟩
    exact hrated.evict none
  insertCached handle payload hx _ := hx.insertCached handle payload

end Index

/-- As long as uploads are given new handles, nothing outside the tree holds a content. -/
theorem Reached.allAttached {τ : Type} [Transport τ] {h : Host τ} (hr : Reached False h) :
    h.store.index.AllAttached :=
  (hr.index Index.kept_housed).attached

end Tether
