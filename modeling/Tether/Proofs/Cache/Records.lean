import Tether.Proofs.Cache.Runs

/-!
# Tether.Proofs.Cache.Records — what an object was described as

An object keeps its handle and what the camera told about it while contents come and go, while it leaves the
tree, and while exposure details are recorded.  Only a description that is fetched and an upload change a record
or make a new one (`StoreCall.sameRecords`).
-/

namespace Tether

open Calendar (Instant)
open Ptp (DeviceEvent)

/-- The handle of an object and what it was described as. -/
def RemoteObject.record (o : RemoteObject) : UInt32 × ObjectMetadata :=
  (o.handle, { o.metadata with capture := none })

/-- Objects with one record have one handle, one name, one folder and one kind. -/
theorem RemoteObject.eq_of_record {o o' : RemoteObject} (h : o'.record = o.record) :
    o'.handle = o.handle ∧ o'.metadata.name = o.metadata.name ∧ o'.metadata.parent = o.metadata.parent ∧
      o'.metadata.fileType = o.metadata.fileType := by
  have hname := congrArg (fun r : UInt32 × ObjectMetadata => r.2.name) h
  have hparent := congrArg (fun r : UInt32 × ObjectMetadata => r.2.parent) h
  have hkind := congrArg (fun r : UInt32 × ObjectMetadata => r.2.fileType) h
  exact ⟨congrArg Prod.fst h, hname, hparent, hkind⟩

theorem RemoteObject.size_of_record {o o' : RemoteObject} (h : o'.record = o.record) :
    o'.metadata.size = o.metadata.size :=
  congrArg (fun r : UInt32 × ObjectMetadata => r.2.size) h

namespace Index

variable {x y z : Index}

/-- Both indices have the same objects, by what they were described as. -/
structure SameRecords (x y : Index) : Prop where
  size : y.objects.size = x.objects.size
  record : ∀ ref, (y.object ref).record = (x.object ref).record

namespace SameRecords

theorem refl (x : Index) : SameRecords x x :=
  ⟨rfl, fun _ => rfl⟩

theorem trans (h : SameRecords x y) (h' : SameRecords y z) : SameRecords x z :=
  ⟨h'.size.trans h.size, fun ref => (h'.record ref).trans (h.record ref)⟩

theorem of_objects (h : y.objects = x.objects) : SameRecords x y := by
  refine ⟨by rw [h], fun ref => ?_⟩
  unfold object
  rw [h]

theorem modify (x : Index) (ref : ObjectRef) {f : RemoteObject → RemoteObject}
    (hf : ∀ o, (f o).record = o.record) :
    SameRecords x (x.modify ref f) := by
  refine ⟨Array.size_modify, fun ref' => ?_⟩
  rw [object_modify]
  split
  · rename_i h
    rw [hf, h.1]
  · rfl

theorem takePayload (x : Index) (handle : UInt32) : SameRecords x (x.takePayload handle).2 := by
  unfold Index.takePayload
  split
  · exact .refl x
  · rename_i ref _
    split
    · exact .refl x
    · exact (modify x ref (f := fun o => { o with payload := none }) fun _ => rfl).trans (.of_objects rfl)

theorem uncache (x : Index) (handle : UInt32) : SameRecords x (x.uncache handle).2 := by
  unfold Index.uncache
  split
  · exact (of_objects (objects_dropTick x handle)).trans (takePayload _ handle)
  · exact .refl x

theorem uncacheAll (x : Index) (handles : List UInt32) : SameRecords x (x.uncacheAll handles).2 :=
  uncacheAll_induction (P := SameRecords x) (fun _ handle h => h.trans (uncache _ handle)) handles x (.refl x)

theorem evict (x : Index) (keep : Option UInt32) : SameRecords x (x.evict keep).2 :=
  evictFrom_induction (P := SameRecords x) (fun _ handle h => h.trans (uncache _ handle)) _ x (.refl x)

theorem touch (x : Index) (handle : UInt32) : SameRecords x (x.touch handle) := by
  rcases touch_cases x handle with h | ⟨tick, -, h⟩
  · rw [h]
    exact .refl x
  · rw [h]
    exact .of_objects (objects_pushTick x handle)

theorem remove (x : Index) (handle : UInt32) : SameRecords x (x.remove handle).2 :=
  (uncache x handle).trans (.of_objects rfl)

theorem clear (x : Index) : SameRecords x x.clear.2 :=
  (uncacheAll x x.cachedHandles).trans (.of_objects rfl)

theorem setBudget (x : Index) (budget : Nat) : SameRecords x (x.setBudget budget).2 := by
  have hsame : SameRecords x { x with budget } := of_objects rfl
  exact hsame.trans (evict _ none)

theorem place (x : Index) (handle : UInt32) (ref : ObjectRef) (payload : Bytes) :
    SameRecords x (x.place handle ref payload) := by
  refine (takePayload x handle).trans
    ((modify _ ref (f := fun o => { o with payload := some payload }) fun _ => rfl).trans (of_objects ?_))
  exact objects_pushTick _ handle

theorem insertCached (x : Index) (handle : UInt32) (payload : Bytes) :
    SameRecords x (x.insertCached handle payload).2 := by
  cases hf : x.find? handle with
  | none =>
    rw [insertCached_of_find?_none hf]
    exact .refl x
  | some ref =>
    rw [insertCached_of_find? hf]
    exact (place x handle ref payload).trans (evict _ _)

end SameRecords

end Index

open Index (SameRecords)

namespace Store

variable {s : Store}

theorem sameRecords_follow (change : VolumeChange) (s : Store) : SameRecords s.index (s.follow change).index := by
  cases change with
  | unmounted slot => exact SameRecords.uncacheAll s.index _
  | formatted slot =>
    unfold Store.follow
    dsimp only
    generalize s.handlesOn slot false = handles
    induction handles generalizing s with
    | nil => exact .refl _
    | cons handle rest ih => exact (SameRecords.remove s.index handle).trans (ih (s.forget handle).2)

theorem sameRecords_followAll (changes : List VolumeChange) (s : Store) :
    SameRecords s.index (changes.foldl Store.follow s).index := by
  induction changes generalizing s with
  | nil => exact .refl _
  | cons change rest ih => exact (sameRecords_follow change s).trans (ih (s.follow change))

theorem sameRecords_cleanup (now : Instant) (s : Store) :
    SameRecords s.index (((s.cleanup now).map Prod.snd).getD s).index := by
  unfold Store.cleanup
  split
  · exact .refl _
  · exact .refl _
  · exact SameRecords.uncacheAll _ _

theorem sameRecords_releaseBudget (token : OverrideToken) (s : Store) :
    SameRecords s.index (s.releaseBudget token).index := by
  unfold Store.releaseBudget
  split
  · exact SameRecords.setBudget _ _
  · exact .refl _

theorem sameRecords_handleEvent (event : DeviceEvent) (s : Store) :
    SameRecords s.index (s.handleEvent event).index := by
  cases event with
  | objectRemoved handle => exact SameRecords.remove s.index handle
  | objectInfoChanged handle => exact SameRecords.uncache s.index handle
  | deviceReset => exact SameRecords.clear s.index
  | _ => exact .refl _

end Store

/-- From `x` to `y` the object `ref` got the record of `r`; the others are there as they were. -/
structure Index.Recorded (x : Index) (ref : ObjectRef) (r : RemoteObject) (y : Index) : Prop where
  size_le : x.objects.size ≤ y.objects.size
  lt_size : ref < y.objects.size
  handle : ref < x.objects.size → (x.object ref).handle = r.handle
  self : (y.object ref).record = r.record
  other : ∀ {ref'}, ref' ≠ ref → (y.object ref').record = (x.object ref').record
  old : ∀ {ref'}, ref' ≠ ref → ref' < y.objects.size → ref' < x.objects.size

theorem Index.Recorded.then {x y z : Index} {ref : ObjectRef} {r : RemoteObject} (h : x.Recorded ref r y)
    (h' : SameRecords y z) : x.Recorded ref r z where
  size_le := h'.size ▸ h.size_le
  lt_size := h'.size ▸ h.lt_size
  handle := h.handle
  self := (h'.record ref).trans h.self
  other hne := (h'.record _).trans (h.other hne)
  old hne hlt := h.old hne (h'.size ▸ hlt)

theorem Index.recorded_insert (x : Index) (r : RemoteObject) : x.Recorded x.objects.size r (x.insert r).2 := by
  have hsize : (x.insert r).2.objects.size = x.objects.size + 1 := Array.size_push _
  refine ⟨?_, ?_, fun hlt => absurd hlt (Nat.lt_irrefl _), ?_, fun hne => ?_, fun hne hlt => ?_⟩
  · rw [hsize]
    exact Nat.le_succ _
  · rw [hsize]
    exact Nat.lt_succ_self _
  · rw [object_insert, if_pos rfl]
  · rw [object_insert, if_neg hne]
  · rw [hsize] at hlt
    exact Nat.lt_of_le_of_ne (Nat.le_of_lt_succ hlt) hne

/-- Of what is learnt, the object of the handle gets the record, or a new object. -/
theorem Store.recorded_learn {s : Store} (hx : Index.Rooted s.index) (handle : UInt32)
    (metadata : ObjectMetadata) :
    s.index.Recorded (s.learn handle metadata).1 { handle, metadata } (s.learn handle metadata).2.index := by
  unfold Store.learn
  split
  · rename_i ref hf
    have hmodified : s.index.Recorded ref { handle, metadata }
        (s.index.modify ref fun o => { o with metadata := o.metadata.refresh metadata }) := by
      have hsize : (s.index.modify ref fun o => { o with metadata := o.metadata.refresh metadata }).objects.size =
        s.index.objects.size := Array.size_modify
      refine ⟨Nat.le_of_eq hsize.symm, hsize ▸ hx.ref_lt hf, fun _ => hx.handle_eq hf, ?_, fun hne => ?_,
        fun _ hlt => hsize ▸ hlt⟩
      · rw [Index.object_modify, if_pos ⟨rfl, hx.ref_lt hf⟩]
        refine Prod.ext (hx.handle_eq hf) ?_
        show { (s.index.object ref).metadata.refresh metadata with capture := none } =
          { metadata with capture := none }
        unfold ObjectMetadata.refresh
        split
        · rfl
        · split <;> rfl
      · rw [Index.object_modify, if_neg fun h => hne h.1]
    dsimp only
    split
    · exact hmodified.then (.uncache _ handle)
    · exact hmodified
  · exact Index.recorded_insert _ _

variable {τ : Type} [Transport τ]

/-- The call makes or changes a record, or anything may happen in it. -/
def StoreCall.Records : StoreCall τ → Prop
  | .fetch _ | .writeNew .. | .bay _ => True
  | _ => False

/-- Calls but those that fetch or upload leave the records as they are. -/
theorem StoreCall.sameRecords {c : StoreCall τ} (hc : ¬ c.Records) (h : Host τ) :
    SameRecords h.store.index (c.run h).store.index := by
  cases c with
  | readRange ref length offset =>
    refine (Host.serves_readRange ref length offset h).store (P := fun s => SameRecords h.store.index s.index)
      (.refl _) ?_
    rintro _ (rfl | rfl)
    · exact .refl _
    · exact .touch _ _
  | cache ref =>
    refine (Host.serves_cache ref h).store (P := fun s => SameRecords h.store.index s.index) (.refl _) ?_
    rintro _ (rfl | rfl | ⟨payload, -, rfl⟩)
    · exact .refl _
    · exact .touch _ _
    · exact .insertCached _ _ payload
  | delete ref =>
    refine (Host.serves_delete ref h).store (P := fun s => SameRecords h.store.index s.index) (.refl _) ?_
    rintro _ rfl
    exact .remove _ _
  | lookup handle => exact .refl _
  | forget handle => exact .remove _ handle
  | invalidate handle => exact .uncache _ handle
  | clear => exact .clear _
  | cleanup now => exact Store.sameRecords_cleanup now h.store
  | setBudget bytes => exact .setBudget _ bytes
  | overrideBudget bytes => exact .setBudget _ bytes
  | releaseBudget token => exact Store.sameRecords_releaseBudget token h.store
  | resetBudget => exact .setBudget _ _
  | recordExposure ref iso lensModel => exact .modify _ _ fun _ => rfl
  | setCameraModel model => exact .refl _
  | follow change => exact Store.sameRecords_follow change h.store
  | report event => exact Store.sameRecords_handleEvent event h.store
  | fetch _ | writeNew _ _ _ | bay _ => exact absurd trivial hc

end Tether
