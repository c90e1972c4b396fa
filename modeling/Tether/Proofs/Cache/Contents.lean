import Tether.Proofs.Cache.Records

/-!
# Tether.Proofs.Cache.Contents — what an index holds for its handles

Contents come into an index by `insertCached` alone.  Whatever else happens, an object keeps its content or loses
it (`drained_held`), so what is true of every content when it comes is true of it as long as it is held.
-/

namespace Tether.Index

variable {x y : Index} {handle : UInt32} {G : UInt32 → Bytes → Prop}

/-- Each content, of the objects in the tree and of the others, is one that `G` allows for the handle of its
object. -/
def Held (G : UInt32 → Bytes → Prop) (x : Index) : Prop :=
  ∀ ref payload, (x.object ref).payload = some payload → G (x.object ref).handle payload

/-- Objects keep their contents or lose them. -/
def Drains (x y : Index) : Prop :=
  ∀ ref payload, (y.object ref).payload = some payload → (x.object ref).payload = some payload

theorem Held.mono {G' : UInt32 → Bytes → Prop} (hx : Held G x)
    (h : ∀ {handle payload}, G handle payload → G' handle payload) :
    Held G' x :=
  fun ref payload hp => h (hx ref payload hp)

theorem Held.drains (hx : Held G x) (h : Drains x y) (hr : SameRecords x y) : Held G y := by
  intro ref payload hp
  rw [(RemoteObject.eq_of_record (hr.record ref)).1]
  exact hx ref payload (h ref payload hp)

theorem drains_of_objects (h : y.objects = x.objects) : Drains x y := by
  intro ref payload hp
  unfold object at hp ⊢
  rwa [h] at hp

theorem drains_takePayload (x : Index) (handle : UInt32) : Drains x (x.takePayload handle).2 := by
  intro ref payload hp
  unfold takePayload at hp
  split at hp
  · exact hp
  · rename_i ref' _
    split at hp
    · exact hp
    · have hmodified : ((x.modify ref' fun o => { o with payload := none }).object ref).payload = some payload :=
        hp
      rw [object_modify] at hmodified
      split at hmodified
      · cases hmodified
      · exact hmodified

theorem drains_uncache (x : Index) (handle : UInt32) : Drains x (x.uncache handle).2 := by
  intro ref payload hp
  unfold uncache at hp
  split at hp
  · exact drains_of_objects (objects_dropTick x handle) ref payload (drains_takePayload _ handle ref payload hp)
  · exact hp

theorem Held.uncache (hx : Held G x) (handle : UInt32) : Held G (x.uncache handle).2 :=
  hx.drains (drains_uncache x handle) (.uncache x handle)

/-- No content comes when an object leaves the tree. -/
theorem payload_remove_of_none (x : Index) (handle : UInt32) {ref : ObjectRef}
    (h : (x.object ref).payload = none) :
    ((x.remove handle).2.object ref).payload = none := by
  refine Option.eq_none_iff_forall_ne_some.mpr fun payload hp => ?_
  rw [drains_uncache x handle ref payload hp] at h
  cases h

/-- A change that leaves the objects as they are. -/
theorem Held.of_objects (hx : Held G x) (h : y.objects = x.objects) : Held G y :=
  hx.drains (drains_of_objects h) (.of_objects h)

theorem Held.evict (hx : Held G x) (keep : Option UInt32) : Held G (x.evict keep).2 :=
  evictFrom_induction (P := Held G) (fun _ handle h => h.uncache handle) _ x hx

/-- No operation but `insertCached` makes the index hold anything. -/
theorem drained_held (G : UInt32 → Bytes → Prop) : Drained True (Held G) where
  new budget := by
    intro ref payload hp
    rw [object_of_le (Nat.zero_le ref)] at hp
    cases hp
  books {x y} hx h _ := by
    intro ref payload hp
    rw [h.handle]
    exact hx ref payload (h.payload ref ▸ hp)
  insert {x o} hx ho _ := by
    intro ref payload hp
    rw [object_insert] at hp ⊢
    split
    · rename_i hnew
      rw [if_pos hnew] at hp
      rw [RemoteObject.isCached, hp] at ho
      cases ho
    · rename_i hold
      rw [if_neg hold] at hp
      exact hx ref payload hp
  touch {x} handle hx := by
    rcases touch_cases x handle with h | ⟨tick, -, h⟩
    · rw [h]
      exact hx
    · rw [h]
      exact hx.of_objects (objects_pushTick x handle)
  uncache handle hx := hx.uncache handle
  remove handle hx := (hx.uncache handle).of_objects rfl
  clear {x} hx :=
    (uncacheAll_induction (P := Held G) (fun _ handle h => h.uncache handle) x.cachedHandles x hx).of_objects rfl
  setBudget {x} budget hx := by
    have hsame : Held G { x with budget } := hx.of_objects rfl
    exact hsame.evict none

/-- What is put in is allowed for its handle. -/
theorem Held.insertCached (hx : Held G x) (hroot : Rooted x) {payload : Bytes} (hG : G handle payload) :
    Held G (x.insertCached handle payload).2 := by
  cases hf : x.find? handle with
  | none =>
    rw [insertCached_of_find?_none hf]
    exact hx
  | some ref =>
    rw [insertCached_of_find? hf]
    have hrecords := SameRecords.place x handle ref payload
    have hplaced : Held G (x.place handle ref payload) := by
      intro ref' payload' hp
      rw [(RemoteObject.eq_of_record (hrecords.record ref')).1]
      have hfilled :
          (((x.takePayload handle).2.modify ref fun o => { o with payload := some payload }).object ref').payload =
          some payload' := by
        unfold Index.place object at hp
        rwa [objects_pushTick] at hp
      rw [object_modify] at hfilled
      split at hfilled
      · rename_i hself
        rw [hself.1, hroot.handle_eq hf, ← Option.some.inj hfilled]
        exact hG
      · exact hx ref' payload' (drains_takePayload x handle ref' payload' hfilled)
    exact hplaced.evict _

end Tether.Index
