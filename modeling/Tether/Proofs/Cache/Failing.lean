import Tether.Proofs.Cache.Runs

/-!
# Tether.Proofs.Cache.Failing — calls that fail leave the store as it was

A call can fail before it asks the camera, by what the camera answers, and after it, by the length of what was
downloaded or because the object does not stand for its handle any more.  All of this comes before the first
change of the store, so whatever the camera does, a call that fails leaves known objects, contents, the order of
use, the byte count and the budget behind as they were (`StoreCall.failing_leaves_store`).
-/

namespace Tether

open Tether.Action

variable {τ : Type} [Transport τ]

/-- A content is refused only where no object stands for the handle, and then there is nothing to change. -/
theorem Index.snd_insertCached_of_refused {x : Index} {handle : UInt32} {payload : Bytes}
    (h : (x.insertCached handle payload).1.1 = false) : (x.insertCached handle payload).2 = x := by
  cases hf : x.find? handle with
  | none => rw [insertCached_of_find?_none hf]
  | some ref =>
    rw [insertCached_of_find? hf] at h
    cases h

/-- A download may be refused without a word about why: then nothing is cached, and the store is as it was. -/
theorem Host.leaves_cache_refused (ref : ObjectRef) (h : Host τ) :
    (Host.cache ref).Leaves h (fun cached h' => cached = false → h.Turned h.store h') fun _ h' =>
      h.Turned h.store h' := by
  unfold Host.cache
  refine leaves_bind (leaves_state ?_)
  dsimp only
  split
  · exact leaves_bind (leaves_change (leaves_pure fun h => by cases h))
  · split
    · exact leaves_pure fun _ => ⟨rfl, rfl⟩
    · refine leaves_bind (leaves_call (fun payload engine => ?_) fun _ _ => ⟨rfl, rfl⟩)
      refine leaves_bind (leaves_change ?_)
      split
      · exact leaves_pure fun _ => ⟨rfl, rfl⟩
      · refine leaves_ofFunction fun hrefused => ?_
        have hindex : (h.store.index.insertCached (h.store.index.object ref).handle payload).2 = h.store.index :=
          Index.snd_insertCached_of_refused hrefused
        exact ⟨congrArg (fun index => { h.store with index }) hindex, rfl⟩

namespace StoreCall

/-- A call of a store to the camera fails; one that was to cache an object fails also where it answers that the
object is not cached. -/
def Fails (c : StoreCall τ) (h : Host τ) : Prop :=
  match c with
  | .fetch handle => ∃ e, (Host.fetch handle h).1 = .error e
  | .readRange ref length offset => ∃ e, (Host.readRange ref length offset h).1 = .error e
  | .cache ref => (Host.cache ref h).1 = .ok false ∨ ∃ e, (Host.cache ref h).1 = .error e
  | .writeNew name content parent => ∃ e, (Host.writeNew name content parent h).1 = .error e
  | .delete ref => ∃ e, (Host.delete ref h).1 = .error e
  | _ => False

end StoreCall

omit [Transport τ] in
/-- A call that serves a store and fails leaves it as it was. -/
theorem Host.Serves.store_of_error {α : Type} {x : Action (Host τ) StorageError α} {h : Host τ} {S : Store → Prop}
    (hx : Host.Serves x h S) (he : ∃ e, (x h).1 = .error e) : (x h).2.store = h.store := by
  obtain ⟨e, he⟩ := he
  exact (hx.2 e _ (Prod.ext he rfl)).store

/-- Whatever the camera answers, a call of a store that fails leaves the store as it was. -/
theorem StoreCall.failing_leaves_store (c : StoreCall τ) (h : Host τ) (hf : c.Fails h) :
    (c.run h).store = h.store := by
  cases c with
  | fetch handle => exact (Host.serves_fetch handle h).store_of_error hf
  | readRange ref length offset => exact (Host.serves_readRange ref length offset h).store_of_error hf
  | cache ref =>
    rcases hf with hrefused | herror
    · exact ((Host.leaves_cache_refused ref h).1 false _ (Prod.ext hrefused rfl) rfl).store
    · exact (Host.serves_cache ref h).store_of_error herror
  | writeNew name content parent => exact (Host.serves_writeNew name content parent h).store_of_error hf
  | delete ref => exact (Host.serves_delete ref h).store_of_error hf
  | _ => exact hf.elim

/-- With three bytes cached, an object that the camera does not have cannot be described, and an object that was
taken out is not cached although the camera sends its content. -/
theorem StoreCall.failing_leaves_store_stocked :
    ((StoreCall.fetch 9).Fails Host.stocked ∧ Host.stocked.store.index.cachedBytes = 3 ∧
      (StoreCall.cache 0).Fails (Host.stocked.runAll [.forget 1])) ∧
    ((StoreCall.fetch 9).run Host.stocked).store = Host.stocked.store ∧
      ((StoreCall.cache 0).run (Host.stocked.runAll [.forget 1])).store =
        (Host.stocked.runAll [.forget 1]).store := by
  have hfetch : (StoreCall.fetch 9).Fails Host.stocked := ⟨.objectNotFound 9, by decide +kernel⟩
  have hcache : (StoreCall.cache 0).Fails (Host.stocked.runAll [.forget 1]) := .inl (by decide +kernel)
  exact ⟨⟨hfetch, by decide +kernel, hcache⟩, failing_leaves_store _ _ hfetch, failing_leaves_store _ _ hcache⟩

end Tether
