import Tether.Proofs.Cache.Runs

/-!
# Tether.Proofs.Cache.Upload — uploads under any handle

An upload puts its object into the tree without a look at what stands there.  When the handle is cached, that
object leaves the tree with its content, while the tick and the byte count stay: the books no longer balance.
They do balance afterwards, and nothing outside the tree holds a content, exactly when neither was wrong with the
handle or the objects before (`Reached.upload_iff`).
-/

namespace Tether

open Index (Linked Balanced)

namespace Index

variable {x : Index}

/-- The object stands for a handle. -/
def Attached (x : Index) (ref : ObjectRef) : Prop :=
  ∃ handle, x.find? handle = some ref

/-- Every object with a content stands for a handle. -/
def AllAttached (x : Index) : Prop :=
  ∀ ref, (x.object ref).isCached = true → x.Attached ref

theorem lt_size_of_isCached {ref : ObjectRef} (h : (x.object ref).isCached = true) : ref < x.objects.size := by
  by_contra hle
  rw [object_of_le (Nat.le_of_not_lt hle)] at h
  cases h

/-- After an insertion the order of use is whole exactly when the handle was not in it. -/
theorem Balanced.insert_iff (hx : Balanced x) {o : RemoteObject} (ho : o.isCached = false) :
    Balanced (x.insert o).2 ↔ x.ticks.get? o.handle = none := by
  constructor
  · intro hy
    refine Option.eq_none_iff_forall_ne_some.mpr fun tick ht => ?_
    have hl := hx.lookup?_insert o o.handle
    rw [if_pos rfl] at hl
    have hc := hy.cached ht hl
    rw [ho] at hc
    cases hc
  · exact hx.insert ho

/-- Where the handle is not cached, an insertion leaves no content behind. -/
theorem Linked.allAttached_insert_iff (hx : Linked x) {o : RemoteObject} (ho : o.isCached = false)
    (ht : x.ticks.get? o.handle = none) : (x.insert o).2.AllAttached ↔ x.AllAttached := by
  have hfind : ∀ h, (x.insert o).2.find? h = if h = o.handle then some x.objects.size else x.find? h :=
    fun h => OrderedMap.get?_insert x.tree o.handle h x.objects.size
  constructor
  · intro hy ref hc
    have hlt := lt_size_of_isCached hc
    have hsame : (x.insert o).2.object ref = x.object ref := by
      rw [object_insert, if_neg (Nat.ne_of_lt hlt)]
    obtain ⟨h, hf⟩ := hy ref (by rw [hsame]; exact hc)
    rw [hfind] at hf
    split at hf
    · exact absurd (Option.some.inj hf).symm (Nat.ne_of_lt hlt)
    · exact ⟨h, hf⟩
  · intro hall ref hc
    rw [object_insert] at hc
    split at hc
    · rw [ho] at hc
      cases hc
    · obtain ⟨h, hf⟩ := hall ref hc
      refine ⟨h, ?_⟩
      rw [hfind, if_neg]
      · exact hf
      · -- the handle has no tick, so its object has no content
        rintro rfl
        rw [hx.not_cached ht (lookup?_of_find? hf)] at hc
        cases hc

end Index

/-- An upload that succeeds in a state that passes the check leaves one that passes it, with the bytes counted
that the tree holds and no content outside the tree, exactly when the handle was not cached and no content was
outside before. -/
theorem Reached.upload_iff {τ : Type} [Transport τ] {h h' : Host τ} (hr : Reached True h)
    (hc : h.store.index.check = .ok ()) {name : String} {content : Bytes} {parent : UInt32} {ref : ObjectRef}
    (hw : Host.writeNew name content parent h = (.ok ref, h')) :
    (h'.store.index.check = .ok () ∧ h'.store.index.cachedBytes = h'.store.index.heldBytes ∧
        h'.store.index.AllAttached) ↔
      h.store.index.ticks.get? (h'.store.index.object ref).handle = none ∧ h.store.index.AllAttached := by
  have hx := hr.linked
  obtain ⟨hbal, hbudget⟩ := hx.check_eq_ok_iff.mp hc
  obtain ⟨handle, metadata, ⟨hs, -⟩, ho, -⟩ := (Host.leaves_writeNew name content parent h).1 ref h' hw
  have hindex : h'.store.index = (h.store.index.insert { handle, metadata }).2 := by
    rw [hs]
    rfl
  rw [ho, hindex]
  have hnew : ({ handle, metadata } : RemoteObject).isCached = false := rfl
  rw [(hx.insert hnew).check_eq_ok_iff, hbal.insert_iff hnew]
  constructor
  · rintro ⟨⟨ht, -⟩, -, hall⟩
    exact ⟨ht, (hx.allAttached_insert_iff hnew ht).mp hall⟩
  · rintro ⟨ht, hall⟩
    exact ⟨⟨ht, hbudget⟩, (hbal.insert hnew ht).counted, (hx.allAttached_insert_iff hnew ht).mpr hall⟩

/-- The first upload to a new store. -/
theorem upload_iff_first :
    (Host.ready.store.index.check = .ok () ∧ (Host.writeNew "a.jpg" [1, 2, 3] 0 Host.ready).1 = .ok 0) ∧
    (Host.writeNew "a.jpg" [1, 2, 3] 0 Host.ready).2.store.index.check = .ok () := by
  have hc : Host.ready.store.index.check = .ok () := by decide +kernel
  have hok : (Host.writeNew "a.jpg" [1, 2, 3] 0 Host.ready).1 = .ok 0 := by decide +kernel
  have hw : Host.writeNew "a.jpg" [1, 2, 3] 0 Host.ready =
      (.ok 0, (Host.writeNew "a.jpg" [1, 2, 3] 0 Host.ready).2) :=
    Prod.ext hok rfl
  have hticks : Host.ready.store.index.ticks.entries = [] := by decide +kernel
  have hobjects : Host.ready.store.index.objects = #[] := by decide +kernel
  refine ⟨⟨hc, hok⟩, ((Reached.upload_iff Host.reached_ready.mono hc hw).mpr ⟨?_, fun ref hr => ?_⟩).1⟩
  · simp [OrderedMap.get?, hticks]
  · have := Index.lt_size_of_isCached hr
    simp [hobjects] at this

/-- A host with a cached object, at a camera that has forgotten it. -/
def Host.outdated : Host Link :=
  Host.stocked.updateBay fun b => { b with engine := { b.engine with link := Host.ready.bay.engine.link } }

/-- The camera gives the handle of the forgotten object out again: the check fails after the upload. -/
theorem upload_over_cached :
    ∃ h : Host Link, Reached True h ∧ h.store.index.check = .ok () ∧
      (Host.writeNew "b.jpg" [4] 0 h).1 = .ok 1 ∧
      (Host.writeNew "b.jpg" [4] 0 h).2.store.index.check = .error (.noPayload 1) := by
  exact ⟨Host.outdated, Host.reached_stocked.mono.bay _, by decide +kernel, by decide +kernel, by decide +kernel⟩

end Tether
