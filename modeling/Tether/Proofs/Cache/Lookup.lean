import Mathlib.Algebra.BigOperators.Group.List.Basic
import Mathlib.Algebra.GroupWithZero.Nat
import Tether.Proofs.OrderedMap
import Tether.Store.Index

/-!
# Tether.Proofs.Cache.Lookup — the objects behind handles and the bytes they hold

An index is seen here through `lookup?`, the object of each handle.  In a `Rooted` index the objects of the tree
were made here and stand for their own handles, so a change behind one handle does not show behind another.

`heldBytes` adds up the contents of the objects in the tree.  Two indexes that differ behind one handle only
differ in it by what they hold there (`heldBytes_add_lengthAt`); every account of the bytes in the cache goes
back to this.
-/

namespace Tether

/-- An object without its content. -/
def RemoteObject.emptied (o : RemoteObject) : RemoteObject :=
  { o with payload := none }

@[simp] theorem RemoteObject.isCached_emptied (o : RemoteObject) : o.emptied.isCached = false := rfl

theorem RemoteObject.cachedLength_of_payload {o : RemoteObject} {payload : Bytes} (h : o.payload = some payload) :
    o.cachedLength = payload.length := by
  simp [RemoteObject.cachedLength, h]

theorem RemoteObject.cachedLength_of_not_cached {o : RemoteObject}
    (h : o.isCached = false) : o.cachedLength = 0 := by
  have : o.payload = none := by simpa [RemoteObject.isCached] using h
  simp [RemoteObject.cachedLength, this]

theorem RemoteObject.emptied_of_not_cached {o : RemoteObject} (h : o.isCached = false) : o.emptied = o := by
  obtain ⟨handle, metadata, payload⟩ := o
  have : payload = none := by simpa [RemoteObject.isCached] using h
  subst this
  rfl

namespace Index

variable {x y : Index} {handle : UInt32} {ref : ObjectRef}

/-! ## Objects -/

theorem object_of_le (h : x.objects.size ≤ ref) : x.object ref = default := by
  simp [object, Array.getD_eq_getD_getElem?, h]

theorem object_modify (x : Index) (ref ref' : ObjectRef) (f : RemoteObject → RemoteObject) :
    (x.modify ref f).object ref' =
      if ref' = ref ∧ ref < x.objects.size then f (x.object ref) else x.object ref' := by
  unfold object modify
  rw [Array.getD_eq_getD_getElem?, Array.getD_eq_getD_getElem?, Array.getD_eq_getD_getElem?, Array.getElem?_modify]
  by_cases h : ref = ref'
  · subst h
    by_cases hs : ref < x.objects.size
    · simp [hs]
    · simp [hs]
  · simp [h, Ne.symm h]

theorem object_insert (x : Index) (o : RemoteObject) (ref : ObjectRef) :
    (x.insert o).2.object ref = if ref = x.objects.size then o else x.object ref := by
  unfold object insert
  rw [Array.getD_eq_getD_getElem?, Array.getD_eq_getD_getElem?, Array.getElem?_push]
  split <;> rfl

theorem lookup?_eq_some_iff {o : RemoteObject} :
    x.lookup? handle = some o ↔ ∃ ref, x.find? handle = some ref ∧ x.object ref = o := by
  simp [lookup?]

theorem lookup?_of_find? (h : x.find? handle = some ref) : x.lookup? handle = some (x.object ref) := by
  simp [lookup?, h]

theorem lookup?_eq_none_iff : x.lookup? handle = none ↔ x.find? handle = none := by
  simp [lookup?]

/-- A change that keeps the tree and the objects keeps what is behind the handles. -/
theorem lookup?_congr (ht : y.tree = x.tree) (ho : y.objects = x.objects) (handle : UInt32) :
    y.lookup? handle = x.lookup? handle := by
  unfold lookup? find? object
  rw [ht, ho]

/-- Every object in the tree was made here and stands for its own handle. -/
structure Rooted (x : Index) : Prop where
  ref_lt : ∀ {handle ref}, x.find? handle = some ref → ref < x.objects.size
  handle_eq : ∀ {handle ref}, x.find? handle = some ref → (x.object ref).handle = handle

/-- Two handles never share an object. -/
theorem Rooted.handle_inj (hx : Rooted x) {handle' : UInt32} (h : x.find? handle = some ref)
    (h' : x.find? handle' = some ref) : handle' = handle := by
  rw [← hx.handle_eq h, ← hx.handle_eq h']

theorem Rooted.handle_lookup? (hx : Rooted x) {o : RemoteObject} (h : x.lookup? handle = some o) :
    o.handle = handle := by
  obtain ⟨ref, hf, rfl⟩ := lookup?_eq_some_iff.mp h
  exact hx.handle_eq hf

theorem Rooted.of_same_tree (hx : Rooted x) (ht : y.tree = x.tree) (hs : y.objects.size = x.objects.size)
    (hh : ∀ ref, (y.object ref).handle = (x.object ref).handle) : Rooted y where
  ref_lt h := by
    unfold find? at h
    rw [ht] at h
    exact hs ▸ hx.ref_lt h
  handle_eq h := by
    unfold find? at h
    rw [ht] at h
    exact (hh _).trans (hx.handle_eq h)

theorem Rooted.lookup?_modify (hx : Rooted x) (hf : x.find? handle = some ref) (f : RemoteObject → RemoteObject)
    (h : UInt32) :
    (x.modify ref f).lookup? h = if h = handle then (x.lookup? h).map f else x.lookup? h := by
  have hfind : (x.modify ref f).find? h = x.find? h := rfl
  cases hr : x.find? h with
  | none =>
    rw [lookup?_eq_none_iff.mpr (hfind.trans hr), lookup?_eq_none_iff.mpr hr]
    simp
  | some ref' =>
    rw [lookup?_of_find? (hfind.trans hr), lookup?_of_find? hr, object_modify]
    by_cases hh : h = handle
    · subst hh
      have : ref' = ref := Option.some.inj (hr.symm.trans hf)
      subst this
      simp [hx.ref_lt hf]
    · have : ref' ≠ ref := by
        rintro rfl
        exact hh (hx.handle_inj hf hr)
      simp [hh, this]

theorem Rooted.lookup?_insert (hx : Rooted x) (o : RemoteObject) (h : UInt32) :
    (x.insert o).2.lookup? h = if h = o.handle then some o else x.lookup? h := by
  have hfind : (x.insert o).2.find? h = if h = o.handle then some x.objects.size else x.find? h := by
    have := OrderedMap.get?_insert x.tree o.handle h x.objects.size
    unfold find? insert
    split <;> simp_all
  by_cases hh : h = o.handle
  · rw [if_pos hh] at hfind
    rw [if_pos hh, lookup?_of_find? hfind, object_insert, if_pos rfl]
  · rw [if_neg hh] at hfind ⊢
    cases hr : x.find? h with
    | none => rw [lookup?_eq_none_iff.mpr (hfind.trans hr), lookup?_eq_none_iff.mpr hr]
    | some ref' =>
      have hlt : ref' ≠ x.objects.size := Nat.ne_of_lt (hx.ref_lt hr)
      rw [lookup?_of_find? (hfind.trans hr), lookup?_of_find? hr, object_insert, if_neg hlt]

theorem Rooted.insert (hx : Rooted x) (o : RemoteObject) : Rooted (x.insert o).2 := by
  have hfind : ∀ {h ref}, (x.insert o).2.find? h = some ref →
      (h = o.handle ∧ ref = x.objects.size) ∨ x.find? h = some ref := by
    intro h ref hr
    by_cases hh : h = o.handle
    · subst hh
      rw [find?, Index.insert, OrderedMap.get?_insert_self] at hr
      exact .inl ⟨rfl, (Option.some.inj hr).symm⟩
    · rw [find?, Index.insert, OrderedMap.get?_insert_of_ne _ _ (Ne.symm hh)] at hr
      exact .inr hr
  have hsize : (x.insert o).2.objects.size = x.objects.size + 1 := Array.size_push _
  constructor
  · intro h ref hr
    rw [hsize]
    rcases hfind hr with ⟨-, rfl⟩ | hr
    · exact Nat.lt_succ_self _
    · exact Nat.lt_succ_of_lt (hx.ref_lt hr)
  · intro h ref hr
    rw [object_insert]
    rcases hfind hr with ⟨rfl, rfl⟩ | hr
    · rw [if_pos rfl]
    · rw [if_neg (Nat.ne_of_lt (hx.ref_lt hr))]
      exact hx.handle_eq hr

/-! ## Bytes held -/

/-- Bytes of content behind a handle. -/
def lengthAt (x : Index) (handle : UInt32) : Nat :=
  ((x.lookup? handle).map RemoteObject.cachedLength).getD 0

/-- Bytes of content of all objects in the tree. -/
def heldBytes (x : Index) : Nat :=
  ((x.tree.values.map x.object).map RemoteObject.cachedLength).sum

theorem lengthAt_of_lookup? {o : RemoteObject} (h : x.lookup? handle = some o) :
    x.lengthAt handle = o.cachedLength := by
  simp [lengthAt, h]

theorem lengthAt_of_lookup?_none (h : x.lookup? handle = none) : x.lengthAt handle = 0 := by
  simp [lengthAt, h]

theorem lengthAt_congr (h : y.lookup? handle = x.lookup? handle) : y.lengthAt handle = x.lengthAt handle := by
  simp [lengthAt, h]

theorem heldBytes_eq_sum (x : Index) : x.heldBytes = (x.tree.keys.map x.lengthAt).sum := by
  unfold heldBytes OrderedMap.values OrderedMap.keys
  rw [List.map_map, List.map_map, List.map_map]
  refine congrArg List.sum (List.map_congr_left fun e he => ?_)
  have hf : x.find? e.1 = some e.2 := OrderedMap.mem_entries_iff.mp he
  exact (lengthAt_of_lookup? (lookup?_of_find? hf)).symm

theorem heldBytes_eq_add (x : Index) (handle : UInt32) :
    x.heldBytes = x.lengthAt handle + ((x.tree.erase handle).keys.map x.lengthAt).sum := by
  rw [heldBytes_eq_sum]
  cases hf : x.tree.get? handle with
  | none =>
    rw [OrderedMap.erase_of_get?_eq_none hf, lengthAt_of_lookup?_none (lookup?_eq_none_iff.mpr hf), Nat.zero_add]
  | some ref => rw [((OrderedMap.keys_perm hf).map x.lengthAt).sum_eq, List.map_cons, List.sum_cons]

/-- Where only the object of one handle changes, the bytes held change by what it holds. -/
theorem heldBytes_add_lengthAt (handle : UInt32) (h : ∀ h', h' ≠ handle → y.lookup? h' = x.lookup? h') :
    y.heldBytes + x.lengthAt handle = x.heldBytes + y.lengthAt handle := by
  have hkeys : (y.tree.erase handle).keys.Perm (x.tree.erase handle).keys := by
    refine OrderedMap.erase_keys_perm fun h' hne => ?_
    have := congrArg Option.isSome (h h' hne)
    simpa [lookup?, find?] using this
  have hrest : ((y.tree.erase handle).keys.map y.lengthAt).sum =
      ((x.tree.erase handle).keys.map x.lengthAt).sum := by
    rw [(hkeys.map y.lengthAt).sum_eq]
    refine congrArg List.sum (List.map_congr_left fun h' hm => lengthAt_congr (h h' ?_))
    rintro rfl
    obtain ⟨_, hg⟩ := OrderedMap.mem_keys_iff.mp hm
    rw [OrderedMap.get?_erase_self] at hg
    cases hg
  rw [heldBytes_eq_add y handle, heldBytes_eq_add x handle, hrest]
  omega

theorem lengthAt_le_heldBytes (x : Index) (handle : UInt32) : x.lengthAt handle ≤ x.heldBytes := by
  rw [heldBytes_eq_add x handle]
  exact Nat.le_add_right _ _

theorem heldBytes_congr (h : ∀ h', y.lookup? h' = x.lookup? h') : y.heldBytes = x.heldBytes := by
  have h₀ := heldBytes_add_lengthAt 0 fun h' _ => h h'
  rw [lengthAt_congr (h 0)] at h₀
  omega

/-- Where nothing is held but behind one handle, that is all that is held. -/
theorem heldBytes_eq_lengthAt (handle : UInt32) (h : ∀ h', h' ≠ handle → x.lengthAt h' = 0) :
    x.heldBytes = x.lengthAt handle := by
  have hrest : ((x.tree.erase handle).keys.map x.lengthAt).sum = 0 := by
    refine List.sum_eq_zero fun n hn => ?_
    obtain ⟨h', hm, rfl⟩ := List.mem_map.mp hn
    refine h h' ?_
    rintro rfl
    obtain ⟨_, hg⟩ := OrderedMap.mem_keys_iff.mp hm
    rw [OrderedMap.get?_erase_self] at hg
    cases hg
  rw [heldBytes_eq_add x handle, hrest, Nat.add_zero]

end Index

end Tether
