import Tether.Proofs.Cache.Order

/-!
# Tether.Proofs.Cache.Linked — what no call breaks

A `Linked` index is rooted and ordered, its cached handles have objects, and every content is behind a cached
handle.  Every operation of the index keeps it so, whatever handles the camera gives out.

The theorems on `uncache` and `remove` tell what is behind each handle afterwards and which handles are cached;
nothing past this module opens these operations.
-/

namespace Tether.Index

variable {x y : Index} {handle : UInt32} {ref : ObjectRef}

/-- The order of use and the contents point at each other through the tree, but for cached handles without
content. -/
structure Linked (x : Index) : Prop extends Rooted x, Ordered x where
  known : ∀ {handle tick}, x.ticks.get? handle = some tick → ∃ o, x.lookup? handle = some o
  ticked : ∀ {handle o}, x.lookup? handle = some o → o.isCached = true → ∃ tick, x.ticks.get? handle = some tick

/-- Without a tick there is no content. -/
theorem Linked.not_cached (hx : Linked x) (ht : x.ticks.get? handle = none) {o : RemoteObject}
    (ho : x.lookup? handle = some o) : o.isCached = false := by
  rw [Bool.eq_false_iff]
  intro hc
  obtain ⟨tick, h⟩ := hx.ticked ho hc
  rw [ht] at h
  cases h

theorem Linked.lengthAt_eq_zero (hx : Linked x) (ht : x.ticks.get? handle = none) : x.lengthAt handle = 0 := by
  cases ho : x.lookup? handle with
  | none => exact lengthAt_of_lookup?_none ho
  | some o =>
    rw [lengthAt_of_lookup? ho]
    exact RemoteObject.cachedLength_of_not_cached (hx.not_cached ht ho)

theorem linked_new (budget : Nat) : Linked { budget } where
  ref_lt h := by cases h
  handle_eq h := by cases h
  tick_iff := ⟨fun h => (by cases h), fun h => (by cases h)⟩
  tick_le h := by cases h
  known h := by cases h
  ticked h := by cases h

/-! ## Changes of descriptions and of the budget -/

/-- `y` has the tree, the order of use, the byte count and the contents of `x`; descriptions and budgets may
differ. -/
structure SameBooks (x y : Index) : Prop where
  tree : y.tree = x.tree
  recency : y.recency = x.recency
  ticks : y.ticks = x.ticks
  lastTick : y.lastTick = x.lastTick
  cachedBytes : y.cachedBytes = x.cachedBytes
  overdrawn : y.overdrawn = x.overdrawn
  size : y.objects.size = x.objects.size
  handle : ∀ ref, (y.object ref).handle = (x.object ref).handle
  payload : ∀ ref, (y.object ref).payload = (x.object ref).payload

/-- A change of an object's description alone. -/
theorem sameBooks_modify (x : Index) (ref : ObjectRef) {f : RemoteObject → RemoteObject}
    (hh : ∀ o, (f o).handle = o.handle) (hp : ∀ o, (f o).payload = o.payload) : SameBooks x (x.modify ref f) where
  tree := rfl
  recency := rfl
  ticks := rfl
  lastTick := rfl
  cachedBytes := rfl
  overdrawn := rfl
  size := Array.size_modify
  handle ref' := by
    rw [object_modify]
    split
    · rename_i h
      rw [hh, h.1]
    · rfl
  payload ref' := by
    rw [object_modify]
    split
    · rename_i h
      rw [hp, h.1]
    · rfl

theorem SameBooks.find? (h : SameBooks x y) (handle : UInt32) : y.find? handle = x.find? handle := by
  unfold Index.find?
  rw [h.tree]

/-- Behind every handle there is the same content. -/
theorem SameBooks.payload_lookup? (h : SameBooks x y) (handle : UInt32) :
    (y.lookup? handle).map RemoteObject.payload = (x.lookup? handle).map RemoteObject.payload := by
  unfold lookup?
  rw [h.find? handle, Option.map_map, Option.map_map]
  exact congrArg (fun f => (x.find? handle).map f) (funext h.payload)

theorem SameBooks.isCached_lookup? (h : SameBooks x y) {o : RemoteObject} (ho : y.lookup? handle = some o) :
    ∃ o', x.lookup? handle = some o' ∧ o'.isCached = o.isCached := by
  have := h.payload_lookup? handle
  rw [ho, Option.map_some, eq_comm, Option.map_eq_some_iff] at this
  obtain ⟨o', ho', hp⟩ := this
  exact ⟨o', ho', congrArg Option.isSome hp⟩

theorem SameBooks.lengthAt (h : SameBooks x y) (handle : UInt32) : y.lengthAt handle = x.lengthAt handle := by
  have hc : ∀ z : Index, z.lengthAt handle =
      (((z.lookup? handle).map RemoteObject.payload).map fun p => (p.map List.length).getD 0).getD 0 := by
    intro z
    unfold Index.lengthAt
    rw [Option.map_map]
    rfl
  rw [hc, hc, h.payload_lookup?]

theorem SameBooks.heldBytes (h : SameBooks x y) : y.heldBytes = x.heldBytes := by
  rw [heldBytes_eq_sum, heldBytes_eq_sum, h.tree, funext h.lengthAt]

theorem SameBooks.linked (h : SameBooks x y) (hx : Linked x) : Linked y where
  toRooted := hx.toRooted.of_same_tree h.tree h.size h.handle
  toOrdered := hx.toOrdered.congr h.recency h.ticks h.lastTick
  known ht := by
    rw [h.ticks] at ht
    obtain ⟨o, ho⟩ := hx.known ht
    obtain ⟨ref, hf, -⟩ := lookup?_eq_some_iff.mp ho
    exact ⟨_, lookup?_of_find? ((h.find? _).trans hf)⟩
  ticked ho hc := by
    obtain ⟨o', ho', he⟩ := h.isCached_lookup? ho
    rw [h.ticks]
    exact hx.ticked ho' (he.trans hc)

/-! ## New objects -/

theorem Linked.insert (hx : Linked x) {o : RemoteObject} (ho : o.isCached = false) : Linked (x.insert o).2 where
  toRooted := hx.toRooted.insert o
  toOrdered := hx.toOrdered.congr rfl rfl rfl
  known {h tick} ht := by
    rw [hx.lookup?_insert]
    split
    · exact ⟨o, rfl⟩
    · exact hx.known ht
  ticked {h o'} hl hc := by
    rw [hx.lookup?_insert] at hl
    split at hl
    · cases hl
      rw [ho] at hc
      cases hc
    · exact hx.ticked hl hc

/-! ## Dropping one content -/

/-- Dropping the content of a handle is the same whether it is cached or not. -/
theorem Linked.uncache_eq (hx : Linked x) (handle : UInt32) :
    x.uncache handle = (x.dropTick handle).takePayload handle := by
  unfold uncache
  split
  · rfl
  · rename_i hc
    have ht : x.ticks.get? handle = none := OrderedMap.contains_eq_false_iff.mp (by simpa using hc)
    have hd : x.dropTick handle = x := by
      unfold dropTick
      rw [ht]
    rw [hd]
    unfold takePayload
    split
    · rfl
    · rename_i ref hf
      have hn := hx.not_cached ht (lookup?_of_find? hf)
      have : (x.object ref).payload = none := by simpa [RemoteObject.isCached] using hn
      rw [this]

section Uncache

variable (hx : Linked x) (handle : UInt32)
include hx

theorem Linked.tree_uncache : (x.uncache handle).2.tree = x.tree := by
  rw [hx.uncache_eq, tree_takePayload, tree_dropTick]

theorem Linked.budget_uncache : (x.uncache handle).2.budget = x.budget := by
  rw [hx.uncache_eq, budget_takePayload, budget_dropTick]

theorem Linked.rooted_dropTick : Rooted (x.dropTick handle) := by
  refine hx.toRooted.of_same_tree (tree_dropTick x handle) (by rw [objects_dropTick]) fun ref => ?_
  unfold object
  rw [objects_dropTick]

/-- The handle is no longer cached, and no other is concerned. -/
theorem Linked.ticks_uncache (h : UInt32) :
    (x.uncache handle).2.ticks.get? h = if h = handle then none else x.ticks.get? h := by
  rw [hx.uncache_eq, ticks_takePayload, ticks_dropTick]

/-- The object of the handle is empty, and no other is concerned. -/
theorem Linked.lookup?_uncache (h : UInt32) :
    (x.uncache handle).2.lookup? h = if h = handle then (x.lookup? h).map RemoteObject.emptied
      else x.lookup? h := by
  rw [hx.uncache_eq, (hx.rooted_dropTick handle).lookup?_takePayload, lookup?_dropTick]

theorem Linked.cachedBytes_uncache : (x.uncache handle).2.cachedBytes = x.cachedBytes - x.lengthAt handle := by
  rw [hx.uncache_eq, cachedBytes_takePayload, cachedBytes_dropTick,
    lengthAt_congr (lookup?_dropTick x handle handle)]

theorem Linked.overdrawn_uncache :
    (x.uncache handle).2.overdrawn = (x.overdrawn || decide (x.cachedBytes < x.lengthAt handle)) := by
  rw [hx.uncache_eq, overdrawn_takePayload, cachedBytes_dropTick, overdrawn_dropTick,
    lengthAt_congr (lookup?_dropTick x handle handle)]

theorem Linked.uncache : Linked (x.uncache handle).2 where
  toRooted := by
    rw [hx.uncache_eq]
    obtain ⟨hs, hh⟩ := objects_takePayload (x.dropTick handle) handle
    exact (hx.rooted_dropTick handle).of_same_tree (tree_takePayload _ _) hs hh
  toOrdered := by
    rw [hx.uncache_eq]
    exact (hx.toOrdered.dropTick handle).congr (recency_takePayload _ _) (ticks_takePayload _ _)
      (lastTick_takePayload _ _)
  known {h tick} ht := by
    rw [hx.ticks_uncache] at ht
    split at ht
    · cases ht
    · rename_i hh
      rw [hx.lookup?_uncache, if_neg hh]
      exact hx.known ht
  ticked {h o} ho hc := by
    rw [hx.lookup?_uncache] at ho
    rw [hx.ticks_uncache]
    split at ho
    · obtain ⟨o', -, rfl⟩ := Option.map_eq_some_iff.mp ho
      cases hc
    · rename_i hh
      rw [if_neg hh]
      exact hx.ticked ho hc

end Uncache

/-! ## Taking an object out -/

theorem Linked.find?_remove (hx : Linked x) (handle h : UInt32) :
    (x.remove handle).2.find? h = if h = handle then none else x.find? h := by
  show ((x.uncache handle).2.tree.erase handle).get? h = _
  rw [hx.tree_uncache, OrderedMap.get?_erase]
  rfl

theorem Linked.lookup?_remove (hx : Linked x) (handle h : UInt32) :
    (x.remove handle).2.lookup? h = if h = handle then none else x.lookup? h := by
  have hfind := hx.find?_remove handle h
  by_cases hh : h = handle
  · rw [if_pos hh] at hfind ⊢
    exact lookup?_eq_none_iff.mpr hfind
  · rw [if_neg hh] at hfind ⊢
    have hl := hx.lookup?_uncache handle h
    rw [if_neg hh] at hl
    rw [← hl]
    unfold lookup?
    rw [hfind]
    unfold find?
    rw [hx.tree_uncache]
    rfl

theorem Linked.ticks_remove (hx : Linked x) (handle h : UInt32) :
    (x.remove handle).2.ticks.get? h = if h = handle then none else x.ticks.get? h :=
  hx.ticks_uncache handle h

theorem find?_of_find?_remove {h : UInt32} (hf : (x.remove handle).2.find? h = some ref) :
    (x.uncache handle).2.find? h = some ref := by
  have he := OrderedMap.get?_erase (x.uncache handle).2.tree handle h
  rw [show ((x.uncache handle).2.tree.erase handle).get? h = some ref from hf] at he
  split at he
  · cases he
  · exact he.symm

theorem Linked.remove (hx : Linked x) (handle : UInt32) : Linked (x.remove handle).2 where
  ref_lt hf := (hx.uncache handle).ref_lt (find?_of_find?_remove hf)
  handle_eq hf := (hx.uncache handle).handle_eq (find?_of_find?_remove hf)
  toOrdered := (hx.uncache handle).toOrdered.congr rfl rfl rfl
  known {h tick} ht := by
    rw [hx.ticks_remove] at ht
    rw [hx.lookup?_remove]
    split at ht
    · cases ht
    · rename_i hh
      rw [if_neg hh]
      exact hx.known ht
  ticked {h o} ho hc := by
    rw [hx.lookup?_remove] at ho
    rw [hx.ticks_remove]
    split at ho
    · cases ho
    · rename_i hh
      rw [if_neg hh]
      exact hx.ticked ho hc

end Tether.Index
