import Tether.Proofs.Cache.Lookup

/-!
# Tether.Proofs.Cache.Order — the order of use and single contents

In an `Ordered` index the two maps of the order of use are inverse to each other and no tick is younger than the
last one given out.  `dropTick` and `pushTick` keep it so, and move only the handle that they are about.

`takePayload` empties the object of one handle and takes what that object held off the byte count.
-/

namespace Tether.Index

variable {x y : Index} {handle : UInt32}

/-! ## The order of use -/

/-- Ticks and handles of the order of use tell each other, and the last tick is the youngest. -/
structure Ordered (x : Index) : Prop where
  tick_iff : ∀ {tick handle}, x.recency.get? tick = some handle ↔ x.ticks.get? handle = some tick
  tick_le : ∀ {tick handle}, x.recency.get? tick = some handle → tick ≤ x.lastTick

theorem Ordered.congr (hx : Ordered x) (hr : y.recency = x.recency) (ht : y.ticks = x.ticks)
    (hl : y.lastTick = x.lastTick) : Ordered y := by
  constructor
  · rw [hr, ht]
    exact hx.tick_iff
  · rw [hr, hl]
    exact hx.tick_le

/-- The cached handles are those with a tick. -/
theorem Ordered.mem_cachedHandles_iff (hx : Ordered x) {h : UInt32} :
    h ∈ x.cachedHandles ↔ ∃ tick, x.ticks.get? h = some tick := by
  unfold cachedHandles
  rw [OrderedMap.mem_values_iff]
  exact exists_congr fun tick => hx.tick_iff

/-- Each of them once. -/
theorem Ordered.cachedHandles_perm (hx : Ordered x) : x.cachedHandles.Perm x.ticks.keys :=
  OrderedMap.values_perm_keys (m := x.recency) fun _ _ => hx.tick_iff

theorem Ordered.size_recency (hx : Ordered x) : x.recency.size = x.ticks.size :=
  OrderedMap.size_eq_of_inverse fun _ _ => hx.tick_iff

theorem ticks_dropTick (x : Index) (handle h : UInt32) :
    (x.dropTick handle).ticks.get? h = if h = handle then none else x.ticks.get? h := by
  unfold dropTick
  split
  · exact OrderedMap.get?_erase x.ticks handle h
  · rename_i hn
    split
    · rename_i hh
      rw [hh, hn]
    · rfl

theorem Ordered.recency_dropTick (hx : Ordered x) (handle : UInt32) {tick : Nat} {h : UInt32} :
    (x.dropTick handle).recency.get? tick = some h ↔ h ≠ handle ∧ x.recency.get? tick = some h := by
  unfold dropTick
  split
  · rename_i old hold
    show (x.recency.erase old).get? tick = some h ↔ _
    by_cases ht : tick = old
    · subst ht
      rw [OrderedMap.get?_erase_self, hx.tick_iff.mpr hold]
      simp [eq_comm]
    · rw [OrderedMap.get?_erase_of_ne _ (Ne.symm ht)]
      refine ⟨fun hr => ⟨?_, hr⟩, And.right⟩
      rintro rfl
      rw [hx.tick_iff, hold] at hr
      exact ht (Option.some.inj hr).symm
  · rename_i hn
    refine ⟨fun hr => ⟨?_, hr⟩, And.right⟩
    rintro rfl
    rw [hx.tick_iff, hn] at hr
    cases hr

@[simp] theorem lastTick_dropTick (x : Index) (handle : UInt32) : (x.dropTick handle).lastTick = x.lastTick := by
  unfold dropTick
  split <;> rfl

@[simp] theorem tree_dropTick (x : Index) (handle : UInt32) : (x.dropTick handle).tree = x.tree := by
  unfold dropTick
  split <;> rfl

@[simp] theorem objects_dropTick (x : Index) (handle : UInt32) : (x.dropTick handle).objects = x.objects := by
  unfold dropTick
  split <;> rfl

@[simp] theorem cachedBytes_dropTick (x : Index) (handle : UInt32) :
    (x.dropTick handle).cachedBytes = x.cachedBytes := by
  unfold dropTick
  split <;> rfl

@[simp] theorem budget_dropTick (x : Index) (handle : UInt32) : (x.dropTick handle).budget = x.budget := by
  unfold dropTick
  split <;> rfl

@[simp] theorem overdrawn_dropTick (x : Index) (handle : UInt32) :
    (x.dropTick handle).overdrawn = x.overdrawn := by
  unfold dropTick
  split <;> rfl

@[simp] theorem lookup?_dropTick (x : Index) (handle h : UInt32) : (x.dropTick handle).lookup? h = x.lookup? h :=
  lookup?_congr (tree_dropTick x handle) (objects_dropTick x handle) h

theorem Ordered.dropTick (hx : Ordered x) (handle : UInt32) : Ordered (x.dropTick handle) := by
  constructor
  · intro tick h
    rw [hx.recency_dropTick, ticks_dropTick, hx.tick_iff]
    split <;> simp_all
  · intro tick h hr
    rw [lastTick_dropTick]
    exact hx.tick_le ((hx.recency_dropTick handle).mp hr).2

theorem ticks_pushTick (x : Index) (handle h : UInt32) :
    (x.pushTick handle).ticks.get? h = if h = handle then some (x.lastTick + 1) else x.ticks.get? h := by
  unfold pushTick
  dsimp only
  rw [OrderedMap.get?_insert, ticks_dropTick, lastTick_dropTick]
  split <;> rfl

theorem Ordered.recency_pushTick (hx : Ordered x) (handle : UInt32) {tick : Nat} {h : UInt32} :
    (x.pushTick handle).recency.get? tick = some h ↔
      (tick = x.lastTick + 1 ∧ h = handle) ∨ (h ≠ handle ∧ x.recency.get? tick = some h) := by
  unfold pushTick
  dsimp only
  rw [lastTick_dropTick]
  by_cases ht : tick = x.lastTick + 1
  · subst ht
    rw [OrderedMap.get?_insert_self]
    constructor
    · intro h
      exact .inl ⟨rfl, (Option.some.inj h).symm⟩
    · rintro (⟨-, rfl⟩ | ⟨-, hr⟩)
      · rfl
      · exact absurd (hx.tick_le hr) (Nat.not_succ_le_self _)
  · rw [OrderedMap.get?_insert_of_ne _ _ (Ne.symm ht), hx.recency_dropTick]
    simp [ht]

@[simp] theorem lastTick_pushTick (x : Index) (handle : UInt32) :
    (x.pushTick handle).lastTick = x.lastTick + 1 := by
  simp [pushTick]

@[simp] theorem tree_pushTick (x : Index) (handle : UInt32) : (x.pushTick handle).tree = x.tree := by
  simp [pushTick]

@[simp] theorem objects_pushTick (x : Index) (handle : UInt32) : (x.pushTick handle).objects = x.objects := by
  simp [pushTick]

@[simp] theorem cachedBytes_pushTick (x : Index) (handle : UInt32) :
    (x.pushTick handle).cachedBytes = x.cachedBytes := by
  simp [pushTick]

@[simp] theorem budget_pushTick (x : Index) (handle : UInt32) : (x.pushTick handle).budget = x.budget := by
  simp [pushTick]

@[simp] theorem overdrawn_pushTick (x : Index) (handle : UInt32) :
    (x.pushTick handle).overdrawn = x.overdrawn := by
  simp [pushTick]

@[simp] theorem lookup?_pushTick (x : Index) (handle h : UInt32) : (x.pushTick handle).lookup? h = x.lookup? h :=
  lookup?_congr (tree_pushTick x handle) (objects_pushTick x handle) h

theorem Ordered.pushTick (hx : Ordered x) (handle : UInt32) : Ordered (x.pushTick handle) := by
  constructor
  · intro tick h
    rw [hx.recency_pushTick, ticks_pushTick, hx.tick_iff]
    split
    · rename_i hh
      simp [hh, eq_comm]
    · rename_i hh
      simp [hh]
  · intro tick h hr
    rw [lastTick_pushTick]
    rcases (hx.recency_pushTick handle).mp hr with ⟨rfl, -⟩ | ⟨-, hr⟩
    · exact Nat.le_refl _
    · exact Nat.le_succ_of_le (hx.tick_le hr)

/-- A handle without a tick is no longer among the cached ones; the others stay in their order. -/
theorem Ordered.cachedHandles_dropTick (hx : Ordered x) (handle : UInt32) :
    (x.dropTick handle).cachedHandles = x.cachedHandles.filter (· ≠ handle) := by
  unfold Index.dropTick
  split
  · rename_i old hold
    show (x.recency.entries.filter fun e => decide (_ ≠ _)).map Prod.snd =
      (x.recency.entries.map Prod.snd).filter _
    rw [List.filter_map]
    refine congrArg (List.map Prod.snd) (List.filter_congr fun e hmem => ?_)
    have htick := OrderedMap.mem_entries_iff.mp hmem
    refine decide_eq_decide.mpr (not_congr ⟨fun heq => ?_, fun heq => ?_⟩)
    · rw [Ranked.eq_of_rank_eq heq, hx.tick_iff.mpr hold] at htick
      exact (Option.some.inj htick).symm
    · rw [heq, hx.tick_iff, hold] at htick
      rw [Option.some.inj htick]
  · rename_i hnone
    refine (List.filter_eq_self.mpr fun h hmem => decide_eq_true ?_).symm
    rintro rfl
    obtain ⟨tick, htick⟩ := hx.mem_cachedHandles_iff.mp hmem
    rw [hnone] at htick
    cases htick

/-- The handle that is used comes last, behind the others in their order. -/
theorem Ordered.cachedHandles_pushTick (hx : Ordered x) (handle : UInt32) :
    (x.pushTick handle).cachedHandles = x.cachedHandles.filter (· ≠ handle) ++ [handle] := by
  rw [← hx.cachedHandles_dropTick]
  refine OrderedMap.values_insert_of_lt (fun {tick h} htick => ?_) handle
  exact Nat.lt_succ_of_le ((hx.dropTick handle).tick_le htick)

/-! ## Taking a content out -/

/-- What `takePayload` does to the objects: it empties the one of its handle. -/
theorem objects_takePayload (x : Index) (handle : UInt32) :
    (x.takePayload handle).2.objects.size = x.objects.size ∧
      ∀ ref, ((x.takePayload handle).2.object ref).handle = (x.object ref).handle := by
  unfold takePayload
  split
  · exact ⟨rfl, fun _ => rfl⟩
  · rename_i ref hf
    split
    · exact ⟨rfl, fun _ => rfl⟩
    · refine ⟨Array.size_modify, fun ref' => ?_⟩
      show ((x.modify ref _).object ref').handle = _
      rw [object_modify]
      split
      · rename_i h
        rw [h.1]
      · rfl

@[simp] theorem tree_takePayload (x : Index) (handle : UInt32) : (x.takePayload handle).2.tree = x.tree := by
  unfold takePayload
  split
  · rfl
  · split <;> rfl

@[simp] theorem recency_takePayload (x : Index) (handle : UInt32) :
    (x.takePayload handle).2.recency = x.recency := by
  unfold takePayload
  split
  · rfl
  · split <;> rfl

@[simp] theorem ticks_takePayload (x : Index) (handle : UInt32) : (x.takePayload handle).2.ticks = x.ticks := by
  unfold takePayload
  split
  · rfl
  · split <;> rfl

@[simp] theorem lastTick_takePayload (x : Index) (handle : UInt32) :
    (x.takePayload handle).2.lastTick = x.lastTick := by
  unfold takePayload
  split
  · rfl
  · split <;> rfl

@[simp] theorem budget_takePayload (x : Index) (handle : UInt32) : (x.takePayload handle).2.budget = x.budget := by
  unfold takePayload
  split
  · rfl
  · split <;> rfl

/-- What the object of the handle held goes off the byte count. -/
theorem cachedBytes_takePayload (x : Index) (handle : UInt32) :
    (x.takePayload handle).2.cachedBytes = x.cachedBytes - x.lengthAt handle := by
  unfold takePayload
  split
  · rename_i hf
    rw [lengthAt_of_lookup?_none (lookup?_eq_none_iff.mpr hf)]
    rfl
  · rename_i ref hf
    rw [lengthAt_of_lookup? (lookup?_of_find? hf)]
    split <;> simp_all [RemoteObject.cachedLength]

theorem overdrawn_takePayload (x : Index) (handle : UInt32) :
    (x.takePayload handle).2.overdrawn = (x.overdrawn || decide (x.cachedBytes < x.lengthAt handle)) := by
  unfold takePayload
  split
  · rename_i hf
    simp [lengthAt_of_lookup?_none (lookup?_eq_none_iff.mpr hf)]
  · rename_i ref hf
    rw [lengthAt_of_lookup? (lookup?_of_find? hf)]
    split <;> simp_all [RemoteObject.cachedLength]

theorem Rooted.lookup?_takePayload (hx : Rooted x) (handle h : UInt32) :
    (x.takePayload handle).2.lookup? h =
      if h = handle then (x.lookup? h).map RemoteObject.emptied else x.lookup? h := by
  unfold takePayload
  split
  · rename_i hf
    split
    · rename_i hh
      rw [hh, lookup?_eq_none_iff.mpr hf]
      rfl
    · rfl
  · rename_i ref hf
    split
    · rename_i hp
      split
      · rename_i hh
        rw [hh, lookup?_of_find? hf, Option.map_some, RemoteObject.emptied_of_not_cached]
        simp [RemoteObject.isCached, hp]
      · rfl
    · exact hx.lookup?_modify hf RemoteObject.emptied h

end Tether.Index
