import Tether.Proofs.Cache.Eviction

/-!
# Tether.Proofs.Cache.Accounts — the byte count is what the contents add up to

In a `Balanced` index every cached handle has a content and the byte count is the length of all contents
together; in an `Accounted` one nothing was ever taken off the count that was not on it.  A `Sound` index is also
within its budget.

Every operation keeps an index accounted as long as no new object takes the place of one that is cached.  The
only operations that put a sound index above its budget for a moment, `setBudget` and `insertCached`, evict
before they end.
-/

namespace Tether.Index

variable {x y : Index} {handle : UInt32} {ref : ObjectRef}

/-! ## What is held after each change -/

section Held

variable (hx : Linked x)
include hx

theorem Linked.heldBytes_uncache (handle : UInt32) :
    (x.uncache handle).2.heldBytes + x.lengthAt handle = x.heldBytes := by
  have hsum := heldBytes_add_lengthAt (x := x) (y := (x.uncache handle).2) handle fun h' hne => by
    rw [hx.lookup?_uncache, if_neg hne]
  have hempty : (x.uncache handle).2.lengthAt handle = 0 :=
    (hx.uncache handle).lengthAt_eq_zero (by rw [hx.ticks_uncache, if_pos rfl])
  rwa [hempty, Nat.add_zero] at hsum

theorem Linked.heldBytes_remove (handle : UInt32) :
    (x.remove handle).2.heldBytes + x.lengthAt handle = x.heldBytes := by
  have hsum := heldBytes_add_lengthAt (x := x) (y := (x.remove handle).2) handle fun h' hne => by
    rw [hx.lookup?_remove, if_neg hne]
  have hgone : (x.remove handle).2.lengthAt handle = 0 :=
    lengthAt_of_lookup?_none (by rw [hx.lookup?_remove, if_pos rfl])
  rwa [hgone, Nat.add_zero] at hsum

/-- A new object holds nothing, and what it takes the place of is no longer held. -/
theorem Linked.heldBytes_insert {o : RemoteObject} (ho : o.isCached = false) :
    (x.insert o).2.heldBytes + x.lengthAt o.handle = x.heldBytes := by
  have hsum := heldBytes_add_lengthAt (x := x) (y := (x.insert o).2) o.handle fun h' hne => by
    rw [hx.lookup?_insert, if_neg hne]
  have hnew : (x.insert o).2.lengthAt o.handle = 0 := by
    have hl := hx.lookup?_insert o o.handle
    rw [if_pos rfl] at hl
    rw [lengthAt_of_lookup? hl]
    exact RemoteObject.cachedLength_of_not_cached ho
  rwa [hnew, Nat.add_zero] at hsum

theorem Linked.heldBytes_place (hf : x.find? handle = some ref) (payload : Bytes) :
    (x.place handle ref payload).heldBytes + x.lengthAt handle = x.heldBytes + payload.length := by
  have hsum := heldBytes_add_lengthAt (x := x) (y := x.place handle ref payload) handle fun h' hne => by
    rw [hx.lookup?_place payload hf, if_neg hne]
  have hnew : (x.place handle ref payload).lengthAt handle = payload.length := by
    have hl := hx.lookup?_place payload hf handle
    rw [if_pos rfl, lookup?_of_find? hf] at hl
    exact lengthAt_of_lookup? hl
  rwa [hnew] at hsum

/-- Nothing is cached behind `clear`. -/
theorem Linked.ticks_clear (handle : UInt32) : x.clear.2.ticks.get? handle = none := by
  show (x.uncacheAll x.cachedHandles).2.ticks.get? handle = none
  rw [hx.ticks_uncacheAll]
  split
  · rfl
  · rename_i hn
    refine Option.eq_none_iff_forall_ne_some.mpr fun tick ht => ?_
    exact hn (hx.toOrdered.mem_cachedHandles_iff.mpr ⟨tick, ht⟩)

/-- Nothing is held once every cached handle was dropped. -/
theorem Linked.heldBytes_uncacheAll : (x.uncacheAll x.cachedHandles).2.heldBytes = 0 := by
  have hy := hx.uncacheAll x.cachedHandles
  rw [heldBytes_eq_lengthAt 0 fun h' _ => hy.lengthAt_eq_zero (hx.ticks_clear h'),
    hy.lengthAt_eq_zero (hx.ticks_clear 0)]

end Held

/-! ## Balanced and sound indexes -/

/-- A linked index whose cached handles all have a content and whose byte count is right. -/
structure Balanced (x : Index) : Prop extends Linked x where
  cached : ∀ {handle tick o}, x.ticks.get? handle = some tick → x.lookup? handle = some o → o.isCached = true
  counted : x.cachedBytes = x.heldBytes

/-- A balanced index whose byte count never went below zero. -/
structure Accounted (x : Index) : Prop extends Balanced x where
  solvent : x.overdrawn = false

/-- An accounted index within its budget. -/
structure Sound (x : Index) : Prop extends Accounted x where
  within : x.cachedBytes ≤ x.budget

/-- The cached handles are those of the objects in the tree that have a content. -/
theorem Balanced.mem_cachedHandles_iff (hx : Balanced x) {h : UInt32} :
    h ∈ x.cachedHandles ↔ ∃ o, x.lookup? h = some o ∧ o.isCached = true := by
  rw [hx.toOrdered.mem_cachedHandles_iff]
  constructor
  · rintro ⟨tick, ht⟩
    obtain ⟨o, ho⟩ := hx.known ht
    exact ⟨o, ho, hx.cached ht ho⟩
  · rintro ⟨o, ho, hc⟩
    exact hx.ticked ho hc

/-- No content is longer than the bytes counted. -/
theorem Balanced.lengthAt_le (hx : Balanced x) (handle : UInt32) : x.lengthAt handle ≤ x.cachedBytes := by
  rw [hx.counted]
  exact lengthAt_le_heldBytes x handle

theorem sound_new (budget : Nat) : Sound { budget } where
  toLinked := linked_new budget
  cached ht := by cases ht
  counted := rfl
  solvent := rfl
  within := Nat.zero_le _

/-! ## Descriptions, new objects, touching -/

theorem SameBooks.accounted (h : SameBooks x y) (hx : Accounted x) : Accounted y where
  toLinked := h.linked hx.toLinked
  cached ht ho := by
    obtain ⟨o', ho', he⟩ := h.isCached_lookup? ho
    rw [h.ticks] at ht
    exact he.symm.trans (hx.cached ht ho')
  counted := by rw [h.cachedBytes, h.heldBytes, hx.counted]
  solvent := h.overdrawn.trans hx.solvent

theorem SameBooks.sound (h : SameBooks x y) (hb : y.budget = x.budget) (hx : Sound x) : Sound y where
  toAccounted := h.accounted hx.toAccounted
  within := by
    rw [h.cachedBytes, hb]
    exact hx.within

/-- A new object without content may take the place of one that is not cached. -/
theorem Balanced.insert (hx : Balanced x) {o : RemoteObject} (ho : o.isCached = false)
    (ht : x.ticks.get? o.handle = none) : Balanced (x.insert o).2 where
  toLinked := hx.toLinked.insert ho
  cached {h tick o'} hh hl := by
    have hne : h ≠ o.handle := by
      rintro rfl
      rw [show x.ticks.get? o.handle = some tick from hh] at ht
      cases ht
    rw [hx.lookup?_insert, if_neg hne] at hl
    exact hx.cached hh hl
  counted := by
    have hheld := hx.heldBytes_insert ho
    rw [hx.lengthAt_eq_zero ht] at hheld
    show x.cachedBytes = _
    rw [hx.counted]
    exact hheld.symm

theorem Sound.insert (hx : Sound x) {o : RemoteObject} (ho : o.isCached = false)
    (hf : x.find? o.handle = none) : Sound (x.insert o).2 where
  toBalanced := by
    refine hx.toBalanced.insert ho (Option.eq_none_iff_forall_ne_some.mpr fun tick ht => ?_)
    obtain ⟨o', ho'⟩ := hx.known ht
    rw [lookup?_eq_none_iff.mpr hf] at ho'
    cases ho'
  solvent := hx.solvent
  within := hx.within

theorem Sound.touch (hx : Sound x) (handle : UInt32) : Sound (x.touch handle) := by
  rcases touch_cases x handle with h | ⟨tick, ht, h⟩
  · rw [h]
    exact hx
  · rw [h]
    refine { toLinked := hx.toLinked.pushTick ht, cached := ?_, counted := ?_, solvent := ?_, within := ?_ }
    · intro h' tick' o ht' ho
      rw [lookup?_pushTick] at ho
      rw [ticks_pushTick] at ht'
      split at ht'
      · rename_i hh
        rw [hh] at ho
        exact hx.cached ht ho
      · exact hx.cached ht' ho
    · rw [cachedBytes_pushTick, heldBytes_congr fun h' => lookup?_pushTick x handle h']
      exact hx.counted
    · rw [overdrawn_pushTick]
      exact hx.solvent
    · rw [cachedBytes_pushTick, budget_pushTick]
      exact hx.within

/-! ## Dropping contents and objects -/

theorem Accounted.uncache (hx : Accounted x) (handle : UInt32) : Accounted (x.uncache handle).2 where
  toLinked := hx.toLinked.uncache handle
  cached {h tick o} ht ho := by
    rw [hx.ticks_uncache] at ht
    rw [hx.lookup?_uncache] at ho
    split at ht
    · cases ht
    · rename_i hh
      rw [if_neg hh] at ho
      exact hx.cached ht ho
  counted := by
    have hheld := hx.heldBytes_uncache handle
    rw [hx.cachedBytes_uncache, hx.counted]
    omega
  solvent := by
    have := hx.lengthAt_le handle
    rw [hx.overdrawn_uncache, hx.solvent]
    simpa using this

theorem Sound.uncache (hx : Sound x) (handle : UInt32) : Sound (x.uncache handle).2 where
  toAccounted := hx.toAccounted.uncache handle
  within := by
    rw [hx.cachedBytes_uncache, hx.budget_uncache]
    exact Nat.le_trans (Nat.sub_le _ _) hx.within

theorem Sound.uncacheAll (hx : Sound x) (hs : List UInt32) : Sound (x.uncacheAll hs).2 :=
  uncacheAll_induction (fun _ _ h => h.uncache _) hs x hx

theorem Accounted.remove (hx : Accounted x) (handle : UInt32) : Accounted (x.remove handle).2 where
  toLinked := hx.toLinked.remove handle
  cached {h tick o} ht ho := by
    rw [hx.ticks_remove] at ht
    rw [hx.lookup?_remove] at ho
    split at ht
    · cases ht
    · rename_i hh
      rw [if_neg hh] at ho
      exact hx.cached ht ho
  counted := by
    have hheld := hx.heldBytes_remove handle
    show (x.uncache handle).2.cachedBytes = _
    rw [hx.cachedBytes_uncache, hx.counted]
    omega
  solvent := (hx.uncache handle).solvent

theorem Sound.remove (hx : Sound x) (handle : UInt32) : Sound (x.remove handle).2 where
  toAccounted := hx.toAccounted.remove handle
  within := (hx.uncache handle).within

/-! ## Eviction -/

theorem Accounted.evict (hx : Accounted x) (keep : Option UInt32) : Accounted (x.evict keep).2 :=
  evictFrom_induction (fun _ _ h => h.uncache _) _ x hx

/-- Eviction ends within the budget if the content that stays fits in alone. -/
theorem Accounted.evict_le (hx : Accounted x) (keep : Option UInt32)
    (hk : ∀ h, keep = some h → x.lengthAt h ≤ x.budget) : (x.evict keep).2.cachedBytes ≤ x.budget := by
  have hy : Accounted (x.evict keep).2 := hx.evict keep
  rcases hx.evictFrom_le_or (x.cachedHandles.filter fun handle => some handle ≠ keep) with hle | hgone
  · exact hle
  -- every handle that is still cached is the one to keep
  have hrest : ∀ h, some h ≠ keep → (x.evict keep).2.ticks.get? h = none := by
    intro h hne
    refine Option.eq_none_iff_forall_ne_some.mpr fun tick ht => ?_
    have hmem : h ∈ x.cachedHandles :=
      hx.toOrdered.mem_cachedHandles_iff.mpr ⟨tick, hx.ticks_evictFrom _ ht⟩
    have hnone := hgone h (List.mem_filter.mpr ⟨hmem, by simpa using hne⟩)
    rw [show (x.evictFrom _).2.ticks.get? h = some tick from ht] at hnone
    cases hnone
  rw [hy.counted]
  cases keep with
  | none =>
    rw [heldBytes_eq_lengthAt 0 fun h' _ => hy.lengthAt_eq_zero (hrest h' (by simp)),
      hy.lengthAt_eq_zero (hrest 0 (by simp))]
    exact Nat.zero_le _
  | some h =>
    rw [heldBytes_eq_lengthAt h fun h' hne => hy.lengthAt_eq_zero (hrest h' (by simpa using hne))]
    have hsame : (x.evict (some h)).2.lookup? h = x.lookup? h := hx.lookup?_evictFrom (by simp)
    rw [lengthAt_congr hsame]
    exact hk h rfl

theorem Accounted.sound_evict (hx : Accounted x) (keep : Option UInt32)
    (hk : ∀ h, keep = some h → x.lengthAt h ≤ x.budget) : Sound (x.evict keep).2 where
  toAccounted := hx.evict keep
  within := by
    rw [show (x.evict keep).2.budget = x.budget from hx.budget_evictFrom _]
    exact hx.evict_le keep hk

theorem sameBooks_budget (x : Index) (budget : Nat) : SameBooks x { x with budget } :=
  ⟨rfl, rfl, rfl, rfl, rfl, rfl, rfl, fun _ => rfl, fun _ => rfl⟩

/-- Whatever the budget becomes, the index ends within it. -/
theorem Accounted.sound_setBudget (hx : Accounted x) (budget : Nat) : Sound (x.setBudget budget).2 :=
  ((sameBooks_budget x budget).accounted hx).sound_evict none fun h hn => by cases hn

theorem Linked.setBudget (hx : Linked x) (budget : Nat) : Linked (x.setBudget budget).2 :=
  ((sameBooks_budget x budget).linked hx).evictFrom _

/-! ## Putting a content in -/

theorem Accounted.place (hx : Accounted x) (hf : x.find? handle = some ref) (payload : Bytes) :
    Accounted (x.place handle ref payload) where
  toLinked := hx.toLinked.place payload hf
  cached {h tick o} ht ho := by
    rw [hx.lookup?_place payload hf] at ho
    rw [ticks_place] at ht
    split at ho
    · obtain ⟨o', -, rfl⟩ := Option.map_eq_some_iff.mp ho
      rfl
    · rename_i hh
      rw [if_neg hh] at ht
      exact hx.cached ht ho
  counted := by
    have hheld := hx.heldBytes_place hf payload
    have hle := hx.lengthAt_le handle
    rw [cachedBytes_place, hx.counted]
    rw [hx.counted] at hle
    omega
  solvent := by
    have := hx.lengthAt_le handle
    rw [overdrawn_place, hx.solvent]
    simpa using this

theorem Sound.insertCached (hx : Sound x) (handle : UInt32) {payload : Bytes} (hp : payload.length ≤ x.budget) :
    Sound (x.insertCached handle payload).2 := by
  cases hf : x.find? handle with
  | none =>
    rw [insertCached_of_find?_none hf]
    exact hx
  | some ref =>
    rw [insertCached_of_find? hf]
    refine (hx.toAccounted.place hf payload).sound_evict _ fun h hh => ?_
    cases hh
    have hl := hx.lookup?_place payload hf handle
    rw [if_pos rfl, lookup?_of_find? hf] at hl
    rw [lengthAt_of_lookup? hl, budget_place]
    exact hp

theorem Linked.insertCached (hx : Linked x) (handle : UInt32) (payload : Bytes) :
    Linked (x.insertCached handle payload).2 := by
  cases hf : x.find? handle with
  | none =>
    rw [insertCached_of_find?_none hf]
    exact hx
  | some ref =>
    rw [insertCached_of_find? hf]
    exact (hx.place payload hf).evictFrom _

/-! ## Clearing -/

theorem Linked.clear (hx : Linked x) : Linked x.clear.2 where
  ref_lt hf := by cases hf
  handle_eq hf := by cases hf
  toOrdered := (hx.uncacheAll x.cachedHandles).toOrdered.congr rfl rfl rfl
  known ht := by
    rw [hx.ticks_clear] at ht
    cases ht
  ticked ho := by cases ho

theorem Linked.cachedHandles_clear (hx : Linked x) : x.clear.2.cachedHandles = [] := by
  refine List.eq_nil_iff_forall_not_mem.mpr fun handle hm => ?_
  obtain ⟨tick, ht⟩ := hx.clear.toOrdered.mem_cachedHandles_iff.mp hm
  rw [hx.ticks_clear] at ht
  cases ht

theorem Sound.clear (hx : Sound x) : Sound x.clear.2 := by
  have hy := hx.uncacheAll x.cachedHandles
  have hzero : (x.uncacheAll x.cachedHandles).2.cachedBytes = 0 := hy.counted.trans hx.heldBytes_uncacheAll
  refine { toLinked := hx.toLinked.clear, cached := ?_, counted := ?_, solvent := hy.solvent, within := hy.within }
  · intro h tick o _ ho
    cases ho
  · exact hzero

end Tether.Index
