import Tether.Proofs.Cache.Linked

/-!
# Tether.Proofs.Cache.Eviction — dropping several contents and putting one in

`uncacheAll` empties the objects of some handles, `evictFrom` those of the first ones of them until the byte
count is within the budget; both concern no other handle.  `place` gives the object of a handle a content and
makes the handle the most recently used one: `insertCached` is this and an eviction of the others.
-/

namespace Tether.Index

variable {x y : Index} {handle : UInt32} {ref : ObjectRef}

/-! ## Dropping several contents -/

/-- What `uncache` keeps, `uncacheAll` keeps. -/
theorem uncacheAll_induction {P : Index → Prop} (hstep : ∀ x handle, P x → P (x.uncache handle).2) :
    ∀ (hs : List UInt32) (x : Index), P x → P (x.uncacheAll hs).2
  | [], _, h => h
  | handle :: rest, x, h => uncacheAll_induction hstep rest _ (hstep x handle h)

/-- What `uncache` keeps, `evictFrom` keeps. -/
theorem evictFrom_induction {P : Index → Prop} (hstep : ∀ x handle, P x → P (x.uncache handle).2) :
    ∀ (hs : List UInt32) (x : Index), P x → P (x.evictFrom hs).2
  | [], _, h => h
  | handle :: rest, x, h => by
    unfold evictFrom
    split
    · exact h
    · exact evictFrom_induction hstep rest _ (hstep x handle h)

theorem Linked.uncacheAll (hx : Linked x) (hs : List UInt32) : Linked (x.uncacheAll hs).2 :=
  uncacheAll_induction (fun _ _ h => h.uncache _) hs x hx

theorem Linked.evictFrom (hx : Linked x) (hs : List UInt32) : Linked (x.evictFrom hs).2 :=
  evictFrom_induction (fun _ _ h => h.uncache _) hs x hx

theorem Linked.budget_uncacheAll :
    ∀ {x : Index}, Linked x → ∀ hs : List UInt32, (x.uncacheAll hs).2.budget = x.budget
  | _, _, [] => rfl
  | _, hx, handle :: rest => ((hx.uncache handle).budget_uncacheAll rest).trans (hx.budget_uncache handle)

theorem Linked.budget_evictFrom : ∀ {x : Index}, Linked x →
    ∀ hs : List UInt32, (x.evictFrom hs).2.budget = x.budget
  | _, _, [] => rfl
  | x, hx, handle :: rest => by
    unfold Index.evictFrom
    split
    · rfl
    · exact ((hx.uncache handle).budget_evictFrom rest).trans (hx.budget_uncache handle)

theorem Linked.ticks_uncacheAll :
    ∀ {x : Index}, Linked x → ∀ (hs : List UInt32) (h : UInt32),
      (x.uncacheAll hs).2.ticks.get? h = if h ∈ hs then none else x.ticks.get? h
  | _, _, [], _ => by simp [Index.uncacheAll]
  | x, hx, handle :: rest, h => by
    show ((x.uncache handle).2.uncacheAll rest).2.ticks.get? h = _
    rw [(hx.uncache handle).ticks_uncacheAll rest h, hx.ticks_uncache]
    by_cases h₁ : h ∈ rest <;> by_cases h₂ : h = handle <;> simp [h₁, h₂]

/-- Afterwards the objects of these handles are empty, and no other is concerned. -/
theorem Linked.lookup?_uncacheAll :
    ∀ {x : Index}, Linked x → ∀ (hs : List UInt32) (h : UInt32),
      (x.uncacheAll hs).2.lookup? h = if h ∈ hs then (x.lookup? h).map RemoteObject.emptied else x.lookup? h
  | _, _, [], _ => by simp [Index.uncacheAll]
  | x, hx, handle :: rest, h => by
    show ((x.uncache handle).2.uncacheAll rest).2.lookup? h = _
    rw [(hx.uncache handle).lookup?_uncacheAll rest h, hx.lookup?_uncache]
    have hidem : (fun o : RemoteObject => o.emptied.emptied) = RemoteObject.emptied := rfl
    by_cases h₁ : h ∈ rest <;> by_cases h₂ : h = handle <;> simp [h₁, h₂, Function.comp_def, hidem]

/-- Eviction caches nothing. -/
theorem Linked.ticks_evictFrom :
    ∀ {x : Index}, Linked x → ∀ (hs : List UInt32) {h : UInt32} {tick : Nat},
      (x.evictFrom hs).2.ticks.get? h = some tick → x.ticks.get? h = some tick
  | _, _, [], _, _, ht => ht
  | x, hx, handle :: rest, h, tick, ht => by
    unfold Index.evictFrom at ht
    split at ht
    · exact ht
    · have ht' := (hx.uncache handle).ticks_evictFrom rest ht
      rw [hx.ticks_uncache] at ht'
      split at ht'
      · cases ht'
      · exact ht'

/-- Eviction leaves handles alone that it was not given. -/
theorem Linked.lookup?_evictFrom :
    ∀ {x : Index}, Linked x → ∀ {hs : List UInt32} {h : UInt32}, h ∉ hs →
      (x.evictFrom hs).2.lookup? h = x.lookup? h
  | _, _, [], _, _ => rfl
  | x, hx, handle :: rest, h, hn => by
    rw [List.mem_cons, not_or] at hn
    unfold Index.evictFrom
    split
    · rfl
    · refine ((hx.uncache handle).lookup?_evictFrom hn.2).trans ?_
      rw [hx.lookup?_uncache, if_neg hn.1]

/-- Eviction ends within the budget, or nothing is left to drop. -/
theorem Linked.evictFrom_le_or :
    ∀ {x : Index}, Linked x → ∀ hs : List UInt32,
      (x.evictFrom hs).2.cachedBytes ≤ x.budget ∨ ∀ h ∈ hs, (x.evictFrom hs).2.ticks.get? h = none
  | _, _, [] => .inr fun _ h => by cases h
  | x, hx, handle :: rest => by
    unfold Index.evictFrom
    split
    · rename_i hle
      exact .inl hle
    · show ((x.uncache handle).2.evictFrom rest).2.cachedBytes ≤ _ ∨ _
      rcases (hx.uncache handle).evictFrom_le_or rest with h | h
      · rw [hx.budget_uncache] at h
        exact .inl h
      · refine .inr fun h' hm => ?_
        rcases List.mem_cons.mp hm with rfl | hm
        · -- the first handle went before the others, and none of them caches it again
          rw [Option.eq_none_iff_forall_ne_some]
          intro tick ht
          have := (hx.uncache h').ticks_evictFrom rest ht
          rw [hx.ticks_uncache, if_pos rfl] at this
          cases this
        · exact h h' hm

/-! ## Putting a content in -/

/-- The index with a content for the object of a handle, before other contents have to go. -/
def place (x : Index) (handle : UInt32) (ref : ObjectRef) (payload : Bytes) : Index :=
  let filled := (x.takePayload handle).2.modify ref fun o => { o with payload := some payload }
  { filled with cachedBytes := filled.cachedBytes + payload.length }.pushTick handle

theorem insertCached_of_find? (h : x.find? handle = some ref) (payload : Bytes) :
    x.insertCached handle payload =
      ((true, (x.takePayload handle).1.toList ++ ((x.place handle ref payload).evict (some handle)).1),
        ((x.place handle ref payload).evict (some handle)).2) := by
  unfold insertCached place
  rw [h]

theorem insertCached_of_find?_none (h : x.find? handle = none) (payload : Bytes) :
    x.insertCached handle payload = ((false, []), x) := by
  unfold insertCached
  rw [h]

section Place

variable (payload : Bytes)

theorem budget_place : (x.place handle ref payload).budget = x.budget := by
  unfold place
  rw [budget_pushTick]
  exact budget_takePayload x handle

theorem ticks_place (h : UInt32) :
    (x.place handle ref payload).ticks.get? h = if h = handle then some (x.lastTick + 1) else x.ticks.get? h := by
  unfold place
  rw [ticks_pushTick]
  show (if h = handle then some ((x.takePayload handle).2.lastTick + 1)
    else (x.takePayload handle).2.ticks.get? h) = _
  rw [lastTick_takePayload, ticks_takePayload]

theorem cachedBytes_place :
    (x.place handle ref payload).cachedBytes = x.cachedBytes - x.lengthAt handle + payload.length := by
  unfold place
  rw [cachedBytes_pushTick]
  exact congrArg (· + payload.length) (cachedBytes_takePayload x handle)

theorem overdrawn_place :
    (x.place handle ref payload).overdrawn = (x.overdrawn || decide (x.cachedBytes < x.lengthAt handle)) := by
  unfold place
  rw [overdrawn_pushTick]
  exact overdrawn_takePayload x handle

theorem Linked.rooted_filled (hx : Linked x) (handle : UInt32) (ref : ObjectRef) :
    Rooted ((x.takePayload handle).2.modify ref fun o => { o with payload := some payload }) := by
  obtain ⟨hs, hh⟩ := objects_takePayload x handle
  refine hx.toRooted.of_same_tree (tree_takePayload x handle) (Array.size_modify.trans hs) fun ref' => ?_
  rw [object_modify]
  split
  · rename_i h
    rw [h.1]
    exact hh ref
  · exact hh ref'

variable (hx : Linked x) (hf : x.find? handle = some ref)
include hx hf

theorem Linked.lookup?_place (h : UInt32) :
    (x.place handle ref payload).lookup? h =
      if h = handle then (x.lookup? h).map fun o => { o with payload := some payload } else x.lookup? h := by
  obtain ⟨hs, hh⟩ := objects_takePayload x handle
  have hr : Rooted (x.takePayload handle).2 := hx.toRooted.of_same_tree (tree_takePayload x handle) hs hh
  have hf' : (x.takePayload handle).2.find? handle = some ref := by
    rw [← hf]
    unfold find?
    rw [tree_takePayload]
  have hm := hr.lookup?_modify hf' (fun o => { o with payload := some payload }) h
  unfold place
  rw [lookup?_pushTick]
  refine hm.trans ?_
  rw [hx.lookup?_takePayload]
  split
  · rw [Option.map_map]
    rfl
  · rfl

theorem Linked.place : Linked (x.place handle ref payload) where
  toRooted := by
    have hr := hx.rooted_filled payload handle ref
    refine hr.of_same_tree (tree_pushTick _ _) (congrArg Array.size (objects_pushTick _ _)) fun ref' => ?_
    unfold Index.place object
    rw [objects_pushTick]
  toOrdered := by
    refine Ordered.pushTick (hx.toOrdered.congr ?_ ?_ ?_) handle
    · exact recency_takePayload x handle
    · exact ticks_takePayload x handle
    · exact lastTick_takePayload x handle
  known {h tick} ht := by
    rw [hx.lookup?_place payload hf]
    rw [ticks_place] at ht
    split
    · rename_i hh
      rw [hh, lookup?_of_find? hf]
      exact ⟨_, rfl⟩
    · rename_i hh
      rw [if_neg hh] at ht
      exact hx.known ht
  ticked {h o} ho hc := by
    rw [hx.lookup?_place payload hf] at ho
    rw [ticks_place]
    split
    · exact ⟨_, rfl⟩
    · rename_i hh
      rw [if_neg hh] at ho
      exact hx.ticked ho hc

end Place

/-! ## Touching -/

theorem Linked.pushTick (hx : Linked x) {tick : Nat} (ht : x.ticks.get? handle = some tick) :
    Linked (x.pushTick handle) where
  toRooted := by
    refine hx.toRooted.of_same_tree (tree_pushTick _ _) (congrArg Array.size (objects_pushTick _ _)) fun ref => ?_
    unfold object
    rw [objects_pushTick]
  toOrdered := hx.toOrdered.pushTick handle
  known {h tick'} ht' := by
    rw [lookup?_pushTick]
    rw [ticks_pushTick] at ht'
    split at ht'
    · rename_i hh
      rw [hh]
      exact hx.known ht
    · exact hx.known ht'
  ticked {h o} ho hc := by
    rw [lookup?_pushTick] at ho
    rw [ticks_pushTick]
    split
    · exact ⟨_, rfl⟩
    · exact hx.ticked ho hc

/-- A touched handle is cached exactly when it was. -/
theorem touch_cases (x : Index) (handle : UInt32) :
    (x.touch handle = x) ∨ (∃ tick, x.ticks.get? handle = some tick ∧ x.touch handle = x.pushTick handle) := by
  unfold touch
  split
  · rename_i h
    obtain ⟨tick, ht⟩ := OrderedMap.contains_iff.mp h
    exact .inr ⟨tick, ht, rfl⟩
  · exact .inl rfl

theorem Linked.touch (hx : Linked x) (handle : UInt32) : Linked (x.touch handle) := by
  rcases touch_cases x handle with h | ⟨tick, ht, h⟩
  · rw [h]
    exact hx
  · rw [h]
    exact hx.pushTick ht

/-- A cached handle that is touched comes last in the order of use, behind the others in their order. -/
theorem Linked.cachedHandles_touch (hx : Linked x) {o : RemoteObject} (ho : x.lookup? handle = some o)
    (hc : o.isCached = true) :
    (x.touch handle).cachedHandles = x.cachedHandles.filter (· ≠ handle) ++ [handle] := by
  obtain ⟨tick, ht⟩ := hx.ticked ho hc
  unfold Index.touch
  rw [if_pos (OrderedMap.contains_iff.mpr ⟨tick, ht⟩)]
  exact hx.cachedHandles_pushTick handle

end Tether.Index
