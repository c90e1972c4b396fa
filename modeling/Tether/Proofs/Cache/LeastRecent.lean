import Mathlib.Logic.Function.Basic
import Tether.Proofs.Cache.Check

/-!
# Tether.Proofs.Cache.LeastRecent — the least recently used contents go first

What an eviction keeps of the order of use is the longest suffix whose contents are within the budget
(`Accounted.evictedTo_evictFrom`); the rest goes, in order, and nothing else changes.  `insertCached` and
`setBudget` are evictions from the contents and the order of use that they set up.

Eviction was defined over the order of use as it stands before; here it is also seen as a loop that looks for the
next content to go in every round (`evictRound`).  The loop ends, and it ends where `evict` does.
-/

namespace Tether.Index

variable {x y z : Index} {handle : UInt32} {ref : ObjectRef} {held : UInt32 → Option Bytes} {budget : Nat}
  {order kept : List UInt32} {released : List Bytes}

/-! ## Contents behind handles -/

/-- The content of the object of a handle. -/
def payloadAt (x : Index) (handle : UInt32) : Option Bytes :=
  (x.lookup? handle).bind RemoteObject.payload

/-- The length of a content, where there is one. -/
def heldLength (held : UInt32 → Option Bytes) (handle : UInt32) : Nat :=
  ((held handle).map List.length).getD 0

theorem lengthAt_eq_heldLength (x : Index) : x.lengthAt = heldLength x.payloadAt := by
  funext handle
  unfold lengthAt heldLength payloadAt
  cases x.lookup? handle <;> rfl

theorem Linked.payloadAt_of_not_cached (hx : Linked x) (hn : handle ∉ x.cachedHandles) :
    x.payloadAt handle = none := by
  unfold payloadAt
  cases ho : x.lookup? handle with
  | none => rfl
  | some o =>
    refine Option.eq_none_iff_forall_ne_some.mpr fun payload hp => hn ?_
    refine hx.toOrdered.mem_cachedHandles_iff.mpr (hx.ticked ho ?_)
    show o.payload.isSome = true
    rw [show o.payload = some payload from hp]
    rfl

theorem Balanced.payloadAt_of_cached (hx : Balanced x) (hc : handle ∈ x.cachedHandles) :
    ∃ payload, x.payloadAt handle = some payload := by
  obtain ⟨o, ho, hsome⟩ := hx.mem_cachedHandles_iff.mp hc
  obtain ⟨payload, hp⟩ := Option.isSome_iff_exists.mp hsome
  exact ⟨payload, by rw [payloadAt, ho, Option.bind_some, hp]⟩

theorem Linked.payloadAt_uncache (hx : Linked x) (handle h : UInt32) :
    (x.uncache handle).2.payloadAt h = if h = handle then none else x.payloadAt h := by
  unfold payloadAt
  rw [hx.lookup?_uncache]
  split
  · cases x.lookup? h <;> rfl
  · rfl

theorem takePayload_fst (x : Index) (handle : UInt32) : (x.takePayload handle).1 = x.payloadAt handle := by
  unfold takePayload payloadAt
  cases hf : x.find? handle with
  | none => simp [lookup?_eq_none_iff.mpr hf]
  | some ref =>
    rw [lookup?_of_find? hf, Option.bind_some]
    cases hp : (x.object ref).payload <;> simp [hp]

theorem Linked.uncache_fst (hx : Linked x) (handle : UInt32) : (x.uncache handle).1 = x.payloadAt handle := by
  rw [hx.uncache_eq, takePayload_fst, payloadAt, lookup?_dropTick, payloadAt]

theorem Linked.payloadAt_place (hx : Linked x) (hf : x.find? handle = some ref) (payload : Bytes) :
    (x.place handle ref payload).payloadAt = Function.update x.payloadAt handle (some payload) := by
  funext h
  unfold payloadAt
  rw [hx.lookup?_place payload hf, Function.update_apply]
  split
  · rename_i hh
    rw [hh, lookup?_of_find? hf]
    rfl
  · rfl

/-! ## The order of use -/

theorem Ordered.nodup_cachedHandles (hx : Ordered x) : x.cachedHandles.Nodup :=
  hx.cachedHandles_perm.nodup_iff.mpr x.ticks.nodup_keys

theorem Linked.cachedHandles_uncache (hx : Linked x) (handle : UInt32) :
    (x.uncache handle).2.cachedHandles = x.cachedHandles.filter (· ≠ handle) := by
  rw [hx.uncache_eq]
  unfold Index.cachedHandles
  rw [recency_takePayload]
  exact hx.toOrdered.cachedHandles_dropTick handle

/-- The least recently used handle goes from the front of the order of use. -/
theorem Linked.cachedHandles_uncache_head (hx : Linked x) {later : List UInt32}
    (ho : x.cachedHandles = handle :: later) : (x.uncache handle).2.cachedHandles = later := by
  have hnodup := hx.toOrdered.nodup_cachedHandles
  rw [ho, List.nodup_cons] at hnodup
  rw [hx.cachedHandles_uncache, ho, List.filter_cons_of_neg (by simp)]
  refine List.filter_eq_self.mpr fun h hm => decide_eq_true ?_
  rintro rfl
  exact hnodup.1 hm

theorem Linked.cachedHandles_place (hx : Linked x) (handle : UInt32) (ref : ObjectRef) (payload : Bytes) :
    (x.place handle ref payload).cachedHandles = x.cachedHandles.filter (· ≠ handle) ++ [handle] := by
  refine (Ordered.cachedHandles_pushTick (hx.toOrdered.congr ?_ ?_ ?_) handle).trans ?_
  · exact recency_takePayload x handle
  · exact ticks_takePayload x handle
  · exact lastTick_takePayload x handle
  · unfold Index.cachedHandles
    rw [show ((x.takePayload handle).2.modify ref fun o => { o with payload := some payload }).recency =
      x.recency from
      recency_takePayload x handle]

/-- The byte count of a balanced index is what the contents in the order of use add up to. -/
theorem Balanced.cachedBytes_eq_sum (hx : Balanced x) :
    x.cachedBytes = (x.cachedHandles.map (heldLength x.payloadAt)).sum := by
  rw [hx.counted, ← hx.sum_cachedHandles, lengthAt_eq_heldLength]

/-! ## What an eviction leaves -/

/-- `kept` is the longest suffix of `order` whose contents add up to at most `budget`. -/
structure LongestWithin (held : UInt32 → Option Bytes) (budget : Nat) (order kept : List UInt32) : Prop where
  suffix : kept <:+ order
  within : (kept.map (heldLength held)).sum ≤ budget
  longest : ∀ {other}, other <:+ order → (other.map (heldLength held)).sum ≤ budget → other <:+ kept

/-- `y` is left of an eviction from the contents `held`, used in `order`: the contents of the longest suffix
within the budget stay, and those before it went, in order, as `released`. -/
structure EvictedTo (held : UInt32 → Option Bytes) (order : List UInt32) (released : List Bytes)
    (y : Index) : Prop where
  kept : LongestWithin held y.budget order y.cachedHandles
  released : ∃ gone, order = gone ++ y.cachedHandles ∧ released.map some = gone.map held
  payloadAt : ∀ h, y.payloadAt h = if h ∈ y.cachedHandles then held h else none

/-- Both indexes have the same objects behind the same handles, but for the contents. -/
structure SameEntries (x y : Index) : Prop where
  tree : y.tree = x.tree
  size : y.objects.size = x.objects.size
  object : ∀ ref, (y.object ref).emptied = (x.object ref).emptied

/-- A list within the budget is its own longest such suffix. -/
theorem longestWithin_self (h : (order.map (heldLength held)).sum ≤ budget) :
    LongestWithin held budget order order where
  suffix := List.suffix_refl order
  within := h
  longest ho _ := ho

/-- One content more in front makes no difference where all contents together are too long. -/
theorem LongestWithin.cons (h : LongestWithin held budget order kept)
    (hover : budget < ((handle :: order).map (heldLength held)).sum) :
    LongestWithin held budget (handle :: order) kept where
  suffix := h.suffix.trans (List.suffix_cons handle order)
  within := h.within
  longest ho hle := by
    rcases List.suffix_cons_iff.mp ho with rfl | ho
    · exact absurd hle (Nat.not_le.mpr hover)
    · exact h.longest ho hle

/-- Only the contents in the order of use count. -/
theorem LongestWithin.congr {held' : UInt32 → Option Bytes} (h : LongestWithin held budget order kept)
    (he : ∀ h ∈ order, held' h = held h) : LongestWithin held' budget order kept := by
  have hsum : ∀ {other : List UInt32}, other <:+ order →
      (other.map (heldLength held')).sum = (other.map (heldLength held)).sum := by
    intro other ho
    refine congrArg List.sum (List.map_congr_left fun h hm => ?_)
    unfold heldLength
    rw [he h (ho.subset hm)]
  refine ⟨h.suffix, ?_, fun ho hle => h.longest ho ?_⟩
  · rw [hsum h.suffix]
    exact h.within
  · rwa [← hsum ho]

/-- Nothing goes from an index within its budget. -/
theorem Balanced.evictedTo_self (hx : Balanced x) (hle : x.cachedBytes ≤ x.budget) :
    EvictedTo x.payloadAt x.cachedHandles [] x where
  kept := longestWithin_self (hx.cachedBytes_eq_sum ▸ hle)
  released := ⟨[], rfl, rfl⟩
  payloadAt h := by
    split
    · rfl
    · rename_i hn
      exact hx.payloadAt_of_not_cached hn

/-- Above the budget the least recently used content goes, and eviction goes on from there. -/
theorem Balanced.evictedTo_uncache (hx : Balanced x) {later : List UInt32} (ho : x.cachedHandles = handle :: later)
    (hover : x.budget < x.cachedBytes) (hb : z.budget = x.budget)
    (hz : EvictedTo (x.uncache handle).2.payloadAt later released z) :
    EvictedTo x.payloadAt x.cachedHandles ((x.uncache handle).1.toList ++ released) z := by
  have hnodup := hx.toOrdered.nodup_cachedHandles
  rw [ho, List.nodup_cons] at hnodup
  have hsame : ∀ h ∈ later, x.payloadAt h = (x.uncache handle).2.payloadAt h := by
    intro h hm
    rw [hx.payloadAt_uncache, if_neg]
    rintro rfl
    exact hnodup.1 hm
  have hcached : handle ∈ x.cachedHandles := ho ▸ List.mem_cons_self
  obtain ⟨payload, hp⟩ := hx.payloadAt_of_cached hcached
  obtain ⟨gone, hgone, hreleased⟩ := hz.released
  refine ⟨?_, ⟨handle :: gone, ?_, ?_⟩, fun h => ?_⟩
  · rw [ho]
    refine (hz.kept.congr hsame).cons ?_
    rw [hb, ← ho, ← hx.cachedBytes_eq_sum]
    exact hover
  · rw [ho, hgone, List.cons_append]
  · rw [hx.uncache_fst, hp, Option.toList_some, List.singleton_append, List.map_cons, List.map_cons, hp, hreleased]
    refine congrArg (some payload :: ·) (List.map_congr_left fun h hm => (hsame h ?_).symm)
    rw [hgone]
    exact List.mem_append_left _ hm
  · rw [hz.payloadAt]
    split
    · rename_i hm
      exact (hsame h (hz.kept.suffix.subset hm)).symm
    · rfl

/-- Eviction over the front of the order of use ends in the longest suffix within the budget, where the rest of
the order is within it.  By induction on the front. -/
theorem Accounted.evictedTo_evictFrom :
    ∀ {x : Index}, Accounted x → ∀ {front rest : List UInt32}, x.cachedHandles = front ++ rest →
      (rest.map (heldLength x.payloadAt)).sum ≤ x.budget →
      EvictedTo x.payloadAt x.cachedHandles (x.evictFrom front).1 (x.evictFrom front).2
  | x, hx, [], rest, ho, hrest => hx.evictedTo_self (by rwa [hx.cachedBytes_eq_sum, ho])
  | x, hx, handle :: front, rest, ho, hrest => by
    by_cases hle : x.cachedBytes ≤ x.budget
    · rw [show x.evictFrom (handle :: front) = ([], x) from if_pos hle]
      exact hx.evictedTo_self hle
    · rw [show x.evictFrom (handle :: front) =
        ((x.uncache handle).1.toList ++ ((x.uncache handle).2.evictFrom front).1,
          ((x.uncache handle).2.evictFrom front).2)
        from if_neg hle]
      have hy := hx.uncache handle
      have hlater : (x.uncache handle).2.cachedHandles = front ++ rest := hx.cachedHandles_uncache_head ho
      have hnodup := hx.toOrdered.nodup_cachedHandles
      rw [ho, List.cons_append, List.nodup_cons] at hnodup
      have hsame : rest.map (heldLength (x.uncache handle).2.payloadAt) = rest.map (heldLength x.payloadAt) := by
        refine List.map_congr_left fun h hm => ?_
        unfold heldLength
        rw [hx.payloadAt_uncache, if_neg]
        rintro rfl
        exact hnodup.1 (List.mem_append_right _ hm)
      have hz := hy.evictedTo_evictFrom hlater (by rwa [hsame, hx.budget_uncache])
      rw [hlater] at hz
      refine hx.evictedTo_uncache ho (Nat.not_le.mp hle) ?_ hz
      rw [hy.budget_evictFrom, hx.budget_uncache]

/-! ## Evictions by a new budget and by a new content -/

theorem SameEntries.trans (h : SameEntries x y) (h' : SameEntries y z) : SameEntries x z :=
  ⟨h'.tree.trans h.tree, h'.size.trans h.size, fun ref => (h'.object ref).trans (h.object ref)⟩

theorem sameEntries_modify (x : Index) (ref : ObjectRef) (payload : Option Bytes) :
    SameEntries x (x.modify ref fun o => { o with payload }) where
  tree := rfl
  size := Array.size_modify
  object ref' := by
    rw [object_modify]
    split
    · rename_i h
      rw [h.1]
      rfl
    · rfl

theorem sameEntries_of_objects (ht : y.tree = x.tree) (ho : y.objects = x.objects) : SameEntries x y := by
  refine ⟨ht, congrArg Array.size ho, fun ref => ?_⟩
  unfold object
  rw [ho]

theorem sameEntries_takePayload (x : Index) (handle : UInt32) : SameEntries x (x.takePayload handle).2 := by
  unfold takePayload
  split
  · exact sameEntries_of_objects rfl rfl
  · split
    · exact sameEntries_of_objects rfl rfl
    · exact (sameEntries_modify x _ none).trans (sameEntries_of_objects rfl rfl)

theorem sameEntries_uncache (x : Index) (handle : UInt32) : SameEntries x (x.uncache handle).2 := by
  unfold uncache
  split
  · have hdropped := sameEntries_of_objects (tree_dropTick x handle) (objects_dropTick x handle)
    exact hdropped.trans (sameEntries_takePayload _ handle)
  · exact sameEntries_of_objects rfl rfl

theorem sameEntries_evict (x : Index) (keep : Option UInt32) : SameEntries x (x.evict keep).2 :=
  evictFrom_induction (P := SameEntries x) (fun _ handle h => h.trans (sameEntries_uncache _ handle)) _ x
    (sameEntries_of_objects rfl rfl)

theorem sameEntries_place (x : Index) (handle : UInt32) (ref : ObjectRef) (payload : Bytes) :
    SameEntries x (x.place handle ref payload) := by
  refine ((sameEntries_takePayload x handle).trans (sameEntries_modify _ ref (some payload))).trans ?_
  exact sameEntries_of_objects (tree_pushTick _ handle) (objects_pushTick _ handle)

theorem Accounted.evictedTo_setBudget (hx : Accounted x) (budget : Nat) :
    EvictedTo x.payloadAt x.cachedHandles (x.setBudget budget).1 (x.setBudget budget).2 := by
  have hrated : Accounted { x with budget } := (sameBooks_budget x budget).accounted hx
  have hall : (x.cachedHandles.filter fun h => some h ≠ none) = x.cachedHandles :=
    List.filter_eq_self.mpr fun h _ => decide_eq_true (Option.some_ne_none h)
  have hev := hrated.evictedTo_evictFrom (List.append_nil x.cachedHandles).symm (Nat.zero_le _)
  unfold Index.setBudget Index.evict
  rw [show ({ x with budget } : Index).cachedHandles = x.cachedHandles from rfl, hall]
  exact hev

theorem Accounted.evictedTo_place (hx : Accounted x) (hf : x.find? handle = some ref) {payload : Bytes}
    (hp : payload.length ≤ x.budget) :
    EvictedTo (Function.update x.payloadAt handle (some payload)) (x.cachedHandles.filter (· ≠ handle) ++ [handle])
      ((x.place handle ref payload).evict (some handle)).1
        ((x.place handle ref payload).evict (some handle)).2 := by
  have horder := hx.toLinked.cachedHandles_place handle ref payload
  have hothers : ((x.place handle ref payload).cachedHandles.filter fun h => some h ≠ some handle) =
      x.cachedHandles.filter (· ≠ handle) := by
    rw [horder, List.filter_append, List.filter_cons_of_neg (by simp), List.filter_nil, List.append_nil]
    refine List.filter_eq_self.mpr fun h hm => ?_
    simpa using (List.mem_filter.mp hm).2
  have hlast : (([handle] : List UInt32).map (heldLength (x.place handle ref payload).payloadAt)).sum ≤
      (x.place handle ref payload).budget := by
    rw [hx.toLinked.payloadAt_place hf, budget_place]
    simpa [heldLength] using hp
  have hev := (hx.place hf payload).evictedTo_evictFrom horder hlast
  rw [hx.toLinked.payloadAt_place hf, horder] at hev
  unfold Index.evict
  rw [hothers]
  exact hev

/-- What fits alone and was used last stays. -/
theorem EvictedTo.last_mem (h : EvictedTo held (order ++ [handle]) released y)
    (hle : heldLength held handle ≤ y.budget) :
    handle ∈ y.cachedHandles :=
  (h.kept.longest (List.suffix_append order [handle]) (by simpa using hle)).subset List.mem_cons_self

/-! ## Eviction as a loop -/

/-- A round of eviction: nothing more to do within the budget or without a content but that of `keep`, and else
the least recently used of the others goes. -/
def evictRound (keep : Option UInt32) (x : Index) : Option (Option Bytes × Index) :=
  if x.cachedBytes ≤ x.budget then none
  else (x.cachedHandles.find? fun handle => some handle ≠ keep).map x.uncache

/-- Rounds of eviction up to one without anything to do, and the contents that go in them. -/
inductive EvictLoop (keep : Option UInt32) : Index → List Bytes → Index → Prop
  | done {x : Index} : x.evictRound keep = none → EvictLoop keep x [] x
  | round {x y z : Index} {payload : Option Bytes} {released : List Bytes} :
      x.evictRound keep = some (payload, y) → EvictLoop keep y released z →
        EvictLoop keep x (payload.toList ++ released) z

/-- The loop ends in one way at most. -/
theorem EvictLoop.unique {keep : Option UInt32} {released' : List Bytes} (h : EvictLoop keep x released y) :
    EvictLoop keep x released' z → released = released' ∧ y = z := by
  induction h generalizing released' with
  | done hx =>
    rintro (_ | ⟨hr, -⟩)
    · exact ⟨rfl, rfl⟩
    · rw [hx] at hr
      cases hr
  | round hx _ ih =>
    rintro (hn | ⟨hr, hrest⟩)
    · rw [hx] at hn
      cases hn
    · rw [hx] at hr
      cases hr
      obtain ⟨rfl, rfl⟩ := ih hrest
      exact ⟨rfl, rfl⟩

/-- The loop over the handles that may go ends as the eviction over them does.  By induction on these handles, of
which every round takes the first. -/
theorem Linked.evictLoop_evictFrom {keep : Option UInt32} :
    ∀ {x : Index}, Linked x → ∀ {front : List UInt32}, (x.cachedHandles.filter fun h => some h ≠ keep) = front →
      EvictLoop keep x (x.evictFrom front).1 (x.evictFrom front).2
  | x, _, [], hfront => by
    refine .done ?_
    unfold evictRound
    rw [← List.head?_filter, hfront]
    split <;> rfl
  | x, hx, handle :: front, hfront => by
    by_cases hle : x.cachedBytes ≤ x.budget
    · rw [show x.evictFrom (handle :: front) = ([], x) from if_pos hle]
      exact .done (if_pos hle)
    · rw [show x.evictFrom (handle :: front) =
        ((x.uncache handle).1.toList ++ ((x.uncache handle).2.evictFrom front).1,
          ((x.uncache handle).2.evictFrom front).2)
        from if_neg hle]
      have hround : x.evictRound keep = some (x.uncache handle) := by
        unfold evictRound
        rw [if_neg hle, ← List.head?_filter, hfront]
        rfl
      have hnodup := hx.toOrdered.nodup_cachedHandles.filter fun h => decide (some h ≠ keep)
      rw [hfront, List.nodup_cons] at hnodup
      have hlater : ((x.uncache handle).2.cachedHandles.filter fun h => some h ≠ keep) = front := by
        rw [hx.cachedHandles_uncache, List.filter_comm, hfront, List.filter_cons_of_neg (by simp)]
        refine List.filter_eq_self.mpr fun h hm => decide_eq_true ?_
        rintro rfl
        exact hnodup.1 hm
      exact .round hround ((hx.uncache handle).evictLoop_evictFrom hlater)

theorem Linked.evictLoop_iff (hx : Linked x) (keep : Option UInt32) :
    EvictLoop keep x released y ↔ x.evict keep = (released, y) := by
  have hends : EvictLoop keep x (x.evict keep).1 (x.evict keep).2 := hx.evictLoop_evictFrom rfl
  constructor
  · intro h
    obtain ⟨hr, hy⟩ := h.unique hends
    rw [hr, hy]
  · intro h
    rwa [h] at hends

/-! ## Least recently used first -/

theorem Linked.touch_of_not_cached (hx : Linked x) (hn : handle ∉ x.cachedHandles) : x.touch handle = x := by
  rcases touch_cases x handle with h | ⟨tick, ht, -⟩
  · exact h
  · exact absurd (hx.toOrdered.mem_cachedHandles_iff.mpr ⟨tick, ht⟩) hn

/-- Eviction takes the least recently used contents and no more of them than the budget asks for: after a new
content came, which is the most recently used one, and after a change of the budget.  Being used puts a cached
handle last.  The loop of eviction ends, always in the same way. -/
theorem least_recently_used_evicted (hx : Accounted x) :
    (∀ handle payload, x.find? handle ≠ none → payload.length ≤ x.budget →
      ∃ released y, x.insertCached handle payload = ((true, (x.payloadAt handle).toList ++ released), y) ∧
        EvictedTo (Function.update x.payloadAt handle (some payload))
          (x.cachedHandles.filter (· ≠ handle) ++ [handle])
          released y ∧
        y.payloadAt handle = some payload ∧ SameEntries x y ∧ y.budget = x.budget) ∧
    (∀ budget, ∃ released y, x.setBudget budget = (released, y) ∧
      EvictedTo x.payloadAt x.cachedHandles released y ∧ SameEntries x y ∧ y.budget = budget) ∧
    (∀ handle, (handle ∈ x.cachedHandles →
        (x.touch handle).cachedHandles = x.cachedHandles.filter (· ≠ handle) ++ [handle] ∧
          (x.touch handle).tree = x.tree ∧ (x.touch handle).objects = x.objects ∧
          (x.touch handle).cachedBytes = x.cachedBytes ∧ (x.touch handle).budget = x.budget) ∧
      (handle ∉ x.cachedHandles → x.touch handle = x)) ∧
    ∀ keep released y, EvictLoop keep x released y ↔ x.evict keep = (released, y) := by
  refine ⟨fun handle payload hf hp => ?_, fun budget => ?_, fun handle => ⟨fun hc => ?_, hx.touch_of_not_cached⟩,
    fun keep _ _ => hx.evictLoop_iff keep⟩
  · obtain ⟨ref, hf⟩ := Option.ne_none_iff_exists'.mp hf
    have hev := hx.evictedTo_place hf hp
    have hbudget : ((x.place handle ref payload).evict (some handle)).2.budget = x.budget := by
      have hplaced : (x.place handle ref payload).budget = x.budget := budget_place payload
      rw [← hplaced]
      exact (hx.toLinked.place payload hf).budget_evictFrom _
    refine ⟨_, _, ?_, hev, ?_, ?_, hbudget⟩
    · rw [insertCached_of_find? hf, takePayload_fst]
    · have hlast := hev.last_mem (by rw [hbudget]; simpa [heldLength] using hp)
      rw [hev.payloadAt, if_pos hlast, Function.update_self]
    · exact (sameEntries_place x handle ref payload).trans (sameEntries_evict _ _)
  · refine ⟨_, _, rfl, hx.evictedTo_setBudget budget, ?_, ?_⟩
    · exact (sameEntries_of_objects rfl rfl : SameEntries x { x with budget }).trans (sameEntries_evict _ none)
    · exact ((sameBooks_budget x budget).linked hx.toLinked).budget_evictFrom _
  · obtain ⟨o, ho, hcached⟩ := hx.mem_cachedHandles_iff.mp hc
    obtain ⟨tick, ht⟩ := hx.toOrdered.mem_cachedHandles_iff.mp hc
    refine ⟨hx.cachedHandles_touch ho hcached, ?_⟩
    unfold Index.touch
    rw [if_pos (OrderedMap.contains_iff.mpr ⟨tick, ht⟩)]
    exact ⟨tree_pushTick x handle, objects_pushTick x handle, cachedBytes_pushTick x handle,
      budget_pushTick x handle⟩

/-- Three objects, with contents of ten, no and twelve bytes, of which the budget leaves three more bytes. -/
def threeContents : Index :=
  let described : Index := [1, 2, 3].foldl (fun x handle => (x.insert { handle, metadata := default }).2)
    { budget := 25 }
  [(1, List.replicate 10 1), (2, []), (3, List.replicate 12 3)].foldl
    (fun x c => (x.insertCached c.1 c.2).2) described

theorem sound_threeContents : Sound threeContents := by
  have h₁ := (sound_new 25).insert (o := { handle := 1, metadata := default }) rfl rfl
  have h₂ := h₁.insert (o := { handle := 2, metadata := default }) rfl (by decide)
  have h₃ := h₂.insert (o := { handle := 3, metadata := default }) rfl (by decide)
  exact ((h₃.insertCached 1 (by decide)).insertCached 2 (by decide)).insertCached 3 (by decide)

/-- A longer content for the second object takes the place of the first one's.  A budget of twelve bytes takes
that one as well and no other: the empty content behind it takes up nothing. -/
theorem least_recently_used_evicted_threeContents :
    Accounted threeContents ∧ threeContents.find? 2 ≠ none ∧ threeContents.cachedHandles = [1, 2, 3] ∧
      (∃ released y, threeContents.insertCached 2 (List.replicate 13 2) =
          ((true, (threeContents.payloadAt 2).toList ++ released), y) ∧
        EvictedTo (Function.update threeContents.payloadAt 2 (some (List.replicate 13 2))) [1, 3, 2] released y) ∧
      (threeContents.insertCached 2 (List.replicate 13 2)).1 = (true, [[], List.replicate 10 1]) ∧
      (threeContents.insertCached 2 (List.replicate 13 2)).2.cachedHandles = [3, 2] ∧
      (threeContents.setBudget 12).2.cachedHandles = [2, 3] := by
  have hx := sound_threeContents.toAccounted
  refine ⟨hx, by decide, by decide, ?_, by decide, by decide, by decide⟩
  obtain ⟨released, y, hy, hev, -⟩ :=
    (least_recently_used_evicted hx).1 2 (List.replicate 13 2) (by decide) (by decide)
  exact ⟨released, y, hy, hev⟩

end Tether.Index
