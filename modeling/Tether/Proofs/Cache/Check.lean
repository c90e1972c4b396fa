import Tether.Proofs.Cache.Accounts
import Tether.Store.Consistency

/-!
# Tether.Proofs.Cache.Check — what a passed check says

On a `Linked` index the check passes exactly when the index is balanced and no two contents together exceed the
budget (`Linked.check_eq_ok_iff`).  So a sound index passes.
-/

namespace Tether.Index

variable {x : Index}

/-! ## The walk over the order of use -/

theorem entryLength_eq_ok_iff {tick : Nat} {handle : UInt32} {n : Nat} :
    x.entryLength tick handle = .ok n ↔
      x.ticks.get? handle = some tick ∧ (∃ o, x.lookup? handle = some o ∧ o.isCached = true) ∧
      n = x.lengthAt handle := by
  unfold entryLength
  split
  · rename_i ht
    simp [ht]
  · rename_i ht
    have ht' : x.ticks.get? handle = some tick := by simpa using ht
    split
    · rename_i ho
      simp [ho]
    · rename_i o ho
      rw [lengthAt_of_lookup? ho]
      split
      · rename_i hp
        simp [ho, RemoteObject.isCached, hp]
      · rename_i payload hp
        have hc : o.isCached = true := by simp [RemoteObject.isCached, hp]
        rw [RemoteObject.cachedLength_of_payload hp, Except.ok.injEq]
        exact ⟨fun h => ⟨ht', ⟨o, ho, hc⟩, h.symm⟩, fun h => h.2.2.symm⟩

/-- The walk succeeds when every place does, and adds the contents up. -/
theorem totalLength_eq_ok_iff :
    ∀ {es : List (Nat × UInt32)} {total : Nat}, x.totalLength es = .ok total ↔
      (∀ e ∈ es, x.ticks.get? e.2 = some e.1 ∧ ∃ o, x.lookup? e.2 = some o ∧ o.isCached = true) ∧
        total = ((es.map Prod.snd).map x.lengthAt).sum
  | [], total => by
    show Except.ok 0 = Except.ok total ↔ _
    rw [Except.ok.injEq]
    exact ⟨fun h => ⟨fun e he => (by cases he), h.symm⟩, fun h => h.2.symm⟩
  | (tick, handle) :: rest, total => by
    have ih := fun n => @totalLength_eq_ok_iff rest n
    unfold totalLength
    cases he : x.entryLength tick handle with
    | error e =>
      refine ⟨fun h => (by cases h), fun ⟨hall, _⟩ => ?_⟩
      obtain ⟨ht, ho⟩ := hall _ List.mem_cons_self
      rw [entryLength_eq_ok_iff.mpr ⟨ht, ho, rfl⟩] at he
      cases he
    | ok n =>
      obtain ⟨ht, ho, rfl⟩ := entryLength_eq_ok_iff.mp he
      cases hr : x.totalLength rest with
      | error e =>
        refine ⟨fun h => (by cases h), fun ⟨hall, _⟩ => ?_⟩
        have hrest := (ih _).mpr ⟨fun e hm => hall e (List.mem_cons_of_mem _ hm), rfl⟩
        rw [hr] at hrest
        cases hrest
      | ok m =>
        obtain ⟨hall, rfl⟩ := (ih m).mp hr
        show Except.ok _ = Except.ok total ↔ _
        rw [Except.ok.injEq, List.forall_mem_cons, List.map_cons, List.map_cons, List.sum_cons]
        exact ⟨fun h => ⟨⟨⟨ht, ho⟩, hall⟩, h.symm⟩, fun h => h.2.symm⟩

/-! ## The whole check -/

theorem check_eq_ok_iff : x.check = .ok () ↔
    x.recency.size = x.ticks.size ∧ x.untracked? = none ∧
      ∃ total, x.totalLength x.recency.entries = .ok total ∧ total = x.cachedBytes ∧
        ¬(x.budget < total ∧ 1 < x.recency.size) := by
  unfold check
  simp only [bind, Except.bind, throw, throwThe, MonadExceptOf.throw, pure, Except.pure]
  by_cases hs : x.recency.size = x.ticks.size
  · rw [if_neg (not_not.mpr hs)]
    cases ht : x.totalLength x.recency.entries with
    | error e => simp
    | ok total =>
      cases hu : x.untracked? with
      | some handle => simp
      | none =>
        by_cases hc : total = x.cachedBytes
        · by_cases hb : x.budget < total ∧ 1 < x.recency.size <;> simp_all
        · simp [hc]
  · rw [if_pos hs]
    simp [hs]

/-- Every content of a linked index is behind a handle with a tick. -/
theorem Linked.untracked?_eq_none (hx : Linked x) : x.untracked? = none := by
  unfold untracked?
  refine List.findSome?_eq_none_iff.mpr fun o ho => ?_
  obtain ⟨ref, hr, rfl⟩ := List.mem_map.mp ho
  obtain ⟨handle, hf⟩ := OrderedMap.mem_values_iff.mp hr
  have hf : x.find? handle = some ref := hf
  refine if_neg fun hc => ?_
  rw [Bool.and_eq_true] at hc
  obtain ⟨tick, ht⟩ := hx.ticked (lookup?_of_find? hf) hc.1
  rw [hx.handle_eq hf, OrderedMap.contains_iff.mpr ⟨tick, ht⟩] at hc
  cases hc.2

/-- The contents behind the cached handles are all there are. -/
theorem Linked.sum_cachedHandles (hx : Linked x) : (x.cachedHandles.map x.lengthAt).sum = x.heldBytes := by
  have hkeys : (x.tree.keys.filter fun h => (x.ticks.get? h).isSome).Perm x.ticks.keys := by
    refine (List.perm_ext_iff_of_nodup (x.tree.nodup_keys.filter _) x.ticks.nodup_keys).mpr fun h => ?_
    rw [List.mem_filter, OrderedMap.mem_keys_iff, OrderedMap.mem_keys_iff, Option.isSome_iff_exists]
    refine ⟨And.right, fun ⟨tick, ht⟩ => ⟨?_, tick, ht⟩⟩
    obtain ⟨o, ho⟩ := hx.known ht
    obtain ⟨ref, hf, -⟩ := lookup?_eq_some_iff.mp ho
    exact ⟨ref, hf⟩
  -- the other handles of the tree add nothing
  have hrest : ((x.tree.keys.filter fun h => ¬(x.ticks.get? h).isSome).map x.lengthAt).sum = 0 := by
    refine List.sum_eq_zero fun n hn => ?_
    obtain ⟨h, hm, rfl⟩ := List.mem_map.mp hn
    exact hx.lengthAt_eq_zero (by simpa using (List.mem_filter.mp hm).2)
  have hsplit := List.sum_map_filter_add_sum_map_filter_not
      (fun h => (x.ticks.get? h).isSome) x.lengthAt x.tree.keys
  calc (x.cachedHandles.map x.lengthAt).sum
      = (x.ticks.keys.map x.lengthAt).sum := (hx.toOrdered.cachedHandles_perm.map _).sum_eq
    _ = ((x.tree.keys.filter fun h => (x.ticks.get? h).isSome).map x.lengthAt).sum := (hkeys.map _).sum_eq.symm
    _ = x.heldBytes := by
      rw [heldBytes_eq_sum, ← hsplit, hrest, Nat.add_zero]
      simp

/-- On a linked index the check passes exactly when the contents are there, counted and within the budget. -/
theorem Linked.check_eq_ok_iff (hx : Linked x) :
    x.check = .ok () ↔ Balanced x ∧ (x.cachedBytes ≤ x.budget ∨ x.cachedCount ≤ 1) := by
  have hsum : ((x.recency.entries.map Prod.snd).map x.lengthAt).sum = x.heldBytes := hx.sum_cachedHandles
  rw [Index.check_eq_ok_iff]
  constructor
  · rintro ⟨-, -, total, ht, hc, hb⟩
    obtain ⟨hall, hheld⟩ := totalLength_eq_ok_iff.mp ht
    refine ⟨{ toLinked := hx, cached := fun {h tick o} hh ho => ?_, counted := by rw [← hc, hheld, hsum] }, ?_⟩
    · obtain ⟨o', ho', hcached⟩ := (hall _ (OrderedMap.mem_entries_iff.mpr (hx.tick_iff.mpr hh))).2
      rw [ho] at ho'
      cases ho'
      exact hcached
    · rw [hc] at hb
      unfold cachedCount
      omega
  · rintro ⟨hbal, hb⟩
    refine ⟨hx.toOrdered.size_recency, hx.untracked?_eq_none, x.cachedBytes, ?_, rfl, ?_⟩
    · refine totalLength_eq_ok_iff.mpr ⟨fun e he => ?_, by rw [hsum, hbal.counted]⟩
      have ht := hx.tick_iff.mp (OrderedMap.mem_entries_iff.mp he)
      obtain ⟨o, ho⟩ := hx.known ht
      exact ⟨ht, o, ho, hbal.cached ht ho⟩
    · unfold cachedCount at hb
      omega

theorem Sound.check_eq_ok (hx : Sound x) : x.check = .ok () :=
  hx.toLinked.check_eq_ok_iff.mpr ⟨hx.toBalanced, .inl hx.within⟩

end Tether.Index
