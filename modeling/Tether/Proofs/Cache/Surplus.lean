import Tether.Proofs.Cache.Runs

/-!
# Tether.Proofs.Cache.Surplus — the byte count never falls short

Uploads may be given handles that are cached already, and then the byte count tells more than the contents add up
to.  It never tells less: the surplus stays what it is, whatever is cached, dropped or evicted, and only an
upload adds to it (`Reached.surplus`).  When everything is dropped, the surplus is what remains on the count
(`Surplus.cachedBytes_clear`).
-/

namespace Tether

namespace Index

variable {x y : Index} {n : Nat} {handle : UInt32}

/-- The byte count of a linked index tells so many bytes more than its contents add up to. -/
structure Surplus (n : Nat) (x : Index) : Prop extends Linked x where
  counted : x.cachedBytes = x.heldBytes + n

theorem SameBooks.surplus (h : SameBooks x y) (hx : Surplus n x) : Surplus n y :=
  ⟨h.linked hx.toLinked, by rw [h.cachedBytes, h.heldBytes, hx.counted]⟩

namespace Surplus

/-- The bytes of an object that an upload takes out of the tree stay on the count. -/
theorem insert (hx : Surplus n x) {o : RemoteObject} (ho : o.isCached = false) :
    Surplus (n + x.lengthAt o.handle) (x.insert o).2 := by
  refine ⟨hx.toLinked.insert ho, ?_⟩
  have hheld := hx.heldBytes_insert ho
  show x.cachedBytes = _
  rw [hx.counted]
  omega

theorem touch (hx : Surplus n x) (handle : UInt32) : Surplus n (x.touch handle) := by
  refine ⟨hx.toLinked.touch handle, ?_⟩
  rcases touch_cases x handle with h | ⟨tick, ht, h⟩
  · rw [h]
    exact hx.counted
  · rw [h, cachedBytes_pushTick, heldBytes_congr fun h' => lookup?_pushTick x handle h']
    exact hx.counted

theorem uncache (hx : Surplus n x) (handle : UInt32) : Surplus n (x.uncache handle).2 := by
  refine ⟨hx.toLinked.uncache handle, ?_⟩
  have hheld := hx.heldBytes_uncache handle
  rw [hx.cachedBytes_uncache, hx.counted]
  omega

theorem uncacheAll (hx : Surplus n x) (hs : List UInt32) : Surplus n (x.uncacheAll hs).2 :=
  uncacheAll_induction (fun _ _ h => h.uncache _) hs x hx

theorem remove (hx : Surplus n x) (handle : UInt32) : Surplus n (x.remove handle).2 := by
  refine ⟨hx.toLinked.remove handle, ?_⟩
  have hheld := hx.heldBytes_remove handle
  show (x.uncache handle).2.cachedBytes = _
  rw [hx.cachedBytes_uncache, hx.counted]
  omega

theorem setBudget (hx : Surplus n x) (budget : Nat) : Surplus n (x.setBudget budget).2 :=
  evictFrom_induction (fun _ _ h => h.uncache _) _ _ ((sameBooks_budget x budget).surplus hx)

theorem insertCached (hx : Surplus n x) (handle : UInt32) (payload : Bytes) :
    Surplus n (x.insertCached handle payload).2 := by
  cases hf : x.find? handle with
  | none =>
    rw [insertCached_of_find?_none hf]
    exact hx
  | some ref =>
    have hplaced : Surplus n (x.place handle ref payload) := by
      refine ⟨hx.toLinked.place payload hf, ?_⟩
      have hheld := hx.heldBytes_place hf payload
      have hle := lengthAt_le_heldBytes x handle
      rw [cachedBytes_place, hx.counted]
      omega
    rw [insertCached_of_find? hf]
    exact evictFrom_induction (fun _ _ h => h.uncache _) _ _ hplaced

theorem cachedBytes_clear (hx : Surplus n x) : x.clear.2.cachedBytes = n := by
  show (x.uncacheAll x.cachedHandles).2.cachedBytes = n
  rw [(hx.uncacheAll x.cachedHandles).counted, hx.heldBytes_uncacheAll, Nat.zero_add]

theorem clear (hx : Surplus n x) : Surplus n x.clear.2 := by
  refine ⟨hx.toLinked.clear, ?_⟩
  show _ = 0 + n
  rw [hx.cachedBytes_clear, Nat.zero_add]

end Surplus

end Index

open Index (Surplus)

/-- Every operation of an index leaves some surplus. -/
theorem kept_surplus : Kept True fun x => ∃ n, Surplus n x where
  new budget := ⟨0, Index.linked_new budget, rfl⟩
  books hx h _ := hx.imp fun _ hx => h.surplus hx
  insert := fun ⟨_, hx⟩ ho _ => ⟨_, hx.insert ho⟩
  touch handle hx := hx.imp fun _ hx => hx.touch handle
  uncache handle hx := hx.imp fun _ hx => hx.uncache handle
  remove handle hx := hx.imp fun _ hx => hx.remove handle
  clear hx := hx.imp fun _ hx => hx.clear
  setBudget budget hx := hx.imp fun _ hx => hx.setBudget budget
  insertCached handle _ hx _ := hx.imp fun _ hx => hx.insertCached handle _

/-- Wherever a run comes, the byte count tells the contents and a surplus. -/
theorem Reached.surplus {τ : Type} [Transport τ] {reuse : Prop} {h : Host τ} (hr : Reached reuse h) :
    ∃ n, Surplus n h.store.index :=
  hr.mono.index kept_surplus

end Tether
