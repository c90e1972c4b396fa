import Tether.Proofs.Cache.Runs
import Tether.Proofs.Volume.Steps

/-!
# Tether.Proofs.Cache.Cards — what the store drops with a card

A format or an unmount of a slot reaches the store as a notification that names the slot.  The store then drops
the objects, or the contents, that remember this slot from when they were described.  These are the ones of the
slot's storage exactly as long as objects of that storage, and no others, remember the slot
(`Reached.drops_card_iff`).
-/

namespace Tether

open Index (Linked Rooted)
open Tether.Action
open Camera (cfExpressId)

/-! ## What the bay puts down -/

namespace Bay

variable {τ : Type}

theorem changes_unmount {b : Bay τ} {slot : Slot} (hm : (b.table.volume slot).isMounted = true) :
    (unmount slot.val b).2.changes = b.changes ++ [.unmounted slot] := by
  unfold unmount
  rw [Slot.check_val]
  show (b.reportUnmounted slot).changes = _
  rw [changes_reportUnmounted, if_pos hm]

end Bay

namespace Host

variable {τ : Type} {h h' : Host τ} {slot : Slot}

theorem store_format [Transport τ] (hq : h.bay.changes = []) (hf : onBay (Bay.format slot.val) h = (.ok (), h')) :
    h'.store = h.store.follow (.formatted slot) := by
  obtain ⟨hok, rfl⟩ := Prod.mk.inj hf
  obtain ⟨other, hval, hformats⟩ := (Bay.leaves_format slot.val h.bay).1 () _ (Prod.ext hok rfl)
  obtain rfl := Fin.ext hval
  show (Bay.format other.val h.bay).2.changes.foldl Store.follow h.store = _
  rw [hformats.changes, hq]
  rfl

theorem store_unmount (hq : h.bay.changes = []) (hm : (h.bay.table.volume slot).isMounted = true) :
    (onBay (Bay.unmount slot.val) h).2.store = h.store.follow (.unmounted slot) := by
  show (Bay.unmount slot.val h.bay).2.changes.foldl Store.follow h.store = _
  rw [Bay.changes_unmount hm, hq]
  rfl

end Host

/-! ## What the store does about it -/

namespace Store

variable {s : Store} {slot : Slot}

theorem mem_handlesOn_iff (hx : Rooted s.index) (slot : Slot) (cachedOnly : Bool) (handle : UInt32) :
    handle ∈ s.handlesOn slot cachedOnly ↔
      ∃ o, s.index.lookup? handle = some o ∧ o.metadata.slot = some slot.val ∧
        (cachedOnly = true → o.isCached = true) := by
  have hp : ∀ o : RemoteObject, decide (o.metadata.slot = some slot.val) && (o.isCached || !cachedOnly) ↔
      o.metadata.slot = some slot.val ∧ (cachedOnly = true → o.isCached = true) := by
    intro o
    cases cachedOnly <;> simp
  unfold handlesOn
  rw [List.mem_map]
  constructor
  · rintro ⟨o, ho, rfl⟩
    obtain ⟨hm, hs⟩ := List.mem_filter.mp ho
    obtain ⟨ref, hr, rfl⟩ := List.mem_map.mp hm
    obtain ⟨handle, hf⟩ := OrderedMap.mem_values_iff.mp hr
    have hf : s.index.find? handle = some ref := hf
    refine ⟨_, ?_, (hp _).mp hs⟩
    rw [hx.handle_eq hf]
    exact Index.lookup?_of_find? hf
  · rintro ⟨o, ho, hs⟩
    refine ⟨o, List.mem_filter.mpr ⟨?_, (hp o).mpr hs⟩, hx.handle_lookup? ho⟩
    obtain ⟨ref, hf, rfl⟩ := Index.lookup?_eq_some_iff.mp ho
    exact List.mem_map.mpr ⟨ref, OrderedMap.mem_values_iff.mpr ⟨handle, hf⟩, rfl⟩

theorem lookup?_forgetAll (handle : UInt32) : ∀ (handles : List UInt32) {s : Store}, Linked s.index →
    (handles.foldl (fun s handle => (s.forget handle).2) s).index.lookup? handle =
      if handle ∈ handles then none else s.index.lookup? handle
  | [], _, _ => by simp
  | first :: rest, s, hx => by
    have hone : (s.forget first).2.index.lookup? handle = if handle = first then none
      else s.index.lookup? handle :=
      hx.lookup?_remove first handle
    rw [List.foldl_cons, lookup?_forgetAll handle rest (hx.remove first), hone]
    by_cases h₁ : handle ∈ rest <;> by_cases h₂ : handle = first <;> simp [h₁, h₂]

/-- A format takes out the objects that remember the slot. -/
theorem lookup?_formatted (hx : Linked s.index) {handle : UInt32} {o : RemoteObject} :
    (s.follow (.formatted slot)).index.lookup? handle = some o ↔
      s.index.lookup? handle = some o ∧ o.metadata.slot ≠ some slot.val := by
  have hm := mem_handlesOn_iff hx.toRooted slot false handle
  rw [show (s.follow (.formatted slot)).index.lookup? handle = _ from lookup?_forgetAll handle _ hx]
  split
  · rename_i hmem
    obtain ⟨o', ho', hs, -⟩ := hm.mp hmem
    refine ⟨fun h => (by cases h), fun ⟨ho, hn⟩ => ?_⟩
    rw [ho'] at ho
    cases ho
    exact absurd hs hn
  · rename_i hmem
    refine ⟨fun ho => ⟨ho, fun hs => ?_⟩, And.left⟩
    exact hmem (hm.mpr ⟨o, ho, hs, fun h => by cases h⟩)

/-- An unmount empties the objects that remember the slot. -/
theorem lookup?_unmounted (hx : Linked s.index) (slot : Slot) (handle : UInt32) :
    (s.follow (.unmounted slot)).index.lookup? handle =
      (s.index.lookup? handle).map fun o => if o.metadata.slot = some slot.val then o.emptied else o := by
  have hm := mem_handlesOn_iff hx.toRooted slot true handle
  rw [show (s.follow (.unmounted slot)).index.lookup? handle = _ from hx.lookup?_uncacheAll _ handle]
  split
  · rename_i hmem
    obtain ⟨o, ho, hs, -⟩ := hm.mp hmem
    rw [ho, Option.map_some, Option.map_some, if_pos hs]
  · rename_i hmem
    cases ho : s.index.lookup? handle with
    | none => rfl
    | some o =>
      rw [Option.map_some]
      split
      · rename_i hs
        -- it remembers the slot and is not among the emptied ones, so there was nothing to drop
        have hc : o.isCached = false := by
          rw [Bool.eq_false_iff]
          exact fun hc => hmem (hm.mpr ⟨o, ho, hs, fun _ => hc⟩)
        rw [RemoteObject.emptied_of_not_cached hc]
      · rfl

end Store

/-! ## The objects of a storage -/

namespace Index

/-- From `x` to `y` every object of a storage is gone, and no other. -/
def DropsObjects (storage : UInt32) (x y : Index) : Prop :=
  (∀ handle o, y.lookup? handle = some o → o.metadata.storageId ≠ storage) ∧
    ∀ handle o, x.lookup? handle = some o → o.metadata.storageId ≠ storage → y.lookup? handle = some o

/-- From `x` to `y` every content of a storage is gone, and no other, and no object is. -/
def DropsContents (storage : UInt32) (x y : Index) : Prop :=
  (∀ handle o, y.lookup? handle = some o → o.metadata.storageId = storage → o.isCached = false) ∧
    (∀ handle, (y.lookup? handle).map RemoteObject.metadata = (x.lookup? handle).map RemoteObject.metadata) ∧
    ∀ handle o, x.lookup? handle = some o → o.metadata.storageId ≠ storage → y.lookup? handle = some o

/-- An object belongs to a storage exactly when it remembers a slot. -/
def Placed (storage : UInt32) (slot : Slot) (o : RemoteObject) : Prop :=
  o.metadata.storageId = storage ↔ o.metadata.slot = some slot.val

end Index

theorem Store.formatted_drops_iff {s : Store} (hx : Linked s.index) (storage : UInt32) (slot : Slot) :
    Index.DropsObjects storage s.index (s.follow (.formatted slot)).index ↔
      ∀ handle o, s.index.lookup? handle = some o → Index.Placed storage slot o := by
  constructor
  · rintro ⟨hgone, hkept⟩ handle o ho
    by_cases hs : o.metadata.storageId = storage
    · refine ⟨fun _ => ?_, fun _ => hs⟩
      by_contra hn
      exact hgone handle o ((lookup?_formatted hx).mpr ⟨ho, hn⟩) hs
    · refine ⟨fun h => absurd h hs, fun h => ?_⟩
      exact absurd h ((lookup?_formatted hx).mp (hkept handle o ho hs)).2
  · intro hplaced
    constructor
    · intro handle o ho hs
      obtain ⟨ho, hn⟩ := (lookup?_formatted hx).mp ho
      exact hn ((hplaced handle o ho).mp hs)
    · intro handle o ho hs
      exact (lookup?_formatted hx).mpr ⟨ho, fun h => hs ((hplaced handle o ho).mpr h)⟩

theorem Store.unmounted_drops_iff {s : Store} (hx : Linked s.index) (storage : UInt32) (slot : Slot) :
    Index.DropsContents storage s.index (s.follow (.unmounted slot)).index ↔
      ∀ handle o, s.index.lookup? handle = some o → o.isCached = true → Index.Placed storage slot o := by
  have hl := lookup?_unmounted hx slot
  constructor
  · rintro ⟨hgone, -, hkept⟩ handle o ho hc
    have hafter := hl handle
    rw [ho, Option.map_some] at hafter
    by_cases hs : o.metadata.storageId = storage
    · refine ⟨fun _ => ?_, fun _ => hs⟩
      by_contra hn
      rw [if_neg hn] at hafter
      rw [hgone handle o hafter hs] at hc
      cases hc
    · refine ⟨fun h => absurd h hs, fun h => ?_⟩
      rw [if_pos h, hkept handle o ho hs, Option.some.injEq] at hafter
      rw [hafter, RemoteObject.isCached_emptied] at hc
      cases hc
  · intro hplaced
    refine ⟨fun handle o ho hs => ?_, fun handle => ?_, fun handle o ho hs => ?_⟩
    · rw [hl, Option.map_eq_some_iff] at ho
      obtain ⟨o', ho', rfl⟩ := ho
      split
      · rfl
      · rename_i hn
        rw [if_neg hn] at hs
        rw [Bool.eq_false_iff]
        exact fun hc => hn ((hplaced handle o' ho' hc).mp hs)
    · rw [hl, Option.map_map]
      refine congrArg (fun f => (s.index.lookup? handle).map f) (funext fun o => ?_)
      dsimp only [Function.comp]
      split <;> rfl
    · rw [hl, ho, Option.map_some]
      split
      · rename_i h
        have hc : o.isCached = false := by
          rw [Bool.eq_false_iff]
          exact fun hc => hs ((hplaced handle o ho hc).mpr h)
        rw [RemoteObject.emptied_of_not_cached hc]
      · rfl

/-- Wherever a run comes, a format that succeeds drops the objects of the slot's storage exactly when the objects
of that storage, and no others, remember the slot; an unmount of a mounted slot drops its contents exactly when
this is so of the cached objects. -/
theorem Reached.drops_card_iff {τ : Type} [Transport τ] {h : Host τ} (hr : Reached True h) (slot : Slot) :
    (∀ h', Host.onBay (Bay.format slot.val) h = (.ok (), h') →
      (Index.DropsObjects (h.bay.table.volume slot).storageId h.store.index h'.store.index ↔
        ∀ handle o, h.store.index.lookup? handle = some o →
          Index.Placed (h.bay.table.volume slot).storageId slot o)) ∧
    ((h.bay.table.volume slot).isMounted = true →
      (Index.DropsContents (h.bay.table.volume slot).storageId h.store.index
          (Host.onBay (Bay.unmount slot.val) h).2.store.index ↔
        ∀ handle o, h.store.index.lookup? handle = some o → o.isCached = true →
          Index.Placed (h.bay.table.volume slot).storageId slot o)) := by
  refine ⟨fun h' hf => ?_, fun hm => ?_⟩
  · rw [Host.store_format hr.changes_nil hf]
    exact Store.formatted_drops_iff hr.linked _ slot
  · rw [Host.store_unmount hr.changes_nil hm]
    exact Store.unmounted_drops_iff hr.linked _ slot

/-- The upload goes with its card. -/
theorem drops_card_stocked :
    (Reached True Host.stocked ∧ (Host.onBay (Bay.format 0) Host.stocked).1 = .ok () ∧
      (Host.stocked.bay.table.volume 0).isMounted = true) ∧
    Index.DropsObjects cfExpressId Host.stocked.store.index
      (Host.onBay (Bay.format 0) Host.stocked).2.store.index ∧
    Index.DropsContents cfExpressId Host.stocked.store.index
      (Host.onBay (Bay.unmount 0) Host.stocked).2.store.index := by
  have hf : (Host.onBay (Bay.format 0) Host.stocked).1 = .ok () := by decide +kernel
  have hm : (Host.stocked.bay.table.volume 0).isMounted = true := by decide +kernel
  have hid : (Host.stocked.bay.table.volume 0).storageId = cfExpressId := by decide +kernel
  have htree : Host.stocked.store.index.tree.entries = [(1, 0)] := by decide +kernel
  have hobject : (Host.stocked.store.index.object 0).metadata.storageId = cfExpressId ∧
      (Host.stocked.store.index.object 0).metadata.slot = some 0 := by decide +kernel
  have hplaced : ∀ handle o, Host.stocked.store.index.lookup? handle = some o → Index.Placed cfExpressId 0 o := by
    intro handle o ho
    obtain ⟨ref, hfind, rfl⟩ := Index.lookup?_eq_some_iff.mp ho
    have hmem := OrderedMap.mem_entries_iff.mpr hfind
    rw [htree, List.mem_singleton] at hmem
    cases hmem
    exact ⟨fun _ => hobject.2, fun _ => hobject.1⟩
  have hdrops := Reached.drops_card_iff Host.reached_stocked.mono 0
  rw [hid] at hdrops
  refine ⟨⟨Host.reached_stocked.mono, hf, hm⟩, ?_, ?_⟩
  · exact (hdrops.1 _ (Prod.ext hf rfl)).mpr hplaced
  · exact (hdrops.2 hm).mpr fun handle o ho _ => hplaced handle o ho

/-- A host that described and cached a file before it looked for cards. -/
def Host.hasty : Host Link :=
  Host.unboxed.runAll [
    .bay fun b => (Bay.call none Engine.openSession b).2,
    .bay fun b => { b with engine := { b.engine with link := { b.engine.link with
      camera := (b.engine.link.camera.addFile cfExpressId 0 "a.jpg" [1, 2, 3]).2 } } },
    .fetch 1, .cache 0, .bay fun b => (Bay.scan b).2, .bay fun b => (Bay.mount 0 b).2]

/-- Its file stays when the card is formatted, with its content. -/
theorem format_leaves_hasty :
    Reached True Host.hasty ∧ (Host.onBay (Bay.format 0) Host.hasty).1 = .ok () ∧
      (Host.hasty.bay.table.volume 0).storageId = cfExpressId ∧
      (Host.onBay (Bay.format 0) Host.hasty).2.store.index.cachedBytes = 3 ∧
      ¬ Index.DropsObjects cfExpressId Host.hasty.store.index
        (Host.onBay (Bay.format 0) Host.hasty).2.store.index := by
  refine ⟨?_, by decide +kernel, by decide +kernel, by decide +kernel, ?_⟩
  · have hnew : Reached True Host.unboxed := .new _ [] 100 300 rfl
    exact hnew.runAll _
  · rintro ⟨hgone, -⟩
    have hid :
        ((Host.onBay (Bay.format 0) Host.hasty).2.store.index.lookup? 1).map (fun o => o.metadata.storageId) =
        some cfExpressId := by decide +kernel
    obtain ⟨o, ho, hs⟩ := Option.map_eq_some_iff.mp hid
    exact hgone 1 o ho hs

end Tether
