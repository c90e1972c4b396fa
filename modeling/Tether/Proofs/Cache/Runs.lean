import Tether.Engine.Session
import Tether.Proofs.Cache.Check
import Tether.Proofs.Exchange.Outcome
import Tether.Proofs.Host.Effects

/-!
# Tether.Proofs.Cache.Runs — the cache along every run

A run starts with a new store and makes any calls in any order.  Between them anything may happen to the link,
the session and the slots, so the camera may answer whatever it likes.  What every operation of an index keeps is
true of every index that a run reaches (`Reached.index`): `Linked` in any case, and `Sound` as long as no upload
is answered with a handle that already has an object.
-/

namespace Tether

open Calendar (Instant)
open Ptp (DeviceEvent)
open Index (Linked Sound SameBooks)

/-- What may happen to a store. -/
inductive StoreCall (τ : Type) where
  | lookup (handle : UInt32)
  | fetch (handle : UInt32)
  | readRange (ref : ObjectRef) (length offset : Nat)
  | cache (ref : ObjectRef)
  | writeNew (name : String) (content : Bytes) (parent : UInt32)
  | delete (ref : ObjectRef)
  | forget (handle : UInt32)
  | invalidate (handle : UInt32)
  | clear
  | cleanup (now : Instant)
  | setBudget (bytes : Nat)
  | overrideBudget (bytes : Nat)
  | releaseBudget (token : OverrideToken)
  | resetBudget
  | recordExposure (ref : ObjectRef) (iso : Option UInt32) (lensModel : Option String)
  | setCameraModel (model : Option String)
  /-- A notification about a slot. -/
  | follow (change : VolumeChange)
  /-- A report of the camera. -/
  | report (event : DeviceEvent)
  /-- Anything that happens to the slots, the session or the link, with the notifications that come of it. -/
  | bay (f : Bay τ → Bay τ)

variable {τ : Type} [Transport τ]

namespace StoreCall

/-- The host after a call. -/
def run : StoreCall τ → Host τ → Host τ
  | .lookup _, h => h
  | .fetch handle, h => (Host.fetch handle h).2
  | .readRange ref length offset, h => (Host.readRange ref length offset h).2
  | .cache ref, h => (Host.cache ref h).2
  | .writeNew name content parent, h => (Host.writeNew name content parent h).2
  | .delete ref, h => (Host.delete ref h).2
  | .forget handle, h => h.updateStore fun s => (s.forget handle).2
  | .invalidate handle, h => h.updateStore fun s => (s.invalidate handle).2
  | .clear, h => h.updateStore Store.clear
  | .cleanup now, h => h.updateStore fun s => ((s.cleanup now).map Prod.snd).getD s
  | .setBudget bytes, h => h.updateStore (Store.setBudget bytes)
  | .overrideBudget bytes, h => h.updateStore fun s => (s.overrideBudget bytes).2
  | .releaseBudget token, h => h.updateStore (Store.releaseBudget token)
  | .resetBudget, h => h.updateStore Store.resetBudget
  | .recordExposure ref iso lensModel, h => h.updateStore fun s => (s.recordExposure ref iso lensModel).2
  | .setCameraModel model, h => h.updateStore fun s => { s with cameraModel := model }
  | .follow change, h => h.updateStore (·.follow change)
  | .report event, h => h.updateStore (Store.handleEvent event)
  | .bay f, h => h.updateBay f

/-- An upload that succeeds was given a handle that had no object. -/
def Fresh (c : StoreCall τ) (h : Host τ) : Prop :=
  match c with
  | .writeNew name content parent => ∀ ref h', Host.writeNew name content parent h = (.ok ref, h') →
      h.store.index.find? (h'.store.index.object ref).handle = none
  | _ => True

/-- The call does not set the budget. -/
def KeepsBudget : StoreCall τ → Prop
  | .setBudget _ | .overrideBudget _ | .releaseBudget _ | .resetBudget => False
  | _ => True

end StoreCall

/-- The host after some calls, in order. -/
def Host.runAll (h : Host τ) (calls : List (StoreCall τ)) : Host τ :=
  calls.foldl (fun h c => c.run h) h

/-- The hosts that runs reach from a new store; unless handles may be reused, every upload is given a new one. -/
inductive Reached (reuse : Prop) : Host τ → Prop
  | new (bay : Bay τ) (notices : List VolumeChange) (budget staleness : Nat) : bay.changes = [] →
      Reached reuse { bay, store := .create budget staleness, notices }
  | call {h : Host τ} (c : StoreCall τ) : Reached reuse h → reuse ∨ c.Fresh h → Reached reuse (c.run h)

/-! ## What every operation of an index keeps -/

/-- What the operations of an index keep that neither put content in nor set the budget; unless handles may be
reused, new objects have new handles. -/
structure Steady (reuse : Prop) (P : Index → Prop) : Prop where
  books : ∀ {x y}, P x → SameBooks x y → y.budget = x.budget → P y
  insert : ∀ {x o}, P x → o.isCached = false → reuse ∨ x.find? o.handle = none → P (x.insert o).2
  touch : ∀ {x} handle, P x → P (x.touch handle)
  uncache : ∀ {x} handle, P x → P (x.uncache handle).2
  remove : ∀ {x} handle, P x → P (x.remove handle).2
  clear : ∀ {x}, P x → P x.clear.2

/-- What the operations of an index keep that put no content in. -/
structure Drained (reuse : Prop) (P : Index → Prop) : Prop extends Steady reuse P where
  new : ∀ budget, P { budget }
  setBudget : ∀ {x} budget, P x → P (x.setBudget budget).2

/-- What all operations of an index keep. -/
structure Kept (reuse : Prop) (P : Index → Prop) : Prop extends Drained reuse P where
  insertCached : ∀ {x} handle {payload}, P x → payload.length ≤ x.budget → P (x.insertCached handle payload).2

theorem kept_linked : Kept True Linked where
  new := Index.linked_new
  books hx h _ := h.linked hx
  insert hx ho _ := hx.insert ho
  touch handle hx := hx.touch handle
  uncache handle hx := hx.uncache handle
  remove handle hx := hx.remove handle
  clear hx := hx.clear
  setBudget budget hx := hx.setBudget budget
  insertCached handle _ hx _ := hx.insertCached handle _

theorem kept_sound : Kept False Sound where
  new := Index.sound_new
  books hx h hb := h.sound hb hx
  insert hx ho hf := hx.insert ho (hf.resolve_left id)
  touch handle hx := hx.touch handle
  uncache handle hx := hx.uncache handle
  remove handle hx := hx.remove handle
  clear hx := hx.clear
  setBudget budget hx := hx.toAccounted.sound_setBudget budget
  insertCached handle _ hx hp := hx.insertCached handle hp

namespace Steady

variable {reuse : Prop} {P : Index → Prop} (hk : Steady reuse P) {s : Store}
include hk

theorem uncacheAll {x : Index} (hs : List UInt32) (hx : P x) : P (x.uncacheAll hs).2 :=
  Index.uncacheAll_induction (fun _ handle h => hk.uncache handle h) hs x hx

theorem learn (handle : UInt32) (metadata : ObjectMetadata) (hs : P s.index) :
    P (s.learn handle metadata).2.index := by
  unfold Store.learn
  split
  · rename_i ref hf
    have hm : P (s.index.modify ref fun o => { o with metadata := o.metadata.refresh metadata }) :=
      hk.books hs (Index.sameBooks_modify _ _ (fun _ => rfl) fun _ => rfl) rfl
    -- what was cached goes when the object has another size or time of change
    dsimp only
    split
    · exact hk.uncache handle hm
    · exact hm
  · rename_i hf
    exact hk.insert hs rfl (.inr hf)

theorem follow (change : VolumeChange) (hs : P s.index) : P (s.follow change).index := by
  cases change with
  | unmounted slot => exact hk.uncacheAll _ hs
  | formatted slot =>
    unfold Store.follow
    dsimp only
    generalize s.handlesOn slot false = handles
    induction handles generalizing s with
    | nil => exact hs
    | cons handle rest ih => exact ih (hk.remove handle hs)

theorem followAll (changes : List VolumeChange) (hs : P s.index) : P (changes.foldl Store.follow s).index := by
  induction changes generalizing s with
  | nil => exact hs
  | cons change rest ih => exact ih (hk.follow change hs)

theorem cleanup (now : Instant) (hs : P s.index) : P (((s.cleanup now).map Prod.snd).getD s).index := by
  unfold Store.cleanup
  split
  · exact hs
  · exact hs
  · exact hk.uncacheAll _ hs

theorem handleEvent (event : DeviceEvent) (hs : P s.index) : P (s.handleEvent event).index := by
  cases event with
  | objectRemoved handle => exact hk.remove handle hs
  | objectInfoChanged handle => exact hk.uncache handle hs
  | deviceReset => exact hk.clear hs
  | _ => exact hs

variable {h : Host τ}

theorem writeNew (name : String) (content : Bytes) (parent : UInt32) (hP : P h.store.index)
    (hf : reuse ∨ (StoreCall.writeNew name content parent).Fresh h) :
    P (Host.writeNew name content parent h).2.store.index := by
  obtain ⟨hok, herr⟩ := Host.leaves_writeNew name content parent h
  cases hw : Host.writeNew name content parent h with
  | mk r h' =>
    cases r with
    | error e =>
      show P h'.store.index
      rw [(herr e h' hw).store]
      exact hP
    | ok ref =>
      obtain ⟨handle, metadata, ⟨hs, -⟩, ho, -⟩ := hok ref h' hw
      show P h'.store.index
      rw [hs]
      refine hk.insert hP rfl (hf.imp_right fun hfresh => ?_)
      have hnone := hfresh ref h' hw
      rwa [ho] at hnone

/-- So does one call, but for those that cache or set the budget. -/
theorem run (c : StoreCall τ) (hb : c.KeepsBudget) (hc : ∀ ref, c ≠ .cache ref) (hP : P h.store.index)
    (hf : reuse ∨ c.Fresh h) :
    P (c.run h).store.index := by
  cases c with
  | lookup handle => exact hP
  | fetch handle =>
    refine (Host.serves_fetch handle h).store (P := fun s => P s.index) hP ?_
    rintro _ ⟨metadata, rfl⟩
    exact hk.learn handle metadata hP
  | readRange ref length offset =>
    refine (Host.serves_readRange ref length offset h).store (P := fun s => P s.index) hP ?_
    rintro _ (rfl | rfl)
    · exact hP
    · exact hk.touch _ hP
  | cache ref => exact absurd rfl (hc ref)
  | writeNew name content parent => exact hk.writeNew name content parent hP hf
  | delete ref =>
    refine (Host.serves_delete ref h).store (P := fun s => P s.index) hP ?_
    rintro _ rfl
    exact hk.remove _ hP
  | forget handle => exact hk.remove handle hP
  | invalidate handle => exact hk.uncache handle hP
  | clear => exact hk.clear hP
  | cleanup now => exact hk.cleanup now hP
  | setBudget _ | overrideBudget _ | releaseBudget _ | resetBudget => exact hb.elim
  | recordExposure ref iso lensModel =>
    exact hk.books hP (Index.sameBooks_modify _ _ (fun _ => rfl) fun _ => rfl) rfl
  | setCameraModel model => exact hP
  | follow change => exact hk.follow change hP
  | report event => exact hk.handleEvent event hP
  | bay f => exact hk.followAll _ hP

end Steady

namespace Drained

variable {reuse : Prop} {P : Index → Prop} (hk : Drained reuse P) {s : Store} {h : Host τ}
include hk

theorem releaseBudget (token : OverrideToken) (hs : P s.index) : P (s.releaseBudget token).index := by
  unfold Store.releaseBudget
  split
  · exact hk.setBudget _ hs
  · exact hs

/-- One call keeps it, but for those that cache. -/
theorem run (c : StoreCall τ) (hc : ∀ ref, c ≠ .cache ref) (hP : P h.store.index) (hf : reuse ∨ c.Fresh h) :
    P (c.run h).store.index := by
  cases c with
  | setBudget bytes => exact hk.setBudget bytes hP
  | overrideBudget bytes => exact hk.setBudget bytes hP
  | releaseBudget token => exact hk.releaseBudget token hP
  | resetBudget => exact hk.setBudget _ hP
  | _ => exact hk.toSteady.run _ trivial hc hP hf

end Drained

/-- One call keeps what every operation keeps. -/
theorem Kept.run {reuse : Prop} {P : Index → Prop} (hk : Kept reuse P) {h : Host τ} (c : StoreCall τ)
    (hP : P h.store.index) (hf : reuse ∨ c.Fresh h) : P (c.run h).store.index := by
  cases c with
  | cache ref =>
    refine (Host.serves_cache ref h).store (P := fun s => P s.index) hP ?_
    rintro _ (rfl | rfl | ⟨payload, hp, rfl⟩)
    · exact hP
    · exact hk.touch _ hP
    · exact hk.insertCached _ hP hp
  | _ => exact hk.toDrained.run _ (fun ref heq => by cases heq) hP hf

/-! ## Runs -/

namespace Reached

variable {reuse : Prop} {h : Host τ}

/-- What every operation keeps is true wherever a run comes. -/
theorem index {P : Index → Prop} (hk : Kept reuse P) (hr : Reached reuse h) : P h.store.index := by
  induction hr with
  | new bay notices budget staleness _ => exact hk.new budget
  | call c _ hf ih => exact hk.run c ih hf

theorem bay (f : Bay τ → Bay τ) (hr : Reached reuse h) : Reached reuse (h.updateBay f) :=
  .call (.bay f) hr (.inr trivial)

theorem mono (hr : Reached reuse h) : Reached True h := by
  induction hr with
  | new bay notices budget staleness hb => exact .new bay notices budget staleness hb
  | call c _ _ ih => exact .call c ih (.inl trivial)

theorem runAll (calls : List (StoreCall τ)) (hr : Reached True h) : Reached True (h.runAll calls) := by
  induction calls generalizing h with
  | nil => exact hr
  | cons c rest ih => exact ih (.call c hr (.inl trivial))

theorem linked (hr : Reached reuse h) : Linked h.store.index :=
  hr.mono.index kept_linked

/-- Between calls no change of a slot waits to be told. -/
theorem changes_nil (hr : Reached reuse h) : h.bay.changes = [] := by
  induction hr with
  | new bay notices budget staleness hb => exact hb
  | @call h c _ _ ih =>
    cases c with
    | fetch handle => exact (Host.serves_fetch handle h).changes.trans ih
    | readRange ref length offset => exact (Host.serves_readRange ref length offset h).changes.trans ih
    | cache ref => exact (Host.serves_cache ref h).changes.trans ih
    | writeNew name content parent => exact (Host.serves_writeNew name content parent h).changes.trans ih
    | delete ref => exact (Host.serves_delete ref h).changes.trans ih
    | bay f => rfl
    | _ => exact ih

theorem sound (hr : Reached False h) : Sound h.store.index :=
  hr.index kept_sound

end Reached

/-! ## A run at a camera with two cards -/

/-- A new host of a camera with two empty cards; its store may cache 100 bytes. -/
def Host.unboxed : Host Link where
  bay := { engine := .idle }
  store := .create 100 300

/-- The same host with an open session and the first card mounted. -/
def Host.ready : Host Link :=
  ((Host.unboxed.updateBay fun b => (Bay.call none Engine.openSession b).2).updateBay fun b =>
    (Bay.scan b).2).updateBay
    fun b => (Bay.mount 0 b).2

theorem Host.reached_ready : Reached False Host.ready := by
  have hnew : Reached False Host.unboxed := .new _ [] 100 300 rfl
  exact ((hnew.bay _).bay _).bay _

/-- The same host with three bytes uploaded and cached. -/
def Host.stocked : Host Link :=
  Host.ready.runAll [.writeNew "a.jpg" [1, 2, 3] 0, .cache 0]

theorem Host.reached_stocked : Reached False Host.stocked := by
  have hempty : Host.ready.store.index.tree.entries = [] := by decide +kernel
  have hfresh : (StoreCall.writeNew "a.jpg" [1, 2, 3] 0).Fresh Host.ready := by
    intro ref h' _
    simp [Index.find?, OrderedMap.get?, hempty]
  exact .call (.cache 0) (.call _ Host.reached_ready (.inr hfresh)) (.inr trivial)

/-! ## The books -/

/-- Wherever a run comes in which uploads are given new handles, the order of use, the contents and the byte
count agree, the budget is kept, and nothing was ever taken off the byte count that was not on it. -/
theorem Reached.books_balance {h : Host τ} (hr : Reached False h) :
    (∀ tick handle, h.store.index.recency.get? tick = some handle ↔ h.store.index.ticks.get? handle = some tick) ∧
      (∀ handle, handle ∈ h.store.index.cachedHandles ↔
        ∃ o, h.store.index.lookup? handle = some o ∧ o.isCached = true) ∧
      h.store.index.cachedBytes = h.store.index.heldBytes ∧
      h.store.index.cachedBytes ≤ h.store.index.budget ∧
      h.store.index.check = .ok () ∧
      h.store.index.overdrawn = false := by
  have hs := hr.sound
  exact ⟨fun _ _ => hs.tick_iff, fun _ => hs.mem_cachedHandles_iff, hs.counted, hs.within,
    hs.check_eq_ok, hs.solvent⟩

theorem books_balance_stocked :
    (Reached False Host.stocked ∧ Host.stocked.store.index.cachedBytes = 3) ∧
      Host.stocked.store.index.check = .ok () :=
  ⟨⟨Host.reached_stocked, by decide +kernel⟩, (Reached.books_balance Host.reached_stocked).2.2.2.2.1⟩

end Tether
