import Tether.Host.Objects
import Tether.Proofs.Action
import Tether.Proofs.Cache.Lookup

/-!
# Tether.Proofs.Host.Effects — what each call does to the store

A call to the camera changes the engine alone.  So every call of a host leaves the store as it was when it fails,
and when it answers it has made one change to the store, which does not depend on how the camera was asked.  No
such call puts a change of a slot down.
-/

namespace Tether.Host

open Tether.Action

variable {τ : Type}

/-- Where a change of the bay puts nothing down, there is nothing to tell. -/
theorem updateBay_of_quiet {f : Bay τ → Bay τ} {h : Host τ} (hnil : (f h.bay).changes = []) :
    h.updateBay f = { h with bay := f h.bay } := by
  unfold updateBay settle
  dsimp only
  rw [hnil, List.append_nil, List.foldl_nil, ← hnil]

/-- From `h` to `h'` the store became `s`, and no change of a slot was put down. -/
structure Turned (h : Host τ) (s : Store) (h' : Host τ) : Prop where
  store : h'.store = s
  changes : h'.bay.changes = h.bay.changes

/-- A call to the camera changes the engine alone. -/
theorem leaves_call {α : Type} {handle : Option UInt32} {x : Action (Engine τ) PtpError α} {h : Host τ}
    {Q : α → Host τ → Prop} {E : StorageError → Host τ → Prop}
    (hQ : ∀ a engine, Q a { h with bay := { h.bay with engine } })
    (hE : ∀ e engine, E e { h with bay := { h.bay with engine } }) : (call handle x).Leaves h Q E := by
  constructor
  · rintro a h' hx
    obtain ⟨-, rfl⟩ := Prod.mk.inj hx
    exact hQ a _
  · rintro e h' hx
    obtain ⟨-, rfl⟩ := Prod.mk.inj hx
    exact hE e _

/-- A call to the camera comes to what the engine comes to. -/
theorem leaves_call_of {α : Type} {handle : Option UInt32} {x : Action (Engine τ) PtpError α} {h : Host τ}
    {Q : α → Host τ → Prop} {E : StorageError → Host τ → Prop}
    (hx : x.Leaves h.bay.engine (fun a engine => Q a { h with bay := { h.bay with engine } })
      fun e engine => E (.ofPtp handle e) { h with bay := { h.bay with engine } }) :
    (call handle x).Leaves h Q E := by
  have hcall : call handle x h =
      ((x.mapError (StorageError.ofPtp handle) h.bay.engine).1,
        { h with bay := { h.bay with engine := (x.mapError (StorageError.ofPtp handle) h.bay.engine).2 } }) := rfl
  unfold Action.mapError at hcall
  cases hr : x h.bay.engine with
  | mk r engine =>
    rw [hr] at hcall
    cases r with
    | ok a => exact leaves_of_eq_ok hcall (hx.1 a engine hr)
    | error e => exact leaves_of_eq_error hcall (hx.2 e engine hr)

/-- `x` run in `h` answers with a store that `S` allows, or fails with the store as it was, and puts no change of
a slot down. -/
def Serves {α : Type} (x : Action (Host τ) StorageError α) (h : Host τ) (S : Store → Prop) : Prop :=
  x.Leaves h (fun _ h' => ∃ s, S s ∧ h.Turned s h') fun _ h' => h.Turned h.store h'

section Serves

variable {α : Type} {x : Action (Host τ) StorageError α} {h : Host τ} {S : Store → Prop}

theorem Serves.changes (hx : Serves x h S) : (x h).2.bay.changes = h.bay.changes :=
  Leaves.state (P := fun h' => h'.bay.changes = h.bay.changes)
    (hx.mono (fun _ _ ⟨_, _, ht⟩ => ht.changes) fun _ _ ht => ht.changes)

/-- What holds of the store before, and of every store that is allowed, holds of the store afterwards. -/
theorem Serves.store {P : Store → Prop} (hx : Serves x h S) (hP : P h.store) (hS : ∀ s, S s → P s) :
    P (x h).2.store := by
  refine Leaves.state (P := fun h' => P h'.store) (hx.mono ?_ ?_)
  · rintro _ h' ⟨s, hs, ht⟩
    rw [ht.store]
    exact hS s hs
  · intro _ h' ht
    rw [ht.store]
    exact hP

end Serves

variable [Transport τ]

theorem serves_fetch (handle : UInt32) (h : Host τ) :
    Serves (fetch handle) h fun s => ∃ metadata, s = (h.store.learn handle metadata).2 := by
  unfold Serves fetch
  split
  · exact leaves_bind (leaves_fail ⟨rfl, rfl⟩)
  · refine leaves_bind (leaves_call (fun info engine => ?_) fun _ _ => ⟨rfl, rfl⟩)
    refine leaves_bind (leaves_read ?_)
    exact leaves_ofFunction ⟨_, ⟨_, rfl⟩, rfl, rfl⟩

/-- A read from the cache makes the object the most recently used one; nothing else happens to the store. -/
theorem serves_readRange (ref : ObjectRef) (length offset : Nat) (h : Host τ) :
    Serves (readRange ref length offset) h fun s =>
      s = h.store ∨ s = h.store.updateIndex (·.touch (h.store.index.object ref).handle) := by
  unfold Serves readRange
  refine leaves_bind (leaves_read ?_)
  dsimp only
  split
  · exact leaves_bind (leaves_change (leaves_pure ⟨_, .inr rfl, rfl, rfl⟩))
  · split
    · exact leaves_bind (leaves_fail ⟨rfl, rfl⟩)
    · split
      · exact leaves_pure ⟨_, .inl rfl, rfl, rfl⟩
      · refine leaves_bind (leaves_call (fun data engine => ?_) fun _ _ => ⟨rfl, rfl⟩)
        exact leaves_bind (leaves_change (leaves_pure ⟨_, .inl rfl, rfl, rfl⟩))

theorem serves_cache (ref : ObjectRef) (h : Host τ) :
    Serves (cache ref) h fun s =>
      s = h.store ∨ s = h.store.updateIndex (·.touch (h.store.index.object ref).handle) ∨
        ∃ payload, payload.length ≤ h.store.index.budget ∧
          s = h.store.updateIndex fun x => (x.insertCached (h.store.index.object ref).handle payload).2 := by
  unfold Serves cache
  refine leaves_bind (leaves_state ?_)
  dsimp only
  split
  · exact leaves_bind (leaves_change (leaves_pure ⟨_, .inr (.inl rfl), rfl, rfl⟩))
  · split
    · exact leaves_pure ⟨_, .inl rfl, rfl, rfl⟩
    · refine leaves_bind (leaves_call (fun payload engine => ?_) fun _ _ => ⟨rfl, rfl⟩)
      refine leaves_bind (leaves_change ?_)
      split
      · exact leaves_pure ⟨_, .inl rfl, rfl, rfl⟩
      · rename_i hle
        exact leaves_ofFunction ⟨_, .inr (.inr ⟨payload, Nat.le_of_not_lt hle, rfl⟩), rfl, rfl⟩

/-- An upload that succeeds puts one new object in, under the name that was given, and answers it. -/
theorem leaves_writeNew (name : String) (content : Bytes) (parent : UInt32) (h : Host τ) :
    (writeNew name content parent).Leaves h
      (fun ref h' => ∃ handle metadata, h.Turned (h.store.add handle metadata).2 h' ∧
        h'.store.index.object ref = { handle, metadata } ∧ metadata.name = name)
      fun _ h' => h.Turned h.store h' := by
  unfold writeNew
  refine leaves_bind (leaves_ofExcept (fun _ _ => ?_) fun _ _ => ⟨rfl, rfl⟩)
  refine leaves_bind (leaves_ofExcept (fun size _ => ?_) fun _ _ => ⟨rfl, rfl⟩)
  refine leaves_bind (leaves_state ?_)
  refine leaves_bind (leaves_ofExcept (fun target _ => ?_) fun _ _ => ⟨rfl, rfl⟩)
  refine leaves_bind (leaves_call (fun handle engine => ?_) fun _ _ => ⟨rfl, rfl⟩)
  refine leaves_bind (leaves_call (fun _ engine => ?_) fun _ _ => ⟨rfl, rfl⟩)
  refine leaves_bind (leaves_change ?_)
  refine leaves_bind (leaves_read ?_)
  refine leaves_ofFunction ⟨handle, _, ⟨rfl, rfl⟩, ?_, rfl⟩
  exact (Index.object_insert _ _ _).trans (if_pos rfl)

theorem serves_writeNew (name : String) (content : Bytes) (parent : UInt32) (h : Host τ) :
    Serves (writeNew name content parent) h fun s => ∃ handle metadata, s = (h.store.add handle metadata).2 :=
  (leaves_writeNew name content parent h).mono
    (fun _ _ ⟨handle, metadata, ht, _⟩ => ⟨_, ⟨handle, metadata, rfl⟩, ht⟩) fun _ _ ht => ht

theorem serves_delete (ref : ObjectRef) (h : Host τ) :
    Serves (delete ref) h fun s => s = (h.store.forget (h.store.index.object ref).handle).2 := by
  unfold Serves delete
  refine leaves_bind (leaves_read ?_)
  refine leaves_bind (leaves_call (fun _ engine => ?_) fun _ _ => ⟨rfl, rfl⟩)
  exact leaves_change ⟨_, rfl, rfl, rfl⟩

/-! ## Content that is there -/

/-- From `h` to `h'` nothing went over the link: the engine is as it was, but for the counters. -/
def Silent (h h' : Host τ) : Prop :=
  h'.bay.engine = { h.bay.engine with stats := h'.bay.engine.stats }

section Cached

variable {h : Host τ} {ref : ObjectRef} {payload : Bytes} (hp : (h.store.index.object ref).payload = some payload)
include hp

/-- What is cached is read without the camera, and the object becomes the most recently used one. -/
theorem readRange_of_cached {offset : Nat} (hlt : offset < payload.length) (length : Nat) :
    readRange ref length offset h = (.ok ((payload.drop offset).take length),
      (h.updateStore (·.updateIndex (·.touch (h.store.index.object ref).handle))).count
        (Stats.recordCacheHit ((payload.drop offset).take length).length)) := by
  have hread : (Action.read (fun h => h.store.index.object ref) : Action (Host τ) StorageError RemoteObject) h =
      (.ok (h.store.index.object ref), h) := rfl
  unfold readRange
  rw [bind_apply, hread]
  dsimp only
  rw [hp, Option.getD_some, if_pos hlt]
  rfl

/-- What is cached is not downloaded again, and the object becomes the most recently used one. -/
theorem cache_of_cached :
    cache ref h = (.ok true, h.updateStore (·.updateIndex (·.touch (h.store.index.object ref).handle))) := by
  have hstate : (Action.state : Action (Host τ) StorageError (Host τ)) h = (.ok h, h) := rfl
  have hcached : (h.store.index.object ref).isCached = true := by
    rw [RemoteObject.isCached, hp]
    rfl
  unfold cache
  rw [bind_apply, hstate]
  dsimp only
  rw [if_pos hcached]
  rfl

end Cached

end Tether.Host
