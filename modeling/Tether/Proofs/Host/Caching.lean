import Tether.Proofs.Cache.Attached

/-!
# Tether.Proofs.Host.Caching — what it means that an object is cached now

`cache` asks for an object behind a reference and puts the content behind the object's handle.  As long as the
reference is the one that stands for the handle, these are the same object, and what is answered is true: the
object holds the content, was used last, and is read and cached again without the camera.  Once the handle has
another object, the answer is about that one, and the object behind the reference stays as it was
(`Reached.cache_truthful_iff`).
-/

namespace Tether

open Tether.Action
open Index (Linked)

namespace Index

variable {x : Index} {handle : UInt32} {ref : ObjectRef}

/-! ## The last content in the order of use -/

/-- What was used last stays there, unless it is dropped itself. -/
theorem Linked.last_evictFrom :
    ∀ {x : Index}, Linked x → ∀ {hs : List UInt32}, handle ∉ hs → x.cachedHandles.getLast? = some handle →
      (x.evictFrom hs).2.cachedHandles.getLast? = some handle
  | _, _, [], _, hlast => hlast
  | x, hx, first :: rest, hn, hlast => by
    rw [List.mem_cons, not_or] at hn
    obtain ⟨hne, hrest⟩ := hn
    unfold Index.evictFrom
    split
    · exact hlast
    · refine (hx.uncache first).last_evictFrom hrest ?_
      obtain ⟨front, hfront⟩ := List.getLast?_eq_some_iff.mp hlast
      rw [hx.cachedHandles_uncache, hfront, List.filter_append, List.filter_cons_of_pos (by simpa using hne),
        List.filter_nil, List.getLast?_concat]

/-- An object that stands for none of the handles is not concerned by an eviction of them. -/
theorem Linked.object_evictFrom :
    ∀ {x : Index}, Linked x → ∀ {hs : List UInt32}, (∀ handle ∈ hs, x.find? handle ≠ some ref) →
      (x.evictFrom hs).2.object ref = x.object ref
  | _, _, [], _ => rfl
  | x, hx, first :: rest, hn => by
    unfold Index.evictFrom
    split
    · rfl
    · have hfind : ∀ k, (x.uncache first).2.find? k = x.find? k := fun k => by
        unfold find?
        rw [hx.tree_uncache]
      refine ((hx.uncache first).object_evictFrom fun k hk => ?_).trans ?_
      · rw [hfind]
        exact hn k (List.mem_cons_of_mem _ hk)
      · rw [hx.object_uncache, if_neg (hn first List.mem_cons_self)]

/-! ## The content that was put in -/

theorem object_touch (x : Index) (handle : UInt32) (ref : ObjectRef) :
    (x.touch handle).object ref = x.object ref := by
  unfold touch object
  split
  · rw [objects_pushTick]
  · rfl

theorem find?_touch (x : Index) (handle k : UInt32) : (x.touch handle).find? k = x.find? k := by
  unfold touch find?
  split
  · rw [tree_pushTick]
  · rfl

theorem find?_place (x : Index) (handle : UInt32) (ref : ObjectRef) (payload : Bytes) (k : UInt32) :
    (x.place handle ref payload).find? k = x.find? k := by
  unfold find?
  rw [(sameEntries_place x handle ref payload).tree]

theorem find?_insertCached (x : Index) (handle : UInt32) (payload : Bytes) (k : UInt32) :
    (x.insertCached handle payload).2.find? k = x.find? k := by
  cases hf : x.find? handle with
  | none => rw [insertCached_of_find?_none hf]
  | some ref =>
    rw [insertCached_of_find? hf, ← find?_place x handle ref payload k]
    unfold find?
    rw [(sameEntries_evict (x.place handle ref payload) (some handle)).tree]

/-- What stands for no handle is not concerned by the contents that are put in. -/
theorem Linked.object_insertCached_of_detached (hx : Linked x) (hn : ∀ k, x.find? k ≠ some ref) (payload : Bytes) :
    (x.insertCached handle payload).2.object ref = x.object ref := by
  cases hf : x.find? handle with
  | none => rw [insertCached_of_find?_none hf]
  | some other =>
    have hne : ref ≠ other := by
      rintro rfl
      exact hn handle hf
    rw [insertCached_of_find? hf]
    refine ((hx.place payload hf).object_evictFrom fun k _ => ?_).trans ?_
    · rw [find?_place]
      exact hn k
    · rw [hx.object_place hf, if_neg hne]

section InsertCached

variable (hx : Linked x) (hf : x.find? handle = some ref) (payload : Bytes)
include hx hf

/-- The object of the handle has the content that was put in: the eviction that follows spares it. -/
theorem Linked.payload_insertCached : ((x.insertCached handle payload).2.object ref).payload = some payload := by
  rw [insertCached_of_find? hf]
  show (((x.place handle ref payload).evictFrom _).2.object ref).payload = _
  rw [(hx.place payload hf).object_evictFrom, hx.object_place hf, if_pos rfl]
  intro k hk hfk
  have hne : k ≠ handle := by simpa using List.of_mem_filter hk
  rw [find?_place] at hfk
  exact hne (hx.handle_inj hf hfk)

/-- What was put in was used last. -/
theorem Linked.last_insertCached : (x.insertCached handle payload).2.cachedHandles.getLast? = some handle := by
  rw [insertCached_of_find? hf]
  refine (hx.place payload hf).last_evictFrom (fun hk => ?_) ?_
  · simpa using List.of_mem_filter hk
  · rw [hx.cachedHandles_place, List.getLast?_concat]

end InsertCached

end Index

namespace Host

variable {τ : Type} [Transport τ] {h h' : Host τ} {ref : ObjectRef} {answer : Bool}

/-! ## How a caching goes -/

/-- How a caching that answers may go, with what it answers and where it ends. -/
inductive Caching (h : Host τ) (ref : ObjectRef) : Bool → Host τ → Prop
  /-- The object behind the reference holds a content already. -/
  | there {payload : Bytes} (hp : (h.store.index.object ref).payload = some payload) :
    Caching h ref true (h.updateStore (·.updateIndex (·.touch (h.store.index.object ref).handle)))
  /-- It is described as longer than the budget, and nothing is downloaded. -/
  | large (hp : (h.store.index.object ref).payload = none)
    (hsize : h.store.index.budget < (h.store.index.object ref).metadata.size.toNat) : Caching h ref false h
  /-- What the camera sent is longer than the budget. -/
  | long {payload : Bytes} {engine : Engine τ} (hp : (h.store.index.object ref).payload = none)
    (hd : Engine.download (h.store.index.object ref).handle h.bay.engine = (.ok payload, engine))
    (hlen : h.store.index.budget < payload.length) :
    Caching h ref false (({ h with bay := { h.bay with engine } }).count (Stats.recordCacheMiss payload.length))
  /-- What the camera sent is put behind the handle. -/
  | stored {payload : Bytes} {engine : Engine τ} (hp : (h.store.index.object ref).payload = none)
    (hsize : (h.store.index.object ref).metadata.size.toNat ≤ h.store.index.budget)
    (hd : Engine.download (h.store.index.object ref).handle h.bay.engine = (.ok payload, engine))
    (hlen : payload.length ≤ h.store.index.budget) :
    Caching h ref (h.store.index.insertCached (h.store.index.object ref).handle payload).1.1
      ((({ h with bay := { h.bay with engine } }).count (Stats.recordCacheMiss payload.length)).updateStore
        (·.updateIndex fun x => (x.insertCached (h.store.index.object ref).handle payload).2))

/-- A caching answers in one of these ways, or fails with the store as it was. -/
theorem leaves_cache (ref : ObjectRef) (h : Host τ) :
    Leaves (cache ref) h (Caching h ref) fun _ h' => h'.store = h.store := by
  unfold cache
  refine leaves_bind (leaves_state ?_)
  dsimp only
  split
  · rename_i hcached
    obtain ⟨payload, hp⟩ := Option.isSome_iff_exists.mp hcached
    exact leaves_bind (leaves_change (leaves_pure (.there hp)))
  · rename_i hcached
    have hp : (h.store.index.object ref).payload = none := Option.not_isSome_iff_eq_none.mp hcached
    split
    · rename_i hsize
      exact leaves_pure (.large hp hsize)
    · rename_i hsize
      refine leaves_bind (leaves_call_of ⟨fun payload engine hd => ?_, fun _ _ _ => rfl⟩)
      refine leaves_bind (leaves_change ?_)
      split
      · rename_i hlen
        exact leaves_pure (.long hp hd hlen)
      · rename_i hlen
        exact leaves_ofFunction (.stored hp (Nat.le_of_not_lt hsize) hd (Nat.le_of_not_lt hlen))

/-! ## What an answer means -/

/-- The object behind the reference holds a content, as the one of its handle, and was used last: a read of it
inside the content and another caching are answered with nothing sent. -/
structure Holds (h : Host τ) (ref : ObjectRef) (payload : Bytes) : Prop where
  content : (h.store.index.object ref).payload = some payload
  indexed : h.store.index.find? (h.store.index.object ref).handle = some ref
  last : h.store.index.cachedHandles.getLast? = some (h.store.index.object ref).handle
  read {offset : Nat} (hlt : offset < payload.length) (length : Nat) :
    (readRange ref length offset h).1 = .ok ((payload.drop offset).take length) ∧
      h.Silent (readRange ref length offset h).2
  again : (cache ref h).1 = .ok true ∧ h.Silent (cache ref h).2

/-- Content that is there is served without the camera. -/
theorem holds {handle : UInt32} {payload : Bytes} (hx : Linked h.store.index)
    (hf : h.store.index.find? handle = some ref) (hp : (h.store.index.object ref).payload = some payload)
    (hlast : h.store.index.cachedHandles.getLast? = some handle) : h.Holds ref payload where
  content := hp
  indexed := by rw [hx.handle_eq hf, hf]
  last := by rw [hx.handle_eq hf, hlast]
  read hlt length := by
    rw [readRange_of_cached hp hlt]
    exact ⟨rfl, rfl⟩
  again := by
    rw [cache_of_cached hp]
    exact ⟨rfl, rfl⟩

/-- The content that a caching is about: the one that the object holds, or else the one that the camera sends. -/
def Supplied (h : Host τ) (ref : ObjectRef) (payload : Bytes) : Prop :=
  (h.store.index.object ref).payload = some payload ∨
    (h.store.index.object ref).payload = none ∧
      ∃ engine, Engine.download (h.store.index.object ref).handle h.bay.engine = (.ok payload, engine)

/-- The object is longer than the budget, as it is described or as the camera sends it. -/
def Oversized (h : Host τ) (ref : ObjectRef) : Prop :=
  h.store.index.budget < (h.store.index.object ref).metadata.size.toNat ∨
    ∃ payload engine, Engine.download (h.store.index.object ref).handle h.bay.engine = (.ok payload, engine) ∧
      h.store.index.budget < payload.length

/-- What a caching of `ref` answers is true: yes, when the object holds the content now; no, when the object is
not the one of its handle. -/
structure Truthful (h : Host τ) (ref : ObjectRef) (answer : Bool) (h' : Host τ) : Prop where
  cached (ha : answer = true) : ∃ payload, h.Supplied ref payload ∧ h'.Holds ref payload
  detached (hn : h.store.index.find? (h.store.index.object ref).handle ≠ some ref) : answer = false

namespace Caching

variable (hc : Caching h ref answer h') (hx : Linked h.store.index)
include hc hx

/-- What is downloaded goes to the object that stands for the handle now. -/
theorem holds_of_downloaded {other : ObjectRef}
    (hf : h.store.index.find? (h.store.index.object ref).handle = some other)
    (hp : (h.store.index.object ref).payload = none) (ha : answer = true) :
    ∃ payload, h.Supplied ref payload ∧ h'.Holds other payload := by
  cases hc with
  | there hp' =>
    rw [hp] at hp'
    cases hp'
  | large => cases ha
  | long => cases ha
  | @stored payload engine _ _ hd _ =>
    exact ⟨payload, .inr ⟨hp, engine, hd⟩, holds (hx.insertCached _ payload)
      ((Index.find?_insertCached _ _ payload _).trans hf) (hx.payload_insertCached hf payload)
        (hx.last_insertCached hf payload)⟩

/-- The answer about an object that stands for its handle is true. -/
theorem truthful_of_indexed (hf : h.store.index.find? (h.store.index.object ref).handle = some ref) :
    h.Truthful ref answer h' where
  detached hn := absurd hf hn
  cached ha := by
    cases hp : (h.store.index.object ref).payload with
    | none => exact hc.holds_of_downloaded hx hf hp ha
    | some payload =>
      refine ⟨payload, .inl hp, ?_⟩
      cases hc with
      | there =>
        refine holds (hx.touch _) ((Index.find?_touch _ _ _).trans hf) ?_ ?_
        · exact (congrArg RemoteObject.payload (Index.object_touch _ _ ref)).trans hp
        · have hcached : (h.store.index.object ref).isCached = true := by
            rw [RemoteObject.isCached, hp]
            rfl
          have hlast := hx.cachedHandles_touch (Index.lookup?_of_find? hf) hcached
          exact (congrArg List.getLast? hlast).trans List.getLast?_concat
      | large => cases ha
      | long => cases ha
      | stored hp' =>
        rw [hp] at hp'
        cases hp'

/-- An object that does not stand for its handle stays as it was. -/
theorem object_of_detached (hn : h.store.index.find? (h.store.index.object ref).handle ≠ some ref) :
    h'.store.index.object ref = h.store.index.object ref := by
  have hnone : ∀ k, h.store.index.find? k ≠ some ref := by
    intro k hf
    rw [hx.handle_eq hf] at hn
    exact hn hf
  cases hc with
  | there => exact Index.object_touch _ _ ref
  | large => rfl
  | long => rfl
  | stored => exact hx.object_insertCached_of_detached hnone _

/-- The answer is true unless there is a yes about an object that does not stand for its handle. -/
theorem truthful_iff : h.Truthful ref answer h' ↔
    h.store.index.find? (h.store.index.object ref).handle = some ref ∨
      (h.store.index.object ref).payload = none ∧
        (h.store.index.find? (h.store.index.object ref).handle = none ∨ h.Oversized ref) := by
  by_cases hf : h.store.index.find? (h.store.index.object ref).handle = some ref
  · exact iff_of_true (hc.truthful_of_indexed hx hf) (.inl hf)
  have hfalse : h.Truthful ref answer h' ↔ answer = false := by
    refine ⟨fun ht => ht.detached hf, fun ha => { cached := fun ha' => ?_, detached := fun _ => ha }⟩
    rw [ha] at ha'
    cases ha'
  rw [hfalse, or_iff_right hf]
  cases hc with
  | there hp =>
    refine iff_of_false Bool.noConfusion fun hno => ?_
    rw [hp] at hno
    cases hno.1
  | large hp hsize => exact iff_of_true rfl ⟨hp, .inr (.inl hsize)⟩
  | @long payload engine hp hd hlen => exact iff_of_true rfl ⟨hp, .inr (.inr ⟨payload, engine, hd, hlen⟩)⟩
  | @stored payload engine hp hsize hd hlen =>
    cases hfound : h.store.index.find? (h.store.index.object ref).handle with
    | none =>
      rw [Index.insertCached_of_find?_none hfound]
      exact iff_of_true rfl ⟨hp, .inl rfl⟩
    | some other =>
      rw [Index.insertCached_of_find? hfound]
      refine iff_of_false Bool.noConfusion ?_
      rintro ⟨-, hnone | hover | ⟨payload', engine', hd', hover⟩⟩
      · cases hnone
      · exact absurd hover (Nat.not_lt.mpr hsize)
      · rw [hd] at hd'
        cases hd'
        exact absurd hover (Nat.not_lt.mpr hlen)

end Caching

end Host

variable {τ : Type} [Transport τ]

/-- Wherever a run comes, whatever the camera sends: `cache` answers the truth about an object exactly when that
one stands for its handle, or holds no content and could not get the handle any either.  What is downloaded goes
to the object that stands for the handle, and one that does not stand for its own stays as it was. -/
theorem Reached.cache_truthful_iff {h h' : Host τ} {ref : ObjectRef} {answer : Bool} (hr : Reached True h)
    (hc : Host.cache ref h = (.ok answer, h')) :
    (h.Truthful ref answer h' ↔
      h.store.index.find? (h.store.index.object ref).handle = some ref ∨
        (h.store.index.object ref).payload = none ∧
          (h.store.index.find? (h.store.index.object ref).handle = none ∨ h.Oversized ref)) ∧
    (∀ other, h.store.index.find? (h.store.index.object ref).handle = some other →
      (h.store.index.object ref).payload = none → answer = true →
        ∃ payload, h.Supplied ref payload ∧ h'.Holds other payload) ∧
    (h.store.index.find? (h.store.index.object ref).handle ≠ some ref →
      h'.store.index.object ref = h.store.index.object ref) := by
  have hcaching := (Host.leaves_cache ref h).1 _ _ hc
  exact ⟨hcaching.truthful_iff hr.linked, fun _ hf hp ha => hcaching.holds_of_downloaded hr.linked hf hp ha,
    hcaching.object_of_detached hr.linked⟩

/-! ## A picture that is fetched again -/

/-- The picture was dropped from the cache. -/
def Host.dropped : Host Link :=
  Host.stocked.runAll [.invalidate 1]

/-- The picture was forgotten and fetched again, which gives its handle another object. -/
def Host.refetched : Host Link :=
  Host.stocked.runAll [.forget 1, .fetch 1]

/-- The picture is cached again, and its content is what is read then. -/
theorem Reached.cache_truthful_dropped :
    Reached True Host.dropped ∧ Host.cache 0 Host.dropped = (.ok true, (Host.cache 0 Host.dropped).2) ∧
      (Host.cache 0 Host.dropped).2.Holds 0 [1, 2, 3] := by
  have hr : Reached True Host.dropped := (Reached.call (.invalidate 1) Host.reached_stocked (.inr trivial)).mono
  have hc : Host.cache 0 Host.dropped = (.ok true, (Host.cache 0 Host.dropped).2) :=
    Prod.ext (by decide +kernel : (Host.cache 0 Host.dropped).1 = .ok true) rfl
  have hf : Host.dropped.store.index.find? (Host.dropped.store.index.object 0).handle = some 0 := by decide +kernel
  obtain ⟨payload, -, hholds⟩ := ((Reached.cache_truthful_iff hr hc).1.mpr (.inl hf)).cached rfl
  have hcontent : ((Host.cache 0 Host.dropped).2.store.index.object 0).payload = some [1, 2, 3] := by
    decide +kernel
  rw [← Option.some.inj (hholds.content.symm.trans hcontent)]
  exact ⟨hr, hc, hholds⟩

/-- The object from before is said to be cached and holds nothing: the content went to the one that stands for
the handle now. -/
theorem cache_yes_for_refetched :
    Reached True Host.refetched ∧ Host.refetched.store.index.find? 1 = some 1 ∧
      (Host.refetched.store.index.object 0).handle = 1 ∧ (Host.cache 0 Host.refetched).1 = .ok true ∧
      ((Host.cache 0 Host.refetched).2.store.index.object 0).payload = none ∧
      ((Host.cache 0 Host.refetched).2.store.index.object 1).payload = some [1, 2, 3] := by
  have hr : Reached True Host.refetched :=
    (Reached.call (.fetch 1) (.call (.forget 1) Host.reached_stocked (.inr trivial)) (.inr trivial)).mono
  exact ⟨hr, by decide +kernel, by decide +kernel, by decide +kernel, by decide +kernel, by decide +kernel⟩

end Tether
