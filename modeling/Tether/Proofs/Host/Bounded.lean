import Tether.Proofs.Host.Caching
import Tether.Proofs.Host.Reading

/-!
# Tether.Proofs.Host.Bounded — reads stay inside the object

A read asks the camera for no more than is left of the object as it is described, but fills the buffer with
whatever is sent, and from the cache it serves all that was downloaded.  So it goes behind the end exactly when
the camera sent more than was described, then or now (`Host.read_clamped_iff`).  Along a run in which no download
is longer than the description, contents stay within it (`Metered.fits`), and only what is sent for the read
itself can be too long.
-/

namespace Tether

open Tether.Action
open Ptp (Operation)
open Index (Linked Drains SameRecords)

namespace Index

variable {x y : Index} {handle : UInt32}

/-! ## Contents within their descriptions -/

/-- No content, of the objects in the tree and of the others, is longer than its object was described. -/
def Fits (x : Index) : Prop :=
  ∀ ref payload, (x.object ref).payload = some payload → payload.length ≤ (x.object ref).metadata.size.toNat

theorem fits_new (budget : Nat) : Fits { budget } := by
  intro ref payload hp
  rw [object_of_le (Nat.zero_le ref)] at hp
  cases hp

theorem Drains.refl (x : Index) : Drains x x :=
  fun _ _ hp => hp

theorem Drains.uncache (hd : Drains x y) (handle : UInt32) : Drains x (y.uncache handle).2 :=
  fun ref payload hp => hd ref payload (drains_uncache y handle ref payload hp)

/-- Contents come into an index by `insertCached` alone. -/
theorem drained_drains (x : Index) : Drained True (Drains x) where
  new budget := by
    intro ref payload hp
    rw [object_of_le (Nat.zero_le ref)] at hp
    cases hp
  books hd h _ := fun ref payload hp => hd ref payload (h.payload ref ▸ hp)
  insert {y o} hd ho _ := by
    intro ref payload hp
    rw [object_insert] at hp
    split at hp
    · rw [RemoteObject.isCached, hp] at ho
      cases ho
    · exact hd ref payload hp
  touch {y} handle hd := by
    intro ref payload hp
    rw [object_touch] at hp
    exact hd ref payload hp
  uncache handle hd := hd.uncache handle
  remove handle hd := hd.uncache handle
  clear {y} hd := uncacheAll_induction (P := Drains x) (fun _ handle h => h.uncache handle) y.cachedHandles y hd
  setBudget {y} budget hd := evictFrom_induction (P := Drains x)
    (fun _ handle h => h.uncache handle) _ { y with budget } hd

namespace Fits

variable (hx : Fits x)
include hx

theorem drains (hd : Drains x y) (hr : SameRecords x y) : Fits y := by
  intro ref payload hp
  rw [RemoteObject.size_of_record (hr.record ref)]
  exact hx ref payload (hd ref payload hp)

theorem insert {o : RemoteObject} (ho : o.isCached = false) : Fits (x.insert o).2 := by
  intro ref payload hp
  rw [object_insert] at hp ⊢
  split
  · rename_i hnew
    rw [if_pos hnew] at hp
    rw [RemoteObject.isCached, hp] at ho
    cases ho
  · rename_i hold
    rw [if_neg hold] at hp
    exact hx ref payload hp

/-- What is put in must not be longer than the object of its handle was described. -/
theorem insertCached (hlinked : Linked x) {payload : Bytes}
    (hlen : ∀ o, x.lookup? handle = some o → payload.length ≤ o.metadata.size.toNat) :
    Fits (x.insertCached handle payload).2 := by
  cases hf : x.find? handle with
  | none =>
    rw [insertCached_of_find?_none hf]
    exact hx
  | some ref =>
    have hplaced : Fits (x.place handle ref payload) := by
      intro ref' payload' hp
      rw [hlinked.object_place hf] at hp ⊢
      split
      · rename_i hself
        rw [if_pos hself] at hp
        rw [← Option.some.inj hp]
        exact hlen (x.object ref) (lookup?_of_find? hf)
      · rename_i hother
        rw [if_neg hother] at hp
        exact hx ref' payload' hp
    rw [insertCached_of_find? hf]
    exact evictFrom_induction (P := Fits) (fun z k hz => hz.drains (drains_uncache z k) (.uncache z k)) _ _ hplaced

end Fits

end Index

theorem ObjectMetadata.size_refresh (old new : ObjectMetadata) : (old.refresh new).size = new.size := by
  unfold ObjectMetadata.refresh
  split
  · rfl
  · split <;> rfl

/-- A description with another size drops what was cached. -/
theorem Store.fits_learn {s : Store} (hx : s.index.Fits) (hlinked : Linked s.index) (handle : UInt32)
    (metadata : ObjectMetadata) : (s.learn handle metadata).2.index.Fits := by
  unfold Store.learn
  split
  · rename_i ref hf
    have hbooks :=
      Index.sameBooks_modify s.index ref (f := fun o => { o with metadata := o.metadata.refresh metadata })
      (fun _ => rfl) fun _ => rfl
    dsimp only
    split
    · intro ref' payload hp
      rw [(hbooks.linked hlinked).object_uncache, hbooks.find?, hf] at hp ⊢
      by_cases hself : ref' = ref
      · rw [if_pos (congrArg some hself.symm)] at hp
        cases hp
      · have hne : some ref ≠ some ref' := fun h => hself (Option.some.inj h).symm
        rw [if_neg hne, Index.object_modify, if_neg fun h => hself h.1] at hp ⊢
        exact hx ref' payload hp
    · rename_i hdiffers
      have hsize : (s.index.object ref).metadata.size = metadata.size := by
        simp only [ObjectMetadata.differs, ne_eq, Bool.or_eq_true, decide_eq_true_eq, not_or, not_not] at hdiffers
        exact hdiffers.1
      intro ref' payload hp
      rw [hbooks.payload] at hp
      rw [Index.object_modify]
      split
      · rename_i hself
        show payload.length ≤ ((s.index.object ref).metadata.refresh metadata).size.toNat
        rw [ObjectMetadata.size_refresh, ← hsize]
        exact hx ref payload (hself.1 ▸ hp)
      · exact hx ref' payload hp
  · exact hx.insert rfl

/-! ## Runs in which downloads are no longer than described -/

variable {τ : Type} [Transport τ]

/-- What the call downloads is no longer than the object that gets it was described. -/
def StoreCall.Metered (c : StoreCall τ) (h : Host τ) : Prop :=
  match c with
  | .cache ref => ∀ payload engine,
      Engine.download (h.store.index.object ref).handle h.bay.engine = (.ok payload, engine) →
        ∀ o, h.store.index.lookup? (h.store.index.object ref).handle = some o →
          payload.length ≤ o.metadata.size.toNat
  | _ => True

/-- The hosts that runs reach from a new store in which no download is longer than described. -/
inductive Metered : Host τ → Prop
  | new (bay : Bay τ) (notices : List VolumeChange) (budget staleness : Nat) : bay.changes = [] →
      Metered { bay, store := .create budget staleness, notices }
  | call {h : Host τ} (c : StoreCall τ) : Metered h → c.Metered h → Metered (c.run h)

/-- A download into the cache that is no longer than described. -/
theorem Host.fits_cache {h : Host τ} {ref : ObjectRef} (hx : h.store.index.Fits) (hlinked : Linked h.store.index)
    (hm : (StoreCall.cache ref).Metered h) : (cache ref h).2.store.index.Fits := by
  refine Leaves.state (P := fun h' : Host τ => h'.store.index.Fits) ((leaves_cache ref h).mono ?_ ?_)
  · intro answer h' hc
    cases hc with
    | there => exact hx.drains ((Index.drained_drains _).touch _ (.refl _)) (.touch _ _)
    | large => exact hx
    | long => exact hx
    | @stored payload engine _ _ hd _ => exact hx.insertCached hlinked (hm payload engine hd)
  · intro _ h' hs
    rw [hs]
    exact hx

/-- One call keeps contents within their descriptions, if it downloads nothing longer. -/
theorem StoreCall.fits_run (c : StoreCall τ) {h : Host τ} (hx : h.store.index.Fits)
    (hlinked : Linked h.store.index) (hm : c.Metered h) : (c.run h).store.index.Fits := by
  have hdrains : (∀ ref, c ≠ .cache ref) → Drains h.store.index (c.run h).store.index := fun hc =>
    (Index.drained_drains _).run c hc (.refl _) (.inl trivial)
  cases c with
  | cache ref => exact Host.fits_cache hx hlinked hm
  | fetch handle =>
    refine (Host.serves_fetch handle h).store (P := fun s => s.index.Fits) hx ?_
    rintro _ ⟨metadata, rfl⟩
    exact Store.fits_learn hx hlinked handle metadata
  | writeNew name content parent =>
    refine (Host.serves_writeNew name content parent h).store (P := fun s => s.index.Fits) hx ?_
    rintro _ ⟨handle, metadata, rfl⟩
    exact hx.insert rfl
  | bay f => exact hx.drains (hdrains fun ref heq => by cases heq) (Store.sameRecords_followAll _ h.store)
  | _ => exact hx.drains (hdrains fun ref heq => by cases heq) (StoreCall.sameRecords id h)

namespace Metered

variable {h : Host τ}

theorem reached (hr : Metered h) : Reached True h := by
  induction hr with
  | new bay notices budget staleness hb => exact .new bay notices budget staleness hb
  | call c _ _ ih => exact .call c ih (.inl trivial)

theorem bay (f : Bay τ → Bay τ) (hr : Metered h) : Metered (h.updateBay f) :=
  .call (.bay f) hr trivial

/-- Wherever such a run comes, contents are within their descriptions. -/
theorem fits (hr : Metered h) : h.store.index.Fits := by
  induction hr with
  | new bay notices budget staleness _ => exact Index.fits_new budget
  | call c hr hm ih => exact c.fits_run ih hr.reached.linked hm

end Metered

/-! ## What a read serves -/

namespace Host

variable {h h' : Host τ} {ref : ObjectRef} {length offset n : Nat} {buffer filled : Bytes}

/-- The bytes that a read serves, and where they come from. -/
inductive Serving (h : Host τ) (ref : ObjectRef) (length offset : Nat) : Bytes → Prop
  /-- The read starts inside the cached content. -/
  | cached {payload : Bytes} (hp : (h.store.index.object ref).payload = some payload)
    (hlt : offset < payload.length) :
    Serving h ref length offset ((payload.drop offset).take length)
  /-- The read starts at the end or behind it, or has no room. -/
  | nothing (hmiss : ((h.store.index.object ref).payload.getD []).length ≤ offset)
    (hend : (h.store.index.object ref).metadata.size.toNat ≤ offset ∨ length = 0) : Serving h ref length offset []
  /-- The camera is asked for what is left of the object, up to the length of the read. -/
  | sent {data : Bytes} {engine : Engine τ} (hmiss : ((h.store.index.object ref).payload.getD []).length ≤ offset)
    (hlt : offset < (h.store.index.object ref).metadata.size.toNat)
    (hd : Engine.downloadPart (h.store.index.object ref).handle (.ofNat offset)
      (.ofNat (min length ((h.store.index.object ref).metadata.size.toNat - offset))) h.bay.engine =
        (.ok data, engine)) :
    Serving h ref length offset (data.take length)

theorem leaves_serving (ref : ObjectRef) (length offset : Nat) (h : Host τ) :
    Leaves (readRange ref length offset) h (fun bytes _ => Serving h ref length offset bytes) fun _ _ => True := by
  unfold readRange
  refine leaves_bind (leaves_read ?_)
  dsimp only
  split
  · rename_i hlt
    cases hp : (h.store.index.object ref).payload with
    | none =>
      rw [hp] at hlt
      exact absurd hlt (Nat.not_lt_zero _)
    | some payload =>
      rw [hp, Option.getD_some] at hlt
      exact leaves_bind (leaves_change (leaves_pure (.cached hp hlt)))
  · rename_i hmiss
    have hmiss := Nat.le_of_not_lt hmiss
    split
    · exact leaves_bind (leaves_fail trivial)
    · split
      · rename_i hend
        exact leaves_pure (.nothing hmiss hend)
      · rename_i hend
        rw [not_or, Nat.not_le] at hend
        refine leaves_bind (leaves_call_of ⟨fun data engine hd => ?_, fun _ _ _ => trivial⟩)
        exact leaves_bind (leaves_change (leaves_pure (.sent hmiss hend.1 hd)))

/-- What was downloaded goes on behind the end of the object, and the read gets there. -/
def CacheOverruns (h : Host τ) (ref : ObjectRef) (length offset : Nat) : Prop :=
  ∃ payload, (h.store.index.object ref).payload = some payload ∧ offset < payload.length ∧
    (h.store.index.object ref).metadata.size.toNat - offset < min length (payload.length - offset)

/-- The camera is asked for all that is left of the object, and sends more, for which the buffer has room. -/
def CameraOverruns (h : Host τ) (ref : ObjectRef) (length offset : Nat) : Prop :=
  ((h.store.index.object ref).payload.getD []).length ≤ offset ∧
  offset < (h.store.index.object ref).metadata.size.toNat ∧
    (h.store.index.object ref).metadata.size.toNat - offset < length ∧
    ∃ data engine, Engine.downloadPart (h.store.index.object ref).handle (.ofNat offset)
        (.ofNat ((h.store.index.object ref).metadata.size.toNat - offset)) h.bay.engine = (.ok data, engine) ∧
      (h.store.index.object ref).metadata.size.toNat - offset < data.length

omit [Transport τ] in
/-- Contents within their descriptions end with their objects. -/
theorem not_cacheOverruns_of_fits (hx : h.store.index.Fits) (ref : ObjectRef) (length offset : Nat) :
    ¬ h.CacheOverruns ref length offset := by
  rintro ⟨payload, hp, hlt, hover⟩
  have hlen := hx ref payload hp
  omega

/-- A camera without faults sends no more than it is asked for. -/
theorem not_cameraOverruns_of_ready {h : Host Camera} (hready : Engine.Ready h.bay.engine) (ref : ObjectRef)
    (length offset : Nat) : ¬ h.CameraOverruns ref length offset := by
  rintro ⟨-, -, -, data, engine, hd, hover⟩
  obtain ⟨-, -, o, -, rfl⟩ := (hready.leaves_downloadPart _ _ _).1 data engine hd
  refine absurd hover (Nat.not_lt.mpr (Nat.le_trans (length_fitting_le _) ?_))
  refine Nat.le_trans (List.length_take_le _ _) ?_
  rw [UInt32.toNat_ofNat']
  exact Nat.mod_le _ _

namespace Serving

variable {bytes : Bytes} (hs : Serving h ref length offset bytes)
include hs

theorem length_le : bytes.length ≤ length := by
  cases hs with
  | cached => exact List.length_take_le _ _
  | nothing => exact Nat.zero_le _
  | sent => exact List.length_take_le _ _

/-- The bytes end with the object, unless they are from a content or an answer that goes on behind its end. -/
theorem length_le_iff : bytes.length ≤ (h.store.index.object ref).metadata.size.toNat - offset ↔
    ¬ h.CacheOverruns ref length offset ∧ ¬ h.CameraOverruns ref length offset := by
  have hno : ((h.store.index.object ref).payload.getD []).length ≤ offset →
      ¬ h.CacheOverruns ref length offset := by
    rintro hmiss ⟨payload, hp, hlt, -⟩
    rw [hp, Option.getD_some] at hmiss
    exact absurd hlt (Nat.not_lt.mpr hmiss)
  cases hs with
  | @cached payload hp hlt =>
    have hhit : ¬ h.CameraOverruns ref length offset := by
      rintro ⟨hmiss, -⟩
      rw [hp, Option.getD_some] at hmiss
      exact absurd hlt (Nat.not_lt.mpr hmiss)
    rw [and_iff_left hhit, List.length_take, List.length_drop, ← Nat.not_lt, not_iff_not]
    refine ⟨fun hover => ⟨payload, hp, hlt, hover⟩, ?_⟩
    rintro ⟨payload', hp', -, hover⟩
    rw [hp] at hp'
    rwa [Option.some.inj hp']
  | nothing hmiss hend =>
    refine iff_of_true (Nat.zero_le _) ⟨hno hmiss, ?_⟩
    rintro ⟨-, hlt, hroom, -⟩
    omega
  | @sent data engine hmiss hlt hd =>
    rw [and_iff_right (hno hmiss), List.length_take, ← Nat.not_lt, not_iff_not]
    constructor
    · intro hover
      have hroom := Nat.lt_of_lt_of_le hover (Nat.min_le_left _ _)
      rw [Nat.min_eq_right (Nat.le_of_lt hroom)] at hd
      exact ⟨hmiss, hlt, hroom, data, engine, hd, Nat.lt_of_lt_of_le hover (Nat.min_le_right _ _)⟩
    · rintro ⟨-, -, hroom, data', engine', hd', hover⟩
      rw [Nat.min_eq_right (Nat.le_of_lt hroom), hd'] at hd
      cases hd
      exact Nat.lt_min.mpr ⟨hroom, hover⟩

end Serving

/-- A read of an object into a buffer that stays inside both: `n` bytes were read, and the rest of the buffer is
as before. -/
structure Clamped (o : RemoteObject) (buffer : Bytes) (offset n : Nat) (filled : Bytes) : Prop where
  bounded : n ≤ min buffer.length (o.metadata.size.toNat - offset)
  ended : o.metadata.size.toNat ≤ offset → n = 0
  rest : filled.drop n = buffer.drop n
  room : filled.length = buffer.length

/-- What is read stands in the buffer in front of what was there. -/
theorem leaves_readInto (ref : ObjectRef) (buffer : Bytes) (offset : Nat) (h : Host τ) :
    Leaves (readInto ref buffer offset) h
      (fun read _ => Serving h ref buffer.length offset (read.2.take read.1) ∧ read.1 ≤ buffer.length ∧
        (read.2.take read.1).length = read.1 ∧ read.2.drop read.1 = buffer.drop read.1 ∧
        read.2.length = buffer.length)
      fun _ _ => True := by
  refine leaves_bind ((leaves_serving ref buffer.length offset h).mono (fun bytes h' hs => ?_) fun _ _ he => he)
  have hle := hs.length_le
  refine leaves_pure ⟨?_, hle, ?_, ?_, ?_⟩
  · rwa [List.take_left]
  · rw [List.take_left]
  · rw [List.drop_left]
  · rw [List.length_append, List.length_drop, Nat.add_sub_cancel' hle]

section Filled

variable (hx : readInto ref buffer offset h = (.ok (n, filled), h'))
include hx

/-- A read fills the front of the buffer. -/
theorem readInto_filled : n ≤ buffer.length ∧ filled.drop n = buffer.drop n ∧ filled.length = buffer.length := by
  obtain ⟨-, hroom, -, hrest, hfilled⟩ := (leaves_readInto ref buffer offset h).1 _ _ hx
  exact ⟨hroom, hrest, hfilled⟩

/-- A read is clamped unless it is served from what goes on behind the end of the object. -/
theorem readInto_clamped_iff : Clamped (h.store.index.object ref) buffer offset n filled ↔
    ¬ h.CacheOverruns ref buffer.length offset ∧ ¬ h.CameraOverruns ref buffer.length offset := by
  obtain ⟨hs, hroom, hlen, hrest, hfilled⟩ := (leaves_readInto ref buffer offset h).1 _ _ hx
  rw [← hs.length_le_iff, hlen]
  constructor
  · intro hc
    exact Nat.le_trans hc.bounded (Nat.min_le_right _ _)
  · intro hle
    exact ⟨Nat.le_min.mpr ⟨hroom, hle⟩, fun hend => by omega, hrest, hfilled⟩

end Filled

/-- Along a run in which no download is longer than described, the reads from a camera without faults are
clamped. -/
theorem clamped_of_ready {h h' : Host Camera} (hr : Metered h) (hready : Engine.Ready h.bay.engine)
    (hx : readInto ref buffer offset h = (.ok (n, filled), h')) :
    Clamped (h.store.index.object ref) buffer offset n filled :=
  (readInto_clamped_iff hx).mpr
    ⟨not_cacheOverruns_of_fits hr.fits ref buffer.length offset,
      not_cameraOverruns_of_ready hready ref buffer.length offset⟩

end Host

/-- Whatever is cached and whatever the camera sends: a read never goes behind the buffer and leaves what it does
not fill as it was.  It stays inside the object exactly when neither the cached content nor the answer of the
camera goes on behind its end, as far as the buffer has room.  Where a run comes in which no download was longer
than described, no cached content does. -/
theorem Host.read_clamped_iff {τ : Type} [Transport τ] {h h' : Host τ} {ref : ObjectRef} {buffer filled : Bytes}
    {offset n : Nat} (hx : readInto ref buffer offset h = (.ok (n, filled), h')) :
    (n ≤ buffer.length ∧ filled.drop n = buffer.drop n ∧ filled.length = buffer.length) ∧
    (Clamped (h.store.index.object ref) buffer offset n filled ↔
      ¬ h.CacheOverruns ref buffer.length offset ∧ ¬ h.CameraOverruns ref buffer.length offset) ∧
    (Metered h → ¬ h.CacheOverruns ref buffer.length offset) :=
  ⟨readInto_filled hx, readInto_clamped_iff hx, fun hr =>
    not_cacheOverruns_of_fits hr.fits ref buffer.length offset⟩

/-! ## Reads of three bytes -/

/-- Three bytes were uploaded. -/
def Host.uploaded : Host Link :=
  Host.ready.runAll [.writeNew "a.jpg" [1, 2, 3] 0]

/-- As many are downloaded into the cache. -/
theorem Metered.stocked : Metered Host.stocked := by
  have hnew : Metered Host.unboxed := .new _ [] 100 300 rfl
  have huploaded : Metered Host.uploaded :=
    .call (.writeNew "a.jpg" [1, 2, 3] 0) (((hnew.bay _).bay _).bay _) trivial
  refine .call (.cache 0) huploaded ?_
  intro payload engine hd o ho
  have hsent : (Engine.download (Host.uploaded.store.index.object 0).handle Host.uploaded.bay.engine).1 =
      .ok [1, 2, 3] := by
    decide +kernel
  have hsize :
      (Host.uploaded.store.index.lookup? (Host.uploaded.store.index.object 0).handle).map (·.metadata.size) =
      some 3 := by decide +kernel
  obtain rfl : payload = [1, 2, 3] := Except.ok.inj ((congrArg Prod.fst hd).symm.trans hsent)
  obtain ⟨o', ho', hthree⟩ := Option.map_eq_some_iff.mp hsize
  rw [← Option.some.inj (ho'.symm.trans ho), hthree]
  decide

/-- Of the cached bytes those are read that are left, and the buffer is not filled further. -/
theorem Host.read_clamped_stocked :
    Metered Host.stocked ∧
      Host.readInto 0 [7, 8, 9, 9] 1 Host.stocked =
        (.ok (2, [2, 3, 9, 9]), (Host.readInto 0 [7, 8, 9, 9] 1 Host.stocked).2) ∧
      Host.Clamped (Host.stocked.store.index.object 0) [7, 8, 9, 9] 1 2 [2, 3, 9, 9] := by
  have hx : Host.readInto 0 [7, 8, 9, 9] 1 Host.stocked =
      (.ok (2, [2, 3, 9, 9]), (Host.readInto 0 [7, 8, 9, 9] 1 Host.stocked).2) :=
    Prod.ext (by decide +kernel : (Host.readInto 0 [7, 8, 9, 9] 1 Host.stocked).1 = .ok (2, [2, 3, 9, 9])) rfl
  obtain ⟨-, hclamped, hcached⟩ := Host.read_clamped_iff hx
  refine ⟨.stocked, hx, hclamped.mpr ⟨hcached .stocked, ?_⟩⟩
  rintro ⟨hmiss, -⟩
  revert hmiss
  decide +kernel

/-- The camera answers the next command of an operation with these data. -/
def Host.answering (operation : Operation) (data : Bytes) (h : Host Link) : Host Link :=
  h.updateBay fun b => { b with engine.link.waiting := [
    { trigger := operation
      items := [.content (.container .data operation.code [] data 0) [],
        .content (.container .response 8193 [] [] 0) []]
      failingSend := none }] }

/-- Five bytes were sent to the cache for an object of three. -/
def Host.surfeited : Host Link :=
  (Host.cache 0 (Host.dropped.answering .getObject [1, 2, 3, 4, 5])).2

/-- Four bytes that the camera sends of an object of three are all read, and those that are cached from behind
the end are served there. -/
theorem read_behind_end :
    (Host.dropped.store.index.object 0).metadata.size = 3 ∧
      (Host.readInto 0 [0, 0, 0, 0, 0, 0] 0 (Host.dropped.answering .getPartialObject [1, 2, 3, 4])).1 =
        .ok (4, [1, 2, 3, 4, 0, 0]) ∧
      (Host.surfeited.store.index.object 0).metadata.size = 3 ∧
      (Host.readInto 0 [0, 0, 0, 0, 0, 0] 3 Host.surfeited).1 = .ok (2, [4, 5, 0, 0, 0, 0]) :=
  ⟨by decide +kernel, by decide +kernel, by decide +kernel, by decide +kernel⟩

end Tether
