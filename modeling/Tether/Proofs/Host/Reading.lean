import Tether.Proofs.Host.Cached
import Tether.Proofs.Host.Consulting

/-!
# Tether.Proofs.Host.Reading — reads from the cache and from the camera

Content that is cached is what the camera has, unless it is empty.  So a read gives the same bytes wherever they
come from (`Host.Readable.leaves_readRange`), and a reader that goes forward from one read to the next puts the
whole content together, whatever is cached, dropped or evicted in between (`Host.Readable.leaves_readForward`).
-/

namespace Tether

open Ptp Tether.Action
open Engine (Ready HasHandle)

/-! ## Calls between reads -/

/-- The call puts nothing into the camera and takes nothing out of it, and leaves objects as they were
described. -/
def StoreCall.Tame {τ : Type} : StoreCall τ → Prop
  | .fetch _ | .writeNew .. | .delete _ | .bay _ => False
  | _ => True

namespace Host

variable {h h' : Host Camera} {ref : ObjectRef} {content : Bytes}

/-- The camera was only asked. -/
def Asked (h h' : Host Camera) : Prop :=
  Ready h'.bay.engine ∧ h.bay.engine.link.Alike h'.bay.engine.link

theorem asked_readRange (hready : Ready h.bay.engine) (ref : ObjectRef) (length offset : Nat) :
    h.Asked (readRange ref length offset h).2 := by
  have hsame : h.Asked h := ⟨hready, .refl _⟩
  refine Leaves.state (P := h.Asked) ?_
  unfold readRange
  refine leaves_bind (leaves_read ?_)
  dsimp only
  split
  · exact leaves_bind (leaves_change (leaves_pure ⟨hready.count _, .refl _⟩))
  · split
    · exact leaves_bind (leaves_fail hsame)
    · split
      · exact leaves_pure hsame
      · refine leaves_bind (leaves_call_of ((hready.leaves_downloadPart _ _ _).mono ?_ ?_))
        · rintro data e ⟨hready', halike, -⟩
          exact leaves_bind (leaves_change (leaves_pure ⟨hready'.count _, halike⟩))
        · rintro error e ⟨hready', halike, -⟩
          exact ⟨hready', halike⟩

theorem asked_cache (hready : Ready h.bay.engine) (ref : ObjectRef) : h.Asked (cache ref h).2 := by
  have hsame : h.Asked h := ⟨hready, .refl _⟩
  refine Leaves.state (P := h.Asked) ?_
  unfold cache
  refine leaves_bind (leaves_state ?_)
  dsimp only
  split
  · exact leaves_bind (leaves_change (leaves_pure hsame))
  · split
    · exact leaves_pure hsame
    · refine leaves_bind (leaves_call_of ((hready.leaves_download _).mono ?_ fun _ _ he => he))
      rintro payload e ⟨hready', halike⟩
      refine leaves_bind (leaves_change ?_)
      have hasked :
          h.Asked { h with bay := { h.bay with engine := e.count (Stats.recordCacheMiss payload.length) } } :=
        ⟨hready'.count _, halike⟩
      split
      · exact leaves_pure hasked
      · exact leaves_ofFunction hasked

theorem asked_run (hready : Ready h.bay.engine) {c : StoreCall Camera} (hc : c.Tame) : h.Asked (c.run h) := by
  cases c with
  | readRange ref length offset => exact asked_readRange hready ref length offset
  | cache ref => exact asked_cache hready ref
  | fetch _ | writeNew _ _ _ | delete _ | bay _ => exact hc.elim
  | _ => exact ⟨hready, .refl _⟩

/-! ## Single reads -/

/-- On the camera the object has this content, and it was described with its size. -/
structure Readable (ref : ObjectRef) (content : Bytes) (h : Host Camera) : Prop where
  operated : Operated HasHandle h
  ready : Ready h.bay.engine
  object : ∃ o, h.bay.engine.link.objects.get? (h.store.index.object ref).handle = some o ∧ o.data = content
  short : content.length < maxWord
  size : (h.store.index.object ref).metadata.size = .ofNat content.length

namespace Readable

/-- What is cached of it is all of it, or nothing. -/
theorem payload (hr : Readable ref content h) {payload : Bytes}
    (hp : (h.store.index.object ref).payload = some payload) :
    payload = [] ∨ payload = content := by
  obtain ⟨o, ho, rfl⟩ := hr.object
  exact (hr.operated.held ref payload hp).imp_right fun hb => (hb.data ho).symm

/-- Tame calls leave it readable. -/
theorem run (hr : Readable ref content h) {c : StoreCall Camera} (hc : c.Tame) :
    Readable ref content (c.run h) := by
  obtain ⟨hready, halike⟩ := asked_run hr.ready hc
  have hrecords : Index.SameRecords h.store.index (c.run h).store.index := by
    refine StoreCall.sameRecords (fun hrec => ?_) h
    cases c with
    | fetch _ | writeNew _ _ _ | bay _ => exact hc
    | _ => exact hrec
  have hrecord := hrecords.record ref
  refine ⟨hr.operated.store c ?_ ?_, hready, ?_, hr.short, (RemoteObject.size_of_record hrecord).trans hr.size⟩
  · cases c with
    | bay _ => exact hc
    | _ => trivial
  · cases c with
    | writeNew _ _ _ => exact hc.elim
    | _ => exact fun h => h.elim
  · rw [halike.objects, (RemoteObject.eq_of_record hrecord).1]
    exact hr.object

theorem runAll (hr : Readable ref content h) {calls : List (StoreCall Camera)} (hcalls : ∀ c ∈ calls, c.Tame) :
    Readable ref content (h.runAll calls) := by
  induction calls generalizing h with
  | nil => exact hr
  | cons c rest ih =>
    exact ih (hr.run (hcalls c List.mem_cons_self)) fun c' hmem => hcalls c' (List.mem_cons_of_mem c hmem)

/-- Wherever the bytes come from, they are those of the content. -/
theorem leaves_readRange (hr : Readable ref content h) (length offset : Nat)
    (hfits : headerLength + min length (content.length - offset) ≤ maxWord) :
    (readRange ref length offset).Leaves h
      (fun bytes h' => bytes = (content.drop offset).take length ∧ Readable ref content h') fun _ _ => False := by
  have hafter : (readRange ref length offset).Leaves h (fun _ h' => Readable ref content h') fun _ h' =>
      Readable ref content h' :=
    leaves_of_state (hr.run (c := .readRange ref length offset) trivial)
  by_cases hhit : offset < ((h.store.index.object ref).payload.getD []).length
  · cases hp : (h.store.index.object ref).payload with
    | none =>
      rw [hp] at hhit
      exact absurd hhit (Nat.not_lt_zero _)
    | some payload =>
      rw [hp, Option.getD_some] at hhit
      have hx := readRange_of_cached hp hhit length
      refine leaves_of_eq_ok hx ⟨?_, hafter.1 _ _ hx⟩
      rcases hr.payload hp with rfl | rfl
      · exact absurd hhit (Nat.not_lt_zero _)
      · rfl
  · obtain ⟨o, ho, rfl⟩ := hr.object
    refine (hafter.and (Host.leaves_readRange hr.ready ho hr.short hr.size length
      (Nat.le_of_not_lt hhit))).mono ?_ ?_
    · rintro bytes h' ⟨hreadable, -, -, -, hbytes⟩
      refine ⟨hbytes.trans (fitting_of_le ?_), hreadable⟩
      rw [List.length_take, List.length_drop]
      exact hfits
    · rintro error h' ⟨-, hfalse⟩
      exact hfalse

end Readable

/-- A read as its caller sees it: how many bytes were read, and the buffer with them at its front. -/
def readInto {τ : Type} [Transport τ] (ref : ObjectRef) (buffer : Bytes) (offset : Nat) :
    Action (Host τ) StorageError (Nat × Bytes) := do
  let bytes ← readRange ref buffer.length offset
  return (bytes.length, bytes ++ buffer.drop bytes.length)

/-! ## Reading forward -/

/-- A turn of a reader: what else is called before, and how many bytes are to be read. -/
structure ReadTurn where
  calls : List (StoreCall Camera)
  length : Nat

/-- Reads forward turn by turn until nothing is read or there are no turns left, and answers what was read and
whether the end was seen. -/
def readForward (ref : ObjectRef) : List ReadTurn → Nat → Action (Host Camera) StorageError (Bytes × Bool)
  | [], _ => return ([], false)
  | turn :: rest, offset => do
    .change (·.runAll turn.calls)
    let bytes ← readRange ref turn.length offset
    if bytes.length = 0 then return ([], true)
    let (more, ended) ← readForward ref rest (offset + bytes.length)
    return (bytes ++ more, ended)

/-- The turn reads something, not more than fits a container, and what else it calls is tame. -/
structure ReadTurn.Fair (size : Nat) (turn : ReadTurn) : Prop where
  tame : ∀ c ∈ turn.calls, c.Tame
  positive : 0 < turn.length
  fits : headerLength + min turn.length size ≤ maxWord

/-- What some turns read: the front of the content, all of it when the end was seen, and a byte a turn
otherwise. -/
structure ReadOff (content : Bytes) (turns : Nat) (read : Bytes × Bool) : Prop where
  front : read.1 <+: content
  whole : read.2 = true → read.1 = content
  long : read.2 = false → turns ≤ read.1.length

/-- A reader puts the content together, one read after the other. -/
theorem Readable.leaves_readForward (hr : Readable ref content h) {turns : List ReadTurn}
    (hturns : ∀ turn ∈ turns, turn.Fair content.length) (offset : Nat) :
    (readForward ref turns offset).Leaves h (fun read _ => ReadOff (content.drop offset) turns.length read)
      fun _ _ => False := by
  induction turns generalizing h offset with
  | nil => exact leaves_pure ⟨List.nil_prefix, fun h => (by cases h), fun _ => Nat.le_refl _⟩
  | cons turn rest ih =>
    have hturn := hturns turn List.mem_cons_self
    have hfits : headerLength + min turn.length (content.length - offset) ≤ maxWord := by
      have hfits := hturn.fits
      omega
    unfold readForward
    refine leaves_bind (leaves_change ?_)
    refine leaves_bind (((hr.runAll hturn.tame).leaves_readRange turn.length offset hfits).mono ?_
      fun _ _ he => he)
    rintro bytes h' ⟨hbytes, hr'⟩
    split
    · -- nothing is left when a read of some length gives nothing
      rename_i hnothing
      have hend : content.drop offset = [] := by
        rw [hbytes, List.length_take, List.length_drop] at hnothing
        have hpositive := hturn.positive
        exact List.drop_eq_nil_of_le (by omega)
      exact leaves_pure ⟨List.nil_prefix, fun _ => hend.symm, fun h => by cases h⟩
    · rename_i hsome
      have hsplit : content.drop offset = bytes ++ content.drop (offset + bytes.length) := by
        have hfront : bytes <+: content.drop offset := hbytes ▸ List.take_prefix _ _
        rw [← List.drop_drop]
        exact (List.prefix_iff_eq_append.mp hfront).symm
      refine leaves_bind ((ih hr' (fun turn' hmem => hturns turn' (List.mem_cons_of_mem turn hmem)) _).mono ?_
        fun _ _ he => he)
      rintro ⟨more, ended⟩ h'' ⟨hfront, hwhole, hlong⟩
      refine leaves_pure ⟨?_, fun hended => ?_, fun hended => ?_⟩
      · rw [hsplit]
        exact (List.prefix_append_right_inj bytes).mpr hfront
      · rw [hsplit]
        exact congrArg (bytes ++ ·) (hwhole hended)
      · have hrest := hlong hended
        dsimp only at hrest ⊢
        rw [List.length_cons, List.length_append]
        omega

end Host

open Host (ReadTurn readInto readForward)

/-- Wherever a run came as long as the camera had handles left, with a session open and no fault armed, for an
object that has content of less than 2^32 - 1 bytes on the camera and was described with that size: what is
cached of it is empty or all of it.  A read, cached or not, gives what is left of the content up to the length of
the buffer, and leaves the rest of the buffer, if what it gives fits a container.  A read inside what is cached
goes without the camera, and makes the object the most recently used one if it is indexed.  A reader that goes
forward from the start never reads anything but the content, has all of it when it sees the end, and sees the end
as soon as it has more turns than there are bytes. -/
theorem Operated.reads_agree {h : Host Camera} (hr : Operated HasHandle h) (hready : Ready h.bay.engine)
    {ref : ObjectRef} {o : CameraObject}
    (ho : h.bay.engine.link.objects.get? (h.store.index.object ref).handle = some o)
    (hshort : o.data.length < maxWord) (hsize : (h.store.index.object ref).metadata.size = .ofNat o.data.length) :
    (∀ payload, (h.store.index.object ref).payload = some payload → payload = [] ∨ payload = o.data) ∧
    (∀ (buffer : Bytes) (offset : Nat), headerLength + min buffer.length (o.data.length - offset) ≤ maxWord →
      (readInto ref buffer offset h).1 = .ok (min buffer.length (o.data.length - offset),
        (o.data.drop offset).take buffer.length ++ buffer.drop (min buffer.length (o.data.length - offset)))) ∧
    (∀ (buffer : Bytes) (offset : Nat), offset < ((h.store.index.object ref).payload.getD []).length →
      (readInto ref buffer offset h).2.bay.engine.link = h.bay.engine.link ∧
      (readInto ref buffer offset h).2.bay.engine.nextTransaction = h.bay.engine.nextTransaction ∧
      (h.store.index.find? (h.store.index.object ref).handle = some ref →
        (readInto ref buffer offset h).2.store.index.cachedHandles =
          h.store.index.cachedHandles.filter (· ≠ (h.store.index.object ref).handle) ++
            [(h.store.index.object ref).handle])) ∧
    ∀ turns : List ReadTurn, (∀ turn ∈ turns, turn.Fair o.data.length) →
      ∃ bytes ended h', readForward ref turns 0 h = (.ok (bytes, ended), h') ∧ bytes <+: o.data ∧
        (ended = true → bytes = o.data) ∧ (o.data.length < turns.length → ended = true) := by
  have hreadable : Host.Readable ref o.data h := ⟨hr, hready, ⟨o, ho, rfl⟩, hshort, hsize⟩
  refine ⟨fun payload hp => hreadable.payload hp, fun buffer offset hfits => ?_, fun buffer offset hlt => ?_,
    fun turns hturns => ?_⟩
  · refine Leaves.eq_ok ?_
    refine leaves_bind ((hreadable.leaves_readRange buffer.length offset hfits).mono ?_ fun _ _ he => he)
    rintro bytes h' ⟨rfl, -⟩
    refine leaves_pure ?_
    rw [List.length_take, List.length_drop]
  · cases hp : (h.store.index.object ref).payload with
    | none =>
      rw [hp] at hlt
      exact absurd hlt (Nat.not_lt_zero _)
    | some payload =>
      rw [hp, Option.getD_some] at hlt
      have hx := Host.readRange_of_cached hp hlt buffer.length
      refine Leaves.state (P := fun h' : Host Camera => h'.bay.engine.link = h.bay.engine.link ∧
        h'.bay.engine.nextTransaction = h.bay.engine.nextTransaction ∧ (_ → h'.store.index.cachedHandles = _)) ?_
      refine leaves_bind (leaves_of_eq_ok hx (leaves_pure ⟨rfl, rfl, fun hindexed => ?_⟩))
      refine hr.reached.linked.cachedHandles_touch (Index.lookup?_of_find? hindexed) ?_
      rw [RemoteObject.isCached, hp]
      rfl
  · obtain ⟨⟨bytes, ended⟩, h', hx, hoff⟩ := (hreadable.leaves_readForward hturns 0).exists_ok
    rw [List.drop_zero] at hoff
    refine ⟨bytes, ended, h', hx, hoff.front, hoff.whole, fun hmany => ?_⟩
    by_contra hnot
    have hlong := hoff.long (Bool.not_eq_true _ ▸ hnot)
    exact absurd (Nat.le_trans hlong hoff.front.length_le) (Nat.not_le.mpr hmany)

/-- A picture on the first of two cards, of which the second to fourth bytes are asked for while it is cached,
and which is read in two turns with its content dropped in between. -/
theorem Operated.reads_agree_pictured :
    (Operated HasHandle Host.pictured ∧ Ready Host.pictured.bay.engine ∧
      (Host.pictured.store.index.object 0).payload = some [1, 2, 3]) ∧
    (readInto 0 [7, 8, 9] 1 Host.pictured).1 = .ok (2, [2, 3, 9]) ∧
    ∃ bytes h', readForward 0 [⟨[], 2⟩, ⟨[.invalidate 1], 2⟩, ⟨[.cache 0], 2⟩, ⟨[], 2⟩] 0 Host.pictured =
      (.ok (bytes, true), h') ∧
      bytes = [1, 2, 3] := by
  have hr : Operated HasHandle Host.pictured := .pictured (by decide +kernel)
  have hready : Ready Host.pictured.bay.engine :=
    ⟨⟨hr.calm, by decide +kernel, rfl, by decide +kernel⟩, by decide +kernel, by decide +kernel⟩
  have hp : (Host.pictured.store.index.object 0).payload = some [1, 2, 3] := by decide +kernel
  have ho : Host.pictured.bay.engine.link.objects.get? (Host.pictured.store.index.object 0).handle =
      some ⟨Host.picture, [1, 2, 3]⟩ := by decide +kernel
  have hsize : (Host.pictured.store.index.object 0).metadata.size = .ofNat 3 := by decide +kernel
  have hturns : ∀ turn ∈ [⟨[], 2⟩, ⟨[.invalidate 1], 2⟩, ⟨[.cache 0], 2⟩, ⟨[], 2⟩], ReadTurn.Fair 3 turn := by
    intro turn hmem
    have hplain : ReadTurn.Fair 3 ⟨[], 2⟩ := ⟨fun c h => (by cases h), by decide, by decide⟩
    simp only [List.mem_cons, List.not_mem_nil, or_false] at hmem
    rcases hmem with rfl | rfl | rfl | rfl
    · exact hplain
    · exact ⟨List.forall_mem_singleton.mpr trivial, by decide, by decide⟩
    · exact ⟨List.forall_mem_singleton.mpr trivial, by decide, by decide⟩
    · exact hplain
  obtain ⟨-, hread, -, hforward⟩ := hr.reads_agree hready ho (by decide) hsize
  obtain ⟨bytes, ended, h', hx, -, hwhole, hend⟩ := hforward _ hturns
  obtain rfl := hend (by decide)
  exact ⟨⟨hr, hready, hp⟩, hread [7, 8, 9] 1 (by decide), bytes, h', hx, hwhole rfl⟩

/-- Nothing is cached of what was only put on one of two empty cards and fetched. -/
theorem Host.payload_given (info : ObjectInfo) (data : Bytes) (ref : ObjectRef) :
    ((Host.twoCards.given info data).store.index.object ref).payload = none := by
  have hnew : Host.twoCards.store.index.objects.size = 0 := by decide +kernel
  have hempty : Index.Held (fun _ _ => False) Host.twoCards.store.index := by
    intro ref payload hp
    rw [Index.object_of_le (hnew ▸ Nat.zero_le ref)] at hp
    cases hp
  have hheld : Index.Held (fun _ _ => False) (Host.twoCards.given info data).store.index :=
    (Index.drained_held _).run (.fetch _) (fun ref heq => by cases heq) ((Index.drained_held _).followAll _ hempty)
      (.inl trivial)
  exact Option.eq_none_iff_forall_ne_some.mpr fun payload hp => hheld ref payload hp

/-- An object of any content that is put on two empty cards and fetched can be read, and is not cached. -/
theorem Host.readable_given (info : ObjectInfo) {data : Bytes} (hshort : data.length < maxWord) :
    ∃ ref, Readable ref data (Host.twoCards.given info data) ∧
      ((Host.twoCards.given info data).store.index.object ref).payload = none := by
  have hr : Operated HasHandle Host.twoCards := .twoCards
  have hspare : HasHandle Host.twoCards.bay.engine := by decide +kernel
  have hgiven := hr.given info data hspare
  have hput := hr.camera (.addObject info data) fun _ => hspare
  have hready : Ready (Host.twoCards.updateEngine fun e =>
      { e with link := (CameraStep.addObject info data).run e.link }).bay.engine :=
    ⟨⟨hput.calm, ready_twoCards.connected_eq, rfl, ready_twoCards.faults⟩, ready_twoCards.session,
      ready_twoCards.sessionOpen⟩
  have hnone := Host.payload_given info data
  have hfetch := leaves_fetch hready hput.reached.linked Host.twoCards.bay.engine.link.nextHandle
  have hrun : Host.twoCards.given info data = (fetch Host.twoCards.bay.engine.link.nextHandle _).2 := rfl
  have ho : (Host.twoCards.updateEngine fun e => { e with link := (CameraStep.addObject info data).run e.link }
      ).bay.engine.link.objects.get? Host.twoCards.bay.engine.link.nextHandle = some ⟨info, data⟩ :=
    OrderedMap.get?_insert_self _ _ _
  generalize Host.twoCards.updateEngine (fun e => { e with link := (CameraStep.addObject info data).run e.link }) =
    h₀ at *
  cases hx : fetch Host.twoCards.bay.engine.link.nextHandle h₀ with
  | mk r h' =>
    rw [hx] at hrun
    rw [hrun] at hgiven hnone ⊢
    cases r with
    | ok ref =>
      obtain ⟨hconsulted, -, hhandle, o, ho', hshows⟩ := hfetch.1 ref h' hx
      obtain rfl := Option.some.inj (ho'.symm.trans ho)
      refine ⟨ref, ⟨hgiven, hconsulted.ready, ⟨⟨info, data⟩, ?_, rfl⟩, hshort, hshows.size⟩, ?_⟩
      · rw [hhandle, hconsulted.alike.objects]
        exact ho
      · exact hnone ref
    | error error =>
      have hgone := (hfetch.2 error h' hx).2
      rw [ho] at hgone
      have hzero : Host.twoCards.bay.engine.link.nextHandle ≠ 0 := by decide +kernel
      rcases hgone with hgone | hgone
      · exact absurd hgone hzero
      · cases hgone

/-- A picture that was cached when an armed fault answered that all is well. -/
def Host.hollow : Host Camera :=
  (StoreCall.cache 0).run ((Host.twoCards.given Host.picture [1, 2, 3]).updateEngine fun e =>
    { e with link := (CameraStep.injectFault .getObject (.respond .ok)).run e.link })

/-- Content that is too long for a container by one byte. -/
def Host.vast : Bytes :=
  List.replicate (maxWord - headerLength + 1) 0

/-- A picture that is cached, but empty, is read from the camera.  And of a picture that is too long for a
container nothing is read at once. -/
theorem Operated.reads_disagree :
    (Operated HasHandle Host.hollow ∧ Ready Host.hollow.bay.engine ∧
      Host.hollow.store.index.find? (Host.hollow.store.index.object 0).handle = some 0 ∧
      (Host.hollow.store.index.object 0).isCached = true ∧ (Host.hollow.store.index.object 0).metadata.size = 3 ∧
      Host.hollow.bay.engine.link.objects.get? (Host.hollow.store.index.object 0).handle =
        some ⟨Host.picture, [1, 2, 3]⟩ ∧
      (readInto 0 [7, 8, 9] 0 Host.hollow).2.bay.engine.nextTransaction ≠ Host.hollow.bay.engine.nextTransaction) ∧
    Host.vast.length < maxWord ∧
      ∃ ref, Host.Readable ref Host.vast (Host.twoCards.given Host.picture Host.vast) ∧
        (Host.readRange ref Host.vast.length 0 (Host.twoCards.given Host.picture Host.vast)).1 = .ok [] := by
  have hr : Operated HasHandle Host.hollow :=
    ((Operated.twoCards.given Host.picture [1, 2, 3] (by decide +kernel)).camera
      (.injectFault .getObject (.respond .ok))
      fun h => h.elim).store (.cache 0) trivial fun h => h.elim
  have hready : Ready Host.hollow.bay.engine :=
    ⟨⟨hr.calm, by decide +kernel, rfl, by decide +kernel⟩, by decide +kernel, by decide +kernel⟩
  have hlength : Host.vast.length = maxWord - headerLength + 1 := List.length_replicate
  have hmax : maxWord = 4294967295 := rfl
  have hheader : headerLength = 12 := rfl
  have hshort : Host.vast.length < maxWord := by omega
  refine ⟨⟨hr, hready, by decide +kernel, by decide +kernel, by decide +kernel, by decide +kernel,
    by decide +kernel⟩, hshort, ?_⟩
  obtain ⟨ref, hreadable, hp⟩ := Host.readable_given Host.picture hshort
  refine ⟨ref, hreadable, Leaves.eq_ok ?_⟩
  obtain ⟨o, ho, hdata⟩ := hreadable.object
  have hmiss :
      (((Host.twoCards.given Host.picture Host.vast).store.index.object ref).payload.getD []).length ≤ 0 := by
    rw [hp]
    exact Nat.le_refl _
  have hread := Host.leaves_readRange hreadable.ready ho (hdata ▸ hshort)
      (hdata ▸ hreadable.size) Host.vast.length hmiss
  refine hread.mono (fun bytes _ hbytes => ?_) fun _ _ he => he
  have hover : ¬ headerLength + Host.vast.length ≤ maxWord := by omega
  rw [hbytes.2.2.2, hdata, List.drop_zero, List.take_length, fitting, if_neg hover]

end Tether
