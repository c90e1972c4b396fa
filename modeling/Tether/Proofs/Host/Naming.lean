import Tether.Proofs.Host.Consulting
import Tether.Proofs.Host.Described

/-!
# Tether.Proofs.Host.Naming — the name that an upload gets

A name may have as many bytes as a file system allows, and a dataset tells as many units of it as PTP allows,
which is one less.  A text has fewer units than bytes unless all of it is ASCII.  So every name that an upload
may have comes to the camera as it is, but for those that fill the limit with ASCII, and these lose their last
character (`Host.uploaded_name`).
-/

namespace Tether

open Ptp Tether.Action
open Engine (Ready)
open Text (Utf16.encode)

namespace Host

variable {name : String}

/-- What a name has that an upload may have. -/
theorem of_checkName (hname : checkName name = .ok ()) :
    '\x00' ∉ name.toList ∧ name.utf8ByteSize ≤ maxNameLength := by
  unfold checkName at hname
  split_ifs at hname with hdots hsplits hlong
  refine ⟨fun hnul => hsplits ?_, Nat.le_of_not_lt hlong⟩
  exact List.any_eq_true.mpr ⟨_, hnul, by decide⟩

/-- A name that an upload may have, and that is not too long, is told as it is. -/
theorem told_of_checkName (hnamed : checkName name = .ok ())
    (hname : (Utf16.encode name.toList).length ≤ Dataset.maxTextUnits) : Dataset.told name = name :=
  Dataset.told_of_fits ⟨hname, fun hnul => (of_checkName hnamed).1 (List.mem_of_getLast? hnul)⟩

/-- The name has as many bytes as are allowed, and all of it is ASCII. -/
structure Brimful (name : String) : Prop where
  bytes : name.utf8ByteSize = maxNameLength
  ascii : ∀ c ∈ name.toList, c.toNat < 0x80

/-- The characters of a name for which a dataset has room. -/
def shortened (name : String) : String :=
  .ofList (name.toList.take Dataset.maxTextUnits)

/-- There is no room for all of a name just when it is brimful. -/
theorem brimful_iff (hname : checkName name = .ok ()) :
    Brimful name ↔ Dataset.maxTextUnits < (Utf16.encode name.toList).length := by
  obtain ⟨-, hbytes⟩ := of_checkName hname
  obtain ⟨hle, hascii⟩ := Text.Utf16.length_encode_le name.toList
  rw [String.ofList_toList] at hle hascii
  have hmax : maxNameLength = Dataset.maxTextUnits + 1 := rfl
  constructor
  · rintro ⟨hfull, hall⟩
    rw [hascii.mpr hall, hfull, hmax]
    exact Nat.lt_succ_self _
  · intro hover
    exact ⟨by omega, hascii.mp (by omega)⟩

/-- A dataset tells of a name the characters for which it has room. -/
theorem told_eq_shortened (hname : checkName name = .ok ()) : Dataset.told name = shortened name := by
  by_cases hover : Brimful name
  · -- each character is a unit, and none of them is NUL
    have hshort : ∀ c ∈ name.toList, c.toNat < 0x10000 :=
      fun c hmem => Nat.lt_trans (hover.ascii c hmem) (by decide)
    exact Dataset.told_eq_take hshort (of_checkName hname).1
  · rw [brimful_iff hname, Nat.not_lt] at hover
    have hall := Nat.le_trans (Text.Utf16.length_le_encode name.toList) hover
    rw [told_of_checkName hname hover, shortened, List.take_of_length_le hall, String.ofList_toList]

/-- It is all of the name, unless that is brimful. -/
theorem shortened_eq_iff (hname : checkName name = .ok ()) : shortened name = name ↔ ¬ Brimful name := by
  rw [brimful_iff hname, Nat.not_lt, ← told_eq_shortened hname]
  refine ⟨fun heq => ?_, told_of_checkName hname⟩
  have hunits := (Dataset.textFits_told name).units
  rwa [heq] at hunits

variable {h h' : Host Camera} {ref : ObjectRef}

/-- What is fetched is shown by the name that the camera tells. -/
theorem name_of_fetch (hr : Operated Engine.HasHandle h) {handle : UInt32} {found : ObjectRef}
    (hfetch : fetch handle h = (.ok found, h')) :
    ∃ o, h.bay.engine.link.objects.get? handle = some o ∧
      (h'.store.index.object found).metadata.name = Dataset.told o.info.filename := by
  have hleaves : (fetch handle).Leaves h (fun found h' => ∃ o, h.bay.engine.link.objects.get? handle = some o ∧
      (h'.store.index.object found).metadata.name = Dataset.told o.info.filename) fun _ _ => True := by
    unfold fetch
    split
    · exact leaves_bind (leaves_fail trivial)
    · refine leaves_bind (leaves_call_of ((Engine.leaves_objectInfo hr.calm handle).mono ?_ fun _ _ _ => trivial))
      rintro info e ⟨halike, o, ho, rfl⟩
      refine leaves_bind (leaves_read (leaves_ofFunction ⟨o, halike.objects ▸ ho, ?_⟩))
      exact (shows_learn hr.reached.linked.toRooted handle o { h with bay := { h.bay with engine := e } }).name
  exact hleaves.1 found h' hfetch

end Host

/-- Every name that an upload may have is told by the dataset of the upload up to the last character for which
there is room, and that is all of it just when it is not brimful.  Wherever a run came as long as the camera had
handles left: after an upload the store has the name as it was given, and whatever is fetched under the new
handle has the name as the dataset told it.  Without faults it can be fetched. -/
theorem Host.uploaded_name {name : String} (hname : checkName name = .ok ()) :
    (shortened name = name ↔ ¬ Brimful name) ∧
    (∀ (storage parent : UInt32) (format : ObjectFormat) (size : UInt32) (now : Calendar.Instant), ∃ info,
      ObjectInfo.parse (ObjectInfo.encode { ObjectInfo.forUpload storage parent name format size with
        captureDate := some now, modificationDate := some now }) = .ok info ∧ info.filename = shortened name) ∧
    ∀ {h h' : Host Camera} {content : Bytes} {parent : UInt32} {ref : ObjectRef}, Operated Engine.HasHandle h →
      Engine.HasHandle h.bay.engine → writeNew name content parent h = (.ok ref, h') →
        (h'.store.index.object ref).metadata.name = name ∧
        (∀ found h'', fetch (h'.store.index.object ref).handle h' = (.ok found, h'') →
          (h''.store.index.object found).metadata.name = shortened name) ∧
        (Ready h.bay.engine → h.bay.engine.link.nextHandle ≠ 0 →
          ∃ found h'', fetch (h'.store.index.object ref).handle h' = (.ok found, h'')) := by
  refine ⟨shortened_eq_iff hname, fun storage parent format size now => ?_, ?_⟩
  · exact ⟨_, ObjectInfo.parse_encode _, told_eq_shortened hname⟩
  · intro h h' content parent ref hr hspare hw
    have hr' : Operated Engine.HasHandle h' := by
      have hstep := hr.store (.writeNew name content parent) trivial fun _ => hspare
      have hrun : (StoreCall.writeNew name content parent).run h = h' := congrArg Prod.snd hw
      rwa [hrun] at hstep
    have hnamed : (h'.store.index.object ref).metadata.name = name := by
      obtain ⟨handle, metadata, -, hobject, hrecorded⟩ := (leaves_writeNew name content parent h).1 ref h' hw
      rw [hobject]
      exact hrecorded
    refine ⟨hnamed, fun found h'' hfetch => ?_, fun hready hzero => ?_⟩
    · obtain ⟨o, ho, hshown⟩ := name_of_fetch hr' hfetch
      have hlt := lt_size_of_checkName (hnamed ▸ hname)
      have htold := ((hr'.matches_camera.vouches hlt).agrees (.object ho)).1
      rw [hshown, ← htold, hnamed, told_eq_shortened hname]
    · obtain ⟨hf, storage, huploaded⟩ :=
        (leaves_writeNew_uploaded hready.toFaultless name content parent).1 ref h' hw
      obtain ⟨o, hobjects, -⟩ := huploaded.exists_new
      have hfetch := leaves_fetch (huploaded.ready' hready hf) hr'.reached.linked
          (h'.store.index.object ref).handle
      cases hx : fetch (h'.store.index.object ref).handle h' with
      | mk r h'' =>
        cases r with
        | ok found => exact ⟨found, h'', rfl⟩
        | error error =>
          have hnone := (hfetch.2 error h'' hx).2
          rw [huploaded.handle_new, hobjects, OrderedMap.get?_insert_self] at hnone
          rcases hnone with hnone | hnone
          · exact absurd hnone hzero
          · cases hnone

/-- A picture that is put on the first of two cards. -/
theorem Host.uploaded_name_short :
    (checkName "b.jpg" = .ok () ∧ Operated Engine.HasHandle Host.twoCards ∧
      Engine.HasHandle Host.twoCards.bay.engine ∧
      Ready Host.twoCards.bay.engine ∧ Host.twoCards.bay.engine.link.nextHandle ≠ 0 ∧
      (writeNew "b.jpg" [1, 2, 3] 0 Host.twoCards).1 = .ok 0) ∧
    ∃ found h'', fetch ((writeNew "b.jpg" [1, 2, 3] 0 Host.twoCards).2.store.index.object 0).handle
        (writeNew "b.jpg" [1, 2, 3] 0 Host.twoCards).2 = (.ok found, h'') ∧
      (h''.store.index.object found).metadata.name = "b.jpg" := by
  have hname : checkName "b.jpg" = .ok () := by decide
  have hspare : Engine.HasHandle Host.twoCards.bay.engine := by decide +kernel
  have hzero : Host.twoCards.bay.engine.link.nextHandle ≠ 0 := by decide +kernel
  have hw : (writeNew "b.jpg" [1, 2, 3] 0 Host.twoCards).1 = .ok 0 := by decide +kernel
  have hr : Operated Engine.HasHandle Host.twoCards := .twoCards
  obtain ⟨-, -, hall⟩ := uploaded_name hname
  obtain ⟨-, htold, hfetch⟩ := hall hr hspare (Prod.ext hw rfl)
  obtain ⟨found, h'', hx⟩ := hfetch ready_twoCards hzero
  exact ⟨⟨hname, hr, hspare, ready_twoCards, hzero, hw⟩, found, h'', hx, (htold found h'' hx).trans (by decide)⟩

/-- A name that fills the limit. -/
def Host.longName : String :=
  .ofList (List.replicate maxNameLength 'a')

theorem Host.brimful_longName : checkName longName = .ok () ∧ Brimful longName := by
  have hlist : longName.toList = List.replicate maxNameLength 'a' := String.toList_ofList
  have hascii : ∀ c ∈ List.replicate maxNameLength 'a', c.toNat < 0x80 := by
    intro c hmem
    rw [List.eq_of_mem_replicate hmem]
    decide
  have hbytes : longName.utf8ByteSize = maxNameLength := by
    have hunits : (Utf16.encode (List.replicate maxNameLength 'a')).length = maxNameLength := by decide +kernel
    rw [← hunits]
    exact ((Text.Utf16.length_encode_le _).2.mpr hascii).symm
  refine ⟨?_, hbytes, hlist ▸ hascii⟩
  have hdots : ¬ (longName = "" ∨ longName = "." ∨ longName = "..") := by
    rintro (h | h | h) <;> rw [h] at hbytes <;> revert hbytes <;> decide
  have hplain : ¬ (longName.toList.any fun c => c = '/' ∨ c = '\x00') = true := by
    rw [hlist]
    decide +kernel
  rw [checkName, if_neg hdots, if_neg hplain, if_neg (hbytes ▸ Nat.lt_irrefl _)]

/-- An upload may have such a name, but no dataset of an upload tells it. -/
theorem Host.uploaded_name_long :
    checkName longName = .ok () ∧
      ∀ (storage parent : UInt32) (format : ObjectFormat) (size : UInt32) (now : Calendar.Instant), ∃ info,
        ObjectInfo.parse (ObjectInfo.encode { ObjectInfo.forUpload storage parent longName format size with
          captureDate := some now, modificationDate := some now }) = .ok info ∧ info.filename ≠ longName := by
  obtain ⟨hname, hfull⟩ := brimful_longName
  refine ⟨hname, fun storage parent format size now => ⟨_, ObjectInfo.parse_encode _, fun heq => ?_⟩⟩
  have hshort : shortened longName = longName := (told_eq_shortened hname).symm.trans heq
  exact (shortened_eq_iff hname).mp hshort hfull

end Tether
