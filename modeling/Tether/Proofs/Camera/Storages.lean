import Tether.Proofs.Camera.Faultless
import Tether.Proofs.Volume.Survey

/-!
# Tether.Proofs.Camera.Storages — what a camera without faults tells about its cards

Without faults every question about the cards is answered, and the answers depend on nothing but what the camera
holds.  So what a scan finds in a slot (`Ready.fst_finding`) and what a refresh reads there is the same as long
as the camera holds the same.
-/

namespace Tether

open Ptp Tether.Action

namespace Camera

variable {c c' : Camera}

/-- Number of objects on a storage, of one format or of any. -/
def countOn (c : Camera) (storage format : UInt32) : UInt32 :=
  .ofNat (c.objects.values.countP fun o => liesOn storage o &&
    (format = 0 || o.info.format.code.toUInt32 = format))

/-- Numbers of files and of folders on a storage. -/
def census (c : Camera) (storage : UInt32) : Bay.Census :=
  let all := c.countOn storage 0
  let folders := c.countOn storage ObjectFormat.association.code.toUInt32
  ⟨if folders ≤ all then all - folders else 0, folders⟩

/-- What is found where a storage should be. -/
def finding (c : Camera) (storage : UInt32) : Finding :=
  match c.storages.get? storage with
  | some info => .card storage info.told (c.census storage)
  | none => .unreadable storage

/-- What is found in a slot. -/
def findingIn (c : Camera) (slot : Slot) : Finding :=
  match c.storages.keys[slot.val]? with
  | some storage => c.finding storage
  | none => .nothing

/-- The list of storages is not too long to be sent. -/
def ListsStorages (c : Camera) : Prop :=
  c.storages.keys.length ≤ maxListing

theorem Alike.countOn (h : c.Alike c') (storage format : UInt32) :
    c'.countOn storage format = c.countOn storage format := by
  unfold Camera.countOn
  rw [h.objects]

theorem Alike.census (h : c.Alike c') (storage : UInt32) : c'.census storage = c.census storage := by
  unfold Camera.census
  simp only [h.countOn]

theorem Alike.finding (h : c.Alike c') (storage : UInt32) : c'.finding storage = c.finding storage := by
  unfold Camera.finding
  rw [h.storages, h.census]

theorem Alike.hasStorage_iff (h : c.Alike c') {storage : UInt32} :
    c'.HasStorage storage ↔ c.HasStorage storage := by
  unfold HasStorage
  rw [h.storages]

theorem Alike.findingIn (h : c.Alike c') (slot : Slot) : c'.findingIn slot = c.findingIn slot := by
  unfold Camera.findingIn
  rw [h.storages]
  split
  · exact h.finding _
  · rfl

theorem Alike.listsStorages_iff (h : c.Alike c') : c'.ListsStorages ↔ c.ListsStorages := by
  unfold ListsStorages
  rw [h.storages]

/-- The objects on a storage that is there are counted. -/
theorem countObjects_of_has {storage : UInt32} (h : c.HasStorage storage) (format : UInt32) :
    countObjects storage format c = (.ok { parameters := [c.countOn storage format] }, c) := by
  unfold countObjects
  rw [bind_apply, checkStorage_of_has h]
  rfl

end Camera

namespace Engine.Ready

variable {e : Engine Camera}

/-- The camera lists its storages, if they are not too many to send. -/
theorem leaves_storageIds (h : Ready e) : storageIds.Leaves e
      (fun storages e' => Ready e' ∧ e.link.Alike e'.link ∧ storages = e.link.storages.keys ∧ e.link.ListsStorages)
      fun _ e' => Ready e' ∧ e.link.Alike e'.link ∧ ¬ e.link.ListsStorages := by
  refine h.leaves ((h.live.leaves_storageIds h.unarmed).mono ?_ fun _ _ he => he)
  rintro storages e' ⟨hundisturbed, halike, rfl, hshort⟩
  exact ⟨hundisturbed, halike, rfl, hshort⟩

/-- The camera describes the storages that it has. -/
theorem leaves_storageInfo (h : Ready e) (storage : UInt32) : (storageInfo storage).Leaves e
      (fun info e' => Ready e' ∧ e.link.Alike e'.link ∧ ∃ s, e.link.storages.get? storage = some s ∧ info = s.told)
      fun error e' => Ready e' ∧ e.link.Alike e'.link ∧ e.link.storages.get? storage = none ∧
        error = .device .getStorageInfo .invalidStorageId := by
  have hasks : Camera.Asks (.ofCode Operation.getStorageInfo.code) := trivial
  refine h.leaves
    (leaves_bind ((h.live.leaves_ask h.unarmed hasks (by decide) (by simp [maxParameters])).mono ?_ ?_))
  · rintro response e' ⟨hundisturbed, halike', c₁, reply, halike, hperform, rfl⟩
    have hinfo : (match c₁.storages.get? storage with
      | some info => (.ok { data := some info.encode }, c₁)
      | none => (.error .invalidStorageId, c₁) : Except ResponseCode Camera.Reply × Camera) =
        (.ok reply, c₁) := hperform
    rw [halike.storages] at hinfo
    cases hs : e.link.storages.get? storage with
    | none =>
      rw [hs] at hinfo
      cases hinfo
    | some s =>
      rw [hs] at hinfo
      obtain rfl := Except.ok.inj (Prod.mk.inj hinfo).1
      have hlength := s.length_encode_le
      have hfits : headerLength + s.encode.length ≤ maxWord := by
        show 12 + _ ≤ 0xFFFFFFFF
        omega
      rw [Response.expectData_eq_ok_iff.mpr ⟨rfl, hfits⟩]
      refine leaves_bind (leaves_of_eq_ok rfl ?_)
      rw [StorageInfo.parse_encode]
      exact leaves_of_eq_ok rfl ⟨hundisturbed, halike', s, rfl, rfl⟩
  · rintro error e' ⟨hundisturbed, halike', c₁, code, halike, hperform, rfl⟩
    have hinfo : (match c₁.storages.get? storage with
      | some info => (.ok { data := some info.encode }, c₁)
      | none => (.error .invalidStorageId, c₁) : Except ResponseCode Camera.Reply × Camera) =
        (.error code, c₁) := hperform
    rw [halike.storages] at hinfo
    cases hs : e.link.storages.get? storage with
    | none =>
      rw [hs] at hinfo
      obtain rfl := Except.error.inj (Prod.mk.inj hinfo).1
      exact ⟨hundisturbed, halike', rfl, rfl⟩
    | some s =>
      rw [hs] at hinfo
      cases hinfo

/-- The camera counts the objects on a storage that it has. -/
theorem leaves_countObjects (h : Ready e) {storage : UInt32} (hstorage : e.link.HasStorage storage)
    (format : Option ObjectFormat) : (countObjects storage format).Leaves e
      (fun count e' => Ready e' ∧ e.link.Alike e'.link ∧
        count = e.link.countOn storage ((format.map ObjectFormat.code).getD 0).toUInt32)
      fun _ _ => False := by
  have hasks : Camera.Asks (.ofCode Operation.getNumObjects.code) := trivial
  generalize hformat : ((format.map ObjectFormat.code).getD 0).toUInt32 = word
  have hcounts : ∀ c₁ : Camera, e.link.Alike c₁ → Camera.countObjects storage word c₁ =
      (.ok { parameters := [e.link.countOn storage word] }, c₁) := by
    intro c₁ halike
    rw [← halike.countOn]
    exact Camera.countObjects_of_has (halike.hasStorage_iff.mpr hstorage) word
  unfold countObjects
  rw [hformat]
  refine leaves_bind ((h.live.leaves_ask h.unarmed hasks (by decide) (by simp [maxParameters])).mono ?_ ?_)
  · rintro response e' ⟨hundisturbed, halike', c₁, reply, halike, hperform, rfl⟩
    obtain rfl := Except.ok.inj (Prod.mk.inj ((hcounts c₁ halike).symm.trans hperform)).1
    exact leaves_pure ⟨h.of_undisturbed hundisturbed, halike', rfl⟩
  · rintro error e' ⟨-, -, c₁, code, halike, hperform, -⟩
    cases (hcounts c₁ halike).symm.trans hperform

/-- The numbers of files and of folders on a storage are the camera's own. -/
theorem census (h : Ready e) {storage : UInt32} (hstorage : e.link.HasStorage storage) :
    (Bay.census storage e).1 = e.link.census storage ∧ Ready (Bay.census storage e).2 ∧
      e.link.Alike (Bay.census storage e).2.link := by
  obtain ⟨all, e₁, hall, hready₁, halike₁, rfl⟩ := (h.leaves_countObjects hstorage none).exists_ok
  obtain ⟨folders, e₂, hfolders, hready₂, halike₂, rfl⟩ :=
    (hready₁.leaves_countObjects (halike₁.hasStorage_iff.mpr hstorage) (some .association)).exists_ok
  unfold Bay.census
  rw [hall]
  dsimp only
  rw [hfolders]
  dsimp only
  rw [halike₁.countOn]
  exact ⟨rfl, hready₂, halike₁.trans halike₂⟩

/-- What a camera tells about a storage is its own. -/
theorem askAbout (h : Ready e) (storage : UInt32) :
    (Bay.askAbout storage e).1 = e.link.finding storage ∧ Ready (Bay.askAbout storage e).2 ∧
      e.link.Alike (Bay.askAbout storage e).2.link := by
  unfold Bay.askAbout Camera.finding
  cases hx : storageInfo storage e with
  | mk r e₁ =>
    cases r with
    | error error =>
      obtain ⟨hready, halike, hnone, -⟩ := (h.leaves_storageInfo storage).2 error e₁ hx
      rw [hnone]
      exact ⟨rfl, hready, halike⟩
    | ok info =>
      obtain ⟨hready, halike, s, hs, rfl⟩ := (h.leaves_storageInfo storage).1 info e₁ hx
      have hstorage : e₁.link.HasStorage storage := by
        refine .inr (OrderedMap.contains_iff.mpr ⟨s, ?_⟩)
        rw [halike.storages, hs]
      obtain ⟨hcensus, hready', halike'⟩ := hready.census hstorage
      rw [hs]
      dsimp only
      rw [hcensus, halike.census]
      exact ⟨rfl, hready', halike.trans halike'⟩

theorem lookAt (h : Ready e) (storages : List UInt32) (slot : Slot) :
    (Bay.lookAt storages slot e).1 = (match storages[slot.val]? with
      | some storage => e.link.finding storage
      | none => .nothing) ∧ Ready (Bay.lookAt storages slot e).2 ∧
          e.link.Alike (Bay.lookAt storages slot e).2.link := by
  unfold Bay.lookAt
  cases storages[slot.val]? with
  | some storage => exact h.askAbout storage
  | none => exact ⟨rfl, h, .refl _⟩

/-- Asking about some slots in order changes nothing at the camera. -/
theorem foldl_lookAt (storages : List UInt32) (slots : List Slot) (h : Ready e) :
    Ready (slots.foldl (fun e before => (Bay.lookAt storages before e).2) e) ∧
      e.link.Alike (slots.foldl (fun e before => (Bay.lookAt storages before e).2) e).link := by
  induction slots generalizing e with
  | nil => exact ⟨h, .refl _⟩
  | cons slot rest ih =>
    obtain ⟨-, hready, halike⟩ := h.lookAt storages slot
    obtain ⟨hready', halike'⟩ := ih hready
    exact ⟨hready', halike.trans halike'⟩

/-- What a scan finds in a slot does not depend on what it has found before. -/
theorem fst_finding (h : Ready e) (slot : Slot) :
    Bay.finding e.link.storages.keys slot e = e.link.findingIn slot := by
  obtain ⟨hready, halike⟩ := foldl_lookAt e.link.storages.keys (Slot.all.take slot.val) h
  have hfound := (hready.lookAt e.link.storages.keys slot).1
  unfold Bay.finding Bay.engineAt
  rw [hfound]
  unfold Camera.findingIn
  split
  · exact halike.finding _
  · rfl

end Engine.Ready

end Tether
