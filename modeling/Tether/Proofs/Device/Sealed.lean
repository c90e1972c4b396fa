import Tether.Proofs.Device.Runs
import Tether.Proofs.Volume.Sound

/-!
# Tether.Proofs.Device.Sealed — cameras that take no uploads

At a camera that takes no uploads a card is protected as soon as it could be mounted (`Volume.Sealed`).  Turns
keep this, and so do mounts and formats, so a card of such a camera is never written to, whatever the camera
answers and whatever is done with the device (`Device.never_written`).
-/

namespace Tether

open Ptp Tether.Action
open Relation (ReflTransGen)

/-! ## One card -/

namespace Volume

/-- A card that is mounted or could be is protected. -/
def Sealed (v : Volume) : Prop :=
  v.isMounted = true ∨ v.status = .inserted → v.writeProtected = true

variable {slot : Slot} {v w : Volume}

theorem Sealed.noteFull (h : v.Sealed) : (Bay.noteFull v).Sealed := by
  intro hw
  rw [isMounted_noteFull] at hw
  refine h (hw.imp_right fun hs => ?_)
  unfold Bay.noteFull at hs
  by_cases hfull : v.isMounted = true ∧ ¬ v.writeProtected = true
  · rw [if_pos hfull] at hs
    cases hs
  · rw [if_neg hfull] at hs
    exact hs

/-- A camera that takes no uploads has protected cards only. -/
theorem writeProtected_reported (storage : UInt32) (info : Ptp.StorageInfo) (census : Bay.Census) (v : Volume) :
    (v.reported storage info census false).writeProtected = true :=
  Bool.or_true info.isReadOnly

theorem Turn.sealed (ht : Turn false slot v w) (h : v.Sealed) : w.Sealed := by
  cases ht with
  | accessed time => exact h
  | reread info census => exact fun _ => writeProtected_reported v.storageId info census v
  | inserted storage info census => exact fun _ => writeProtected_reported storage info census v
  | full => exact h.noteFull
  | writeProtected => exact fun _ => rfl
  | unreadable storage => rintro (hs | hs) <;> cases hs
  | emptied => rintro (hs | hs) <;> cases hs
  | failed => rintro (hs | hs) <;> cases hs

end Volume

/-! ## All cards -/

namespace Bay

variable {τ : Type} {b b' : Bay τ} {slot : Slot}

/-- A bay at a camera that takes no uploads. -/
structure Sealed (b : Bay τ) : Prop where
  uploads : b.uploads = false
  volume : ∀ slot, (b.table.volume slot).Sealed
  sound : b.table.Sound

/-- The active card is protected. -/
theorem Sealed.active (h : b.Sealed) (ha : b.table.active = some slot) :
    (b.table.volume slot).writeProtected = true :=
  h.volume slot (.inl (h.sound.seated slot ha))

/-- What happens to the session and the link. -/
theorem Sealed.engine (h : b.Sealed) (engine : Engine τ) : Sealed { b with engine } :=
  ⟨h.uploads, h.volume, h.sound⟩

theorem uploads_mount (n : Nat) (b : Bay τ) : (mount n b).2.uploads = b.uploads := by
  have hkeeps : (mount n : Action (Bay τ) StorageError Unit).Keeps (·.uploads = b.uploads) :=
    keeps_bind (keeps_ofExcept _) fun _ => keeps_bind keeps_state fun _ => keeps_guard (keeps_change fun _ h => h)
  exact hkeeps b rfl

theorem uploads_format [Transport τ] (n : Nat) (b : Bay τ) : (format n b).2.uploads = b.uploads := by
  have hkeeps : (format n : Action (Bay τ) StorageError Unit).Keeps (·.uploads = b.uploads) :=
    keeps_bind (keeps_ofExcept _) fun _ => keeps_bind (keeps_read _) fun _ => keeps_guard
      (keeps_bind (fun _ h => h) fun _ => keeps_change fun _ h => h)
  exact hkeeps b rfl

end Bay

section Calls

variable {τ : Type} [Transport τ]

theorem BayStep.uploads_run {s : BayStep τ} (hs : s.Usual) (b : Bay τ) : (s.run b).uploads = b.uploads := by
  cases s with
  | mount n => exact Bay.uploads_mount n b
  | format n => exact Bay.uploads_format n b
  | takeUploads uploads => exact hs.elim
  | _ =>
    refine (course_run ?_ b).uploads
    exact trivial

/-- A card that is mounted was protected before, and a format takes no protection away. -/
theorem BayStep.sealed_run {s : BayStep τ} (hs : s.Usual) {b : Bay τ} (h : b.Sealed) : (s.run b).Sealed where
  uploads := (uploads_run hs b).trans h.uploads
  volume := by
    refine s.volume_run (P := fun _ v => v.Sealed) (fun hturn => ?_) (fun hi hv => ?_) (fun _ hm hv => ?_) h.volume
    · rw [h.uploads] at hturn
      exact hturn.sealed
    · exact fun _ => hv (.inr hi)
    · exact fun _ => hv (.inl hm)
  sound := s.sound_run b h.sound

theorem BayCall.sealed_run {c : BayCall τ} (hc : c.Usual) {b : Bay τ} (h : b.Sealed) : (c.run b).Sealed := by
  rw [← c.runAll_steps b]
  exact BayStep.runAll_of_forall (P := Bay.Sealed) (fun _ _ hs => BayStep.sealed_run hs) (c.usual_steps hc b) h

namespace Host

omit [Transport τ] in
/-- Where the slots are sealed, the active card is protected. -/
theorem barred_of_sealed {h : Host τ} (hs : h.bay.Sealed) : h.Barred :=
  fun _ => hs.active

theorem sealed_fetch (handle : UInt32) :
    (fetch handle : Action (Host τ) StorageError ObjectRef).Keeps (·.bay.Sealed) :=
  keeps_guard (keeps_bind (fun _ hs => hs.engine _) fun _ => keeps_bind (keeps_read _) fun _ _ hs => hs)

theorem sealed_readRange (ref : ObjectRef) (length offset : Nat) :
    (readRange ref length offset : Action (Host τ) StorageError Bytes).Keeps (·.bay.Sealed) := by
  refine keeps_bind (keeps_read _) fun o => ?_
  refine keeps_ite (keeps_bind (keeps_change fun _ hs => hs.engine _) fun _ => keeps_pure _) ?_
  refine keeps_guard (keeps_ite (keeps_pure _) ?_)
  refine keeps_bind (fun _ hs => hs.engine _) fun data => ?_
  exact keeps_bind (keeps_change fun _ hs => hs.engine _) fun _ => keeps_pure _

theorem sealed_cache (ref : ObjectRef) : (cache ref : Action (Host τ) StorageError Bool).Keeps (·.bay.Sealed) := by
  refine keeps_bind keeps_state fun h => ?_
  refine keeps_ite (keeps_bind (keeps_change fun _ hs => hs) fun _ => keeps_pure _) ?_
  refine keeps_ite (keeps_pure _) ?_
  refine keeps_bind (fun _ hs => hs.engine _) fun payload => ?_
  exact keeps_bind (keeps_change fun _ hs => hs.engine _) fun _ => keeps_ite (keeps_pure _) fun _ hs => hs

theorem sealed_delete (ref : ObjectRef) : (delete ref : Action (Host τ) StorageError Unit).Keeps (·.bay.Sealed) :=
  keeps_bind (keeps_read _) fun _ => keeps_bind (fun _ hs => hs.engine _) fun _ => keeps_change fun _ hs => hs

end Host

theorem StoreCall.sealed_run {c : StoreCall τ} (hc : c.Usual) {h : Host τ}
    (hs : h.bay.Sealed) : (c.run h).bay.Sealed := by
  cases c with
  | fetch handle => exact Host.sealed_fetch handle h hs
  | readRange ref length offset => exact Host.sealed_readRange ref length offset h hs
  | cache ref => exact Host.sealed_cache ref h hs
  | delete ref => exact Host.sealed_delete ref h hs
  | writeNew name content parent =>
    obtain ⟨error, hfails⟩ := (Host.barred_of_sealed hs).writeNew name content parent
    show (Host.writeNew name content parent h).2.bay.Sealed
    rw [hfails]
    exact hs
  | bay f => exact hc.elim
  | _ => exact hs

/-- What is always true of the host of a device: the camera's description decides whether its slots are sealed. -/
theorem Host.stable_sealed (info : Ptp.DeviceInfo) :
    Host.Stable fun h : Host τ => Reached True h ∧ (info.supportsUpload = false → h.bay.Sealed) where
  quiet h := h.1.changes_nil
  bay c _ hc h := by
    refine ⟨h.1.bay c.run, fun hi => ?_⟩
    have hs := BayCall.sealed_run hc (h.2 hi)
    exact ⟨hs.uploads, hs.volume, hs.sound⟩
  store c _ hc h := ⟨.call c h.1 (.inl trivial), fun hi => c.sealed_run hc (h.2 hi)⟩

end Calls

/-! ## The device -/

namespace Device

variable {τ : Type} [Transport τ] {d : Device τ}

theorem Used.sealed (hu : d.Used) (hinfo : d.info.supportsUpload = false) : d.host.bay.Sealed := by
  refine (hu.host Host.stable_sealed fun info engine budget staleness =>
    ⟨.new _ [] budget staleness rfl, fun hi => ?_⟩).2
    hinfo
  refine ⟨hi, fun slot => ?_, VolumeTable.sound_empty⟩
  show (VolumeTable.empty.volume slot).Sealed
  rw [VolumeTable.volume_empty]
  rintro (hs | hs) <;> cases hs

/-- Wherever a run comes with a camera that does not list both operations of an upload: the mounted cards are
protected, no block can be written, and every upload, write, creation and deletion of a file fails and leaves
everything as it is, so that nothing is sent. -/
theorem never_written (hu : d.Used)
    (hinfo : ¬ (Operation.sendObjectInfo.code ∈ d.info.operationsSupported ∧
      Operation.sendObject.code ∈ d.info.operationsSupported)) :
    (∀ slot, (d.host.bay.table.volume slot).isMounted = true →
      (d.host.bay.table.volume slot).writeProtected = true) ∧
    (∀ m : Mount, (m.capacity d.host).blocksAvailable = 0) ∧
    (∀ name content parent, ∃ error, Host.writeNew name content parent d.host = (.error error, d.host)) ∧
    (∀ m : Mount, (∀ n content, ∃ error, m.write n content d.host = (.error error, d.host)) ∧
      (∀ dir name content, ∃ error, m.create dir name content d.host = (.error error, d.host)) ∧
      ∀ n, ∃ error, m.unlink n d.host = (.error error, d.host)) := by
  have hsupport : d.info.supportsUpload = false := by
    refine Bool.eq_false_iff.mpr fun htrue => hinfo ?_
    obtain ⟨hinfo, hobject⟩ := Bool.and_eq_true_iff.mp htrue
    exact ⟨List.contains_iff_mem.mp hinfo, List.contains_iff_mem.mp hobject⟩
  have hs := hu.sealed hsupport
  have hb := Host.barred_of_sealed hs
  refine ⟨fun slot hm => hs.volume slot (.inl hm), hb.blocksAvailable, hb.writeNew, fun m => ?_⟩
  exact ⟨hb.write m, hb.create m, hb.unlink m⟩

/-- A camera with two cards that takes the announcement of an upload, but not its content. -/
def announcing : Camera :=
  let c := Camera.withTwoCards Engine.idle.clock
  { c with deviceInfo.operationsSupported :=
      c.deviceInfo.operationsSupported.filter fun code => code ≠ Operation.sendObject.code }

/-- The first card of such a camera is mounted as a file system, and no file can be put on it. -/
theorem never_written_announcing :
    ∃ d : Device Camera, (d.Used ∧ Operation.sendObject.code ∉ d.info.operationsSupported) ∧
      (d.host.bay.table.volume 0).isMounted = true ∧ (d.host.bay.table.volume 0).writeProtected = true ∧
      ∃ error, Mount.create ⟨{}, 1, none⟩ .root "a.jpg" [1] d.host = (.error error, d.host) := by
  have hmounted : ((attached? Engine.idle.clock announcing).map fun d =>
      decide ((((DeviceStep.mount {}).run d).host.bay.table.volume 0).isMounted = true ∧
        Operation.sendObject.code ∉ d.info.operationsSupported)) = some true := by decide +kernel
  obtain ⟨d, hd, hm⟩ := Option.map_eq_some_iff.mp hmounted
  obtain ⟨hm, hinfo⟩ := of_decide_eq_true hm
  have hu : ((DeviceStep.mount {}).run d).Used := .step (.mount {}) (used_of_attached? hd) trivial
  have hlist : Operation.sendObject.code ∉ ((DeviceStep.mount {}).run d).info.operationsSupported := by
    rw [info_run]
    exact hinfo
  obtain ⟨hprotected, -, -, hfiles⟩ := never_written hu fun hboth => hlist hboth.2
  exact ⟨_, ⟨hu, hlist⟩, hm, hprotected 0 hm, (hfiles _).2.1 _ _ _⟩

end Device

end Tether
