import Tether.Proofs.Camera.Armed

/-!
# Tether.Proofs.Camera.Faultless — calls at a camera that has no fault armed

Without faults a call that is answered was carried out, and no call fails that the camera would carry out.  So a
camera that an engine speaks to tells what it has (`Ready.leaves_handles`), and an upload is there as it was sent
(`Faultless.leaves_sendContent`).
-/

namespace Tether

open Ptp Tether.Action

namespace Camera

variable {c c' : Camera}

/-- The camera once the content of an upload has come. -/
def completed (c : Camera) (p : PendingUpload) (content : Bytes) : Camera :=
  { c with
    pendingUpload := none
    storages := c.storages.adjust p.info.storageId fun s =>
      { s with freeSpaceBytes := UInt64.ofNat (s.freeSpaceBytes.toNat - content.length) }
    objects := c.objects.insert p.handle ⟨p.info, content⟩ }

/-- A storage stays writable when its room changes. -/
theorem CanWrite.adjust {storage id : UInt32} {f : StorageInfo → StorageInfo} (h : c.CanWrite storage)
    (hstorages : c'.storages = c.storages.adjust id f) (hf : ∀ s, (f s).isReadOnly = s.isReadOnly) :
    c'.CanWrite storage := by
  obtain ⟨s, hs, hwritable⟩ := h
  unfold CanWrite
  rw [hstorages, OrderedMap.get?_adjust]
  split
  · exact ⟨f s, congrArg (Option.map f) hs, (hf s).trans hwritable⟩
  · exact ⟨s, hs, hwritable⟩

theorem CanWrite.deleted {storage : UInt32} (h : c.CanWrite storage) (handle : UInt32) (o : CameraObject) :
    (c.deleted handle o).CanWrite storage := by
  have hstorages : (c.deleted handle o).storages = c.storages.adjust o.info.storageId fun s =>
    { s with freeSpaceBytes :=
        UInt64.ofNat (min (s.freeSpaceBytes.toNat + (removeTree handle c.objects).1) s.maxCapacity.toNat) } := rfl
  exact h.adjust hstorages fun _ => rfl

theorem CanWrite.hasStorage {storage : UInt32} (h : c.CanWrite storage) : c.HasStorage storage := by
  obtain ⟨s, hs, -⟩ := h
  exact .inr (OrderedMap.contains_iff.mpr ⟨s, hs⟩)

theorem Alike.completed (h : c.Alike c') (p : PendingUpload) (content : Bytes) :
    (c.completed p content).Alike (c'.completed p content) where
  deviceInfo := h.deviceInfo
  clock := h.clock
  sessionOpen := h.sessionOpen
  storages := by rw [Camera.completed, Camera.completed, h.storages]
  objects := by rw [Camera.completed, Camera.completed, h.objects]
  nextHandle := h.nextHandle
  pendingUpload := rfl

theorem Alike.announced (h : c.Alike c') (storage parent : UInt32) (info : ObjectInfo) :
    (c.announced storage parent info).Alike (c'.announced storage parent info) where
  deviceInfo := h.deviceInfo
  clock := h.clock
  sessionOpen := h.sessionOpen
  storages := h.storages
  objects := h.objects
  nextHandle := by rw [Camera.announced, Camera.announced, h.nextHandle]
  pendingUpload := by
    rw [Camera.announced, Camera.announced, Camera.received, Camera.received, h.nextHandle, h.clock]

/-- The camera after an upload. -/
def stored (c : Camera) (storage parent : UInt32) (info : ObjectInfo) (content : Bytes) : Camera :=
  (c.announced storage parent info).completed ⟨c.nextHandle, c.received storage parent info⟩ content

theorem Alike.deleted (h : c.Alike c') (handle : UInt32) (o : CameraObject) :
    (c.deleted handle o).Alike (c'.deleted handle o) where
  deviceInfo := h.deviceInfo
  clock := h.clock
  sessionOpen := h.sessionOpen
  storages := by rw [Camera.deleted, Camera.deleted, h.storages, h.objects]
  objects := by rw [Camera.deleted, Camera.deleted, h.objects]
  nextHandle := h.nextHandle
  pendingUpload := h.pendingUpload

theorem Alike.canWrite_iff (h : c.Alike c') {storage : UInt32} : c'.CanWrite storage ↔ c.CanWrite storage := by
  unfold CanWrite
  rw [h.storages]

end Camera

namespace Engine

variable {operation : Operation} {parameters : List UInt32} {payload : Option Bytes} {e : Engine Camera}

/-! ## Cameras without faults -/

/-- A calm engine at a camera that has no fault armed; whether the camera is connected and a session is taken for
open does not change. -/
structure Faultless (connected : Bool) (session : Option UInt32) (e : Engine Camera) : Prop extends Calm e where
  connected_eq : e.link.connected = connected
  session_eq : e.session = session
  faults : e.link.faults = []

variable {connected : Bool} {session : Option UInt32}

theorem Faultless.unarmed {op : Operation} (h : Faultless connected session e) :
    Camera.Unarmed e.link.faults op := by
  rw [h.faults]
  exact Camera.unarmed_nil op

/-- Without faults a call fails and leaves what the camera holds, or the camera has carried it out. -/
theorem Faultless.leaves_executeOk (h : Faultless connected session e)
    (hpaired : payload.isSome = true ↔ Camera.Uploads operation) (parameters : List UInt32) :
    (executeOk operation parameters payload).Leaves e
      (fun _ e' => Faultless connected session e' ∧ checkCall operation parameters payload e = .ok () ∧
        ∃ c₁ c₂ reply, e.link.Alike c₁ ∧
          Camera.perform (.ofCode operation.code) parameters payload c₁ = (.ok reply, c₂) ∧ c₂.Alike e'.link)
      fun _ e' => Faultless connected session e' ∧ e.link.Alike e'.link := by
  have hcalm := (execute_cases h.toCalm hpaired parameters).2
  have hsession := (session_execute operation parameters payload e).trans h.session_eq
  have hx := executeOk_eq operation parameters payload e
  cases hcheck : checkCall operation parameters payload e with
  | error error =>
    rw [execute_of_refused hcheck] at hx
    exact leaves_of_eq_error hx ⟨h, .refl _⟩
  | ok _ =>
    by_cases hc : e.link.connected = true
    · obtain ⟨c₁, c₂, c', answer, halike, hperform, halike', ⟨hconnected, -, hfaults⟩, hr, hlink, -⟩ :=
        execute_of_unspoiled h.toCalm hc (Camera.takeFault_of_unarmed h.unarmed) hpaired hcheck
      have hfaultless : Faultless connected session (execute operation parameters payload e).2 :=
        ⟨hcalm, by rw [hlink, hconnected, ← hc, h.connected_eq], hsession, (hlink ▸ hfaults).trans h.faults⟩
      rw [← hlink] at halike'
      rw [hr] at hx
      cases answer with
      | ok reply => exact leaves_of_eq_ok hx ⟨hfaultless, rfl, c₁, c₂, reply, halike, hperform, halike'⟩
      | error code =>
        obtain ⟨rfl, hrefuses⟩ := Camera.refusing_perform _ _ _ _ _ _ hperform
        dsimp only [Except.bind] at hx
        rw [accepted_of_refuses hrefuses] at hx
        exact leaves_of_eq_error hx ⟨hfaultless, halike.trans halike'⟩
    · rw [execute_of_disconnected hc hcheck] at hx hcalm hsession
      exact leaves_of_eq_error hx ⟨⟨hcalm, h.connected_eq, hsession, h.faults⟩, .refl _⟩

theorem Faultless.keeps_executeOk (hpaired : payload.isSome = true ↔ Camera.Uploads operation)
    (parameters : List UInt32) : (executeOk operation parameters payload).Keeps (Faultless connected session) :=
  fun _ h => Leaves.state (P := Faultless connected session)
    ((h.leaves_executeOk hpaired parameters).mono (fun _ _ he => he.1) fun _ _ he => he.1)

/-! ## Uploads and deletions -/

/-- An announced upload has the camera's next handle. -/
theorem Faultless.leaves_announceUpload (h : Faultless connected session e) (storage parent : UInt32)
    {info : ObjectInfo} (hfile : info.told.isFolder = false) : (announceUpload storage parent info).Leaves e
      (fun handle e' => Faultless connected session e' ∧ handle = e.link.nextHandle ∧ e.link.CanWrite storage ∧
        (Camera.folderOf parent ≠ 0 →
          ∃ o, e.link.objects.get? (Camera.folderOf parent) = some o ∧ o.info.isFolder = true) ∧
        (e.link.announced storage parent info).Alike e'.link)
      fun _ e' => Faultless connected session e' ∧ e.link.Alike e'.link := by
  have hkeeps : (announceUpload storage parent info).Keeps (Faultless connected session) :=
    keeps_bind (Faultless.keeps_executeOk ⟨fun _ => .inl rfl, fun _ => rfl⟩ _) fun _ => keeps_ofOption _ _
  refine ((leaves_of_state (hkeeps e h)).and
    (Engine.leaves_announceUpload h.toCalm storage parent hfile)).mono ?_ ?_
  · rintro handle e' ⟨hfaultless, -, hhandle, c₁, halike, hwrite, hfolder, hannounced⟩
    rw [halike.objects] at hfolder
    exact ⟨hfaultless, hhandle, halike.canWrite_iff.mp hwrite, hfolder,
      (halike.announced storage parent info).trans hannounced⟩
  · rintro error e' ⟨hfaultless, -, halike⟩
    exact ⟨hfaultless, halike⟩

/-- Without faults, content that is accepted is there as the object that was announced. -/
theorem Faultless.leaves_sendContent (h : Faultless connected session e) {p : PendingUpload}
    (hp : e.link.pendingUpload = some p) (content : Bytes) : (sendContent content).Leaves e
      (fun _ e' => Faultless connected session e' ∧ headerLength + content.length ≤ maxWord ∧
        (e.link.completed p content).Alike e'.link)
      fun _ e' => Faultless connected session e' ∧ e.link.Alike e'.link := by
  refine leaves_bind ((h.leaves_executeOk ⟨fun _ => .inr rfl, fun _ => rfl⟩ []).mono ?_ fun _ _ he => he)
  rintro response e' ⟨hfaultless, hcheck, c₁, c₂, reply, halike, hperform, halike'⟩
  refine leaves_pure ⟨hfaultless, (length_le_of_checkCall hcheck).2 content rfl, ?_⟩
  rw [Camera.perform_eq (by decide) (by decide)] at hperform
  split at hperform
  · have hfinish : Camera.finishUpload (some content) c₁ = (.ok {}, c₁.completed p content) := by
      unfold Camera.finishUpload
      rw [halike.pendingUpload, hp]
      rfl
    have hsame : Camera.finishUpload (some content) c₁ = (.ok reply, c₂) := hperform
    obtain ⟨-, rfl⟩ := Prod.mk.inj (hfinish.symm.trans hsame)
    exact (halike.completed p content).trans halike'
  · cases hperform

/-! ## Open sessions -/

/-- Without faults, with a session open at both ends. -/
structure Ready (e : Engine Camera) : Prop extends Faultless true e.session e where
  session : e.session ≠ none
  sessionOpen : e.link.sessionOpen = true

namespace Ready

theorem live (h : Ready e) : Live e :=
  ⟨h.toCalm, h.connected_eq, h.session, h.sessionOpen⟩

theorem of_undisturbed {e' : Engine Camera} (h : Ready e) (hu : Undisturbed e e') : Ready e' :=
  ⟨⟨hu.live.toCalm, hu.live.connected, rfl, hu.faults.trans h.faults⟩, hu.live.session, hu.live.sessionOpen⟩

/-- Where no fault comes up, none is armed afterwards either. -/
theorem leaves {α : Type} {x : Action (Engine Camera) PtpError α} {Q : α → Engine Camera → Prop}
    {E : PtpError → Engine Camera → Prop} (h : Ready e)
    (hx : x.Leaves e (fun a e' => Undisturbed e e' ∧ Q a e') fun error e' => Undisturbed e e' ∧ E error e') :
    x.Leaves e (fun a e' => Ready e' ∧ Q a e') fun error e' => Ready e' ∧ E error e' :=
  hx.mono (fun _ _ ⟨hu, hq⟩ => ⟨h.of_undisturbed hu, hq⟩) fun _ _ ⟨hu, he⟩ => ⟨h.of_undisturbed hu, he⟩

/-- The camera lists a folder, if the storage and the folder are there and the list is not too long to send. -/
theorem leaves_handles (h : Ready e) (storage parent : UInt32) : (handles storage parent).Leaves e
      (fun handles e' => Ready e' ∧ e.link.Alike e'.link ∧ e.link.HasStorage storage ∧
        e.link.HasFolder (wireParent parent) ∧
        handles = Camera.listing e.link.objects storage (wireParent parent) ∧ handles.length ≤ Camera.maxListing)
      fun _ e' => Ready e' ∧ e.link.Alike e'.link ∧
        ¬ (e.link.HasStorage storage ∧ e.link.HasFolder (wireParent parent) ∧
        (Camera.listing e.link.objects storage (wireParent parent)).length ≤ Camera.maxListing) :=
  h.leaves (h.live.leaves_handles h.unarmed storage parent)

/-- The camera describes the objects that it has. -/
theorem leaves_objectInfo (h : Ready e) (handle : UInt32) : (objectInfo handle).Leaves e
      (fun info e' => Ready e' ∧ e.link.Alike e'.link ∧
        ∃ o, e.link.objects.get? handle = some o ∧ info = o.described.told)
      fun _ e' => Ready e' ∧ e.link.Alike e'.link ∧ e.link.objects.get? handle = none :=
  h.leaves (h.live.leaves_objectInfo h.unarmed handle)

/-- The counters are not part of it. -/
theorem count (h : Ready e) (f : Stats → Stats) : Ready (e.count f) :=
  ⟨⟨⟨h.received, h.clear⟩, h.connected_eq, rfl, h.faults⟩, h.session, h.sessionOpen⟩

/-- The camera reads any part of the objects that it has; what does not fit a container is not sent. -/
theorem leaves_downloadPart (h : Ready e) (handle offset length : UInt32) :
    (downloadPart handle offset length).Leaves e
      (fun data e' => Ready e' ∧ e.link.Alike e'.link ∧ ∃ o, e.link.objects.get? handle = some o ∧
        data = fitting ((o.data.drop offset.toNat).take length.toNat))
      fun _ e' => Ready e' ∧ e.link.Alike e'.link ∧ e.link.objects.get? handle = none := by
  have hasks : Camera.Asks (.ofCode Operation.getPartialObject.code) := trivial
  refine h.leaves
    (leaves_bind ((h.live.leaves_ask h.unarmed hasks (by decide) (by simp [maxParameters])).mono ?_ ?_))
  · rintro response e' ⟨hready, halike', c₁, reply, halike, hperform, rfl⟩
    obtain ⟨o, ho, hdata⟩ := (Camera.leaves_readPart handle offset length c₁).1 reply c₁ hperform
    rw [halike.objects] at ho
    refine leaves_pure ⟨hready, halike', o, ho, ?_⟩
    rw [Response.data_ofAnswer, hdata, fitting_eq_getD]
  · rintro error e' ⟨hready, halike', c₁, code, halike, hperform, -⟩
    exact ⟨hready, halike', halike.objects ▸ (Camera.leaves_readPart handle offset length c₁).2 code c₁ hperform⟩

/-- Asking for an object changes nothing. -/
theorem leaves_download (h : Ready e) (handle : UInt32) : (download handle).Leaves e
      (fun _ e' => Ready e' ∧ e.link.Alike e'.link) fun _ e' => Ready e' ∧ e.link.Alike e'.link := by
  have hasks : Camera.Asks (.ofCode Operation.getObject.code) := trivial
  refine h.leaves
    (leaves_bind ((h.live.leaves_ask h.unarmed hasks (by decide) (by simp [maxParameters])).mono ?_ ?_))
  · rintro response e' ⟨hready, halike, -⟩
    exact leaves_pure ⟨hready, halike⟩
  · rintro error e' ⟨hready, halike, -⟩
    exact ⟨hready, halike⟩

/-- The camera deletes what is not protected, from storages that can be written. -/
theorem leaves_deleteObject (h : Ready e) (handle : UInt32) : (deleteObject handle).Leaves e
      (fun _ e' => Ready e' ∧ ∃ o, e.link.objects.get? handle = some o ∧ (e.link.deleted handle o).Alike e'.link)
      fun _ e' => Ready e' ∧ e.link.Alike e'.link ∧ ¬ ∃ o, e.link.objects.get? handle = some o ∧
        o.info.protectionStatus = 0 ∧ e.link.CanWrite o.info.storageId := by
  have hsession : (Camera.performInSession (.ofCode Operation.deleteObject.code) [handle, 0] none).Keeps
      (·.sessionOpen = true) := by
    intro c hc
    show (Camera.delete handle c).2.sessionOpen = true
    rcases Camera.delete_cases handle c with hd | ⟨o, -, hd⟩
    · rw [hd]
      exact hc
    · rw [hd]
      exact hc
  refine h.leaves
    (leaves_bind ((h.live.leaves_executeOk h.unarmed (by decide) (by simp [maxParameters]) (by decide)
    (by decide) hsession).mono ?_ ?_))
  · rintro response e' ⟨hready, c₁, c₂, reply, halike, hperform, halike', -⟩
    obtain ⟨o, ho, rfl⟩ := (Camera.leaves_delete handle c₁).1 reply c₂ hperform
    rw [halike.objects] at ho
    exact leaves_pure ⟨hready, o, ho, (halike.deleted handle o).trans halike'⟩
  · rintro error e' ⟨hready, halike', c₁, c₂, code, halike, hperform, -⟩
    refine ⟨hready, halike', ?_⟩
    have hrefused := ((Camera.leaves_delete handle c₁).2 code c₂ hperform).2
    rw [halike.objects] at hrefused
    simpa only [halike.canWrite_iff] using hrefused

end Ready

end Engine

end Tether
