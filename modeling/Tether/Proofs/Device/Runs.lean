import Tether.Device
import Tether.Proofs.Cache.Runs
import Tether.Proofs.Files.Calls

/-!
# Tether.Proofs.Device.Runs — attached cameras, along every run

A run attaches a camera and then does anything with the device in any order: reports, card events, mounts, calls
of the slots, of the store and of the file systems, and detaching.  Between them anything may happen to the
session and the link, so the camera may answer whatever it likes.  What calls of the slots and of the store keep
of a host is true wherever a run comes (`Device.Used.host`).
-/

namespace Tether

open Ptp Tether.Action
open Calendar (Instant)

variable {τ : Type} [Transport τ]

/-! ## What calls keep -/

/-- The step is none by which it turns out whether the camera takes uploads; that happens once, while it is
attached. -/
def BayStep.Usual : BayStep τ → Prop
  | .takeUploads _ => False
  | _ => True

/-- The same of a call. -/
def BayCall.Usual : BayCall τ → Prop
  | .step s => s.Usual
  | _ => True

/-- The call is none in which anything may happen to the slots; these have calls of their own. -/
def StoreCall.Usual : StoreCall τ → Prop
  | .bay _ => False
  | _ => True

/-- The steps of a usual call are usual. -/
theorem BayCall.usual_steps {c : BayCall τ} (hc : c.Usual) (b : Bay τ) : ∀ s ∈ c.steps b, s.Usual := by
  refine forall_steps (fun s hs => ?_) (fun s hs => ?_) (fun _ => trivial) b
  · rwa [hs] at hc
  · cases s with
    | takeUploads uploads => exact hs
    | _ => exact trivial

namespace Host

/-- What calls of the slots and of the store keep, and a host of which no change of a slot waits to be told. -/
structure Stable (P : Host τ → Prop) : Prop where
  quiet : ∀ {h}, P h → h.bay.changes = []
  bay : ∀ (c : BayCall τ) {h}, c.Usual → P h → P (h.updateBay c.run)
  store : ∀ (c : StoreCall τ) {h}, c.Usual → P h → P (c.run h)

namespace Stable

variable {P : Host τ → Prop} {h : Host τ} (hP : Stable P)
include hP

/-- Whatever happens to the session and the link. -/
theorem engine (f : Engine τ → Engine τ) (hp : P h) :
    P { h with bay := { h.bay with engine := f h.bay.engine } } := by
  have htold := hP.bay (.step (.engine f)) trivial hp
  rwa [updateBay_of_quiet (hP.quiet hp)] at htold

theorem keeps_call {α : Type} (handle : Option UInt32)
    (x : Action (Engine τ) PtpError α) : (call handle x).Keeps P :=
  fun _ hp => hP.engine (fun e => (x.mapError (StorageError.ofPtp handle) e).2) hp

theorem enduring : Enduring (fun _ => True) P where
  fetch handle _ hp := hP.store (.fetch handle) trivial hp
  readRange ref length offset _ hp := hP.store (.readRange ref length offset) trivial hp
  delete ref _ hp := hP.store (.delete ref) trivial hp
  writeNew name content parent _ hp _ := hP.store (.writeNew name content parent) trivial hp
  handles storage parent := hP.keeps_call none (Engine.handles storage parent)
  touch slot _ hp := by
    have htold := hP.bay (.step (.touch slot)) trivial hp
    rwa [updateBay_of_quiet (hP.quiet hp)] at htold
  count f _ hp := hP.engine (fun e => e.count f) hp
  volume := keeps_volume hP.quiet
  mount slot _ hp := hP.bay (.step (.mount slot)) trivial hp
  setActive slot _ hp := hP.bay (.step (.setActive slot)) trivial hp
  overrideBudget bytes _ hp := hP.store (.overrideBudget bytes) trivial hp
  releaseBudget token _ hp := hP.store (.releaseBudget token) trivial hp

theorem files (c : FileCall) (hp : P h) : P (c.run h) := by
  refine hP.enduring.files c hp ?_
  cases c <;> exact trivial

theorem handleEvent (event : DeviceEvent) (hp : P h) : P (h.handleEvent event) :=
  hP.store (.report event) trivial (hP.bay (.report event) trivial hp)

theorem tearDown (hp : P h) : P h.tearDown :=
  hP.engine Engine.closeSession (hP.bay .unmountAll trivial (hP.store .clear trivial hp))

end Stable

/-- The description of a camera tells whether it takes uploads; then its cards are looked for. -/
theorem leaves_prepare (h : Host τ) :
    prepare.Leaves h
      (fun info h' => ∃ engine model, h' = (StoreCall.setCameraModel model).run
        (updateBay (BayCall.step .scan).run
          { h with bay := { h.bay with engine, uploads := info.supportsUpload } }))
      fun _ _ => True := by
  unfold prepare
  refine leaves_bind (leaves_call (fun info engine => ?_) fun _ _ => trivial)
  refine leaves_bind (leaves_change ?_)
  refine leaves_bind ⟨fun n h' hscan => ?_, fun _ _ _ => trivial⟩
  obtain ⟨-, rfl⟩ := Prod.mk.inj hscan
  exact leaves_bind (leaves_change (leaves_pure ⟨engine, _, rfl⟩))

end Host

/-! ## Runs -/

/-- What may be done with an attached camera. -/
inductive DeviceStep (τ : Type) where
  | register
  /-- A report of the camera. -/
  | report (event : DeviceEvent)
  | frame (bytes : Bytes)
  /-- A card event. -/
  | card (slot : Nat) (status : VolumeStatus)
  | mount (options : MountOptions)
  | detach
  /-- A call of the slots, or anything that happens to the session or the link. -/
  | bay (c : BayCall τ)
  /-- A call of the store. -/
  | store (c : StoreCall τ)
  /-- A call of a file system. -/
  | files (c : FileCall)

namespace DeviceStep

/-- The device after a step. -/
def run : DeviceStep τ → Device τ → Device τ
  | .register, d => d.register
  | .report event, d => (d.notify event).2
  | .frame bytes, d => (d.notifyFrame bytes).2
  | .card slot status, d => (d.notifyCard slot status).2
  | .mount options, d => (d.mount options).2
  | .detach, d => d.detach
  | .bay c, d => { d with host := d.host.updateBay c.run }
  | .store c, d => { d with host := c.run d.host }
  | .files c, d => { d with host := c.run d.host }

/-- The device after some steps, in order. -/
def runAll (steps : List (DeviceStep τ)) (d : Device τ) : Device τ :=
  steps.foldl (fun d s => s.run d) d

/-- The call in the step is a usual one. -/
def Usual : DeviceStep τ → Prop
  | .bay c => c.Usual
  | .store c => c.Usual
  | _ => True

end DeviceStep

namespace Device

/-- The devices that come of attaching a camera and of what is done with it. -/
inductive Used : Device τ → Prop
  | attached {clock : Instant} {config : Config} {link link' : τ} {d : Device τ} :
      attach clock config link = (.ok d, link') → Used d
  | step (s : DeviceStep τ) {d : Device τ} : Used d → s.Usual → Used (s.run d)

variable {d : Device τ}

theorem Used.runAll {steps : List (DeviceStep τ)} (hs : ∀ s ∈ steps, s.Usual) (hu : d.Used) :
    (DeviceStep.runAll steps d).Used := by
  induction steps generalizing d with
  | nil => exact hu
  | cons s rest ih =>
    obtain ⟨hfirst, hrest⟩ := List.forall_mem_cons.mp hs
    exact ih hrest (.step s hu hfirst)

/-- A device that was just attached has read the camera's description and looked for cards. -/
theorem host_of_attach {clock : Instant} {config : Config} {link link' : τ}
    (h : attach clock config link = (.ok d, link')) :
    ∃ engine model budget staleness, d.host = (StoreCall.setCameraModel model).run
      (Host.updateBay (BayCall.step .scan).run
        { bay := { engine, uploads := d.info.supportsUpload }, store := .create budget staleness }) := by
  unfold attach at h
  cases hopen : Host.call none Engine.openSession (Host.ofLink clock config link) with
  | mk r opened =>
    rw [hopen] at h
    cases r with
    | error error => cases h
    | ok _ =>
      obtain ⟨-, hopened⟩ := Prod.mk.inj hopen
      dsimp only at h
      cases hprepare : Host.prepare opened with
      | mk r prepared =>
        rw [hprepare] at h
        cases r with
        | error error => cases h
        | ok info =>
          obtain ⟨engine, model, hhost⟩ := (Host.leaves_prepare opened).1 info prepared hprepare
          obtain ⟨hd, -⟩ := Prod.mk.inj h
          obtain rfl := Except.ok.inj hd
          rw [← hopened] at hhost
          exact ⟨engine, model, _, _, hhost⟩

theorem info_notify (event : DeviceEvent) (d : Device τ) : (d.notify event).2.info = d.info := by
  unfold notify
  split <;> rfl

/-- No step changes what the camera told about itself. -/
theorem info_run (s : DeviceStep τ) (d : Device τ) : (s.run d).info = d.info := by
  cases s with
  | report event => exact info_notify event d
  | frame bytes =>
    show (d.notifyFrame bytes).2.info = d.info
    unfold notifyFrame
    split
    · rfl
    · exact info_notify _ d
  | card slot status =>
    show (d.notifyCard slot status).2.info = d.info
    unfold notifyCard
    split <;> rfl
  | mount options =>
    show (d.mount options).2.info = d.info
    unfold mount
    split <;> rfl
  | detach =>
    show d.detach.info = d.info
    unfold detach
    split <;> rfl
  | _ => rfl

section Host

variable {P : Host τ → Prop} (hP : Host.Stable P)
include hP

theorem host_notify (event : DeviceEvent) (hd : P d.host) : P (d.notify event).2.host := by
  unfold notify
  split
  · exact hd
  · exact hP.handleEvent event hd

/-- What calls of the slots and of the store keep is kept by every step. -/
theorem host_run {s : DeviceStep τ} (hs : s.Usual) (hd : P d.host) : P (s.run d).host := by
  cases s with
  | register => exact hd
  | report event => exact host_notify hP event hd
  | frame bytes =>
    show P (d.notifyFrame bytes).2.host
    unfold notifyFrame
    split
    · exact hd
    · exact host_notify hP _ hd
  | card slot status =>
    show P (d.notifyCard slot status).2.host
    unfold notifyCard
    split
    · exact hd
    · exact hP.bay (.card slot status) trivial hd
  | mount options =>
    show P (d.mount options).2.host
    unfold mount
    split
    · exact hd
    · exact hP.files (.mount options d.config.blockSize) hd
  | detach =>
    show P d.detach.host
    unfold detach
    split
    · exact hd
    · exact hP.tearDown hd
  | bay c => exact hP.bay c hs hd
  | store c => exact hP.store c hs hd
  | files c => exact hP.files c hd

end Host

/-- What is true of a new host of a camera, and kept by calls of the slots and of the store, is true wherever a run
comes. -/
theorem Used.host {P : DeviceInfo → Host τ → Prop} (hP : ∀ info, Host.Stable (P info))
    (hnew : ∀ info engine budget staleness,
      P info { bay := { engine, uploads := info.supportsUpload }, store := .create budget staleness })
    (hu : d.Used) : P d.info d.host := by
  induction hu with
  | @attached _ _ _ _ d h =>
    obtain ⟨engine, model, budget, staleness, hhost⟩ := host_of_attach h
    rw [hhost]
    refine (hP d.info).store (.setCameraModel model) trivial ((hP d.info).bay (.step .scan) trivial ?_)
    exact hnew d.info engine budget staleness
  | @step s d _ hs ih =>
    rw [info_run]
    exact host_run (hP d.info) hs ih

/-! ### Devices to begin with -/

/-- The device that comes of attaching a camera, as it is configured by default. -/
def attached? (clock : Instant) (link : τ) : Option (Device τ) :=
  (attach clock {} link).1.toOption

theorem used_of_attached? {clock : Instant} {link : τ} (h : attached? clock link = some d) : d.Used := by
  unfold attached? at h
  cases hattach : attach clock {} link with
  | mk r link' =>
    rw [hattach] at h
    cases r with
    | ok d' =>
      obtain rfl := Option.some.inj h
      exact .attached hattach
    | error error => cases h

end Device

end Tether
