import Tether.Proofs.Files.Calls
import Tether.Proofs.Host.Asking

/-!
# Tether.Proofs.Host.Operated — hosts at a camera, along every run

A run starts with a new host at a camera that nobody has spoken to.  Then calls of the file systems, of the
store, of the bay and of the engine come in any order, and between them anything may be done to the camera by
hand: cards and files come and go, faults are armed, the link breaks.  Wherever a run comes, the engine is calm
(`Operated.calm`) and the store is one that a run of the store reaches (`Operated.reached`).
-/

namespace Tether

open Ptp Tether.Action
open Calendar (Instant)
open Engine (Lasting Request Calm)

/-! ## What is done to a camera -/

/-- A camera that nobody has spoken to; its handles were given out in order. -/
structure Camera.Untouched (c : Camera) : Prop extends c.Clear where
  pendingUpload : c.pendingUpload = none
  handle_lt : ∀ {handle o}, c.objects.get? handle = some o → handle < c.nextHandle

/-- What may be done to a camera by hand. -/
inductive CameraStep where
  | setDeviceInfo (info : DeviceInfo)
  | setClock (clock : Instant)
  | addStorage (id : UInt32) (info : StorageInfo)
  | removeStorage (id : UInt32)
  | setReadOnly (id : UInt32) (readOnly : Bool)
  | addObject (info : ObjectInfo) (data : Bytes)
  | setModified (handle : UInt32) (date : Instant)
  | setPixelSize (handle width height : UInt32)
  | injectFault (operation : Operation) (fault : Fault)
  | disconnect
  | setMaxChunk (bytes : Nat)

namespace CameraStep

/-- The camera after a step. -/
def run : CameraStep → Camera → Camera
  | .setDeviceInfo info, c => { c with deviceInfo := info }
  | .setClock clock, c => { c with clock }
  | .addStorage id info, c => c.addStorage id info
  | .removeStorage id, c => c.removeStorage id
  | .setReadOnly id readOnly, c => c.setReadOnly id readOnly
  | .addObject info data, c => (c.addObject info data).2
  | .setModified handle date, c => c.setModified handle date
  | .setPixelSize handle width height, c => c.setPixelSize handle width height
  | .injectFault operation fault, c => c.injectFault operation fault
  | .disconnect, c => c.disconnect
  | .setMaxChunk bytes, c => c.setMaxChunk bytes

/-- The step uses up a handle. -/
def TakesHandle : CameraStep → Prop
  | .addObject .. => True
  | _ => False

end CameraStep

namespace Engine

/-- Calm engines stay calm. -/
theorem lasting_calm (may : Engine Camera → Prop) : Lasting may Calm where
  execute hpaired parameters h _ := (execute_cases h hpaired parameters).2
  idle {e e'} h hlink hreceived := by
    refine ⟨hreceived.trans h.received, ?_⟩
    rw [hlink]
    exact h.clear

/-- By hand nothing is put into the link. -/
theorem Calm.camera {e : Engine Camera} (h : Calm e) (s : CameraStep) : Calm { e with link := s.run e.link } := by
  refine ⟨h.received, fun hconnected => ?_⟩
  cases s with
  | disconnect => cases hconnected
  | _ =>
    have hclear := h.clear hconnected
    exact ⟨hclear.inbound, hclear.outbound, hclear.awaitingData⟩

end Engine

/-! ## Runs -/

/-- A change of the engine. -/
def Host.updateEngine (f : Engine Camera → Engine Camera) (h : Host Camera) : Host Camera :=
  h.updateBay fun b => { b with engine := f b.engine }

/-- The hosts that runs at a camera reach, in which handles are used up only where `may` allows it. -/
inductive Operated (may : Engine Camera → Prop) : Host Camera → Prop
  | new {engine : Engine Camera} (budget staleness : Nat) : engine.received = [] → engine.link.Untouched →
      Operated may (.vacant engine (.create budget staleness))
  | store (c : StoreCall Camera) {h : Host Camera} : Operated may h → c.Plain →
      (c.TakesHandle → may h.bay.engine) →
      Operated may (c.run h)
  | bay (c : BayCall Camera) {h : Host Camera} : Operated may h → c.Plain → Operated may (h.updateBay c.run)
  | request (r : Request) {h : Host Camera} : Operated may h → (r.TakesHandle → may h.bay.engine) →
      Operated may (h.updateEngine r.run)
  /-- Time passes, or counters begin anew. -/
  | idle (f : Engine Camera → Engine Camera) {h : Host Camera} : Operated may h →
      (∀ e, (f e).link = e.link ∧ (f e).received = e.received) → Operated may (h.updateEngine f)
  | camera (s : CameraStep) {h : Host Camera} : Operated may h → (s.TakesHandle → may h.bay.engine) →
      Operated may (h.updateEngine fun e => { e with link := s.run e.link })

namespace Operated

variable {may P : Engine Camera → Prop} {h : Host Camera}

/-- What is true at first and stays true whatever the camera is asked and whatever is done to it is always true. -/
theorem engine (hP : Lasting may P) (hnew : ∀ {e : Engine Camera}, e.received = [] → e.link.Untouched → P e)
    (hcamera : ∀ (s : CameraStep) {e : Engine Camera}, P e → (s.TakesHandle → may e) →
      P { e with link := s.run e.link })
    (hr : Operated may h) : P h.bay.engine := by
  induction hr with
  | new budget staleness hreceived huntouched => exact hnew hreceived huntouched
  | store c _ hc hmay ih => exact c.lasts_run hP hc ih hmay
  | bay c _ hc ih => exact c.lasts_run hP hc ih
  | request r _ hmay ih => exact hP.request r ih hmay
  | idle f _ hf ih => exact hP.idle ih (hf _).1 (hf _).2
  | camera s _ hmay ih => exact hcamera s ih hmay

/-- Nothing of a call is left behind it. -/
theorem calm (hr : Operated may h) : Calm h.bay.engine :=
  hr.engine (Engine.lasting_calm may) (fun hreceived huntouched => ⟨hreceived, fun _ => huntouched.toClear⟩)
    fun s _ hcalm _ => hcalm.camera s

theorem reached (hr : Operated may h) : Reached True h := by
  induction hr with
  | new budget staleness _ _ => exact .new _ _ budget staleness rfl
  | store c _ _ _ ih => exact .call c ih (.inl trivial)
  | bay c _ _ ih => exact ih.bay _
  | request r _ _ ih => exact ih.bay _
  | idle f _ _ ih => exact ih.bay _
  | camera s _ _ ih => exact ih.bay _

end Operated

/-! ## Calls of file systems -/

namespace Operated

variable {may : Engine Camera → Prop} {h : Host Camera}

theorem touch (slot : Slot) (hr : Operated may h) : Operated may { h with bay := h.bay.touch slot } := by
  have htold := hr.bay (.step (.touch slot)) trivial
  rwa [Host.updateBay_of_quiet hr.reached.changes_nil] at htold

theorem count (f : Stats → Stats) (hr : Operated may h) : Operated may (h.count f) := by
  have htold := hr.idle (fun e => e.count f) fun e => ⟨rfl, rfl⟩
  unfold Host.updateEngine at htold
  rwa [Host.updateBay_of_quiet hr.reached.changes_nil] at htold

/-- A call that is a request. -/
theorem keeps_call {α : Type} {handle : Option UInt32} {x : Action (Engine Camera) PtpError α} (r : Request)
    (hx : ∀ e, r.run e = (x e).2) (hr : ¬ r.TakesHandle) : (Host.call handle x).Keeps (Operated may) := by
  intro h hrun
  have htold := hrun.request r fun ht => absurd ht hr
  unfold Host.updateEngine at htold
  rw [Host.updateBay_of_quiet hrun.reached.changes_nil, hx] at htold
  have hcall : (Host.call handle x h).2 =
      { h with bay := { h.bay with engine := (x.mapError (StorageError.ofPtp handle) h.bay.engine).2 } } := rfl
  rw [hcall, snd_mapError]
  exact htold

/-- What file systems ask for leads to hosts that runs reach. -/
theorem enduring : Host.Enduring (fun h => may h.bay.engine) (Operated may) where
  fetch handle _ hr := .store (.fetch handle) hr trivial fun h => h.elim
  readRange ref length offset _ hr := .store (.readRange ref length offset) hr trivial fun h => h.elim
  delete ref _ hr := .store (.delete ref) hr trivial fun h => h.elim
  writeNew name content parent _ hr hmay := .store (.writeNew name content parent) hr trivial fun _ => hmay
  handles storage parent := keeps_call (.handles storage parent) (fun _ => rfl) id
  touch slot _ hr := hr.touch slot
  count f _ hr := hr.count f
  volume := Host.keeps_volume fun hr => hr.reached.changes_nil
  mount slot _ hr := hr.bay (.step (.mount slot)) trivial
  setActive slot _ hr := hr.bay (.step (.setActive slot)) trivial
  overrideBudget bytes _ hr := .store (.overrideBudget bytes) hr trivial fun h => h.elim
  releaseBudget token _ hr := .store (.releaseBudget token) hr trivial fun h => h.elim

/-- Calls of file systems lead to hosts that runs reach; those that upload need a handle when the upload is
announced. -/
theorem files (c : FileCall) (hr : Operated may h) (hmay : c.Granted (fun h => may h.bay.engine) h) :
    Operated may (c.run h) :=
  enduring.files c hr hmay

end Operated

/-! ## A run at a camera with two cards -/

/-- A new host at a camera with two empty cards. -/
def Host.unplugged : Host Camera :=
  .vacant { link := .withTwoCards Engine.idle.clock, clock := Engine.idle.clock,
            maxPacket := 512 } (.create 100 300)

/-- The same host with an open session and both cards mounted; the first one is active. -/
def Host.twoCards : Host Camera :=
  (((Host.unplugged.updateEngine (Request.openSession.run)).updateBay (BayCall.step .scan).run).updateBay
    (BayCall.step (.mount 0)).run).updateBay (BayCall.step (.mount 1)).run

/-- An object is put into the camera by hand and described to the store. -/
def Host.given (info : ObjectInfo) (data : Bytes) (h : Host Camera) : Host Camera :=
  (StoreCall.fetch h.bay.engine.link.nextHandle).run
    (h.updateEngine fun e => { e with link := (CameraStep.addObject info data).run e.link })

/-- A picture on the first card. -/
def Host.picture : ObjectInfo :=
  .forUpload Camera.cfExpressId 0 "a.jpg" .exifJpeg 3

theorem Operated.twoCards {may : Engine Camera → Prop} : Operated may Host.twoCards := by
  have huntouched : (Camera.withTwoCards Engine.idle.clock).Untouched :=
    ⟨⟨rfl, rfl, rfl⟩, rfl, fun h => by cases h⟩
  have hnew : Operated may Host.unplugged := .new 100 300 rfl huntouched
  exact (((hnew.request .openSession fun h => h.elim).bay (.step .scan) trivial).bay
    (.step (.mount 0)) trivial).bay
    (.step (.mount 1)) trivial

theorem Operated.given {may : Engine Camera → Prop} {h : Host Camera} (info : ObjectInfo) (data : Bytes)
    (hr : Operated may h) (hmay : may h.bay.engine) : Operated may (h.given info data) :=
  (hr.camera (.addObject info data) fun _ => hmay).store (.fetch _) trivial fun h => h.elim

/-- Three bytes of a picture on the first card of the camera are cached. -/
def Host.pictured : Host Camera :=
  (StoreCall.cache 0).run (Host.twoCards.given Host.picture [1, 2, 3])

theorem Operated.pictured {may : Engine Camera → Prop} (hmay : may Host.twoCards.bay.engine) :
    Operated may Host.pictured :=
  (Operated.twoCards.given Host.picture [1, 2, 3] hmay).store (.cache 0) trivial fun h => h.elim

end Tether
