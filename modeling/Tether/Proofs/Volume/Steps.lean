import Tether.Engine.Session
import Tether.Host.Basic
import Tether.Proofs.Exchange.Outcome
import Tether.Proofs.Volume.Survey

/-!
# Tether.Proofs.Volume.Steps — the calls of a bay, step by step

A step scans, reads the mounted slots again, or does one thing to one slot.  Every call of a bay is a list of
steps, which depends on the bay and on what the camera answers on the way (`BayCall.runAll_steps`).  A mount and
a format that succeed change one slot, in one way each (`Bay.Mounts`, `Bay.Formats`); all other steps are courses
(`BayStep.course_run`).
-/

namespace Tether

open Calendar (Instant)
open Ptp
open Tether.Action

theorem Slot.check_val (slot : Slot) : Slot.check slot.val = .ok slot :=
  dif_pos slot.isLt

/-- A number is that of a slot, or there is no such slot. -/
theorem Slot.check_cases (n : Nat) :
    (∃ slot : Slot, slot.val = n ∧ Slot.check n = .ok slot) ∨ Slot.check n = .error (.invalidSlot n) := by
  unfold Slot.check
  split
  · rename_i h
    exact .inl ⟨⟨n, h⟩, rfl, rfl⟩
  · exact .inr rfl

/-- The record of a card that was formatted. -/
def Volume.formatted (time : Instant) (v : Volume) : Volume :=
  { v with freeBytes := v.totalBytes, fileCount := 0, folderCount := 0, needsFormat := false,
           lastAccess := some time }

namespace Bay

variable {τ : Type}

/-! ## Calls about one slot -/

/-- From `b` to `b'` the card of a slot was mounted. -/
structure Mounts (slot : Slot) (b b' : Bay τ) : Prop where
  inserted : (b.table.volume slot).status = .inserted
  volume : b'.table.volume slot = { (b.table.volume slot) with lastAccess := some b.engine.clock }.remounted
  other : ∀ other, other ≠ slot → b'.table.volume other = b.table.volume other
  active : b'.table.active = b.table.active.or (some slot)
  changes : b'.changes = b.changes

/-- From `b` to `b'` the card of a slot was formatted. -/
structure Formats (slot : Slot) (b b' : Bay τ) : Prop where
  mounted : (b.table.volume slot).isMounted = true
  volume : b'.table.volume slot = ((b.table.volume slot).formatted b'.engine.clock).remounted
  other : ∀ other, other ≠ slot → b'.table.volume other = b.table.volume other
  active : b'.table.active = b.table.active
  changes : b'.changes = b.changes ++ [.formatted slot]

variable {slot : Slot} {b b' : Bay τ}

theorem Mounts.not_mounted (h : Mounts slot b b') : (b.table.volume slot).isMounted = false := by
  unfold Volume.isMounted
  rw [h.inserted]
  rfl

theorem Mounts.isMounted (h : Mounts slot b b') : (b'.table.volume slot).isMounted = true := by
  rw [h.volume]
  exact Volume.isMounted_remounted _

theorem Formats.isMounted (h : Formats slot b b') : (b'.table.volume slot).isMounted = true := by
  rw [h.volume]
  exact Volume.isMounted_remounted _

theorem Mounts.seated {slot : Slot} (h : Mounts slot b b') (hseated : b.table.Seated) : b'.table.Seated := by
  intro other ha
  by_cases hne : other = slot
  · rw [hne]
    exact h.isMounted
  · rw [h.other other hne]
    rw [h.active] at ha
    refine hseated other ?_
    cases hactive : b.table.active with
    | none =>
      rw [hactive] at ha
      exact absurd (Option.some.inj ha).symm hne
    | some active =>
      rw [hactive] at ha
      exact ha

theorem Formats.seated (h : Formats slot b b') (hseated : b.table.Seated) : b'.table.Seated := by
  intro other ha
  by_cases hne : other = slot
  · rw [hne]
    exact h.isMounted
  · rw [h.other other hne]
    rw [h.active] at ha
    exact hseated other ha

/-- A call about a slot goes on with the slot of its number, or fails at once. -/
theorem leaves_check {α : Type} {n : Nat} {f : Slot → Action (Bay τ) StorageError α} {Q : α → Bay τ → Prop}
    {E : StorageError → Bay τ → Prop} (hslot : ∀ slot : Slot, slot.val = n → (f slot).Leaves b Q E)
    (hnone : E (.invalidSlot n) b) : (ofExcept (Slot.check n) >>= f).Leaves b Q E := by
  rcases Slot.check_cases n with ⟨slot, hval, hcheck⟩ | hcheck
  · rw [hcheck]
    exact leaves_bind (leaves_of_eq_ok rfl (hslot slot hval))
  · rw [hcheck]
    exact leaves_bind (leaves_of_eq_error rfl hnone)

/-- Reading a record changes nothing. -/
theorem keeps_volume {P : Bay τ → Prop} (n : Nat) : (volume n).Keeps P :=
  keeps_bind (keeps_ofExcept _) fun _ => keeps_read _

/-- A mount finds a card that is not mounted, or changes nothing. -/
theorem leaves_mount (n : Nat) (b : Bay τ) :
    (mount n).Leaves b (fun _ b' => ∃ slot : Slot, slot.val = n ∧ Mounts slot b b') fun _ b' => b' = b := by
  refine leaves_check (fun slot hval => ?_) rfl
  refine leaves_bind (leaves_state ?_)
  split
  · exact leaves_bind (leaves_fail rfl)
  · rename_i hinserted
    refine leaves_change ⟨slot, hval, Decidable.not_not.mp hinserted, ?_, fun other hne => ?_, rfl, rfl⟩
    · simp only [updateTable, VolumeTable.volume_activate, VolumeTable.volume_adjust_self]
      rfl
    · simp only [updateTable, VolumeTable.volume_activate]
      exact VolumeTable.volume_adjust_of_ne hne

/-- A format that fails may have asked the camera, and changes no slot. -/
theorem leaves_format [Transport τ] (n : Nat) (b : Bay τ) :
    (format n).Leaves b (fun _ b' => ∃ slot : Slot, slot.val = n ∧ Formats slot b b')
      fun _ b' => ∃ engine, b' = { b with engine } := by
  refine leaves_check (fun slot hval => ?_) ⟨b.engine, rfl⟩
  refine leaves_bind (leaves_read ?_)
  split
  · exact leaves_bind (leaves_fail ⟨b.engine, rfl⟩)
  · rename_i hmounted
    refine leaves_bind ⟨fun _ b' hcall => ?_, fun _ b' hcall => ?_⟩
    · obtain ⟨-, rfl⟩ := Prod.mk.inj hcall
      refine leaves_change ⟨slot, hval, Decidable.not_not.mp hmounted, ?_, fun other hne => ?_, rfl, rfl⟩
      · exact VolumeTable.volume_adjust_self _ _ _
      · exact VolumeTable.volume_adjust_of_ne hne
    · obtain ⟨-, rfl⟩ := Prod.mk.inj hcall
      exact ⟨_, rfl⟩

/-- An unmount gives a slot up, mounted or not, or there is no such slot. -/
theorem leaves_unmount (n : Nat) (b : Bay τ) :
    (unmount n).Leaves b (fun _ b' => ∃ slot : Slot, slot.val = n ∧ b' = b.vacate slot) fun _ b' => b' = b :=
  leaves_check (fun slot hval => leaves_change ⟨slot, hval, rfl⟩) rfl

/-- Only a mounted slot becomes the active one. -/
theorem leaves_setActive (n : Nat) (b : Bay τ) :
    (setActive n).Leaves b
      (fun _ b' => ∃ slot : Slot, (b.table.volume slot).isMounted = true ∧
        b' = (b.touch slot).updateTable fun t => { t with active := some slot })
      fun _ b' => b' = b := by
  refine leaves_check (fun slot _ => ?_) rfl
  refine leaves_bind (leaves_state ?_)
  split
  · exact leaves_bind (leaves_fail rfl)
  · rename_i hmounted
    exact leaves_change ⟨slot, Decidable.not_not.mp hmounted, rfl⟩

end Bay

/-! ## Steps -/

/-- What may be done to a bay at once. -/
inductive BayStep (τ : Type) where
  | scan
  | refresh
  | mount (slot : Nat)
  | unmount (slot : Nat)
  | format (slot : Nat)
  | setActive (slot : Nat)
  | touch (slot : Slot)
  | noteFull (slot : Slot)
  | noteProtected (slot : Slot)
  | noteFailed (slot : Slot)
  /-- It turns out whether the camera takes uploads. -/
  | takeUploads (uploads : Bool)
  /-- Anything that happens to the session or the link. -/
  | engine (f : Engine τ → Engine τ)

namespace BayStep

variable {τ : Type} [Transport τ]

/-- The bay after a step. -/
def run : BayStep τ → Bay τ → Bay τ
  | .scan, b => (Bay.scan b).2
  | .refresh, b => b.refresh.2
  | .mount n, b => (Bay.mount n b).2
  | .unmount n, b => (Bay.unmount n b).2
  | .format n, b => (Bay.format n b).2
  | .setActive n, b => (Bay.setActive n b).2
  | .touch slot, b => b.touch slot
  | .noteFull slot, b => b.updateTable (·.adjust slot Bay.noteFull)
  | .noteProtected slot, b => b.updateTable (·.adjust slot Bay.noteProtected)
  | .noteFailed slot, b => Bay.noteFailed slot b
  | .takeUploads uploads, b => { b with uploads }
  | .engine f, b => { b with engine := f b.engine }

/-- The bay after some steps, in order. -/
def runAll (steps : List (BayStep τ)) (b : Bay τ) : Bay τ :=
  steps.foldl (fun b s => s.run b) b

/-- How often something happens in some steps, where `count` tells how often it happens in one. -/
def tally (count : BayStep τ → Bay τ → Nat) : List (BayStep τ) → Bay τ → Nat
  | [], _ => 0
  | s :: rest, b => count s b + tally count rest (s.run b)

/-- Whether a step is one of those that reports and card events are answered with, but for a card that is
protected. -/
def Routine : BayStep τ → Prop
  | .scan | .refresh | .mount _ | .unmount _ | .noteFull _ | .noteFailed _ => True
  | _ => False

/-- Whether a step neither mounts nor formats, and tells nothing about uploads. -/
def IsCourse : BayStep τ → Prop
  | .mount _ | .format _ | .takeUploads _ => False
  | _ => True

theorem course_run {s : BayStep τ} (hs : s.IsCourse) (b : Bay τ) : b.Course (s.run b) := by
  cases s with
  | scan => exact ((Bay.leaves_scan b).mono (fun _ _ h => h) fun _ _ h => h.1).state
  | refresh => exact Bay.course_refresh b
  | unmount n =>
    refine ((Bay.leaves_unmount n b).mono ?_ ?_).state
    · rintro _ b' ⟨slot, -, rfl⟩
      exact Bay.course_vacate slot b
    · rintro _ b' rfl
      exact .refl b'
  | setActive n =>
    refine ((Bay.leaves_setActive n b).mono ?_ ?_).state
    · rintro _ b' ⟨slot, hm, rfl⟩
      exact Bay.course_activate hm
    · rintro _ b' rfl
      exact .refl b'
  | touch slot => exact Bay.course_touch slot b
  | noteFull slot => exact Bay.course_noteFull slot b
  | noteProtected slot => exact Bay.course_noteProtected slot b
  | noteFailed slot => exact Bay.course_noteFailed slot b
  | engine f => exact .of_engine (f b.engine)
  | mount n => exact hs.elim
  | format n => exact hs.elim
  | takeUploads uploads => exact hs.elim

/-- What the steps of some kind keep is kept by any steps of this kind. -/
theorem runAll_of_forall {P : Bay τ → Prop} {Q : BayStep τ → Prop}
    (h : ∀ (s : BayStep τ) b, Q s → P b → P (s.run b)) :
    ∀ {steps : List (BayStep τ)}, (∀ s ∈ steps, Q s) → ∀ {b}, P b → P (runAll steps b)
  | [], _, _, hb => hb
  | s :: _, hs, b, hb => by
    obtain ⟨hfirst, hrest⟩ := List.forall_mem_cons.mp hs
    exact runAll_of_forall h hrest (h s b hfirst hb)

/-- What every step keeps is kept by any steps. -/
theorem runAll_induction {P : Bay τ → Prop} (h : ∀ (s : BayStep τ) b, P b → P (s.run b)) (steps : List (BayStep τ))
    {b : Bay τ} (hb : P b) : P (runAll steps b) :=
  runAll_of_forall (Q := fun _ => True) (fun s b _ => h s b) (fun _ _ => trivial) hb

/-- What turns keep of a record, and mounts and formats, is kept by every step. -/
theorem volume_run {P : Slot → Volume → Prop} (s : BayStep τ) {b : Bay τ}
    (hturn : ∀ {slot v w}, Volume.Turn b.uploads slot v w → P slot v → P slot w)
    (hmounted : ∀ {slot v}, v.status = .inserted → P slot v → P slot v.remounted)
    (hformatted : ∀ {slot v} (time : Instant), v.isMounted = true → P slot v → P slot (v.formatted time).remounted)
    (h : ∀ slot, P slot (b.table.volume slot)) (slot : Slot) : P slot ((s.run b).table.volume slot) := by
  cases s with
  | mount n =>
    refine Leaves.state (P := fun b' => P slot (b'.table.volume slot)) ((Bay.leaves_mount n b).mono ?_ ?_)
    · rintro _ b' ⟨target, -, hm⟩
      by_cases hne : slot = target
      · rw [hne, hm.volume]
        exact hmounted hm.inserted (hturn (.accessed _ _) (h target))
      · rw [hm.other slot hne]
        exact h slot
    · rintro _ b' rfl
      exact h slot
  | format n =>
    refine Leaves.state (P := fun b' => P slot (b'.table.volume slot)) ((Bay.leaves_format n b).mono ?_ ?_)
    · rintro _ b' ⟨target, -, hf⟩
      by_cases hne : slot = target
      · rw [hne, hf.volume]
        exact hformatted _ hf.mounted (h target)
      · rw [hf.other slot hne]
        exact h slot
    · rintro _ b' ⟨engine, rfl⟩
      exact h slot
  | takeUploads uploads => exact h slot
  | _ =>
    refine Volume.of_turns hturn ((course_run ?_ b).volume slot) (h slot)
    exact trivial

/-- No step leaves a slot active that is not mounted. -/
theorem seated_run (s : BayStep τ) {b : Bay τ} (h : b.table.Seated) : (s.run b).table.Seated := by
  cases s with
  | mount n =>
    refine Leaves.state (P := fun b' => b'.table.Seated) ((Bay.leaves_mount n b).mono ?_ ?_)
    · rintro _ b' ⟨slot, -, hm⟩
      exact hm.seated h
    · rintro _ b' rfl
      exact h
  | format n =>
    refine Leaves.state (P := fun b' => b'.table.Seated) ((Bay.leaves_format n b).mono ?_ ?_)
    · rintro _ b' ⟨slot, -, hf⟩
      exact hf.seated h
    · rintro _ b' ⟨engine, rfl⟩
      exact h
  | takeUploads uploads => exact h
  | _ =>
    refine (course_run ?_ b).seated h
    exact trivial

/-- What every step adds to a number adds up over any steps. -/
theorem tally_of_step {count : BayStep τ → Bay τ → Nat} {m : Bay τ → Nat}
    (h : ∀ (s : BayStep τ) b, m (s.run b) = m b + count s b) (steps : List (BayStep τ)) (b : Bay τ) :
    m (runAll steps b) = m b + tally count steps b := by
  induction steps generalizing b with
  | nil => rfl
  | cons s rest ih =>
    have hrest : m (runAll (s :: rest) b) = m (s.run b) + tally count rest (s.run b) := ih (s.run b)
    rw [hrest, h s b, tally]
    omega

end BayStep

/-! ## Calls -/

/-- What may be called. -/
inductive BayCall (τ : Type) where
  | step (s : BayStep τ)
  | unmountAll
  /-- A card event. -/
  | card (slot : Nat) (status : VolumeStatus)
  /-- A device event. -/
  | report (event : DeviceEvent)

namespace Bay

variable {τ : Type} [Transport τ]

/-- The steps of welcoming the card of a slot. -/
def welcomeSteps (slot : Slot) (b : Bay τ) : List (BayStep τ) :=
  if (b.table.volume slot).status = .inserted then [.mount slot] else []

/-- A scan, and some steps after it if the camera answers. -/
def scanSteps (next : Bay τ → List (BayStep τ)) (b : Bay τ) : List (BayStep τ) :=
  .scan :: match scan b with
    | (.ok _, b') => next b'
    | (.error _, _) => []

/-- The steps of taking in a new state of a slot. -/
def cardSteps (slot : Slot) (status : VolumeStatus) (b : Bay τ) : List (BayStep τ) :=
  match status with
  | .inserted | .mounted => scanSteps (welcomeSteps slot) b
  | .empty => [.unmount slot]
  | .full => [.noteFull slot]
  | .writeProtected => [.noteProtected slot]
  | .error => [.noteFailed slot]

/-- Steps for the slot that holds a storage, if one does. -/
def storageSteps (storage : UInt32) (steps : Slot → Bay τ → List (BayStep τ)) (b : Bay τ) : List (BayStep τ) :=
  match b.table.slotOf storage with
  | some slot => steps slot b
  | none => []

/-- The steps of taking in a report of the camera. -/
def reportSteps (event : DeviceEvent) (b : Bay τ) : List (BayStep τ) :=
  match event with
  | .storeAdded storage => scanSteps (storageSteps storage welcomeSteps) b
  | .storeRemoved storage => storageSteps storage (cardSteps · .empty) b
  | .storeFull storage => storageSteps storage (cardSteps · .full) b
  | .storageInfoChanged _ => [.refresh]
  | .deviceReset => [.scan]
  | _ => []

variable {b : Bay τ} {slot : Slot}

theorem runAll_welcomeSteps (slot : Slot) (b : Bay τ) :
    BayStep.runAll (welcomeSteps slot b) b = (welcome slot.val b).2 := by
  have hvolume : volume slot.val b = (.ok (b.table.volume slot), b) := by
    unfold volume
    rw [bind_apply, Slot.check_val]
    rfl
  unfold welcomeSteps welcome
  rw [bind_apply, hvolume]
  dsimp only
  split <;> rfl

/-- The steps after a scan are those of the call after it. -/
theorem runAll_scanSteps {α : Type} {next : Bay τ → List (BayStep τ)} {call : Action (Bay τ) StorageError α}
    (hnext : ∀ b, BayStep.runAll (next b) b = (call b).2) (b : Bay τ) :
    BayStep.runAll (scanSteps next b) b = ((scan >>= fun _ => call) b).2 := by
  show BayStep.runAll (match scan b with | (.ok _, b') => next b' | (.error _, _) => []) (scan b).2 = _
  rw [bind_apply]
  cases scan b with
  | mk r b' =>
    cases r with
    | ok n => exact hnext b'
    | error error => rfl

theorem runAll_cardSteps (slot : Slot) (status : VolumeStatus) (b : Bay τ) :
    BayStep.runAll (cardSteps slot status b) b = (handleCard slot.val status b).2 := by
  unfold handleCard
  rw [bind_apply, Slot.check_val]
  cases status with
  | inserted => exact runAll_scanSteps (runAll_welcomeSteps slot) b
  | mounted => exact runAll_scanSteps (runAll_welcomeSteps slot) b
  | empty => rfl
  | full => rfl
  | writeProtected => rfl
  | error => rfl

theorem runAll_storageSteps {storage : UInt32} {steps : Slot → Bay τ → List (BayStep τ)}
    {call : Slot → Action (Bay τ) StorageError Unit}
    (hsteps : ∀ slot b, BayStep.runAll (steps slot b) b = (call slot b).2) (b : Bay τ) :
    BayStep.runAll (storageSteps storage steps b) b =
      ((do
        match ← .read fun b : Bay τ => b.table.slotOf storage with
        | some slot => call slot
        | none => return : Action (Bay τ) StorageError Unit) b).2 := by
  unfold storageSteps
  rw [bind_apply]
  show _ = ((match b.table.slotOf storage with
    | some slot => call slot
    | none => pure () : Action (Bay τ) StorageError Unit) b).2
  cases b.table.slotOf storage with
  | some slot => exact hsteps slot b
  | none => rfl

theorem runAll_reportSteps (event : DeviceEvent) (b : Bay τ) :
    BayStep.runAll (reportSteps event b) b = handleEvent event b := by
  unfold handleEvent
  cases event with
  | storeAdded storage => exact runAll_scanSteps (runAll_storageSteps runAll_welcomeSteps) b
  | storeRemoved storage => exact runAll_storageSteps (fun slot b => runAll_cardSteps slot .empty b) b
  | storeFull storage => exact runAll_storageSteps (fun slot b => runAll_cardSteps slot .full b) b
  | deviceReset =>
    show (scan b).2 = ((scan >>= fun _ => pure ()) b).2
    rw [bind_apply]
    cases scan b with
    | mk r b' => cases r <;> rfl
  | _ => rfl

/-! ### Routines -/

omit [Transport τ] in
theorem routine_welcomeSteps (slot : Slot) (b : Bay τ) : ∀ s ∈ welcomeSteps slot b, s.Routine := by
  unfold welcomeSteps
  split
  · exact List.forall_mem_singleton.mpr trivial
  · exact List.forall_mem_nil _

theorem routine_scanSteps {next : Bay τ → List (BayStep τ)} (hnext : ∀ b, ∀ s ∈ next b, s.Routine) (b : Bay τ) :
    ∀ s ∈ scanSteps next b, s.Routine := by
  refine List.forall_mem_cons.mpr ⟨trivial, ?_⟩
  split
  · exact hnext _
  · exact List.forall_mem_nil _

theorem routine_cardSteps (slot : Slot) {status : VolumeStatus} (h : status ≠ .writeProtected) (b : Bay τ) :
    ∀ s ∈ cardSteps slot status b, s.Routine := by
  cases status with
  | inserted | mounted => exact routine_scanSteps (routine_welcomeSteps slot) b
  | writeProtected => exact absurd rfl h
  | _ => exact List.forall_mem_singleton.mpr trivial

omit [Transport τ] in
theorem routine_storageSteps {steps : Slot → Bay τ → List (BayStep τ)}
    (hsteps : ∀ slot b, ∀ s ∈ steps slot b, s.Routine) (storage : UInt32) (b : Bay τ) :
    ∀ s ∈ storageSteps storage steps b, s.Routine := by
  unfold storageSteps
  split
  · exact hsteps _ b
  · exact List.forall_mem_nil _

theorem routine_reportSteps (event : DeviceEvent) (b : Bay τ) : ∀ s ∈ reportSteps event b, s.Routine := by
  cases event with
  | storeAdded storage => exact routine_scanSteps (routine_storageSteps routine_welcomeSteps storage) b
  | storeRemoved storage =>
    exact routine_storageSteps (fun slot b => routine_cardSteps slot (by decide) b) storage b
  | storeFull storage =>
    exact routine_storageSteps (fun slot b => routine_cardSteps slot (by decide) b) storage b
  | storageInfoChanged storage => exact List.forall_mem_singleton.mpr trivial
  | deviceReset => exact List.forall_mem_singleton.mpr trivial
  | _ => exact List.forall_mem_nil _

end Bay

namespace BayCall

variable {τ : Type} [Transport τ]

/-- The bay after a call. -/
def run : BayCall τ → Bay τ → Bay τ
  | .step s, b => s.run b
  | .unmountAll, b => b.unmountAll
  | .card n status, b => (Bay.handleCard n status b).2
  | .report event, b => Bay.handleEvent event b

/-- The steps of a call. -/
def steps : BayCall τ → Bay τ → List (BayStep τ)
  | .step s, _ => [s]
  | .unmountAll, _ => Slot.all.map fun slot : Slot => .unmount slot.val
  | .card n status, b =>
    match Slot.check n with
    | .ok slot => Bay.cardSteps slot status b
    | .error _ => []
  | .report event, b => Bay.reportSteps event b

/-- A call is its steps. -/
theorem runAll_steps (c : BayCall τ) (b : Bay τ) : BayStep.runAll (c.steps b) b = c.run b := by
  cases c with
  | step s => rfl
  | unmountAll => rfl
  | report event => exact Bay.runAll_reportSteps event b
  | card n status =>
    unfold steps run
    rcases Slot.check_cases n with ⟨slot, rfl, hcheck⟩ | hcheck
    · dsimp only
      rw [hcheck]
      exact Bay.runAll_cardSteps slot status b
    · dsimp only
      unfold Bay.handleCard
      rw [bind_apply, hcheck]
      rfl

/-- A call that is no single step, and does not tell that a card is protected, is a routine. -/
theorem routine_steps {c : BayCall τ} (hstep : ∀ s, c ≠ .step s) (hcard : ∀ n, c ≠ .card n .writeProtected)
    (b : Bay τ) :
    ∀ s ∈ c.steps b, s.Routine := by
  cases c with
  | step s => exact absurd rfl (hstep s)
  | unmountAll => exact List.forall_mem_cons.mpr ⟨trivial, List.forall_mem_singleton.mpr trivial⟩
  | card n status =>
    unfold steps
    dsimp only
    split
    · exact Bay.routine_cardSteps _ (fun h => hcard n (congrArg _ h)) b
    · exact List.forall_mem_nil _
  | report event => exact Bay.routine_reportSteps event b

/-- A card event about a protected card notes this and nothing else. -/
theorem steps_protected (slot : Slot) (b : Bay τ) :
    (card slot.val .writeProtected).steps b = [.noteProtected slot] := by
  unfold steps
  dsimp only
  rw [Slot.check_val]
  rfl

/-- Beside routines, the steps of a call are the one that it is, and the note of a card event that the card is
protected. -/
theorem steps_cases (c : BayCall τ) (b : Bay τ) :
    (∃ s, c = .step s ∧ c.steps b = [s]) ∨
    (∃ slot : Slot, c = .card slot.val .writeProtected ∧ c.steps b = [.noteProtected slot]) ∨
    ∀ s ∈ c.steps b, s.Routine := by
  by_cases hstep : ∃ s, c = .step s
  · obtain ⟨s, rfl⟩ := hstep
    exact .inl ⟨s, rfl, rfl⟩
  by_cases hcard : ∃ n, c = .card n .writeProtected
  · obtain ⟨n, rfl⟩ := hcard
    rcases Slot.check_cases n with ⟨slot, rfl, hcheck⟩ | hcheck
    · exact .inr (.inl ⟨slot, rfl, steps_protected slot b⟩)
    · refine .inr (.inr ?_)
      unfold steps
      dsimp only
      rw [hcheck]
      exact List.forall_mem_nil _
  · exact .inr (.inr (routine_steps (fun s h => hstep ⟨s, h⟩) (fun n h => hcard ⟨n, h⟩) b))

/-- What routines have, and the note that a card is protected, all steps of a call have if it has it as a step. -/
theorem forall_steps {Q : BayStep τ → Prop} {c : BayCall τ} (hstep : ∀ s, c = .step s → Q s)
    (hroutine : ∀ s, s.Routine → Q s) (hnote : ∀ slot, Q (.noteProtected slot)) (b : Bay τ) :
    ∀ s ∈ c.steps b, Q s := by
  rcases c.steps_cases b with ⟨s, hc, hsteps⟩ | ⟨slot, -, hsteps⟩ | hsteps
  · rw [hsteps]
    exact List.forall_mem_singleton.mpr (hstep s hc)
  · rw [hsteps]
    exact List.forall_mem_singleton.mpr (hnote slot)
  · exact fun s hs => hroutine s (hsteps s hs)

end BayCall

/-! ## Runs of a host -/

namespace Host

variable {τ : Type}

/-- A new host, whose slots are empty. -/
def vacant (engine : Engine τ) (store : Store) : Host τ :=
  { bay := { engine }, store }

variable [Transport τ]

/-- The host after some calls, in order; what each of them puts down is told before the next one. -/
def runCalls (calls : List (BayCall τ)) (h : Host τ) : Host τ :=
  calls.foldl (fun h c => h.updateBay c.run) h

/-- What every step keeps of the table is kept by any calls. -/
theorem runCalls_induction {P : VolumeTable → Prop} (hstep : ∀ (s : BayStep τ) b, P b.table → P (s.run b).table)
    (calls : List (BayCall τ)) {h : Host τ} (hb : P h.bay.table) : P (h.runCalls calls).bay.table := by
  induction calls generalizing h with
  | nil => exact hb
  | cons c rest ih =>
    refine ih ?_
    have hcall := BayStep.runAll_induction (P := fun b => P b.table) hstep (c.steps h.bay) hb
    rwa [c.runAll_steps] at hcall

/-- What empty slots have, and turns, mounts and formats keep, all records have wherever a run comes. -/
theorem volume_runCalls {P : Slot → Volume → Prop} (hempty : ∀ slot : Slot, P slot (.empty slot))
    (hturn : ∀ {uploads slot v w}, Volume.Turn uploads slot v w → P slot v → P slot w)
    (hmounted : ∀ {slot v}, v.status = .inserted → P slot v → P slot v.remounted)
    (hformatted : ∀ {slot v} (time : Instant), v.isMounted = true → P slot v → P slot (v.formatted time).remounted)
    (engine : Engine τ) (store : Store) (calls : List (BayCall τ)) (slot : Slot) :
    P slot (((vacant engine store).runCalls calls).bay.table.volume slot) := by
  have hall : ∀ slot, P slot (((vacant engine store).runCalls calls).bay.table.volume slot) := by
    refine runCalls_induction (P := fun t => ∀ slot, P slot (t.volume slot)) (fun s b hb => ?_) calls
      fun slot => ?_
    · exact s.volume_run hturn hmounted hformatted hb
    · show P slot (VolumeTable.empty.volume slot)
      rw [VolumeTable.volume_empty]
      exact hempty slot
  exact hall slot

/-- How often something happens in some calls, where `count` tells how often it happens in one step. -/
def tally (count : BayStep τ → Bay τ → Nat) : List (BayCall τ) → Host τ → Nat
  | [], _ => 0
  | c :: rest, h => BayStep.tally count (c.steps h.bay) h.bay + tally count rest (h.updateBay c.run)

end Host

/-! ## A run at a camera with two cards -/

/-- The calls that open a session, look for cards and mount the second one. -/
def BayCall.mountSecond : List (BayCall Link) :=
  [.step (.engine fun e => (Engine.openSession e).2), .step .scan, .step (.mount 1)]

/-- A host that has mounted the second of two cards. -/
def Host.onSecond : Host Link :=
  (Host.vacant .idle (.create 100 300)).runCalls BayCall.mountSecond

end Tether
