import Mathlib.Logic.Relation
import Tether.Proofs.Action
import Tether.Volume.Reaction

/-!
# Tether.Proofs.Volume.Turn — what may become of a slot

Apart from mounting and formatting, everything that a bay does changes the records of its slots by turns of a few
kinds (`Volume.Turn`).  None of them mounts a slot, and a slot that ceases to be mounted is put down once
(`Bay.Turns`).  What leaves the active slot mounted besides, if it was so before, is a course (`Bay.Course`).
-/

namespace Tether

open Calendar (Instant)
open Ptp
open Tether.Action
open Relation (ReflTransGen)

/-! ## The table, slot by slot -/

namespace VolumeTable

variable (t : VolumeTable) (slot : Slot) (f : Volume → Volume)

@[simp] theorem volume_adjust_self : (t.adjust slot f).volume slot = f (t.volume slot) := by
  simp [volume, adjust]

@[simp] theorem volume_reset_self : (t.reset slot).volume slot = .empty slot := by
  simp [volume, reset]

@[simp] theorem volume_empty : empty.volume slot = .empty slot := by
  simp [volume, empty]

@[simp] theorem active_adjust : (t.adjust slot f).active = t.active := rfl

@[simp] theorem volume_activate (active : Option Slot) :
    VolumeTable.volume { t with active } slot = t.volume slot := rfl

variable {t slot f}

theorem volume_adjust_of_ne {other : Slot} (h : other ≠ slot) :
    (t.adjust slot f).volume other = t.volume other := by
  have hne : slot.val ≠ other.val := fun he => h (Fin.ext he.symm)
  simp [volume, adjust, hne]

theorem volume_reset_of_ne {other : Slot} (h : other ≠ slot) : (t.reset slot).volume other = t.volume other := by
  have hne : slot.val ≠ other.val := fun he => h (Fin.ext he.symm)
  simp [volume, reset, hne]

/-- The active slot is given up with its card and with no other. -/
theorem active_reset_iff {s : Slot} : (t.reset slot).active = some s ↔ t.active = some s ∧ s ≠ slot := by
  show (if t.active = some slot then none else t.active) = some s ↔ _
  by_cases ha : t.active = some slot
  · simp [ha, eq_comm]
  · rw [if_neg ha]
    refine ⟨fun h => ⟨h, ?_⟩, And.left⟩
    rintro rfl
    exact ha h

/-- The active slot is mounted. -/
def Seated (t : VolumeTable) : Prop :=
  ∀ slot, t.active = some slot → (t.volume slot).isMounted = true

end VolumeTable

/-! ## Turns of a record -/

namespace Volume

/-- The record with what the camera tells about its storage. -/
def reported (storage : UInt32) (info : StorageInfo) (census : Bay.Census) (uploads : Bool)
    (v : Volume) : Volume :=
  { v.describe storage info uploads with fileCount := census.files, folderCount := census.folders }

/-- The record in the state that its capacity and its protection ask of a mounted one. -/
def remounted (v : Volume) : Volume :=
  { v with status := v.mountedStatus }

theorem isMounted_mountedStatus (v : Volume) : v.mountedStatus.isMounted = true := by
  unfold mountedStatus
  split
  · rfl
  · split <;> rfl

@[simp] theorem isMounted_remounted (v : Volume) : v.remounted.isMounted = true :=
  isMounted_mountedStatus v

/-- What may become of the record of a slot, without a mount and without a format, at a camera that takes uploads
or not. -/
inductive Turn (uploads : Bool) (slot : Slot) : Volume → Volume → Prop
  | accessed (v : Volume) (time : Option Instant) : Turn uploads slot v { v with lastAccess := time }
  /-- The storage of a mounted slot is read again. -/
  | reread (v : Volume) (info : StorageInfo) (census : Bay.Census) : v.isMounted = true →
      Turn uploads slot v (v.reported v.storageId info census uploads).remounted
  | inserted (v : Volume) (storage : UInt32) (info : StorageInfo) (census : Bay.Census) :
      Turn uploads slot v { v.reported storage info census uploads with status := .inserted }
  | unreadable (v : Volume) (storage : UInt32) : Turn uploads slot v (Bay.unreadable slot storage)
  | emptied (v : Volume) : Turn uploads slot v (.empty slot)
  | full (v : Volume) : Turn uploads slot v (Bay.noteFull v)
  | writeProtected (v : Volume) : Turn uploads slot v (Bay.noteProtected v)
  | failed (v : Volume) : Turn uploads slot v { v with status := .error }

variable {uploads : Bool} {slot : Slot} {v w : Volume}

/-- What a turn keeps of a record is kept by any turns. -/
theorem of_turns {P : Volume → Prop} (hturn : ∀ {v w}, Turn uploads slot v w → P v → P w)
    (h : ReflTransGen (Turn uploads slot) v w) (hv : P v) : P w := by
  induction h with
  | refl => exact hv
  | tail _ hlast ih => exact hturn hlast ih

theorem isMounted_noteFull (v : Volume) : (Bay.noteFull v).isMounted = v.isMounted := by
  unfold Bay.noteFull
  by_cases h : v.isMounted = true ∧ ¬ v.writeProtected = true
  · rw [if_pos h]
    exact h.1.symm
  · rw [if_neg h]
    rfl

theorem isMounted_noteProtected (v : Volume) : (Bay.noteProtected v).isMounted = v.isMounted := by
  unfold Bay.noteProtected
  by_cases h : v.isMounted = true
  · rw [if_pos h]
    exact h.symm
  · rw [if_neg h]
    rfl

/-- No turn mounts a slot. -/
theorem Turn.isMounted_of_isMounted (h : Turn uploads slot v w)
    (hw : w.isMounted = true) : v.isMounted = true := by
  cases h with
  | accessed time => exact hw
  | reread info census hv => exact hv
  | inserted storage info census => cases hw
  | unreadable storage => cases hw
  | emptied => cases hw
  | full => rwa [isMounted_noteFull] at hw
  | writeProtected => rwa [isMounted_noteProtected] at hw
  | failed => cases hw

end Volume

/-! ## Courses of a bay -/

namespace Bay

variable {τ : Type}

/-- 1 for a mounted slot and 0 for any other. -/
def mountedOn (slot : Slot) (b : Bay τ) : Nat :=
  if (b.table.volume slot).isMounted then 1 else 0

/-- How often it was put down that a slot is no longer mounted. -/
def unmountsOf (slot : Slot) (b : Bay τ) : Nat :=
  b.changes.count (.unmounted slot)

/-- How often it was put down that the card of a slot was formatted. -/
def formatsOf (slot : Slot) (b : Bay τ) : Nat :=
  b.changes.count (.formatted slot)

/-- From `b` to `b'` every record went through turns, no format was put down, and exactly the slots that ceased
to be mounted were put down as unmounted. -/
structure Turns (b b' : Bay τ) : Prop where
  uploads : b'.uploads = b.uploads
  volume : ∀ slot, ReflTransGen (Volume.Turn b.uploads slot) (b.table.volume slot) (b'.table.volume slot)
  unmounts : ∀ slot, b'.unmountsOf slot + b'.mountedOn slot = b.unmountsOf slot + b.mountedOn slot
  formats : ∀ slot, b'.formatsOf slot = b.formatsOf slot

/-- The same, and an active slot that was mounted is so afterwards. -/
structure Course (b b' : Bay τ) : Prop extends Turns b b' where
  seated : b.table.Seated → b'.table.Seated

namespace Turns

variable {b b' b'' : Bay τ}

theorem refl (b : Bay τ) : Turns b b :=
  ⟨rfl, fun _ => .refl, fun _ => rfl, fun _ => rfl⟩

/-- Where no slot ceases to be mounted nothing is put down. -/
theorem changes_eq_nil (h : Turns b b') (hnil : b.changes = [])
    (hkept : ∀ slot, b.mountedOn slot ≤ b'.mountedOn slot) :
    b'.changes = [] := by
  rw [List.eq_nil_iff_forall_not_mem]
  intro change hmem
  have hpos : 0 < b'.changes.count change := List.count_pos_iff.mpr hmem
  cases change with
  | unmounted slot =>
    have hcount := h.unmounts slot
    have hle := hkept slot
    unfold unmountsOf at hcount
    rw [hnil, List.count_nil] at hcount
    omega
  | formatted slot =>
    have hcount := h.formats slot
    unfold formatsOf at hcount
    rw [hnil, List.count_nil] at hcount
    omega

theorem trans (h : Turns b b') (h' : Turns b' b'') : Turns b b'' where
  uploads := h'.uploads.trans h.uploads
  volume slot := by
    have hturns := h'.volume slot
    rw [h.uploads] at hturns
    exact (h.volume slot).trans hturns
  unmounts slot := (h'.unmounts slot).trans (h.unmounts slot)
  formats slot := (h'.formats slot).trans (h.formats slot)

/-- What happens to the engine and to the choice of the active slot is no turn of any slot. -/
theorem of_same (huploads : b'.uploads = b.uploads) (hvolume : ∀ slot, b'.table.volume slot = b.table.volume slot)
    (hchanges : b'.changes = b.changes) : Turns b b' := by
  refine ⟨huploads, fun slot => ?_, fun slot => ?_, fun slot => ?_⟩
  · rw [hvolume slot]
  · unfold unmountsOf mountedOn
    rw [hvolume slot, hchanges]
  · unfold formatsOf
    rw [hchanges]

/-- One slot may go through a turn, if it is put down that it ceased to be mounted. -/
theorem of_slot (slot : Slot) (huploads : b'.uploads = b.uploads)
    (hturn : Volume.Turn b.uploads slot (b.table.volume slot) (b'.table.volume slot))
    (hother : ∀ other, other ≠ slot → b'.table.volume other = b.table.volume other)
    (hchanges : b'.changes = b.changes ++
      if (b.table.volume slot).isMounted ∧ ¬ (b'.table.volume slot).isMounted then [.unmounted slot] else []) :
    Turns b b' := by
  refine ⟨huploads, fun other => ?_, fun other => ?_, fun other => ?_⟩
  · by_cases hne : other = slot
    · subst hne
      exact .single hturn
    · rw [hother other hne]
  · unfold unmountsOf mountedOn
    rw [hchanges, List.count_append]
    by_cases hne : other = slot
    · subst hne
      have hgain := hturn.isMounted_of_isMounted
      by_cases hm : (b.table.volume other).isMounted = true
      · by_cases hm' : (b'.table.volume other).isMounted = true <;> simp [hm, hm']
      · have hm' : ¬ (b'.table.volume other).isMounted = true := fun h => hm (hgain h)
        simp [hm, hm']
    · have hchange : VolumeChange.unmounted slot ≠ .unmounted other :=
        fun h => hne (VolumeChange.unmounted.inj h).symm
      rw [hother other hne]
      split <;> simp [hchange]
  · unfold formatsOf
    rw [hchanges, List.count_append]
    split <;> simp

end Turns

namespace Course

variable {b b' b'' : Bay τ}

theorem refl (b : Bay τ) : Course b b :=
  ⟨Turns.refl b, id⟩

theorem trans (h : Course b b') (h' : Course b' b'') : Course b b'' :=
  ⟨h.toTurns.trans h'.toTurns, fun hs => h'.seated (h.seated hs)⟩

theorem of_engine (engine : Engine τ) : Course b { b with engine } :=
  ⟨Turns.of_same rfl (fun _ => rfl) rfl, id⟩

/-- One slot may go through a turn that leaves it mounted if it was. -/
theorem adjust {slot : Slot} {f : Volume → Volume}
    (hturn : Volume.Turn b.uploads slot (b.table.volume slot) (f (b.table.volume slot)))
    (hmounted : (f (b.table.volume slot)).isMounted = (b.table.volume slot).isMounted) :
    Course b (b.updateTable (·.adjust slot f)) := by
  have hself : (b.updateTable (·.adjust slot f)).table.volume slot = f (b.table.volume slot) :=
    VolumeTable.volume_adjust_self _ _ _
  have hother : ∀ other, other ≠ slot → (b.updateTable (·.adjust slot f)).table.volume other =
      b.table.volume other :=
    fun _ hne => VolumeTable.volume_adjust_of_ne hne
  refine ⟨Turns.of_slot slot rfl ?_ hother ?_, fun hs s ha => ?_⟩
  · rw [hself]
    exact hturn
  · rw [hself, hmounted, if_neg fun h => h.2 h.1]
    exact (List.append_nil _).symm
  · have hm := hs s ha
    by_cases hne : s = slot
    · subst hne
      rw [hself, hmounted]
      exact hm
    · rw [hother s hne]
      exact hm

end Course

/-! ### Giving a slot up -/

theorem changes_reportUnmounted (slot : Slot) (b : Bay τ) :
    (b.reportUnmounted slot).changes = b.changes ++ if (b.table.volume slot).isMounted then [.unmounted slot]
      else [] := by
  unfold reportUnmounted
  split
  · rfl
  · exact (List.append_nil _).symm

@[simp] theorem table_reportUnmounted (slot : Slot) (b : Bay τ) : (b.reportUnmounted slot).table = b.table := by
  unfold reportUnmounted
  split <;> rfl

@[simp] theorem engine_reportUnmounted (slot : Slot) (b : Bay τ) : (b.reportUnmounted slot).engine = b.engine := by
  unfold reportUnmounted
  split <;> rfl

@[simp] theorem uploads_reportUnmounted (slot : Slot) (b : Bay τ) :
    (b.reportUnmounted slot).uploads = b.uploads := by
  unfold reportUnmounted
  split <;> rfl

/-- A slot may be put down, and its record and its place as the active one given up. -/
theorem Course.giveUp {b : Bay τ} {slot : Slot} {f : VolumeTable → VolumeTable}
    (hturn : Volume.Turn b.uploads slot (b.table.volume slot) ((f b.table).volume slot))
    (hother : ∀ other, other ≠ slot → (f b.table).volume other = b.table.volume other)
    (hmounted : ((f b.table).volume slot).isMounted = false)
    (hactive : ∀ s, (f b.table).active = some s → b.table.active = some s ∧ s ≠ slot) :
    Course b ((b.reportUnmounted slot).updateTable f) := by
  have htable : ((b.reportUnmounted slot).updateTable f).table = f b.table := by
    show f (b.reportUnmounted slot).table = _
    rw [table_reportUnmounted]
  refine ⟨Turns.of_slot slot (uploads_reportUnmounted slot b) ?_ (fun other hne => ?_) ?_, fun hs s ha => ?_⟩
  · rw [htable]
    exact hturn
  · rw [htable]
    exact hother other hne
  · rw [htable, hmounted]
    show (b.reportUnmounted slot).changes = _
    rw [changes_reportUnmounted]
    simp
  · rw [htable] at ha ⊢
    obtain ⟨ha, hne⟩ := hactive s ha
    rw [hother s hne]
    exact hs s ha

theorem course_vacate (slot : Slot) (b : Bay τ) : Course b (b.vacate slot) := by
  refine Course.giveUp ?_ (fun _ hne => VolumeTable.volume_reset_of_ne hne) ?_ fun _ =>
    VolumeTable.active_reset_iff.mp
  · rw [VolumeTable.volume_reset_self]
    exact .emptied _
  · rw [VolumeTable.volume_reset_self]
    rfl

theorem course_noteFailed (slot : Slot) (b : Bay τ) : Course b (noteFailed slot b) := by
  refine Course.giveUp ?_ (fun other hne => ?_) ?_ fun s ha => ?_
  · simp only [VolumeTable.volume_activate, VolumeTable.volume_adjust_self]
    exact .failed _
  · simp only [VolumeTable.volume_activate]
    exact VolumeTable.volume_adjust_of_ne hne
  · simp only [VolumeTable.volume_activate, VolumeTable.volume_adjust_self]
    rfl
  · exact VolumeTable.active_reset_iff.mp ha

/-! ### Noting something about a slot -/

theorem course_touch (slot : Slot) (b : Bay τ) : Course b (b.touch slot) :=
  Course.adjust (.accessed _ _) rfl

theorem course_noteFull (slot : Slot) (b : Bay τ) : Course b (b.updateTable (·.adjust slot noteFull)) :=
  Course.adjust (.full _) (Volume.isMounted_noteFull _)

theorem course_noteProtected (slot : Slot) (b : Bay τ) : Course b (b.updateTable (·.adjust slot noteProtected)) :=
  Course.adjust (.writeProtected _) (Volume.isMounted_noteProtected _)

/-- A mounted slot may become the active one. -/
theorem course_activate {slot : Slot} {b : Bay τ} (hm : (b.table.volume slot).isMounted = true) :
    Course b ((b.touch slot).updateTable fun t => { t with active := some slot }) := by
  have htouch := course_touch slot b
  refine ⟨htouch.toTurns.trans (Turns.of_same rfl (fun _ => rfl) rfl), fun _ s ha => ?_⟩
  obtain rfl : slot = s := Option.some.inj ha
  show ((b.touch slot).table.volume slot).isMounted = true
  unfold touch updateTable
  rw [VolumeTable.volume_adjust_self]
  exact hm

/-! ### All slots, one after the other -/

/-- What is done slot by slot is a course of all of them. -/
theorem course_foldl {f : Bay τ → Slot → Bay τ} (hf : ∀ b slot, Course b (f b slot)) (slots : List Slot)
    (b : Bay τ) :
    Course b (slots.foldl f b) := by
  induction slots generalizing b with
  | nil => exact .refl b
  | cons slot rest ih => exact (hf b slot).trans (ih (f b slot))

variable [Transport τ]

/-- The camera's answers make a record, and nothing but the engine changes. -/
theorem inspect_cases (storage : UInt32) (v : Volume) (b : Bay τ) :
    (∃ error engine, Engine.storageInfo storage b.engine = (.error error, engine) ∧
        inspect storage v b = (.error error, { b with engine })) ∨
      ∃ info engine, Engine.storageInfo storage b.engine = (.ok info, engine) ∧
        inspect storage v b = (.ok (v.reported storage info (census storage engine).1 b.uploads),
          { b with engine := (census storage engine).2 }) := by
  unfold inspect
  cases hi : Engine.storageInfo storage b.engine with
  | mk r engine =>
    cases r with
    | error error => exact .inl ⟨error, engine, rfl, rfl⟩
    | ok info => exact .inr ⟨info, engine, rfl, rfl⟩

theorem course_refreshSlot (slot : Slot) (b : Bay τ) : Course b (b.refreshSlot slot).1 := by
  unfold refreshSlot
  dsimp only
  split
  · exact .refl b
  · rename_i hmounted
    have hm : (b.table.volume slot).isMounted = true := Decidable.not_not.mp hmounted
    rcases inspect_cases (b.table.volume slot).storageId (b.table.volume slot) b with
      ⟨error, engine, -, he⟩ | ⟨info, engine, -, he⟩
    · rw [he]
      dsimp only
      split
      · exact (Course.of_engine engine).trans (course_vacate slot _)
      · exact .of_engine engine
    · rw [he]
      dsimp only
      refine (Course.of_engine _).trans (Course.adjust ?_ ?_)
      · exact .reread _ info _ hm
      · exact (Volume.isMounted_remounted _).trans hm.symm

/-- A refresh reads the slots again, one after the other. -/
theorem snd_refresh (b : Bay τ) : b.refresh.2 = Slot.all.foldl (fun b slot => (b.refreshSlot slot).1) b := by
  unfold refresh
  generalize 0 = n
  generalize Slot.all = slots
  induction slots generalizing n b with
  | nil => rfl
  | cons slot rest ih =>
    rw [List.foldl_cons, List.foldl_cons]
    exact ih _ _

theorem course_refresh (b : Bay τ) : Course b b.refresh.2 := by
  rw [snd_refresh]
  exact course_foldl (fun b slot => course_refreshSlot slot b) Slot.all b

end Bay

end Tether
