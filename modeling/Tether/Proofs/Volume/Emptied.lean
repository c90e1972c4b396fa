import Mathlib.Data.List.Induction
import Tether.Proofs.Volume.Steps

/-!
# Tether.Proofs.Volume.Emptied — the record of an empty slot

Nothing of a card stays in the record of an empty slot (`Volume.Bare`).  But what is noted about a slot is noted
about an empty one too: a late report that its card is protected, and an access.  A run in which this does not
happen leaves every empty slot as a new one, and a run in which it happens does not (`Host.empty_slots`).
-/

namespace Tether

open Tether.Action

/-! ## Records -/

namespace Volume

variable {uploads : Bool} {slot : Slot} {v w : Volume}

/-- If the slot is empty, its record is a new one but for its protection and its last access. -/
def Bare (slot : Slot) (v : Volume) : Prop :=
  v.status = .empty → v = { empty slot with writeProtected := v.writeProtected, lastAccess := v.lastAccess }

/-- If the slot is empty, its record is a new one. -/
def Clean (slot : Slot) (v : Volume) : Prop :=
  v.status = .empty → v = empty slot

theorem status_ne_empty_of_isMounted (h : v.isMounted = true) : v.status ≠ .empty := by
  intro hs
  unfold isMounted at h
  rw [hs] at h
  cases h

theorem status_remounted_ne_empty (v : Volume) : v.remounted.status ≠ .empty :=
  status_ne_empty_of_isMounted (isMounted_remounted v)

/-- A note that the card is full empties no slot. -/
theorem status_of_noteFull (h : (Bay.noteFull v).status = .empty) : v.status = .empty := by
  by_cases hfull : v.isMounted = true ∧ ¬ v.writeProtected = true
  · have hstatus : (Bay.noteFull v).status = .full := if_pos hfull
    rw [hstatus] at h
    cases h
  · exact (if_neg hfull).symm.trans h

/-- A note that the card is protected empties no slot. -/
theorem status_of_noteProtected (h : (Bay.noteProtected v).status = .empty) : v.status = .empty := by
  by_cases hm : v.isMounted = true
  · have hstatus : (Bay.noteProtected v).status = .writeProtected := if_pos hm
    rw [hstatus] at h
    cases h
  · exact (if_neg hm).symm.trans h

theorem Turn.bare (h : Turn uploads slot v w) (hv : v.Bare slot) : w.Bare slot := by
  intro hs
  cases h with
  | accessed time =>
    rw [hv hs]
  | reread info census hm => exact absurd hs (status_remounted_ne_empty _)
  | inserted storage info census => cases hs
  | unreadable storage => cases hs
  | emptied => rfl
  | full =>
    rw [hv (status_of_noteFull hs)]
    rfl
  | writeProtected =>
    rw [hv (status_of_noteProtected hs)]
    rfl
  | failed => cases hs

/-- What a scan finds in a slot that it leaves empty is nothing. -/
theorem clean_found (uploads : Bool) (slot : Slot) (v : Volume) (finding : Finding) :
    (v.found uploads slot finding).Clean slot := by
  intro hs
  cases finding with
  | nothing => rfl
  | unreadable storage => cases hs
  | card storage info census =>
    unfold found at hs
    dsimp only at hs
    split at hs
    · exact absurd hs (status_remounted_ne_empty _)
    · cases hs

theorem Clean.noteFull (h : v.Clean slot) : (Bay.noteFull v).Clean slot := by
  intro hs
  rw [h (status_of_noteFull hs)]
  rfl

end Volume

/-! ## Tables -/

namespace VolumeTable

variable {t t' : VolumeTable} {slot : Slot}

/-- Every empty slot is as a new one. -/
def Clean (t : VolumeTable) : Prop :=
  ∀ slot, (t.volume slot).Clean slot

theorem clean_empty : empty.Clean := by
  intro slot _
  exact volume_empty slot

theorem Clean.of_slot (slot : Slot) (h : t.Clean) (hself : (t'.volume slot).Clean slot)
    (hother : ∀ other, other ≠ slot → t'.volume other = t.volume other) : t'.Clean := by
  intro other
  by_cases hne : other = slot
  · rw [hne]
    exact hself
  · rw [hother other hne]
    exact h other

theorem Clean.adjust {f : Volume → Volume} (h : t.Clean) (hf : (f (t.volume slot)).Clean slot) :
    (t.adjust slot f).Clean := by
  refine h.of_slot slot ?_ fun other hne => volume_adjust_of_ne hne
  rw [volume_adjust_self]
  exact hf

/-- A slot without a storage holds none. -/
theorem slotOf_ne_of_storageId (h : (t.volume slot).storageId = 0) (storage : UInt32) :
    t.slotOf storage ≠ some slot := by
  unfold slotOf
  by_cases hzero : storage = 0
  · rw [if_pos hzero]
    intro hnone
    cases hnone
  · rw [if_neg hzero]
    intro hsome
    have hid := List.find?_some hsome
    exact hzero ((of_decide_eq_true hid).symm.trans h)

end VolumeTable

/-! ## Steps and calls -/

namespace Bay

variable {τ : Type} {b : Bay τ}

theorem clean_vacate (slot : Slot) (h : b.table.Clean) : (b.vacate slot).table.Clean := by
  have hvacate := fills_vacate slot b
  refine h.of_slot slot ?_ hvacate.other
  rw [hvacate.volume]
  exact Volume.clean_found _ _ _ _

variable [Transport τ]

theorem clean_scan (h : b.table.Clean) : (scan b).2.table.Clean := by
  cases hx : Engine.storageIds b.engine with
  | mk r engine =>
    cases r with
    | ok storages =>
      obtain ⟨b', hscan, -, hvolume, -⟩ := scan_of_listed hx
      rw [hscan]
      intro slot
      rw [hvolume slot]
      exact Volume.clean_found _ _ _ _
    | error error =>
      rw [scan_of_unlisted hx]
      exact h

theorem clean_refreshSlot (slot : Slot) (h : b.table.Clean) : (b.refreshSlot slot).1.table.Clean := by
  unfold refreshSlot
  dsimp only
  split
  · exact h
  · rcases inspect_cases (b.table.volume slot).storageId (b.table.volume slot) b with
      ⟨error, engine, -, he⟩ | ⟨info, engine, -, he⟩
    · rw [he]
      dsimp only
      split
      · exact clean_vacate (b := { b with engine }) slot h
      · exact h
    · rw [he]
      exact h.adjust fun hs => absurd hs (Volume.status_remounted_ne_empty _)

theorem clean_refresh (h : b.table.Clean) : b.refresh.2.table.Clean := by
  rw [snd_refresh]
  exact clean_refreshSlot 1 (clean_refreshSlot 0 h)

end Bay

/-- Whether a step notes something about the card of a slot, whatever the slot holds. -/
def BayStep.Marks {τ : Type} (slot : Slot) : BayStep τ → Prop
  | .touch s | .noteProtected s => s = slot
  | _ => False

/-- The same of a call. -/
def BayCall.Marks {τ : Type} (slot : Slot) : BayCall τ → Prop
  | .step s => s.Marks slot
  | .card n .writeProtected => n = slot.val
  | _ => False

section Runs

variable {τ : Type} [Transport τ]

/-- Every step leaves empty slots as new ones, if it marks none. -/
theorem BayStep.clean_run (s : BayStep τ) {b : Bay τ} (h : b.table.Clean)
    (hmarks : ∀ slot, s.Marks slot → (b.table.volume slot).status ≠ .empty) : (s.run b).table.Clean := by
  cases s with
  | scan => exact Bay.clean_scan h
  | refresh => exact Bay.clean_refresh h
  | mount n =>
    refine Leaves.state (P := fun b' => b'.table.Clean) ((Bay.leaves_mount n b).mono ?_ ?_)
    · rintro _ b' ⟨slot, -, hm⟩
      exact h.of_slot slot (fun hs => absurd hs (Volume.status_ne_empty_of_isMounted hm.isMounted)) hm.other
    · rintro _ b' rfl
      exact h
  | unmount n =>
    refine Leaves.state (P := fun b' => b'.table.Clean) ((Bay.leaves_unmount n b).mono ?_ ?_)
    · rintro _ b' ⟨slot, -, rfl⟩
      exact Bay.clean_vacate slot h
    · rintro _ b' rfl
      exact h
  | format n =>
    refine Leaves.state (P := fun b' => b'.table.Clean) ((Bay.leaves_format n b).mono ?_ ?_)
    · rintro _ b' ⟨slot, -, hf⟩
      exact h.of_slot slot (fun hs => absurd hs (Volume.status_ne_empty_of_isMounted hf.isMounted)) hf.other
    · rintro _ b' ⟨engine, rfl⟩
      exact h
  | setActive n =>
    refine Leaves.state (P := fun b' => b'.table.Clean) ((Bay.leaves_setActive n b).mono ?_ ?_)
    · rintro _ b' ⟨slot, hm, rfl⟩
      have htouched : (b.touch slot).table.Clean :=
        h.adjust fun (hs : (b.table.volume slot).status = .empty) =>
          absurd hs (Volume.status_ne_empty_of_isMounted hm)
      exact htouched
    · rintro _ b' rfl
      exact h
  | touch slot => exact h.adjust fun hs => absurd hs (hmarks slot rfl)
  | noteFull slot => exact h.adjust (h slot).noteFull
  | noteProtected slot => exact h.adjust fun hs => absurd (Volume.status_of_noteProtected hs) (hmarks slot rfl)
  | noteFailed slot =>
    have hfailed : (b.table.adjust slot fun v => { v with status := .error }).Clean :=
      h.adjust fun hs => by cases hs
    intro other
    show ((Bay.noteFailed slot b).table.volume other).Clean other
    unfold Bay.noteFailed Bay.updateTable
    rw [Bay.table_reportUnmounted]
    exact hfailed other
  | takeUploads uploads => exact h
  | engine f => exact h

omit [Transport τ] in
theorem BayStep.Routine.not_marks {s : BayStep τ} {slot : Slot} (h : s.Routine) : ¬ s.Marks slot := by
  cases s with
  | touch s => exact h.elim
  | noteProtected s => exact h.elim
  | _ => exact id

/-- A step that marks an empty slot leaves it empty, and not as a new one. -/
theorem BayStep.not_clean_of_marks {s : BayStep τ} {b : Bay τ} {slot : Slot} (hm : s.Marks slot)
    (hs : (b.table.volume slot).status = .empty) : ¬ ((s.run b).table.volume slot).Clean slot := by
  intro hclean
  cases s with
  | touch target =>
    obtain rfl : target = slot := hm
    have hself : ((BayStep.touch target).run b).table.volume target =
        { b.table.volume target with lastAccess := some b.engine.clock } := VolumeTable.volume_adjust_self _ _ _
    rw [hself] at hclean
    have hnew := congrArg Volume.lastAccess (hclean hs)
    cases hnew
  | noteProtected target =>
    obtain rfl : target = slot := hm
    have hself : ((BayStep.noteProtected target).run b).table.volume target =
        Bay.noteProtected (b.table.volume target) :=
      VolumeTable.volume_adjust_self _ _ _
    have hnot : ¬ (b.table.volume target).isMounted = true := fun hmounted =>
      Volume.status_ne_empty_of_isMounted hmounted hs
    rw [hself] at hclean
    have hnew := congrArg Volume.writeProtected (hclean ((if_neg hnot).trans hs))
    cases hnew
  | _ => exact hm

namespace BayCall

/-- Every call leaves empty slots as new ones, if it marks none. -/
theorem clean_run (c : BayCall τ) {b : Bay τ} (h : b.table.Clean)
    (hmarks : ∀ slot, c.Marks slot → (b.table.volume slot).status ≠ .empty) : (c.run b).table.Clean := by
  rw [← c.runAll_steps b]
  rcases c.steps_cases b with ⟨s, rfl, hsteps⟩ | ⟨slot, rfl, hsteps⟩ | hsteps
  · rw [hsteps]
    exact s.clean_run h hmarks
  · rw [hsteps]
    refine (BayStep.noteProtected slot).clean_run h fun other hm => hmarks other ?_
    exact congrArg Fin.val hm
  · refine BayStep.runAll_of_forall (P := fun b => b.table.Clean) (fun s b hs hb => ?_) hsteps h
    exact s.clean_run hb fun slot hm => absurd hm hs.not_marks

theorem not_clean_of_marks {c : BayCall τ} {b : Bay τ} {slot : Slot} (hm : c.Marks slot)
    (hs : (b.table.volume slot).status = .empty) : ¬ ((c.run b).table.volume slot).Clean slot := by
  cases c with
  | step s => exact BayStep.not_clean_of_marks hm hs
  | card n status =>
    cases status with
    | writeProtected =>
      obtain rfl : n = slot.val := hm
      rw [← runAll_steps, steps_protected]
      exact BayStep.not_clean_of_marks (s := .noteProtected slot) rfl hs
    | _ => exact hm.elim
  | _ => exact hm.elim

end BayCall

/-! ## Runs -/

namespace Host

/-- The slots after some calls of a new host. -/
def tableAfter (engine : Engine τ) (store : Store) (calls : List (BayCall τ)) : VolumeTable :=
  ((vacant engine store).runCalls calls).bay.table

theorem tableAfter_concat (engine : Engine τ) (store : Store) (calls : List (BayCall τ)) (c : BayCall τ) :
    tableAfter engine store (calls ++ [c]) = (c.run ((vacant engine store).runCalls calls).bay).table := by
  unfold tableAfter runCalls
  rw [List.foldl_append]
  rfl

theorem bare_tableAfter (engine : Engine τ) (store : Store) (calls : List (BayCall τ)) (slot : Slot) :
    ((tableAfter engine store calls).volume slot).Bare slot := by
  refine volume_runCalls (fun _ _ => rfl) Volume.Turn.bare (fun _ _ hs => ?_)
    (fun _ _ _ hs => ?_) engine store calls slot
  · exact absurd hs (Volume.status_remounted_ne_empty _)
  · exact absurd hs (Volume.status_remounted_ne_empty _)

/-- All moments of a run leave empty slots as new ones exactly if no call marks a slot that is empty. -/
theorem clean_tableAfter_iff (engine : Engine τ) (store : Store) (calls : List (BayCall τ)) :
    (∀ before, before <+: calls → (tableAfter engine store before).Clean) ↔
      ∀ before c after, calls = before ++ c :: after →
        ∀ slot, c.Marks slot → ((tableAfter engine store before).volume slot).status ≠ .empty := by
  constructor
  · rintro hclean before c after rfl slot hm hs
    have hafter := hclean (before ++ [c]) ⟨after, by rw [List.append_assoc, List.singleton_append]⟩ slot
    rw [tableAfter_concat] at hafter
    exact c.not_clean_of_marks hm hs hafter
  · intro hmarks before
    induction before using List.reverseRecOn with
    | nil => exact fun _ => VolumeTable.clean_empty
    | append_singleton before c ih =>
      rintro ⟨after, rfl⟩
      rw [List.append_assoc, List.singleton_append] at hmarks ih
      rw [tableAfter_concat]
      exact c.clean_run (ih (List.prefix_append _ _)) (hmarks before c after rfl)

/-- Wherever calls come from empty slots, whatever the camera answers: a slot that is empty has no storage and is
found for none, and its record is a new one but for its protection and its last access.  And it is a new one
altogether, at all moments of a run and for all slots, exactly if no call marks a slot while it is empty: neither
does a card event come that its card is protected, nor is an access recorded. -/
theorem empty_slots (engine : Engine τ) (store : Store) (calls : List (BayCall τ)) :
    (∀ slot, ((tableAfter engine store calls).volume slot).status = .empty →
      ((tableAfter engine store calls).volume slot).storageId = 0 ∧
      (∀ storage, (tableAfter engine store calls).slotOf storage ≠ some slot) ∧
      (tableAfter engine store calls).volume slot = { Volume.empty slot with
        writeProtected := (tableAfter engine store calls).isWriteProtected slot
        lastAccess := ((tableAfter engine store calls).volume slot).lastAccess }) ∧
    ((∀ before, before <+: calls → ∀ slot, ((tableAfter engine store before).volume slot).status = .empty →
        (tableAfter engine store before).volume slot = .empty slot) ↔
      ∀ before c after, calls = before ++ c :: after →
        ∀ slot, c.Marks slot → ((tableAfter engine store before).volume slot).status ≠ .empty) := by
  refine ⟨fun slot hs => ?_, clean_tableAfter_iff engine store calls⟩
  have hrecord := bare_tableAfter engine store calls slot hs
  have hid : ((tableAfter engine store calls).volume slot).storageId = 0 := by
    rw [hrecord]
    rfl
  have hprotected : (tableAfter engine store calls).isWriteProtected slot =
      ((tableAfter engine store calls).volume slot).writeProtected := dif_pos slot.isLt
  refine ⟨hid, VolumeTable.slotOf_ne_of_storageId hid, ?_⟩
  rw [hprotected]
  exact hrecord

/-- A report that the card is protected comes for a slot that never had one: the slot is empty, but it is not as
a new one and writing to it is refused. -/
theorem protected_while_empty :
    ∃ t, t = tableAfter (.idle : Engine Link) (.create 100 300)
        [.step (.engine fun e => (Engine.openSession e).2), .card 0 .writeProtected] ∧
      (t.volume 0).status = .empty ∧ t.isWriteProtected 0 = true ∧ t.volume 0 ≠ .empty 0 := by
  refine ⟨_, rfl, ?_⟩
  decide +kernel

end Host

end Runs

end Tether
