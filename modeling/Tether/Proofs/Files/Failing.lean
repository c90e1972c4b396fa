import Tether.Proofs.Host.Operated

/-!
# Tether.Proofs.Files.Failing — failed writes and unlinks change nothing

A write uploads before it deletes, and an upload makes its object only with the last word of the camera.  So
wherever a write or an unlink fails, in whichever exchange and for whatever armed fault, the object is still
there as it was and the store and the slots know nothing of the attempt (`Operated.failing_changes_nothing`).
-/

namespace Tether

open Ptp Tether.Action
open Engine (Calm)

/-- From `h` to `h'` neither the store nor the slots changed, nor anything that the camera holds. -/
structure Host.Spared (h h' : Host Camera) : Prop where
  store : h'.store = h.store
  table : h'.bay.table = h.bay.table
  notices : h'.notices = h.notices
  objects : h'.bay.engine.link.objects = h.bay.engine.link.objects
  storages : h'.bay.engine.link.storages = h.bay.engine.link.storages

namespace Host

variable {h : Host Camera}

theorem Spared.refl (h : Host Camera) : h.Spared h :=
  ⟨rfl, rfl, rfl, rfl, rfl⟩

theorem Spared.trans {h' h'' : Host Camera} (hs : h.Spared h') (hs' : h'.Spared h'') : h.Spared h'' :=
  ⟨hs'.store.trans hs.store, hs'.table.trans hs.table, hs'.notices.trans hs.notices, hs'.objects.trans hs.objects,
    hs'.storages.trans hs.storages⟩

/-- An upload that fails leaves no object. -/
theorem leaves_writeNew_spared (hcalm : Calm h.bay.engine) (name : String) (content : Bytes) (parent : UInt32) :
    (writeNew name content parent).Leaves h (fun _ _ => True) fun _ h' => h.Spared h' := by
  unfold writeNew
  refine leaves_bind (leaves_ofExcept (fun _ _ => ?_) fun _ _ => .refl h)
  refine leaves_bind (leaves_ofExcept (fun size _ => ?_) fun _ _ => .refl h)
  refine leaves_bind (leaves_state ?_)
  refine leaves_bind (leaves_ofExcept (fun target _ => ?_) fun _ _ => .refl h)
  obtain ⟨slot, storage⟩ := target
  refine leaves_bind (leaves_call_of ((Engine.leaves_announceUpload hcalm storage parent
    (ObjectInfo.isFolder_upload storage parent name size _)).mono ?_ ?_))
  · rintro handle e₁ ⟨hcalm₁, -, c₁, halike, -, -, hannounced⟩
    have hobjects : e₁.link.objects = h.bay.engine.link.objects := hannounced.objects.trans halike.objects
    have hstorages : e₁.link.storages = h.bay.engine.link.storages := hannounced.storages.trans halike.storages
    refine leaves_bind (leaves_call_of ((Engine.leaves_sendContent hcalm₁ content).mono ?_ ?_))
    · intro _ e₂ _
      exact leaves_bind (leaves_change (leaves_bind (leaves_read (leaves_ofFunction trivial))))
    · rintro error e₂ ⟨-, halike₂⟩
      exact ⟨rfl, rfl, rfl, halike₂.objects.trans hobjects, halike₂.storages.trans hstorages⟩
  · rintro error e₁ ⟨-, halike⟩
    exact ⟨rfl, rfl, rfl, halike.objects, halike.storages⟩

/-- A deletion that fails leaves the object. -/
theorem leaves_delete_spared (hcalm : Calm h.bay.engine) (ref : ObjectRef) :
    (delete ref).Leaves h (fun _ _ => True) fun _ h' => h.Spared h' := by
  unfold delete
  refine leaves_bind (leaves_read ?_)
  refine leaves_bind (leaves_call_of ((Engine.leaves_deleteObject hcalm _).mono ?_ ?_))
  · intro _ e' _
    exact leaves_change trivial
  · rintro error e' ⟨-, halike⟩
    exact ⟨rfl, rfl, rfl, halike.objects, halike.storages⟩

end Host

namespace Mount

variable {h : Host Camera}

theorem leaves_write_spared (hcalm : Calm h.bay.engine) (m : Mount) (n : Node) (content : Bytes) :
    (m.write n content).Leaves h (fun _ _ => True) fun _ h' => h.Spared h' := by
  unfold write
  refine leaves_bind ((leaves_same m.keeps_checkWritable (.refl h)).mono ?_ fun _ _ hs => hs)
  rintro _ h' rfl
  refine leaves_bind ((leaves_same (keeps_fileOf n) (.refl h')).mono ?_ fun _ _ hs => hs)
  rintro old h' rfl
  refine leaves_bind (leaves_read ?_)
  refine leaves_bind ((Host.leaves_writeNew_spared hcalm _ content _).mono ?_ fun _ _ hs => hs)
  intro new h' _
  -- that the old object stays is no failure
  exact leaves_bind (leaves_attempt (leaves_pure trivial))

theorem leaves_unlink_spared (hcalm : Calm h.bay.engine) (m : Mount) (n : Node) :
    (m.unlink n).Leaves h (fun _ _ => True) fun _ h' => h.Spared h' := by
  unfold unlink
  refine leaves_bind ((leaves_same m.keeps_checkWritable (.refl h)).mono ?_ fun _ _ hs => hs)
  rintro _ h' rfl
  refine leaves_bind ((leaves_same (keeps_objectOf n) (.refl h')).mono ?_ fun _ _ hs => hs)
  rintro ref h' rfl
  refine leaves_bind (leaves_read ?_)
  split
  · exact leaves_bind (leaves_fail (.refl h'))
  · refine leaves_bind ((Host.leaves_delete_spared hcalm ref).mono ?_ fun _ _ hs => hs)
    intro _ h'' _
    exact leaves_pure trivial

end Mount

/-- Wherever a run comes, whatever faults are armed at the camera: a write or an unlink that fails leaves the
store, the slots, what others were told and what the camera holds as they were, so the node stands for the object
for which it stood. -/
theorem Operated.failing_changes_nothing {h : Host Camera} (hr : Operated (fun _ => True) h) (m : Mount)
    (n : Node) :
    (∀ content e h', m.write n content h = (.error e, h') →
      h.Spared h' ∧ n.object? h'.store.index = n.object? h.store.index) ∧
    ∀ e h', m.unlink n h = (.error e, h') → h.Spared h' ∧ n.object? h'.store.index = n.object? h.store.index := by
  have hsame : ∀ {h'}, h.Spared h' → h.Spared h' ∧ n.object? h'.store.index = n.object? h.store.index :=
    fun hs => ⟨hs, by rw [hs.store]⟩
  refine ⟨fun content e h' hw => hsame ?_, fun e h' hu => hsame ?_⟩
  · exact (Mount.leaves_write_spared hr.calm m n content).2 e h' hw
  · exact (Mount.leaves_unlink_spared hr.calm m n).2 e h' hu

/-- A mount that allows to write. -/
def Mount.writing : Mount where
  options := {}
  blockSize := 512
  budget := none

/-- A picture on the first of two cards; the camera will not answer when content is sent next, and will answer
the next deletion with a container of no known kind. -/
def Host.spoiled : Host Camera :=
  let h := Host.twoCards.given Host.picture [1, 2, 3]
  let h := h.updateEngine fun e => { e with link := (CameraStep.injectFault .sendObject .noResponse).run e.link }
  h.updateEngine fun e => { e with link := (CameraStep.injectFault .deleteObject .malformed).run e.link }

theorem Operated.failing_changes_nothing_spoiled :
    (Operated (fun _ => True) Host.spoiled ∧
      (Mount.writing.write (.bound 0) [4, 5] Host.spoiled).1 = .error .timeout ∧
      (Mount.writing.unlink (.bound 0) Host.spoiled).1.isOk = false) ∧
    Host.spoiled.Spared (Mount.writing.write (.bound 0) [4, 5] Host.spoiled).2 ∧
      Host.spoiled.Spared (Mount.writing.unlink (.bound 0) Host.spoiled).2 := by
  have hr : Operated (fun _ => True) Host.spoiled :=
    ((Operated.twoCards.given Host.picture [1, 2, 3] trivial).camera (.injectFault .sendObject .noResponse)
      fun h => h.elim).camera (.injectFault .deleteObject .malformed) fun h => h.elim
  have hwrite : (Mount.writing.write (.bound 0) [4, 5] Host.spoiled).1 = .error .timeout := by decide +kernel
  have hunlink : (Mount.writing.unlink (.bound 0) Host.spoiled).1.isOk = false := by decide +kernel
  obtain ⟨hfirst, hsecond⟩ := Operated.failing_changes_nothing hr Mount.writing (.bound 0)
  refine ⟨⟨hr, hwrite, hunlink⟩, (hfirst [4, 5] .timeout _ (Prod.ext hwrite rfl)).1, ?_⟩
  cases hu : Mount.writing.unlink (.bound 0) Host.spoiled with
  | mk r h' =>
    rw [hu] at hunlink
    cases r with
    | ok n => cases hunlink
    | error e => exact (hsecond e h' hu).1

end Tether
