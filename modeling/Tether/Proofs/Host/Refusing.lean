import Tether.Proofs.Exchange.LateAnswer
import Tether.Proofs.Exchange.Transactions
import Tether.Proofs.Host.Operated
import Tether.Proofs.Ptp.Records

/-!
# Tether.Proofs.Host.Refusing — uploads that are refused before anything is sent

An upload is two transactions, and the host can tell beforehand that it cannot be finished: its name, its
content, the volume or the session is at fault (`Unsendable`).  The host then refuses it and is as it was, but
for one case.  A description has room for any length that is a word, while a data container has to hold a header
besides the content; so content of the twelve greatest lengths is announced to the camera before the host refuses
to send it (`Overlong`).
-/

namespace Tether

open Ptp Tether.Action

variable {τ : Type} [Transport τ]

/-! ## The two transactions -/

namespace Engine

/-- From `e` to `e'` one transaction was used, and the session is the same. -/
structure Used (e e' : Engine τ) : Prop where
  next : e'.nextTransaction = nextId e.nextTransaction
  session : e'.session = e.session

/-- A call that is not refused uses a transaction, whatever comes of it. -/
theorem leaves_executeOk_used {operation : Operation} {parameters : List UInt32} {payload : Option Bytes}
    {e : Engine τ} (hc : checkCall operation parameters payload e = .ok ()) :
    (executeOk operation parameters payload).Leaves e (fun _ => Used e) fun _ => Used e := by
  have hused : Used e (execute operation parameters payload e).2 := by
    refine ⟨?_, session_execute operation parameters payload e⟩
    rw [(execute_of_accepted hc).2]
  unfold executeOk
  exact leaves_bind ((leaves_of_state hused).mono
    (fun _ _ h => leaves_ofExcept (fun _ _ => h) fun _ _ => h) fun _ _ h => h)

omit [Transport τ] in
theorem checkCall_announceUpload {storage parent : UInt32} {info : ObjectInfo} {e : Engine τ}
    (hs : e.session ≠ none) :
    checkCall .sendObjectInfo [storage, parent] (some info.encode) e = .ok () := by
  refine checkCall_eq_ok_iff.mpr ?_
  rintro (hlong | ⟨payload, hpayload, hlong⟩ | ⟨-, hnone⟩)
  · exact absurd hlong (Nat.not_lt_of_le (Nat.le_of_ble_eq_true rfl))
  · obtain rfl := Option.some.inj hpayload
    have hshort := info.length_encode_le
    omega
  · exact hs hnone

/-- Within a session an upload is announced, and one transaction is used. -/
theorem leaves_announceUpload_used (storage parent : UInt32) (info : ObjectInfo) {e : Engine τ}
    (hs : e.session ≠ none) :
    (announceUpload storage parent info).Leaves e (fun _ => Used e) fun _ => Used e := by
  unfold announceUpload
  refine leaves_bind ((leaves_executeOk_used (checkCall_announceUpload hs)).mono (fun response e' h => ?_)
    fun _ _ h => h)
  cases response.parameters[2]? with
  | some handle => exact leaves_pure h
  | none => exact leaves_fail h

/-- Within a session content that fits a container is sent, and one transaction is used. -/
theorem leaves_sendContent_used {content : Bytes} {e : Engine τ} (hs : e.session ≠ none)
    (hfits : 12 + content.length ≤ 2 ^ 32 - 1) :
    (sendContent content).Leaves e (fun _ => Used e) fun _ => Used e := by
  have hc : checkCall .sendObject [] (some content) e = .ok () := by
    refine checkCall_eq_ok_iff.mpr ?_
    rintro (hlong | ⟨payload, hpayload, hlong⟩ | ⟨-, hnone⟩)
    · exact absurd hlong (by decide)
    · obtain rfl := Option.some.inj hpayload
      omega
    · exact hs hnone
  unfold sendContent
  exact leaves_bind ((leaves_executeOk_used hc).mono (fun _ _ h => leaves_pure h) fun _ _ h => h)

/-- Content that fits no container is refused by itself. -/
theorem sendContent_of_overlong {content : Bytes} (hlong : 2 ^ 32 - 1 < 12 + content.length) (e : Engine τ) :
    ∃ error, sendContent content e = (.error error, e) := by
  cases hc : checkCall .sendObject [] (some content) e with
  | ok _ => exact absurd (.inr (.inl ⟨content, rfl, hlong⟩)) (checkCall_eq_ok_iff.mp hc)
  | error error =>
    refine ⟨error, ?_⟩
    rw [sendContent, executeOk, bind_apply, bind_apply, execute_of_refused hc]

/-- An upload is announced within a session only. -/
theorem announceUpload_of_no_session (storage parent : UInt32) (info : ObjectInfo) {e : Engine τ}
    (hs : e.session = none) :
    ∃ error, announceUpload storage parent info e = (.error error, e) := by
  cases hc : checkCall .sendObjectInfo [storage, wireParent parent] (some info.encode) e with
  | ok _ => exact absurd (.inr (.inr ⟨by decide, hs⟩)) (checkCall_eq_ok_iff.mp hc)
  | error error => exact ⟨error, by rw [announceUpload, executeOk, bind_apply, bind_apply, execute_of_refused hc]⟩

theorem session_of_announceUpload {storage parent handle : UInt32} {info : ObjectInfo} {e e' : Engine τ}
    (h : announceUpload storage parent info e = (.ok handle, e')) : e'.session ≠ none := by
  by_cases hs : e.session = none
  · obtain ⟨error, hrefused⟩ := announceUpload_of_no_session storage parent info hs
    rw [hrefused] at h
    cases h
  · rw [((leaves_announceUpload_used storage parent info hs).1 _ _ h).session]
    exact hs

/-- Once an upload is announced, only the length of its content makes the host refuse to send it. -/
theorem refused_sendObject_iff {storage parent handle : UInt32} {info : ObjectInfo} {e e' : Engine τ}
    (h : announceUpload storage parent info e = (.ok handle, e')) (content : Bytes) :
    refused (execute .sendObject [] (some content) e').1 = true ↔ 2 ^ 32 - 1 < 12 + content.length := by
  rw [refused_execute_iff]
  constructor
  · rintro (hparameters | ⟨payload, hpayload, hlong⟩ | ⟨-, hnone⟩)
    · exact absurd hparameters (by decide)
    · obtain rfl := Option.some.inj hpayload
      exact hlong
    · exact absurd hnone (session_of_announceUpload h)
  · intro hlong
    exact .inr (.inl ⟨content, rfl, hlong⟩)

end Engine

/-! ## What the host can tell of an upload -/

namespace Host

open Engine (refused nextId nextId_ne nextId_nextId_ne)

/-- No file may have such a name. -/
def BadName (name : String) : Prop :=
  name = "" ∨ name = "." ∨ name = ".." ∨ '/' ∈ name.toList ∨ '\x00' ∈ name.toList ∨ 255 < name.utf8ByteSize

theorem checkName_cases (name : String) :
    checkName name = .ok () ∧ ¬ BadName name ∨ (∃ error, checkName name = .error error) ∧ BadName name := by
  unfold checkName BadName
  split
  · rename_i hdots
    exact .inr ⟨⟨_, rfl⟩, by tauto⟩
  · rename_i hdots
    split
    · rename_i hany
      obtain ⟨c, hc, hsplits⟩ := List.any_eq_true.mp hany
      refine .inr ⟨⟨_, rfl⟩, ?_⟩
      rcases of_decide_eq_true hsplits with rfl | rfl <;> tauto
    · rename_i hany
      have hslash : '/' ∉ name.toList := fun hc => hany (List.any_eq_true.mpr ⟨_, hc, by decide⟩)
      have hnul : '\x00' ∉ name.toList := fun hc => hany (List.any_eq_true.mpr ⟨_, hc, by decide⟩)
      split
      · rename_i hlong
        exact .inr ⟨⟨_, rfl⟩, .inr (.inr (.inr (.inr (.inr hlong))))⟩
      · rename_i hlong
        refine .inl ⟨rfl, ?_⟩
        rintro (h | h | h | h | h | h)
        · exact hdots (.inl h)
        · exact hdots (.inr (.inl h))
        · exact hdots (.inr (.inr h))
        · exact hslash h
        · exact hnul h
        · exact hlong h

/-- The host can tell that the upload cannot be sent. -/
inductive Unsendable (name : String) (content : Bytes) (h : Host τ) : Prop
  | name : BadName name → Unsendable name content h
  | container : 2 ^ 32 - 1 < 12 + content.length → Unsendable name content h
  | inactive : h.bay.table.active = none → Unsendable name content h
  | writeProtected {slot : Slot} : h.bay.table.active = some slot →
      (h.bay.table.volume slot).writeProtected = true →
      Unsendable name content h
  | session : h.bay.engine.session = none → Unsendable name content h

/-- The upload is announced to the camera. -/
structure Announced (name : String) (content : Bytes) (h : Host τ) : Prop where
  name : ¬ BadName name
  size : content.length ≤ 2 ^ 32 - 1
  target : ∃ slot, h.bay.table.active = some slot ∧ (h.bay.table.volume slot).writeProtected = false
  session : h.bay.engine.session ≠ none

/-- The upload is announced to the camera though its content fits no container. -/
structure Overlong (name : String) (content : Bytes) (h : Host τ) : Prop extends Announced name content h where
  container : 2 ^ 32 - 1 < 12 + content.length

variable {name : String} {content : Bytes} {h : Host τ}

omit [Transport τ] in
theorem unsendable_of_not_announced (hno : ¬ Announced name content h) : Unsendable name content h := by
  by_contra hsendable
  refine hno ⟨fun hname => hsendable (.name hname), ?_, ?_, fun hnone => hsendable (.session hnone)⟩
  · by_contra hsize
    exact hsendable (.container (by omega))
  · cases hactive : h.bay.table.active with
    | none => exact absurd (.inactive hactive) hsendable
    | some slot =>
      refine ⟨slot, rfl, ?_⟩
      by_contra hprotected
      exact hsendable (.writeProtected hactive (eq_true_of_ne_false hprotected))

omit [Transport τ] in
/-- Of the uploads that cannot be sent those are announced whose content alone is at fault, and that is a matter
of the header. -/
theorem not_announced_iff : ¬ Announced name content h ↔
    Unsendable name content h ∧ ¬ Overlong name content h := by
  constructor
  · exact fun hno => ⟨unsendable_of_not_announced hno, fun hover => hno hover.toAnnounced⟩
  · rintro ⟨hreason, hover⟩ hannounced
    cases hreason with
    | name hname => exact hannounced.name hname
    | container hlong => exact hover ⟨hannounced, hlong⟩
    | inactive hnone =>
      obtain ⟨slot, hactive, -⟩ := hannounced.target
      rw [hnone] at hactive
      cases hactive
    | writeProtected hactive' hprotected =>
      obtain ⟨slot, hactive, hfree⟩ := hannounced.target
      rw [hactive'] at hactive
      obtain rfl := Option.some.inj hactive
      rw [hprotected] at hfree
      cases hfree
    | session hnone => exact hannounced.session hnone

/-! ## What the host does with an upload -/

omit [Transport τ] in
theorem uploadTarget_of_free {slot : Slot} (hactive : h.bay.table.active = some slot)
    (hfree : (h.bay.table.volume slot).writeProtected = false) :
    uploadTarget h = .ok (slot, (h.bay.table.volume slot).storageId) := by
  simp [uploadTarget, hactive, hfree]

omit [Transport τ] in
theorem exists_error_uploadTarget (hno : ¬ ∃ slot, h.bay.table.active = some slot ∧
    (h.bay.table.volume slot).writeProtected = false) : ∃ error, uploadTarget h = .error error := by
  cases hactive : h.bay.table.active with
  | none => exact ⟨_, by rw [uploadTarget, hactive]⟩
  | some slot =>
    cases hprotected : (h.bay.table.volume slot).writeProtected with
    | false => exact absurd ⟨slot, hactive, hprotected⟩ hno
    | true => exact ⟨.readOnly, by simp [uploadTarget, hactive, hprotected]⟩

omit [Transport τ] in
/-- Name, size and target are looked at before the camera is asked. -/
theorem announced_of_checks {size : UInt32} {target : Slot × UInt32} (hnamed : checkName name = .ok ())
    (hsize : checkSize content = .ok size) (htarget : uploadTarget h = .ok target)
    (hs : h.bay.engine.session ≠ none) :
    Announced name content h := by
  refine ⟨?_, ?_, ?_, hs⟩
  · rcases checkName_cases name with ⟨-, hgood⟩ | ⟨⟨error, herror⟩, -⟩
    · exact hgood
    · rw [herror] at hnamed
      cases hnamed
  · unfold checkSize at hsize
    split at hsize
    · rename_i hword
      exact hword
    · cases hsize
  · by_contra hno
    obtain ⟨error, herror⟩ := exists_error_uploadTarget hno
    rw [herror] at htarget
    cases htarget

/-- An upload that is not announced is refused, and the host is as it was. -/
theorem writeNew_of_not_announced (hno : ¬ Announced name content h) (parent : UInt32) :
    ∃ error, writeNew name content parent h = (.error error, h) := by
  refine Leaves.eq_error ?_
  unfold writeNew
  refine leaves_bind (leaves_ofExcept (fun _ hnamed => ?_) fun _ _ => rfl)
  refine leaves_bind (leaves_ofExcept (fun size hsize => ?_) fun _ _ => rfl)
  refine leaves_bind (leaves_state ?_)
  refine leaves_bind (leaves_ofExcept (fun target htarget => ?_) fun _ _ => rfl)
  have hs : h.bay.engine.session = none :=
    Decidable.byContradiction fun hs => hno (announced_of_checks hnamed hsize htarget hs)
  obtain ⟨error, hrefused⟩ := Engine.announceUpload_of_no_session target.2 parent _ hs
  exact leaves_bind (leaves_call_of (leaves_of_eq_error hrefused rfl))

/-- An upload that is announced uses a transaction, and a second one for the content if that fits a container. -/
theorem leaves_writeNew_of_announced (hannounced : Announced name content h) (parent : UInt32) :
    (writeNew name content parent).Leaves h
      (fun _ h' => 12 + content.length ≤ 2 ^ 32 - 1 ∧
        h'.bay.engine.nextTransaction = nextId (nextId h.bay.engine.nextTransaction))
      fun _ h' => h'.bay.engine.nextTransaction = nextId h.bay.engine.nextTransaction ∨
        12 + content.length ≤ 2 ^ 32 - 1 ∧
          h'.bay.engine.nextTransaction = nextId (nextId h.bay.engine.nextTransaction) := by
  obtain ⟨hname, hsize, ⟨slot, hactive, hfree⟩, hs⟩ := hannounced
  have hnamed : checkName name = .ok () := (checkName_cases name).elim (·.1) fun hbad => absurd hbad.2 hname
  have hsized : checkSize content = .ok (.ofNat content.length) := if_pos hsize
  have htarget := uploadTarget_of_free hactive hfree
  unfold writeNew
  refine leaves_bind (leaves_of_eq_ok (by rw [hnamed]; rfl) ?_)
  refine leaves_bind (leaves_of_eq_ok (by rw [hsized]; rfl) ?_)
  refine leaves_bind (leaves_state ?_)
  refine leaves_bind (leaves_of_eq_ok (by rw [htarget]; rfl) ?_)
  refine leaves_bind (leaves_call_of
    ((Engine.leaves_announceUpload_used _ parent _ hs).mono (fun handle e₁ hused => ?_)
    fun _ _ hused => .inl hused.next))
  by_cases hfits : 12 + content.length ≤ 2 ^ 32 - 1
  · have hs₁ : e₁.session ≠ none := by
      rw [hused.session]
      exact hs
    refine leaves_bind (leaves_call_of ((Engine.leaves_sendContent_used hs₁ hfits).mono (fun _ e₂ hused₂ => ?_)
      fun _ e₂ hused₂ => .inr ⟨hfits, ?_⟩))
    · refine leaves_bind (leaves_change (leaves_bind (leaves_read (leaves_ofFunction ⟨hfits, ?_⟩))))
      show e₂.nextTransaction = _
      rw [hused₂.next, hused.next]
    · show e₂.nextTransaction = _
      rw [hused₂.next, hused.next]
  · obtain ⟨error, hrefused⟩ := Engine.sendContent_of_overlong (Nat.lt_of_not_le hfits) e₁
    exact leaves_bind (leaves_call_of (leaves_of_eq_error hrefused (.inl hused.next)))

/-- A call to upload is refused and changes nothing just when the host can tell that the upload cannot be sent,
unless the content alone is at fault and its length is a word.  Then the upload is announced and the host refuses
to send the content: of an upload that was announced it refuses the content that fits no container, and no
other. -/
theorem refused_before_sending (name : String) (content : Bytes) (parent : UInt32) (h : Host τ) :
    ((∃ error, writeNew name content parent h = (.error error, h)) ↔
      Unsendable name content h ∧ ¬ Overlong name content h) ∧
    (Overlong name content h → (∃ error, (writeNew name content parent h).1 = .error error) ∧
      (writeNew name content parent h).2.bay.engine.nextTransaction = nextId h.bay.engine.nextTransaction) ∧
    ∀ {storage handle : UInt32} {info : ObjectInfo} {e e' : Engine τ},
      Engine.announceUpload storage parent info e = (.ok handle, e') →
        (refused (Engine.execute .sendObject [] (some content) e').1 = true ↔
          2 ^ 32 - 1 < 12 + content.length) := by
  refine ⟨?_, fun hover => ?_, fun hannounced => Engine.refused_sendObject_iff hannounced content⟩
  · rw [← not_announced_iff]
    refine ⟨?_, fun hno => writeNew_of_not_announced hno parent⟩
    rintro ⟨error, hrefused⟩ hannounced
    -- an announcement uses a transaction, so the host is not as it was
    rcases (leaves_writeNew_of_announced hannounced parent).2 error h hrefused with hnext | ⟨-, hnext⟩
    · exact nextId_ne _ hnext.symm
    · exact nextId_nextId_ne _ hnext.symm
  · have hleaves := leaves_writeNew_of_announced hover.toAnnounced parent
    have hlong := hover.container
    cases hw : writeNew name content parent h with
    | mk r h' =>
      cases r with
      | ok ref =>
        have hfits := (hleaves.1 ref h' hw).1
        omega
      | error error =>
        refine ⟨⟨error, rfl⟩, ?_⟩
        rcases hleaves.2 error h' hw with hnext | ⟨hfits, -⟩
        · exact hnext
        · omega

/-- A name that leads out of its folder, on a host that could send the content. -/
theorem refused_before_sending_dots :
    (Unsendable "../b.jpg" [1, 2, 3] Host.twoCards ∧ ¬ Overlong "../b.jpg" [1, 2, 3] Host.twoCards) ∧
      ∃ error, writeNew "../b.jpg" [1, 2, 3] 0 Host.twoCards = (.error error, Host.twoCards) := by
  have hname : BadName "../b.jpg" := .inr (.inr (.inr (.inl (by decide))))
  have hreason : Unsendable "../b.jpg" [1, 2, 3] Host.twoCards ∧ ¬ Overlong "../b.jpg" [1, 2, 3] Host.twoCards :=
    ⟨.name hname, fun hover => hover.name hname⟩
  exact ⟨hreason, (refused_before_sending "../b.jpg" [1, 2, 3] 0 Host.twoCards).1.mpr hreason⟩

/-- Content whose data container would be one byte too long, as long as a description tells: the camera is left
with an upload that the host refuses to finish. -/
theorem announced_and_not_sent :
    Operated (fun _ => True) Host.twoCards ∧ Unsendable "b.jpg" (List.replicate 4294967284 0) Host.twoCards ∧
      (writeNew "b.jpg" (List.replicate 4294967284 0) 0 Host.twoCards).2.bay.engine.link.pendingUpload.isSome =
        true ∧
      ¬ ∃ error, writeNew "b.jpg" (List.replicate 4294967284 0) 0 Host.twoCards =
        (.error error, Host.twoCards) := by
  have hlength : (List.replicate 4294967284 (0 : UInt8)).length = 4294967284 := List.length_replicate
  have hdeferred : (writeDeferred "b.jpg" _ _ 0 : Action (Host Camera) StorageError ObjectRef) = _ :=
    writeDeferred_eq "b.jpg" (fun _ => List.replicate 4294967284 0) 0
  rw [hlength] at hdeferred
  have hpending : (writeDeferred "b.jpg" 4294967284 (fun _ => List.replicate 4294967284 0) 0
      Host.twoCards).2.bay.engine.link.pendingUpload.isSome = true := by decide +kernel
  have hnone : Host.twoCards.bay.engine.link.pendingUpload.isSome = false := by decide +kernel
  rw [hdeferred] at hpending
  refine ⟨.twoCards, .container ?_, hpending, ?_⟩
  · rw [hlength]
    decide
  · rintro ⟨error, hrefused⟩
    rw [hrefused, hnone] at hpending
    cases hpending

end Host

end Tether
