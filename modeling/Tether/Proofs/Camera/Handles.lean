import Tether.Proofs.Camera.Performing
import Tether.Proofs.Camera.Tree
import Tether.Store.Metadata

/-!
# Tether.Proofs.Camera.Handles — a handle stands for one object

A camera gives its handles out in order, so as long as it has one left, nothing comes under a handle that stood
for something else (`Change.vouches`).  Under a handle there is an object, or an upload that was announced;
neither is ever given another name or put into another folder.
-/

namespace Tether.Camera

open Ptp Tether.Action

variable {c c' : Camera} {handle : UInt32}

/-! ## What a camera has under its handles -/

/-- The camera has an object under the handle, or an upload whose content is still to come. -/
inductive Knows (c : Camera) (handle : UInt32) : ObjectInfo → Prop
  | object {o : CameraObject} : c.objects.get? handle = some o → Knows c handle o.info
  | upload {p : PendingUpload} : c.pendingUpload = some p → p.handle = handle → Knows c handle p.info

/-- Handles were given out in order, each of them once. -/
structure Numbered (c : Camera) : Prop where
  lt : ∀ {handle info}, c.Knows handle info → handle < c.nextHandle
  free : ∀ {p}, c.pendingUpload = some p → c.objects.get? p.handle = none

/-- What may happen to the objects of a camera at once. -/
inductive Change (c : Camera) : Camera → Prop
  /-- Objects go, or are described otherwise, but for their names and folders; contents stay what they are. -/
  | fewer {c' : Camera} : (∀ {handle o'}, c'.objects.get? handle = some o' → ∃ o, c.objects.get? handle = some o ∧
      o'.info.filename = o.info.filename ∧ o'.info.parent = o.info.parent ∧ o'.data = o.data) →
      c'.pendingUpload = c.pendingUpload → c'.nextHandle = c.nextHandle → Change c c'
  /-- An object comes. -/
  | adds {c' : Camera} (o : CameraObject) : c'.objects = c.objects.insert c.nextHandle o →
      c'.pendingUpload = c.pendingUpload → c'.nextHandle = c.nextHandle + 1 → Change c c'
  /-- An upload begins. -/
  | announces {c' : Camera} (info : ObjectInfo) : c'.objects = c.objects →
      c'.pendingUpload = some ⟨c.nextHandle, info⟩ → c'.nextHandle = c.nextHandle + 1 → Change c c'
  /-- An upload ends. -/
  | completes {c' : Camera} (p : PendingUpload) (data : Bytes) : c.pendingUpload = some p →
      c'.objects = c.objects.insert p.handle ⟨p.info, data⟩ → c'.pendingUpload = none →
      c'.nextHandle = c.nextHandle → Change c c'

theorem change_of_same (hobjects : c'.objects = c.objects) (hpending : c'.pendingUpload = c.pendingUpload)
    (hnext : c'.nextHandle = c.nextHandle) : Change c c' := by
  refine .fewer (fun {handle o'} ho => ⟨o', ?_, rfl, rfl, rfl⟩) hpending hnext
  rw [← hobjects]
  exact ho

theorem Alike.change (h : c.Alike c') : Change c c' :=
  change_of_same h.objects h.pendingUpload h.nextHandle

/-- What is under a handle after a change was under it before, by its name and its folder, or the handle is the
next one. -/
theorem Change.knows (h : Change c c') {info' : ObjectInfo} (hknows : c'.Knows handle info') :
    (∃ info, c.Knows handle info ∧ info'.filename = info.filename ∧ info'.parent = info.parent) ∨
      handle = c.nextHandle ∧ c'.nextHandle = c.nextHandle + 1 := by
  cases h with
  | fewer hobjects hpending hnext =>
    cases hknows with
    | object ho' =>
      obtain ⟨o, ho, hname, hparent, -⟩ := hobjects ho'
      exact .inl ⟨o.info, .object ho, hname, hparent⟩
    | upload hp hh => exact .inl ⟨_, .upload (hpending ▸ hp) hh, rfl, rfl⟩
  | adds o hobjects hpending hnext =>
    cases hknows with
    | object ho' =>
      rw [hobjects, OrderedMap.get?_insert] at ho'
      split at ho'
      · rename_i hh
        exact .inr ⟨hh, hnext⟩
      · exact .inl ⟨_, .object ho', rfl, rfl⟩
    | upload hp hh => exact .inl ⟨_, .upload (hpending ▸ hp) hh, rfl, rfl⟩
  | announces info hobjects hpending hnext =>
    cases hknows with
    | object ho' => exact .inl ⟨_, .object (hobjects ▸ ho'), rfl, rfl⟩
    | upload hp hh =>
      rw [hpending] at hp
      cases hp
      exact .inr ⟨hh.symm, hnext⟩
  | completes p data hp hobjects hpending hnext =>
    cases hknows with
    | object ho' =>
      rw [hobjects, OrderedMap.get?_insert] at ho'
      split at ho'
      · rename_i hh
        cases ho'
        exact .inl ⟨_, .upload hp hh.symm, rfl, rfl⟩
      · exact .inl ⟨_, .object ho', rfl, rfl⟩
    | upload hp' hh =>
      rw [hpending] at hp'
      cases hp'

theorem Change.next (h : Change c c') : c'.nextHandle = c.nextHandle ∨ c'.nextHandle = c.nextHandle + 1 := by
  cases h with
  | fewer _ _ hnext | completes _ _ _ _ _ hnext => exact .inl hnext
  | adds _ _ _ hnext | announces _ _ _ hnext => exact .inr hnext

/-- The camera has a handle left, if one is given out from `c` to `c'`. -/
def Spares (c c' : Camera) : Prop :=
  c'.nextHandle = c.nextHandle ∨ c.nextHandle ≠ 0xFFFFFFFF

theorem lt_next (hspare : c.nextHandle ≠ 0xFFFFFFFF) : c.nextHandle < c.nextHandle + 1 := by
  have hlast : c.nextHandle.toNat ≠ 0xFFFFFFFF := fun h => hspare (UInt32.toNat_inj.mp h)
  have hlt := c.nextHandle.toNat_lt
  rw [UInt32.lt_iff_toNat_lt, UInt32.toNat_add, show (1 : UInt32).toNat = 1 from rfl]
  omega

theorem Change.le_next (h : Change c c') (hspare : c.Spares c') : c.nextHandle ≤ c'.nextHandle := by
  rcases h.next with hnext | hnext
  · rw [hnext]
    exact UInt32.le_refl _
  · rw [hnext]
    refine UInt32.le_of_lt (lt_next (hspare.resolve_left ?_))
    rw [hnext]
    simp

/-- What a camera has under its handles after a change comes before its next one. -/
theorem Change.lt_next (h : Change c c') (hlt : ∀ {handle info}, c.Knows handle info → handle < c.nextHandle)
    (hspare : c.Spares c') {info' : ObjectInfo} (hknows : c'.Knows handle info') : handle < c'.nextHandle := by
  rcases h.knows hknows with ⟨info, hknows', -⟩ | ⟨hh, hnext⟩
  · exact UInt32.lt_of_lt_of_le (hlt hknows') (h.le_next hspare)
  · rw [hh, hnext]
    refine Camera.lt_next (hspare.resolve_left ?_)
    rw [hnext]
    simp

/-- A change gives no handle out twice, as long as there is one left. -/
theorem Change.numbered (h : Change c c') (hc : c.Numbered) (hspare : c.Spares c') : c'.Numbered := by
  refine ⟨h.lt_next hc.lt hspare, fun {p} hp => Option.eq_none_iff_forall_ne_some.mpr fun o' ho' => ?_⟩
  cases h with
  | fewer hobjects hpending hnext =>
    obtain ⟨o, ho, -⟩ := hobjects ho'
    rw [hc.free (hpending ▸ hp)] at ho
    cases ho
  | adds o hobjects hpending hnext =>
    have hp' : c.pendingUpload = some p := hpending ▸ hp
    have hne : p.handle ≠ c.nextHandle := UInt32.ne_of_lt (hc.lt (.upload hp' rfl))
    rw [hobjects, OrderedMap.get?_insert, if_neg hne, hc.free hp'] at ho'
    cases ho'
  | announces info hobjects hpending hnext =>
    rw [hpending] at hp
    cases hp
    exact UInt32.lt_irrefl _ (hc.lt (.object (hobjects ▸ ho')))
  | completes p' data _ hobjects hpending hnext =>
    rw [hpending] at hp
    cases hp

/-! ## What an object was described as -/

/-- The description has the name and the folder of what a camera has, as far as a camera tells them. -/
def Agrees (m : ObjectMetadata) (info : ObjectInfo) : Prop :=
  Dataset.told m.name = Dataset.told info.filename ∧ folderOf m.parent = folderOf info.parent

/-- Under the handle of an object the camera has nothing but what the object was described as. -/
structure Vouches (c : Camera) (r : RemoteObject) : Prop where
  lt : r.handle < c.nextHandle
  agrees : ∀ {info}, c.Knows r.handle info → Agrees r.metadata info

theorem Change.vouches (h : Change c c') {r : RemoteObject} (hr : c.Vouches r)
    (hspare : c.Spares c') : c'.Vouches r := by
  refine ⟨UInt32.lt_of_lt_of_le hr.lt (h.le_next hspare), fun {info'} hknows => ?_⟩
  rcases h.knows hknows with ⟨info, hknows', hname, hparent⟩ | ⟨hh, -⟩
  · unfold Agrees
    rw [hname, hparent]
    exact hr.agrees hknows'
  · exact absurd hh (UInt32.ne_of_lt hr.lt)

/-! ## What an object contains -/

/-- Under the handle the camera has no other content, and none is still to come. -/
structure Bears (c : Camera) (handle : UInt32) (content : Bytes) : Prop where
  lt : handle < c.nextHandle
  data : ∀ {o}, c.objects.get? handle = some o → o.data = content
  settled : ∀ {p}, c.pendingUpload = some p → p.handle ≠ handle

/-- The content of an object is the only one under its handle. -/
theorem Numbered.bears (hc : c.Numbered) {o : CameraObject} (ho : c.objects.get? handle = some o) :
    c.Bears handle o.data where
  lt := hc.lt (.object ho)
  data ho' := by rw [Option.some.inj (ho'.symm.trans ho)]
  settled hp hh := by
    have hfree := hc.free hp
    rw [hh, ho] at hfree
    cases hfree

/-- No other content ever comes under the handle. -/
theorem Change.bears (h : Change c c') {content : Bytes} (hb : c.Bears handle content) (hspare : c.Spares c') :
    c'.Bears handle content := by
  have hlt := UInt32.lt_of_lt_of_le hb.lt (h.le_next hspare)
  have hnew : handle ≠ c.nextHandle := UInt32.ne_of_lt hb.lt
  cases h with
  | fewer hobjects hpending hnext =>
    refine ⟨hlt, fun ho' => ?_, fun hp => hb.settled (hpending ▸ hp)⟩
    obtain ⟨o, ho, -, -, hdata⟩ := hobjects ho'
    exact hdata.trans (hb.data ho)
  | adds o hobjects hpending hnext =>
    refine ⟨hlt, fun ho' => ?_, fun hp => hb.settled (hpending ▸ hp)⟩
    rw [hobjects, OrderedMap.get?_insert, if_neg hnew] at ho'
    exact hb.data ho'
  | announces info hobjects hpending hnext =>
    refine ⟨hlt, fun ho' => hb.data (hobjects ▸ ho'), fun hp => ?_⟩
    rw [hpending] at hp
    cases hp
    exact hnew.symm
  | completes p data hp hobjects hpending hnext =>
    refine ⟨hlt, fun ho' => ?_, fun hp' => ?_⟩
    · rw [hobjects, OrderedMap.get?_insert, if_neg (hb.settled hp).symm] at ho'
      exact hb.data ho'
    · rw [hpending] at hp'
      cases hp'

/-! ## What operations change -/

theorem Pruned.change {top : UInt32} (h : Pruned c.objects top c'.objects)
    (hpending : c'.pendingUpload = c.pendingUpload) (hnext : c'.nextHandle = c.nextHandle) : Change c c' :=
  .fewer (fun ho => ⟨_, h.sub ho, rfl, rfl, rfl⟩) hpending hnext

/-- Carried out or refused, a deletion takes nothing away but the object and what is below it. -/
theorem pruned_delete (handle : UInt32) (c : Camera) : Pruned c.objects handle (delete handle c).2.objects := by
  rcases delete_cases handle c with h | ⟨o, -, h⟩
  · rw [h]
    exact .refl _ _
  · rw [h]
    exact pruned_removeTree handle c.objects

theorem change_delete (handle : UInt32) (c : Camera) : Change c (delete handle c).2 := by
  rcases delete_cases handle c with h | ⟨o, -, h⟩
  · rw [h]
    exact change_of_same rfl rfl rfl
  · rw [h]
    have hpruned : Pruned c.objects handle (c.deleted handle o).objects := pruned_removeTree handle c.objects
    exact hpruned.change rfl rfl

theorem change_beginUpload (storage parent : UInt32) (data : Option Bytes) (c : Camera) :
    Change c (beginUpload storage parent data c).2 := by
  rcases beginUpload_cases storage parent data c with h | ⟨info, -, h | h⟩
  · rw [h]
    exact change_of_same rfl rfl rfl
  · rw [h]
    exact .adds _ rfl rfl rfl
  · rw [h]
    exact .announces _ rfl rfl rfl

theorem change_finishUpload (data : Option Bytes) (c : Camera) : Change c (finishUpload data c).2 := by
  unfold finishUpload
  split
  · exact change_of_same rfl rfl rfl
  · rename_i p hp
    exact .completes p (data.getD []) hp rfl rfl rfl

theorem change_format (storage : UInt32) (c : Camera) : Change c (format storage c).2 := by
  have hsame : Change c c := change_of_same rfl rfl rfl
  refine Leaves.state (P := Change c) ?_
  unfold format
  refine leaves_bind ((watching_checkStorage _).leaves (fun _ _ => ?_) fun _ => hsame)
  refine leaves_bind ((watching_checkWritable _).leaves (fun _ _ => ?_) fun _ => hsame)
  refine leaves_bind (leaves_change (leaves_pure (.fewer (fun {handle o'} ho => ⟨o', ?_, rfl, rfl, rfl⟩) rfl rfl)))
  rw [OrderedMap.get?_filter, Option.filter_eq_some_iff] at ho
  exact ho.1

theorem change_performInSession (operation : Operation) (parameters : List UInt32) (data : Option Bytes)
    (c : Camera) :
    Change c (performInSession operation parameters data c).2 := by
  have hasks : ∀ {operation}, Asks operation → Change c (performInSession operation parameters data c).2 := by
    intro operation h
    rw [(watching_performInSession h parameters data c).1]
    exact change_of_same rfl rfl rfl
  cases operation with
  | closeSession => exact change_of_same rfl rfl rfl
  | getStorageIds | getStorageInfo | getNumObjects | getObjectHandles | getObjectInfo | getObject
  | getPartialObject =>
    exact hasks trivial
  | deleteObject => exact change_delete _ c
  | sendObjectInfo => exact change_beginUpload _ _ data c
  | sendObject => exact change_finishUpload data c
  | formatStore => exact change_format _ c
  | _ => exact change_of_same rfl rfl rfl

/-- Operations change the objects of a camera in one of four ways. -/
theorem change_perform (operation : Operation) (parameters : List UInt32) (data : Option Bytes) (c : Camera) :
    Change c (perform operation parameters data c).2 := by
  have hsession : Change c (if c.sessionOpen then performInSession operation parameters data c
      else (.error .sessionNotOpen, c)).2 := by
    split
    · exact change_performInSession operation parameters data c
    · exact change_of_same rfl rfl rfl
  cases operation with
  | getDeviceInfo => exact change_of_same rfl rfl rfl
  | openSession =>
    show Change c (openSession _ c).2
    unfold openSession
    split
    · exact change_of_same rfl rfl rfl
    · split <;> exact change_of_same rfl rfl rfl
  | _ => exact hsession

/-- Only the announcement of an upload takes a handle. -/
theorem keeps_nextHandle {operation : Operation} (h : operation ≠ .sendObjectInfo) (parameters : List UInt32)
    (data : Option Bytes) (n : UInt32) : (perform operation parameters data).Keeps fun c => c.nextHandle = n := by
  have hwatch : ∀ {α : Type} {x : Step α}, Watching x → x.Keeps fun c => c.nextHandle = n := by
    intro α x hx c hc
    rw [(hx c).1]
    exact hc
  have hasks : ∀ {operation}, Asks operation →
      Keeps (fun c => c.nextHandle = n) (performInSession operation parameters data) :=
    fun h => hwatch (watching_performInSession h parameters data)
  have hsession : Keeps (fun c => c.nextHandle = n) (performInSession operation parameters data) := by
    cases operation with
    | closeSession => exact fun c hc => hc
    | getStorageIds | getStorageInfo | getNumObjects | getObjectHandles | getObjectInfo | getObject
    | getPartialObject =>
      exact hasks trivial
    | deleteObject =>
      intro c hc
      show (delete _ c).2.nextHandle = n
      rcases delete_cases (parameter parameters 0) c with hd | ⟨o, -, hd⟩
      · rw [hd]
        exact hc
      · rw [hd]
        exact hc
    | sendObject =>
      intro c hc
      show (finishUpload data c).2.nextHandle = n
      unfold finishUpload
      split <;> exact hc
    | formatStore =>
      refine keeps_bind (hwatch (watching_checkStorage _)) fun _ =>
        keeps_bind (hwatch (watching_checkWritable _)) fun _ => ?_
      exact keeps_bind (keeps_change fun c hc => hc) fun _ => keeps_pure _
    | sendObjectInfo => exact absurd rfl h
    | _ => exact keeps_fail _
  cases operation with
  | getDeviceInfo => exact fun c hc => hc
  | openSession =>
    intro c hc
    show (openSession _ c).2.nextHandle = n
    unfold openSession
    split
    · exact hc
    · split <;> exact hc
  | _ =>
    intro c hc
    dsimp only [perform]
    split
    · exact hsession c hc
    · exact hc

end Tether.Camera
