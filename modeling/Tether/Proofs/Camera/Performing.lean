import Tether.Proofs.Camera.Serving
import Tether.Proofs.OrderedMap
import Tether.Proofs.Ptp.Records

/-!
# Tether.Proofs.Camera.Performing — what an operation answers and what it leaves

An operation checks first and changes something then, so one that is refused leaves the camera as it was
(`refusing_perform`), and a call that fails leaves what the camera holds (`leaves_executeOk`).  Of each operation
of a file system it is said what it answers, and why it is refused.
-/

namespace Tether

open Ptp Tether.Action

/-- The description of an object as a camera tells it. -/
def CameraObject.described (o : CameraObject) : ObjectInfo :=
  { o.info with compressedSize := UInt32.ofNat o.data.length }

/-- No name is that of a folder. -/
theorem FileType.detect_ne_folder (name : String) : FileType.detect name ≠ .folder := by
  unfold FileType.detect FileType.ofExtension
  split
  · split <;> decide
  · decide

/-- Files that are uploaded are no folders, whatever they are called. -/
theorem Ptp.ObjectInfo.isFolder_upload (storage parent : UInt32) (name : String) (size : UInt32)
    (date : Option Calendar.Instant) :
    ObjectInfo.isFolder (ObjectInfo.told
      { ObjectInfo.forUpload storage parent name (FileType.detect name).objectFormat size with
        captureDate := date, modificationDate := date }) = false := by
  have hne := FileType.detect_ne_folder name
  show decide (ObjectFormat.ofCode (FileType.detect name).objectFormat.code = .association) = false
  cases h : FileType.detect name with
  | folder => exact absurd h hne
  | _ => decide

namespace Camera

/-! ## Refusals -/

/-- The host does not take the code for success. -/
def Refuses (code : ResponseCode) : Prop :=
  (ResponseCode.ofCode code.code).isOk = false

instance (code : ResponseCode) : Decidable (Refuses code) :=
  inferInstanceAs (Decidable (_ = false))

/-- The step changes nothing, and may refuse. -/
def Watching {α : Type} (x : Step α) : Prop :=
  ∀ c, (x c).2 = c ∧ ∀ code, (x c).1 = .error code → Refuses code

/-- The step changes nothing when it refuses. -/
def Refusing {α : Type} (x : Step α) : Prop :=
  ∀ c code c', x c = (.error code, c') → c' = c ∧ Refuses code

section Refusing

variable {α β : Type} {x y : Step α}

/-- A step that changes nothing leaves what there was. -/
theorem Watching.leaves {c : Camera} {Q : α → Camera → Prop} {E : ResponseCode → Camera → Prop} (h : Watching x)
    (hQ : ∀ a, x c = (.ok a, c) → Q a c) (hE : ∀ code, E code c) : x.Leaves c Q E := by
  have hc := (h c).1
  cases hx : x c with
  | mk r c' =>
    rw [hx] at hc
    obtain rfl : c' = c := hc
    cases r with
    | ok a => exact leaves_of_eq_ok hx (hQ a hx)
    | error code => exact leaves_of_eq_error hx (hE code)

theorem Watching.refusing (h : Watching x) : Refusing x := by
  intro c code c' hx
  have hc := h c
  rw [hx] at hc
  exact ⟨hc.1, hc.2 code rfl⟩

theorem watching_pure (a : α) : Watching (pure a) :=
  fun _ => ⟨rfl, fun _ h => by cases h⟩

theorem watching_fail {code : ResponseCode} (h : Refuses code) : Watching (Action.fail code : Step α) := by
  refine fun _ => ⟨rfl, fun code' h' => ?_⟩
  cases h'
  exact h

theorem watching_state : Watching Action.state :=
  fun _ => ⟨rfl, fun _ h => by cases h⟩

theorem watching_ofOption {code : ResponseCode} (h : Refuses code) (o : Option α) :
    Watching (Action.ofOption code o) := by
  cases o with
  | none => exact watching_fail h
  | some a => exact watching_pure a

theorem watching_checkStorage (id : UInt32) : Watching (checkStorage id) := by
  intro c
  unfold checkStorage
  split
  · exact watching_pure () c
  · exact watching_fail (by decide) c

theorem watching_checkWritable (id : UInt32) : Watching (checkWritable id) := by
  intro c
  unfold checkWritable
  split
  · split
    · exact watching_fail (by decide) c
    · exact watching_pure () c
  · exact watching_fail (by decide) c

theorem watching_findObject (handle : UInt32) : Watching (findObject handle) := by
  intro c
  unfold findObject
  split
  · exact watching_pure _ c
  · exact watching_fail (by decide) c

theorem watching_ite {p : Prop} [Decidable p] (hx : Watching x) (hy : Watching y) :
    Watching (if p then x else y) := by
  split
  · exact hx
  · exact hy

theorem watching_bind {f : α → Step β} (hx : Watching x) (hf : ∀ a, Watching (f a)) : Watching (x >>= f) := by
  intro c
  have hc := hx c
  rw [bind_apply]
  cases hr : x c with
  | mk r c₁ =>
    rw [hr] at hc
    obtain rfl : c₁ = c := hc.1
    cases r with
    | ok a => exact hf a c₁
    | error code =>
      refine ⟨rfl, fun code' h' => ?_⟩
      cases h'
      exact hc.2 _ rfl

theorem refusing_ite {p : Prop} [Decidable p] (hx : Refusing x) (hy : Refusing y) :
    Refusing (if p then x else y) := by
  split
  · exact hx
  · exact hy

/-- What comes behind a step that changes nothing decides. -/
theorem refusing_bind {f : α → Step β} (hx : Watching x) (hf : ∀ a, Refusing (f a)) : Refusing (x >>= f) := by
  intro c code c' h
  have hc := hx c
  rw [bind_apply] at h
  cases hr : x c with
  | mk r c₁ =>
    rw [hr] at h hc
    obtain rfl : c₁ = c := hc.1
    cases r with
    | ok a => exact hf a c₁ code c' h
    | error code' =>
      cases h
      exact ⟨rfl, hc.2 _ rfl⟩

/-- A change is not refused. -/
theorem refusing_change (f : Camera → Camera) (a : α) :
    Refusing (Action.change f >>= fun _ => pure a : Step α) := by
  intro c code c' h
  cases h

/-- The operations that only ask. -/
def Asks : Operation → Prop
  | .getStorageIds | .getStorageInfo | .getNumObjects | .getObjectHandles | .getObjectInfo | .getObject
  | .getPartialObject => True
  | _ => False

theorem watching_performInSession {operation : Operation} (h : Asks operation) (parameters : List UInt32)
    (data : Option Bytes) : Watching (performInSession operation parameters data) := by
  cases operation with
  | getStorageIds => exact fun c => ⟨rfl, fun _ h => by cases h⟩
  | getStorageInfo =>
    intro c
    unfold performInSession
    dsimp only
    split
    · exact watching_pure _ c
    · exact watching_fail (by decide) c
  | getNumObjects =>
    exact watching_bind (watching_checkStorage _) fun _ => watching_bind watching_state fun c => watching_pure _
  | getObjectHandles =>
    refine watching_bind (watching_checkStorage _) fun _ => watching_bind watching_state fun c => ?_
    exact watching_ite (watching_fail (by decide)) (watching_pure _)
  | getObjectInfo => exact watching_bind (watching_findObject _) fun o => watching_pure _
  | getObject => exact watching_bind (watching_findObject _) fun o => watching_pure _
  | getPartialObject => exact watching_bind (watching_findObject _) fun o => watching_pure _
  | _ => exact h.elim

theorem refusing_performInSession (operation : Operation) (parameters : List UInt32) (data : Option Bytes) :
    Refusing (performInSession operation parameters data) := by
  cases operation with
  | closeSession =>
    intro c code c' h
    cases h
  | getStorageIds | getStorageInfo | getNumObjects | getObjectHandles | getObjectInfo | getObject
  | getPartialObject =>
    all_goals
      refine Watching.refusing (watching_performInSession ?_ parameters data)
      trivial
  | deleteObject =>
    refine refusing_bind (watching_findObject _) fun o => refusing_ite (watching_fail (by decide)).refusing ?_
    exact refusing_bind (watching_checkWritable _) fun _ => refusing_change _ _
  | sendObjectInfo =>
    refine refusing_bind (watching_ofOption (by decide) _) fun payload => ?_
    dsimp only
    split
    · refine refusing_bind (watching_pure _) fun info => refusing_bind (watching_checkStorage _) fun _ => ?_
      refine refusing_bind (watching_checkWritable _) fun _ => refusing_bind watching_state fun c => ?_
      refine refusing_ite (watching_fail (by decide)).refusing ?_
      exact refusing_ite (watching_fail (by decide)).refusing (refusing_change _ _)
    · have hfail : Watching (fail .noValidObjectInfo : Step Reply) := watching_fail (by decide)
      exact hfail.refusing
  | sendObject =>
    intro c code c' h
    unfold performInSession finishUpload at h
    dsimp only at h
    split at h
    · exact (watching_fail (by decide)).refusing c code c' h
    · cases h
  | formatStore =>
    refine refusing_bind (watching_checkStorage _) fun _ => refusing_bind (watching_checkWritable _) fun _ => ?_
    exact refusing_change _ _
  | _ => exact (watching_fail (by decide)).refusing

/-- A refused operation leaves the camera as it was, and the host sees that it was refused. -/
theorem refusing_perform (operation : Operation) (parameters : List UInt32) (data : Option Bytes) :
    Refusing (perform operation parameters data) := by
  have hsession : Refusing fun c : Camera =>
      if c.sessionOpen then performInSession operation parameters data c else (.error .sessionNotOpen, c) := by
    intro c code c' h
    dsimp only at h
    split at h
    · exact refusing_performInSession operation parameters data c code c' h
    · exact (watching_fail (by decide)).refusing c code c' h
  cases operation with
  | getDeviceInfo =>
    intro c code c' h
    cases h
  | openSession =>
    intro c code c' h
    unfold perform openSession at h
    dsimp only at h
    split at h
    · exact (watching_fail (by decide)).refusing c code c' h
    · split at h
      · exact (watching_fail (by decide)).refusing c code c' h
      · cases h
  | _ => exact hsession

end Refusing

/-! ## The operations of a file system -/

variable {c c' : Camera}

/-- Only the opening of a session and the description of the camera are carried out without a session. -/
theorem perform_eq {operation : Operation} (hinfo : operation ≠ .getDeviceInfo) (hopen : operation ≠ .openSession)
    (parameters : List UInt32) (data : Option Bytes) (c : Camera) :
    perform operation parameters data c =
      if c.sessionOpen then performInSession operation parameters data c else (.error .sessionNotOpen, c) := by
  cases operation with
  | getDeviceInfo => exact absurd rfl hinfo
  | openSession => exact absurd rfl hopen
  | _ => rfl

/-- The handles that a camera lists: of the objects on a storage that are in a folder. -/
def listing (objects : Objects) (storage parent : UInt32) : List UInt32 :=
  (objects.filter fun _ o =>
    liesOn storage o && (parent = 0 || o.info.parent = if parent = wireRoot then 0 else parent)).keys

/-- An object lies on its storage. -/
theorem liesOn_self (o : CameraObject) : liesOn o.info.storageId o = true := by
  simp [liesOn]

/-- Handles for which a container has room, behind its header and their number. -/
def maxListing : Nat :=
  (maxWord - headerLength - 4) / 4

/-- The storage is there, or all are meant. -/
def HasStorage (c : Camera) (storage : UInt32) : Prop :=
  storage = allStorages ∨ c.storages.contains storage = true

/-- The folder is there, or the root is meant, or no folder. -/
def HasFolder (c : Camera) (parent : UInt32) : Prop :=
  parent = 0 ∨ parent = wireRoot ∨ c.objects.contains parent = true

/-- The storage is there and can be written. -/
def CanWrite (c : Camera) (storage : UInt32) : Prop :=
  ∃ s, c.storages.get? storage = some s ∧ s.isReadOnly = false

theorem checkStorage_of_has {storage : UInt32} (h : c.HasStorage storage) : checkStorage storage c = (.ok (), c) :=
  if_pos h

theorem checkWritable_of_can {storage : UInt32} (h : c.CanWrite storage) :
    checkWritable storage c = (.ok (), c) := by
  obtain ⟨s, hs, hwritable⟩ := h
  unfold checkWritable
  rw [hs]
  simp [hwritable]

theorem canWrite_of_checkWritable {storage : UInt32} (h : checkWritable storage c = (.ok (), c)) :
    c.CanWrite storage := by
  unfold checkWritable at h
  cases hs : c.storages.get? storage with
  | none =>
    rw [hs] at h
    cases h
  | some s =>
    refine ⟨s, hs, ?_⟩
    rw [hs] at h
    dsimp only at h
    split at h
    · cases h
    · rename_i hwritable
      simpa using hwritable

theorem findObject_of_get? {handle : UInt32} {o : CameraObject} (h : c.objects.get? handle = some o) :
    findObject handle c = (.ok o, c) := by
  unfold findObject
  rw [h]

theorem findObject_of_none {handle : UInt32} (h : c.objects.get? handle = none) :
    findObject handle c = (.error .invalidObjectHandle, c) := by
  unfold findObject
  rw [h]

/-- Handles are listed of a storage that is there and a folder that is there, and of no others. -/
theorem leaves_listHandles (storage parent : UInt32) (c : Camera) : (listHandles storage parent).Leaves c
    (fun reply _ => c.HasStorage storage ∧ c.HasFolder parent ∧
      reply = { data := some (Dataset.ofU32List (listing c.objects storage parent)) })
    fun _ _ => ¬ (c.HasStorage storage ∧ c.HasFolder parent) := by
  unfold listHandles
  by_cases hstorage : c.HasStorage storage
  · refine leaves_bind (leaves_of_eq_ok (checkStorage_of_has hstorage) (leaves_bind (leaves_state ?_)))
    split
    · rename_i hnone
      refine leaves_fail fun h => ?_
      rcases h.2 with hzero | hroot | hfolder
      · exact hnone.1 hzero
      · exact hnone.2.1 hroot
      · exact hnone.2.2 hfolder
    · rename_i hsome
      refine leaves_pure ⟨hstorage, ?_, rfl⟩
      unfold HasFolder
      tauto
  · refine leaves_bind (leaves_of_eq_error (if_neg hstorage) fun h => hstorage h.1)

theorem leaves_findObject (handle : UInt32) (c : Camera) : (findObject handle).Leaves c
    (fun o c' => c' = c ∧ c.objects.get? handle = some o) fun _ _ => c.objects.get? handle = none := by
  cases ho : c.objects.get? handle with
  | none => exact leaves_of_eq_error (findObject_of_none ho) rfl
  | some o => exact leaves_of_eq_ok (findObject_of_get? ho) ⟨rfl, rfl⟩

theorem leaves_describe (handle : UInt32) (c : Camera) : (describe handle).Leaves c
    (fun reply _ => ∃ o, c.objects.get? handle = some o ∧ reply = { data := some o.described.encode })
    fun _ _ => c.objects.get? handle = none := by
  refine leaves_bind ((leaves_findObject handle c).mono ?_ fun _ _ he => he)
  rintro o c' ⟨-, ho⟩
  exact leaves_pure ⟨o, ho, rfl⟩

theorem leaves_readPart (handle offset length : UInt32) (c : Camera) : (readPart handle offset length).Leaves c
    (fun reply _ => ∃ o, c.objects.get? handle = some o ∧
      reply.data = some ((o.data.drop offset.toNat).take length.toNat))
    fun _ _ => c.objects.get? handle = none := by
  refine leaves_bind ((leaves_findObject handle c).mono ?_ fun _ _ he => he)
  rintro o c' ⟨-, ho⟩
  exact leaves_pure ⟨o, ho, rfl⟩

/-- The camera after an object was deleted with everything below it. -/
def deleted (c : Camera) (handle : UInt32) (o : CameraObject) : Camera :=
  { c with
    objects := (removeTree handle c.objects).2
    storages := c.storages.adjust o.info.storageId fun s =>
      { s with freeSpaceBytes :=
        UInt64.ofNat (min (s.freeSpaceBytes.toNat + (removeTree handle c.objects).1) s.maxCapacity.toNat) } }

/-- An object is deleted unless it is protected, or its storage cannot be written. -/
theorem leaves_delete (handle : UInt32) (c : Camera) : (delete handle).Leaves c
    (fun _ c' => ∃ o, c.objects.get? handle = some o ∧ c' = c.deleted handle o)
    fun _ c' => c' = c ∧
      ¬ ∃ o, c.objects.get? handle = some o ∧ o.info.protectionStatus = 0 ∧ c.CanWrite o.info.storageId := by
  unfold delete
  cases ho : c.objects.get? handle with
  | none =>
    refine leaves_bind (leaves_of_eq_error (findObject_of_none ho) ⟨rfl, ?_⟩)
    rintro ⟨o, h, -⟩
    cases h
  | some o =>
    refine leaves_bind (leaves_of_eq_ok (findObject_of_get? ho) ?_)
    split
    · rename_i hprotected
      refine leaves_fail ⟨rfl, ?_⟩
      rintro ⟨o', h, hfree, -⟩
      cases h
      exact hprotected hfree
    · by_cases hwrite : c.CanWrite o.info.storageId
      · refine leaves_bind (leaves_of_eq_ok (checkWritable_of_can hwrite) ?_)
        exact leaves_bind (leaves_change (leaves_pure ⟨o, rfl, rfl⟩))
      · refine leaves_bind ((watching_checkWritable _).leaves
          (fun _ hcheck => absurd (canWrite_of_checkWritable hcheck) hwrite) fun code => ⟨rfl, ?_⟩)
        rintro ⟨o', h, -, hcan⟩
        cases h
        exact hwrite hcan

/-- A deletion is refused, or removes the object and everything below it. -/
theorem delete_cases (handle : UInt32) (c : Camera) :
    (delete handle c).2 = c ∨ ∃ o, c.objects.get? handle = some o ∧ (delete handle c).2 = c.deleted handle o :=
  Leaves.state (P := fun c' => c' = c ∨ ∃ o, c.objects.get? handle = some o ∧ c' = c.deleted handle o)
    ((leaves_delete handle c).mono (fun _ _ h => .inr h) fun _ _ h => .inl h.1)

/-! ## Uploads -/

/-- The folder that a parent on the wire stands for. -/
def folderOf (parent : UInt32) : UInt32 :=
  if parent = wireRoot then 0 else parent

theorem folderOf_of_ne {parent : UInt32} (h : parent ≠ wireRoot) : folderOf parent = parent :=
  if_neg h

theorem folderOf_folderOf (parent : UInt32) : folderOf (folderOf parent) = folderOf parent := by
  by_cases h : parent = wireRoot
  · rw [h]
    rfl
  · rw [folderOf_of_ne h, folderOf_of_ne h]

/-- The root and a folder on the wire are themselves. -/
theorem folderOf_wireParent (parent : UInt32) : folderOf (Engine.wireParent parent) = folderOf parent := by
  by_cases h : parent = 0
  · rw [h]
    rfl
  · unfold Engine.wireParent
    rw [if_neg h]

/-- The objects of a folder, or of the root, are listed, on one storage or on all. -/
theorem mem_listing_iff {objects : Objects} {storage parent handle : UInt32} :
    handle ∈ listing objects storage (Engine.wireParent parent) ↔
      ∃ o, objects.get? handle = some o ∧ liesOn storage o = true ∧ o.info.parent = folderOf parent := by
  have hwire : Engine.wireParent parent ≠ 0 := by
    unfold Engine.wireParent
    split
    · decide
    · assumption
  have hfolder : (if Engine.wireParent parent = wireRoot then 0 else Engine.wireParent parent) = folderOf parent :=
    folderOf_wireParent parent
  simp [listing, OrderedMap.mem_keys_iff, OrderedMap.get?_filter, Option.filter_eq_some_iff, hwire, hfolder]

/-- An announcement is refused, or takes the next handle for something in the root or in a folder that is there:
for a folder, which is there at once, or for an upload. -/
theorem beginUpload_cases (storage parent : UInt32) (data : Option Bytes) (c : Camera) :
    (beginUpload storage parent data c).2 = c ∨
    ∃ info : ObjectInfo, (info.parent = 0 ∨ ∃ o, c.objects.get? info.parent = some o) ∧
      ((beginUpload storage parent data c).2 =
        { c with nextHandle := c.nextHandle + 1, objects := c.objects.insert c.nextHandle ⟨info, []⟩ } ∨
      (beginUpload storage parent data c).2 =
        { c with nextHandle := c.nextHandle + 1, pendingUpload := some ⟨c.nextHandle, info⟩ }) := by
  refine Leaves.state (P := fun c' => c' = c ∨
    ∃ info : ObjectInfo, (info.parent = 0 ∨ ∃ o, c.objects.get? info.parent = some o) ∧
      (c' = { c with nextHandle := c.nextHandle + 1, objects := c.objects.insert c.nextHandle ⟨info, []⟩ } ∨
      c' = { c with nextHandle := c.nextHandle + 1, pendingUpload := some ⟨c.nextHandle, info⟩ })) ?_
  unfold beginUpload
  refine leaves_bind ((watching_ofOption (by decide) _).leaves (fun payload _ => ?_) fun _ => .inl rfl)
  dsimp only
  split
  · refine leaves_bind (leaves_pure ?_)
    refine leaves_bind ((watching_checkStorage _).leaves (fun _ _ => ?_) fun _ => .inl rfl)
    refine leaves_bind ((watching_checkWritable _).leaves (fun _ _ => ?_) fun _ => .inl rfl)
    refine leaves_bind (leaves_state ?_)
    generalize (if parent = wireRoot then 0 else parent) = folder
    split
    · exact leaves_fail (.inl rfl)
    · rename_i hfolder
      have hplace : folder = 0 ∨ ∃ o, c.objects.get? folder = some o := by
        by_cases hzero : folder = 0
        · exact .inl hzero
        · have hany := Decidable.not_not.mp fun h => hfolder ⟨hzero, h⟩
          obtain ⟨o, ho, -⟩ := (Option.any_eq_true _ _).mp hany
          exact .inr ⟨o, ho⟩
      split
      · exact leaves_fail (.inl rfl)
      · refine leaves_bind (leaves_change (leaves_pure (.inr ?_)))
        -- a folder is there at once
        split
        · refine ⟨_, ?_, .inl rfl⟩
          exact hplace
        · refine ⟨_, ?_, .inr rfl⟩
          exact hplace
  · exact leaves_bind (leaves_fail (.inl rfl))

/-- The description of the object that an upload makes. -/
def received (c : Camera) (storage parent : UInt32) (info : ObjectInfo) : ObjectInfo :=
  { info.told with
    storageId := storage
    parent := folderOf parent
    modificationDate := some (info.told.modificationDate.getD c.clock.wholeSecond) }

/-- The camera that waits for the content of an upload. -/
def announced (c : Camera) (storage parent : UInt32) (info : ObjectInfo) : Camera :=
  { c with
    nextHandle := c.nextHandle + 1
    pendingUpload := some ⟨c.nextHandle, c.received storage parent info⟩ }

/-- An upload of a file is refused, or the camera is ready for its content: the storage can be written, and the
folder is one or the root. -/
theorem leaves_beginUpload (c : Camera) (storage parent : UInt32) {info : ObjectInfo}
    (hfile : info.told.isFolder = false) :
    (beginUpload storage parent (some info.encode)).Leaves c
      (fun reply c' => c.CanWrite storage ∧
        (folderOf parent ≠ 0 → ∃ o, c.objects.get? (folderOf parent) = some o ∧ o.info.isFolder = true) ∧
        reply = { parameters := [storage, folderOf parent, c.nextHandle] } ∧ c' = c.announced storage parent info)
      fun _ c' => c' = c := by
  unfold beginUpload
  refine leaves_bind (leaves_of_eq_ok rfl ?_)
  dsimp only
  rw [ObjectInfo.parse_encode]
  refine leaves_bind (leaves_of_eq_ok rfl ?_)
  refine leaves_bind ((watching_checkStorage storage).leaves (fun _ _ => ?_) fun _ => rfl)
  refine leaves_bind ((watching_checkWritable storage).leaves (fun _ hwritable => ?_) fun _ => rfl)
  refine leaves_bind (leaves_state ?_)
  have hparent : (if parent = wireRoot then 0 else parent) = folderOf parent := rfl
  simp only [hparent]
  split
  · exact leaves_fail rfl
  · rename_i hfolder
    split
    · exact leaves_fail rfl
    · refine leaves_bind (leaves_change (leaves_pure ⟨canWrite_of_checkWritable hwritable,
        fun hne => ?_, rfl, ?_⟩))
      · rw [not_and, Decidable.not_not, Option.any_eq_true] at hfolder
        exact hfolder hne
      · exact if_neg (fun hfolder => absurd (hfolder.symm.trans hfile) (by decide))

end Camera

/-! ## Calls that have to succeed -/

/-- What a container brings of some data: all, or nothing when they are too long for one. -/
def fitting (data : Bytes) : Bytes :=
  if headerLength + data.length ≤ maxWord then data else []

theorem length_fitting_le (data : Bytes) : (fitting data).length ≤ data.length := by
  unfold fitting
  split
  · exact Nat.le_refl _
  · exact Nat.zero_le _

theorem fitting_of_le {data : Bytes} (h : headerLength + data.length ≤ maxWord) : fitting data = data :=
  if_pos h

/-- An answer has the data of the camera if they fit a container. -/
theorem Response.data_ofAnswer (operation : Operation) (transaction : UInt32) (reply : Camera.Reply) :
    (Response.ofAnswer operation transaction (.ok reply)).data =
      reply.data.filter fun payload => headerLength + payload.length ≤ maxWord :=
  rfl

theorem fitting_eq_getD (data : Bytes) :
    ((some data).filter fun payload => headerLength + payload.length ≤ maxWord).getD [] = fitting data := by
  rw [Option.filter_some]
  unfold fitting
  simp only [decide_eq_true_eq]
  split <;> rfl

/-- The data of an answer are those that the camera has, if they fit a container. -/
theorem Response.expectData_eq_ok_iff {operation : Operation} {transaction : UInt32} {reply : Camera.Reply}
    {bytes : Bytes} :
    (Response.ofAnswer operation transaction (.ok reply)).expectData = .ok bytes ↔
      reply.data = some bytes ∧ headerLength + bytes.length ≤ maxWord := by
  have hexpect : (Response.ofAnswer operation transaction (.ok reply)).expectData = .ok bytes ↔
      (Response.ofAnswer operation transaction (.ok reply)).data = some bytes := by
    unfold Response.expectData
    cases (Response.ofAnswer operation transaction (.ok reply)).data <;> simp
  rw [hexpect, data_ofAnswer, Option.filter_eq_some_iff, decide_eq_true_iff]

namespace Engine

variable {operation : Operation} {parameters : List UInt32} {payload : Option Bytes} {e : Engine Camera}

/-- How a call comes to be answered with `ok` at a camera that holds what `c` does. -/
inductive Obeyed (operation : Operation) (transaction : UInt32) (parameters : List UInt32) (payload : Option Bytes)
    (c : Camera) : Response → Camera → Prop
  /-- An armed fault answered that all is well. -/
  | pretended {c' : Camera} {response : Response} : response.parameters = [] → response.data = none → c.Alike c' →
      Obeyed operation transaction parameters payload c response c'
  /-- The camera carried it out. -/
  | performed {c₁ c₂ c' : Camera} {reply : Camera.Reply} : c.Alike c₁ →
      Camera.perform (.ofCode operation.code) parameters payload c₁ = (.ok reply, c₂) → c₂.Alike c' →
      Obeyed operation transaction parameters payload c (.ofAnswer operation transaction (.ok reply)) c'

theorem executeOk_eq (operation : Operation) (parameters : List UInt32) (payload : Option Bytes)
    (e : Engine Camera) :
    executeOk operation parameters payload e =
      ((execute operation parameters payload e).1.bind Response.accepted,
        (execute operation parameters payload e).2) := by
  unfold executeOk
  rw [bind_apply]
  cases execute operation parameters payload e with
  | mk r e' => cases r <;> rfl

theorem accepted_of_refuses {code : ResponseCode} (h : Camera.Refuses code) (operation : Operation)
    (transaction : UInt32) :
    (Response.ofAnswer operation transaction (.error code)).accepted =
      .error (.device operation (.ofCode code.code)) := by
  have hcode : (Response.ofAnswer operation transaction (.error code)).isOk = false := h
  unfold Response.accepted
  rw [hcode]
  rfl

theorem accepted_of_not_refuses {code : ResponseCode} (h : ¬ Camera.Refuses code) (operation : Operation)
    (transaction : UInt32) :
    (Response.ofAnswer operation transaction (.error code)).accepted =
      .ok (.ofAnswer operation transaction (.error code)) := by
  have hcode : (Response.ofAnswer operation transaction (.error code)).isOk = true := by
    cases hok : (ResponseCode.ofCode code.code).isOk with
    | true => exact hok
    | false => exact absurd hok h
  unfold Response.accepted
  rw [hcode]
  rfl

/-- A call leaves the engine calm, and what the camera holds is the same unless it did what it was asked for. -/
theorem leaves_executeOk (h : Calm e) (hpaired : payload.isSome = true ↔ Camera.Uploads operation)
    (parameters : List UInt32) : (executeOk operation parameters payload).Leaves e
      (fun response e' => Calm e' ∧ Obeyed operation e.nextTransaction parameters payload e.link response e'.link)
      fun _ e' => Calm e' ∧ e.link.Alike e'.link := by
  obtain ⟨hserved, hcalm⟩ := execute_cases h hpaired parameters
  have hx := executeOk_eq operation parameters payload e
  generalize (execute operation parameters payload e).1 = r at hserved hx
  generalize (execute operation parameters payload e).2 = e' at hserved hcalm hx
  generalize hc' : e'.link = c' at hserved
  cases hserved with
  | failed error halike => exact leaves_of_eq_error hx ⟨hcalm, hc' ▸ halike⟩
  | refused code halike =>
    dsimp only [Except.bind] at hx
    by_cases hrefuses : Camera.Refuses code
    · rw [accepted_of_refuses hrefuses] at hx
      exact leaves_of_eq_error hx ⟨hcalm, hc' ▸ halike⟩
    · rw [accepted_of_not_refuses hrefuses] at hx
      exact leaves_of_eq_ok hx ⟨hcalm, hc' ▸ .pretended rfl rfl halike⟩
  | @performed c₁ c₂ _ answer halike hperform halike' =>
    cases answer with
    | ok reply => exact leaves_of_eq_ok hx ⟨hcalm, hc' ▸ .performed halike hperform halike'⟩
    | error code =>
      obtain ⟨rfl, hrefuses⟩ := Camera.refusing_perform _ _ _ _ _ _ hperform
      dsimp only [Except.bind] at hx
      rw [accepted_of_refuses hrefuses] at hx
      exact leaves_of_eq_error hx ⟨hcalm, hc' ▸ halike.trans halike'⟩

/-! ## The calls of an upload -/

/-- An upload that cannot be announced leaves what the camera holds; an announced one has the camera's next
handle. -/
theorem leaves_announceUpload (h : Calm e) (storage parent : UInt32) {info : ObjectInfo}
    (hfile : info.told.isFolder = false) :
    (announceUpload storage parent info).Leaves e
      (fun handle e' => Calm e' ∧ handle = e.link.nextHandle ∧ ∃ c₁, e.link.Alike c₁ ∧ c₁.CanWrite storage ∧
        (Camera.folderOf parent ≠ 0 → ∃ o, c₁.objects.get? (Camera.folderOf parent) = some o ∧
          o.info.isFolder = true) ∧
        (c₁.announced storage parent info).Alike e'.link)
      fun _ e' => Calm e' ∧ e.link.Alike e'.link := by
  refine leaves_bind ((leaves_executeOk h ⟨fun _ => .inl rfl, fun _ => rfl⟩ _).mono ?_ fun _ _ he => he)
  rintro response e' ⟨hcalm, hobeyed⟩
  generalize hc' : e'.link = c' at hobeyed
  cases hobeyed with
  | pretended hparameters hdata halike =>
    -- an answer that all is well tells no handle
    rw [hparameters]
    exact leaves_fail ⟨hcalm, hc' ▸ halike⟩
  | @performed c₁ c₂ _ reply halike hperform halike' =>
    have hperform' : Camera.perform .sendObjectInfo [storage, wireParent parent] (some info.encode) c₁ =
        (.ok reply, c₂) :=
      hperform
    rw [Camera.perform_eq (by decide) (by decide)] at hperform'
    split at hperform'
    · obtain ⟨hwrite, hfolder, rfl, rfl⟩ :=
        (Camera.leaves_beginUpload c₁ storage (wireParent parent) hfile).1 reply c₂ hperform'
      rw [Camera.folderOf_wireParent] at hfolder
      have hwire : c₁.announced storage (wireParent parent) info = c₁.announced storage parent info := by
        rw [Camera.announced, Camera.announced, Camera.received, Camera.received, Camera.folderOf_wireParent]
      rw [hwire] at halike'
      rw [Camera.folderOf_wireParent]
      exact leaves_pure ⟨hcalm, halike.nextHandle, c₁, halike, hwrite, hfolder, hc' ▸ halike'⟩
    · cases hperform'

/-- A call that is about nothing but its success. -/
theorem leaves_executeOk_unit (h : Calm e) (hpaired : payload.isSome = true ↔ Camera.Uploads operation)
    (parameters : List UInt32) (hinfo : Operation.ofCode operation.code ≠ .getDeviceInfo)
    (hopen : Operation.ofCode operation.code ≠ .openSession) :
    (executeOk operation parameters payload >>= fun _ => pure () : Action (Engine Camera) PtpError Unit).Leaves e
      (fun _ e' => Calm e' ∧ (e.link.Alike e'.link ∨ ∃ c₁ c₂ reply, e.link.Alike c₁ ∧
        Camera.performInSession (.ofCode operation.code) parameters payload c₁ = (.ok reply, c₂) ∧
        c₂.Alike e'.link))
      fun _ e' => Calm e' ∧ e.link.Alike e'.link := by
  refine leaves_bind ((leaves_executeOk h hpaired parameters).mono ?_ fun _ _ he => he)
  rintro response e' ⟨hcalm, hobeyed⟩
  generalize hc' : e'.link = c' at hobeyed
  cases hobeyed with
  | pretended hparameters hdata halike => exact leaves_pure ⟨hcalm, .inl (hc' ▸ halike)⟩
  | @performed c₁ c₂ _ reply halike hperform halike' =>
    rw [Camera.perform_eq hinfo hopen] at hperform
    split at hperform
    · exact leaves_pure ⟨hcalm, .inr ⟨c₁, c₂, reply, halike, hperform, hc' ▸ halike'⟩⟩
    · cases hperform

/-- The content of an upload is not sent, or the camera does not get it, or the object is there. -/
theorem leaves_sendContent (h : Calm e) (content : Bytes) : (sendContent content).Leaves e
      (fun _ e' => Calm e' ∧ (e.link.Alike e'.link ∨ ∃ c₁ c₂ reply, e.link.Alike c₁ ∧
        Camera.finishUpload (some content) c₁ = (.ok reply, c₂) ∧ c₂.Alike e'.link))
      fun _ e' => Calm e' ∧ e.link.Alike e'.link :=
  leaves_executeOk_unit h ⟨fun _ => .inr rfl, fun _ => rfl⟩ [] (by decide) (by decide)

/-- A deletion that fails leaves what the camera holds. -/
theorem leaves_deleteObject (h : Calm e) (handle : UInt32) : (deleteObject handle).Leaves e
      (fun _ e' => Calm e' ∧ (e.link.Alike e'.link ∨ ∃ c₁ c₂ reply, e.link.Alike c₁ ∧
        Camera.delete handle c₁ = (.ok reply, c₂) ∧ c₂.Alike e'.link))
      fun _ e' => Calm e' ∧ e.link.Alike e'.link :=
  leaves_executeOk_unit h (by decide) [handle, 0] (by decide) (by decide)

end Engine

end Tether
