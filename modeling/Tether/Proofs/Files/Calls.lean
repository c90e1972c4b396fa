import Tether.Files.Mount
import Tether.Proofs.Host.Effects
import Tether.Proofs.Volume.Steps

/-!
# Tether.Proofs.Files.Calls — what file systems do to a host

Every call of a file system is made of calls of the slots and of the store, and of listings.  So what these keep
of a host is kept by every call of a file system (`Host.Enduring.files`).  An upload may be left out or made to
depend on the host.
-/

namespace Tether

open Ptp Tether.Action

variable {τ : Type} [Transport τ]

/-- What a file system is called for. -/
inductive FileCall where
  | mount (options : MountOptions) (blockSize : UInt32)
  | release (m : Mount)
  | attributes (n : Node)
  | list (dir : Node)
  | parentOf (n : Node)
  | lookup (dir : Node) (name : String)
  | read (n : Node) (length offset : Nat)
  | write (m : Mount) (n : Node) (content : Bytes)
  | create (m : Mount) (dir : Node) (name : String) (content : Bytes)
  | unlink (m : Mount) (n : Node)

/-- The host after a call. -/
def FileCall.run : FileCall → Host τ → Host τ
  | .mount options blockSize, h => (Mount.ofOptions options blockSize h).2
  | .release m, h => m.release h
  | .attributes n, h => (Mount.attributes n h).2
  | .list dir, h => (Mount.list dir h).2
  | .parentOf n, h => (Mount.parentOf n h).2
  | .lookup dir name, h => (Mount.lookup dir name h).2
  | .read n length offset, h => (Mount.read n length offset h).2
  | .write m n content, h => (m.write n content h).2
  | .create m dir name content, h => (m.create dir name content h).2
  | .unlink m n, h => (m.unlink n h).2

/-- Where the call announces an upload, `may` allows it. -/
def FileCall.Granted (may : Host τ → Prop) (h : Host τ) : FileCall → Prop
  | .write .. => may h
  | .create _ dir name _ => may (Mount.lookup dir name h).2
  | _ => True

namespace Mount

omit [Transport τ]

variable {P : Host τ → Prop}

theorem keeps_checkWritable (m : Mount) : (m.checkWritable : Action (Host τ) StorageError Unit).Keeps P :=
  keeps_guard (keeps_bind (keeps_bind (keeps_read _) fun _ => keeps_ofOption _ _) fun _ =>
    keeps_bind (keeps_read _) fun _ => keeps_ite (keeps_fail _) (keeps_pure _))

theorem keeps_objectOf (n : Node) : (objectOf n : Action (Host τ) StorageError ObjectRef).Keeps P :=
  keeps_bind (keeps_read _) fun _ => keeps_ofOption _ _

theorem keeps_fileOf (n : Node) : (fileOf n : Action (Host τ) StorageError ObjectRef).Keeps P :=
  keeps_bind (keeps_objectOf n) fun _ => keeps_bind (keeps_read _) fun _ => keeps_guard (keeps_pure _)

/-- A file is not listed, nor is anything without an active card.  Of a directory the camera lists the handles,
and each is described in turn. -/
theorem leaves_children_of [Transport τ] {dir : Node} {h : Host τ} {Q : List DirectoryEntry → Host τ → Prop}
    {E : StorageError → Host τ → Prop}
    (hfile : ¬ dir.isDirectory h.store.index = true →
      E (.invalidArgument (.notADirectory (dir.name h.store.index))) h)
    (hnone : h.bay.table.active = none → E (.noSuchDevice none) h)
    (hlist : dir.isDirectory h.store.index = true → ∀ slot, h.bay.table.active = some slot →
      (Host.call none (Engine.handles (h.bay.table.volume slot).storageId (dir.handle h.store.index))).Leaves h
        (fun handles h' => Q (describeAll handles h').1
          { (describeAll handles h').2 with bay := (describeAll handles h').2.bay.touch slot }) E) :
    (children dir).Leaves h Q E := by
  unfold children
  refine leaves_bind (leaves_read ?_)
  dsimp only [id]
  split
  · rename_i hdirectory
    exact leaves_bind (leaves_fail (hfile hdirectory))
  · rename_i hdirectory
    rw [Decidable.not_not] at hdirectory
    refine leaves_bind (leaves_bind (leaves_read ?_))
    cases hactive : h.bay.table.active with
    | none => exact leaves_fail (hnone hactive)
    | some slot =>
      refine leaves_pure (leaves_bind (leaves_read (leaves_bind ?_)))
      refine (hlist hdirectory slot hactive).mono (fun handles h' hq => ?_) fun _ _ he => he
      exact leaves_bind (leaves_ofFunction (leaves_bind (leaves_change (leaves_pure hq))))

/-- A name that is neither the folder's own nor that of the one above is looked up in a listing. -/
theorem leaves_lookup_of [Transport τ] {dir : Node} {name : String} {h : Host τ} {Q : Node → Host τ → Prop}
    {E : StorageError → Host τ → Prop} (hdot : name ≠ ".") (hup : name ≠ "..")
    (hchildren : (children dir).Leaves h
      (fun entries h' =>
        match entries.find? fun e => e.name = name with
        | some entry => (Host.fetch entry.handle).Leaves h' (fun ref h'' => Q (.bound ref) h'') E
        | none => E (.noSuchFile name) h') E) :
    (lookup dir name).Leaves h Q E := by
  unfold lookup
  split
  · exact absurd rfl hdot
  · exact absurd rfl hup
  · refine leaves_bind (hchildren.mono (fun entries h' hq => ?_) fun _ _ he => he)
    cases hfound : entries.find? fun e => e.name = name with
    | none =>
      rw [hfound] at hq
      exact leaves_bind (leaves_fail hq)
    | some entry =>
      rw [hfound] at hq
      exact leaves_bind (leaves_pure (leaves_bind (hq.mono (fun _ _ hq' => leaves_pure hq') fun _ _ he => he)))

/-- A lookup fails as the listing does. -/
theorem lookup_of_error [Transport τ] {dir : Node} {name : String} {h h' : Host τ} {error : StorageError}
    (hdot : name ≠ ".") (hup : name ≠ "..") (hchildren : children dir h = (.error error, h')) :
    lookup dir name h = (.error error, h') := by
  have hfails : (lookup dir name).Leaves h (fun _ _ => False) fun e s => e = error ∧ s = h' :=
    leaves_lookup_of hdot hup (leaves_of_eq_error hchildren ⟨rfl, rfl⟩)
  obtain ⟨_, _, hx, rfl, rfl⟩ := hfails.exists_error
  exact hx

end Mount

namespace Host

omit [Transport τ] in
/-- Where nothing waits to be told, reading a record changes nothing. -/
theorem keeps_volume {P : Host τ → Prop} (hquiet : ∀ {h}, P h → h.bay.changes = []) (slot : Nat) :
    (onBay (Bay.volume slot)).Keeps P := by
  intro h hp
  have hsame : (Bay.volume slot h.bay).2 = h.bay := Bay.keeps_volume (P := (· = h.bay)) slot h.bay rfl
  have hnil : (Bay.volume slot h.bay).2.changes = [] := by rw [hsame, hquiet hp]
  show P (h.updateBay fun b => (Bay.volume slot b).2)
  rw [updateBay_of_quiet hnil, hsame]
  exact hp

/-- What is true of a host stays true whatever its file systems ask for; an upload is made as long as `may`
allows it. -/
structure Enduring (may P : Host τ → Prop) : Prop where
  fetch : ∀ handle, (Host.fetch handle).Keeps P
  readRange : ∀ ref length offset, (Host.readRange ref length offset).Keeps P
  delete : ∀ ref, (Host.delete ref).Keeps P
  writeNew : ∀ name content parent {h}, P h → may h → P (Host.writeNew name content parent h).2
  handles : ∀ storage parent, (Host.call none (Engine.handles storage parent)).Keeps P
  touch : ∀ slot {h}, P h → P { h with bay := h.bay.touch slot }
  count : ∀ f {h}, P h → P (h.count f)
  volume : ∀ slot, (Host.onBay (Bay.volume slot)).Keeps P
  mount : ∀ slot, (Host.onBay (Bay.mount slot)).Keeps P
  setActive : ∀ slot, (Host.onBay (Bay.setActive slot)).Keeps P
  overrideBudget : ∀ bytes, (Host.onStore (Store.overrideBudget bytes)).Keeps P
  releaseBudget : ∀ token {h}, P h → P (h.updateStore (·.releaseBudget token))

namespace Enduring

variable {may P : Host τ → Prop} {h : Host τ} (hP : Enduring may P)
include hP

theorem describeAll : ∀ (handles : List UInt32) {h : Host τ}, P h → P (Mount.describeAll handles h).2
  | [], _, hp => hp
  | handle :: rest, h, hp => by
    have hfetch := hP.fetch handle h hp
    unfold Mount.describeAll
    cases hx : Host.fetch handle h with
    | mk r h' =>
      rw [hx] at hfetch
      cases r with
      | ok ref => exact describeAll rest hfetch
      | error error => exact describeAll rest hfetch

theorem keeps_children (dir : Node) : (Mount.children dir).Keeps P := by
  refine keeps_bind (keeps_read _) fun x => keeps_guard ?_
  refine keeps_bind (keeps_bind (keeps_read _) fun _ => keeps_ofOption _ _) fun slot =>
    keeps_bind (keeps_read _) fun storage => ?_
  refine keeps_bind (hP.handles storage (dir.handle x)) fun handles => ?_
  refine keeps_bind (fun h hp => hP.describeAll handles hp) fun entries => ?_
  exact keeps_bind (keeps_change fun h hp => hP.touch slot hp) fun _ => keeps_pure _

theorem keeps_parentOf (n : Node) : (Mount.parentOf n).Keeps P := by
  refine keeps_bind (keeps_read _) fun parent => keeps_ite (keeps_pure _) ?_
  exact keeps_bind (hP.fetch parent) fun _ => keeps_pure _

theorem keeps_lookup (dir : Node) (name : String) : (Mount.lookup dir name).Keeps P := by
  unfold Mount.lookup
  split
  · exact keeps_pure _
  · exact hP.keeps_parentOf dir
  · refine keeps_bind (hP.keeps_children dir) fun entries => keeps_bind (keeps_ofOption _ _) fun entry => ?_
    exact keeps_bind (hP.fetch _) fun _ => keeps_pure _

theorem keeps_read (n : Node) (length offset : Nat) : (Mount.read n length offset).Keeps P := by
  refine keeps_bind (Mount.keeps_fileOf n) fun ref => keeps_bind (hP.readRange ref length offset) fun bytes => ?_
  exact keeps_ite (keeps_bind (keeps_change fun h hp => hP.count _ hp) fun _ => keeps_pure _) (keeps_pure _)

theorem keeps_unlink (m : Mount) (n : Node) : (m.unlink n).Keeps P := by
  refine keeps_bind (m.keeps_checkWritable) fun _ => keeps_bind (Mount.keeps_objectOf n) fun ref => ?_
  refine keeps_bind (Action.keeps_read _) fun _ => keeps_guard ?_
  exact keeps_bind (hP.delete ref) fun _ => keeps_pure _

theorem keeps_ofOptions (options : MountOptions) (blockSize : UInt32) :
    (Mount.ofOptions options blockSize).Keeps P := by
  -- the slot is made active in any case
  refine keeps_bind (hP.volume _) fun v => keeps_ite (keeps_bind (hP.mount _) fun _ => ?_) (keeps_guard ?_)
  all_goals
    refine keeps_bind (hP.setActive _) fun _ => ?_
    cases options.cacheSize with
    | none => exact keeps_bind (keeps_pure _) fun _ => keeps_pure _
    | some bytes =>
      refine keeps_bind (hP.overrideBudget _) fun token => ?_
      exact keeps_bind (keeps_pure _) fun _ => keeps_pure _

theorem write (m : Mount) (n : Node) (content : Bytes) (hp : P h) (hmay : may h) : P (m.write n content h).2 := by
  refine Leaves.state ?_
  refine leaves_bind ((leaves_same m.keeps_checkWritable hp).mono ?_ fun _ _ he => he)
  rintro _ h' rfl
  refine leaves_bind ((leaves_same (Mount.keeps_fileOf n) hp).mono ?_ fun _ _ he => he)
  rintro old h' rfl
  refine leaves_bind (leaves_read ?_)
  refine leaves_bind ((leaves_of_state (hP.writeNew _ content _ hp hmay)).mono ?_ fun _ _ he => he)
  intro new h' hp'
  exact leaves_of_state (keeps_bind (keeps_attempt (hP.delete old)) (fun _ => keeps_pure _) h' hp')

/-- The upload of a creation comes after the lookup. -/
theorem create (m : Mount) (dir : Node) (name : String) (content : Bytes) (hp : P h)
    (hmay : may (Mount.lookup dir name h).2) : P (m.create dir name content h).2 := by
  refine Leaves.state ?_
  refine leaves_bind ((leaves_same m.keeps_checkWritable hp).mono ?_ fun _ _ he => he)
  rintro _ h' rfl
  dsimp only
  split
  · exact leaves_bind (leaves_fail hp)
  · have hlookup := hP.keeps_lookup dir name h' hp
    refine leaves_bind ⟨fun found h'' hx => ?_, fun e h'' hx => ?_⟩
    · obtain ⟨-, rfl⟩ := Prod.mk.inj hx
      split
      · exact leaves_of_state (hP.write m _ content hlookup hmay)
      · refine leaves_bind (leaves_read ?_)
        refine leaves_bind ((leaves_of_state (hP.writeNew name content _ hlookup hmay)).mono ?_ fun _ _ he => he)
        intro ref h'' hp''
        exact leaves_pure hp''
      · exact leaves_fail hlookup
    · cases hx

/-- Calls of file systems keep what endures; those that upload are allowed to when the upload is announced. -/
theorem files (c : FileCall) (hp : P h) (hmay : c.Granted may h) : P (c.run h) := by
  cases c with
  | mount options blockSize => exact hP.keeps_ofOptions options blockSize h hp
  | release m =>
    show P (m.release h)
    unfold Mount.release
    split
    · exact hP.releaseBudget _ hp
    · exact hp
  | attributes n => exact keeps_guard (Action.keeps_read _) h hp
  | list dir => exact keeps_bind (Action.keeps_read _) (fun _ => keeps_bind (hP.keeps_children dir) fun _ =>
      keeps_pure _) h hp
  | parentOf n => exact hP.keeps_parentOf n h hp
  | lookup dir name => exact hP.keeps_lookup dir name h hp
  | read n length offset => exact hP.keeps_read n length offset h hp
  | write m n content => exact hP.write m n content hp hmay
  | create m dir name content => exact hP.create m dir name content hp hmay
  | unlink m n => exact hP.keeps_unlink m n h hp

end Enduring

/-! ## Where nothing can be written -/

/-- The active card, if there is one, is protected. -/
def Barred (h : Host τ) : Prop :=
  ∀ slot, h.bay.table.active = some slot → (h.bay.table.volume slot).writeProtected = true

namespace Barred

variable {h : Host τ} (hb : h.Barred)
include hb

omit [Transport τ] in
theorem uploadTarget : ∃ error, Host.uploadTarget h = .error error := by
  unfold Host.uploadTarget
  cases hactive : h.bay.table.active with
  | none => exact ⟨_, rfl⟩
  | some slot => exact ⟨_, if_pos (hb slot hactive)⟩

theorem writeNew (name : String) (content : Bytes) (parent : UInt32) :
    ∃ error, Host.writeNew name content parent h = (.error error, h) := by
  obtain ⟨error, htarget⟩ := hb.uploadTarget
  refine Leaves.eq_error ?_
  refine leaves_bind (leaves_ofExcept (fun _ _ => ?_) fun _ _ => rfl)
  refine leaves_bind (leaves_ofExcept (fun size _ => ?_) fun _ _ => rfl)
  refine leaves_bind (leaves_state ?_)
  rw [htarget]
  exact leaves_bind (leaves_of_eq_error rfl rfl)

omit [Transport τ] in
theorem checkWritable (m : Mount) : ∃ error, m.checkWritable h = (.error error, h) := by
  refine Leaves.eq_error ?_
  unfold Mount.checkWritable
  split
  · exact leaves_bind (leaves_fail rfl)
  · refine leaves_bind (leaves_bind (leaves_read ?_))
    cases hactive : h.bay.table.active with
    | none => exact leaves_fail rfl
    | some slot =>
      refine leaves_pure (leaves_bind (leaves_read ?_))
      rw [if_pos (hb slot hactive)]
      exact leaves_fail rfl

theorem write (m : Mount) (n : Node) (content : Bytes) : ∃ error, m.write n content h = (.error error, h) := by
  obtain ⟨error, hcheck⟩ := hb.checkWritable m
  refine ⟨error, ?_⟩
  unfold Mount.write
  rw [bind_apply, hcheck]

theorem create (m : Mount) (dir : Node) (name : String) (content : Bytes) :
    ∃ error, m.create dir name content h = (.error error, h) := by
  obtain ⟨error, hcheck⟩ := hb.checkWritable m
  refine ⟨error, ?_⟩
  unfold Mount.create
  rw [bind_apply, hcheck]

theorem unlink (m : Mount) (n : Node) : ∃ error, m.unlink n h = (.error error, h) := by
  obtain ⟨error, hcheck⟩ := hb.checkWritable m
  refine ⟨error, ?_⟩
  unfold Mount.unlink
  rw [bind_apply, hcheck]

omit [Transport τ] in
theorem blocksAvailable (m : Mount) : (m.capacity h).blocksAvailable = 0 := by
  unfold Mount.capacity VolumeTable.activeVolume
  cases hactive : h.bay.table.active with
  | none => rfl
  | some slot => exact if_pos (hb slot hactive)

end Barred

end Host

end Tether
