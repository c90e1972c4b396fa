import Tether.Proofs.Files.Failing
import Tether.Proofs.Files.Placing

/-!
# Tether.Proofs.Files.Missing — what it takes for a name to be missing

A listing leaves out, without a word, every object that cannot be described at that moment, and names are looked
up in listings.  So a name is said to be missing just when the folder was listed and no object of that name got a
line (`Mount.lookup_missing`): while no fault is armed for descriptions there is none, and otherwise each fault
hides one object (`Mount.described`).  A creation then puts a second file beside the one that it did not see
(`Mount.create_over_hidden`).
-/

namespace Tether

open Ptp Tether.Action
open Camera (Objects Unarmed takeFault)
open Engine (CanList Disturbed Live Undisturbed wireParent)

/-- No failure of an exchange is a missing name. -/
theorem StorageError.ofPtp_ne_noSuchFile (handle : Option UInt32) (error : PtpError) (missing : String) :
    ofPtp handle error ≠ .noSuchFile missing := by
  cases error with
  | transport error => cases error <;> exact StorageError.noConfusion
  | device operation code => cases code <;> exact StorageError.noConfusion
  | _ => exact StorageError.noConfusion

/-! ## Descriptions with faults armed -/

namespace Host

variable {h : Host Camera} {handle : UInt32}

/-- What is fetched has the handle, and what cannot be fetched is not missing by name. -/
theorem leaves_fetch_handle (hx : Index.Rooted h.store.index) (handle : UInt32) :
    (fetch handle).Leaves h (fun ref h' => (h'.store.index.object ref).handle = handle)
      fun error _ => ∀ missing, error ≠ .noSuchFile missing := by
  unfold fetch
  split
  · exact leaves_bind (leaves_fail fun missing => StorageError.noConfusion)
  · refine leaves_bind (leaves_call_of ⟨fun info e _ => ?_,
      fun error e _ => StorageError.ofPtp_ne_noSuchFile _ error⟩)
    refine leaves_bind (leaves_read (leaves_ofFunction ?_))
    exact (RemoteObject.eq_of_record (Store.recorded_learn hx handle _).self).1

/-- An object that the camera has is fetched when no fault is armed for descriptions. -/
theorem leaves_fetch_of_unarmed (hlive : Live h.bay.engine)
    (hfault : Unarmed h.bay.engine.link.faults .getObjectInfo) (hx : Index.Rooted h.store.index)
    (hne : handle ≠ 0) {o : CameraObject} (ho : h.bay.engine.link.objects.get? handle = some o) :
    (fetch handle).Leaves h
      (fun ref h' => Undisturbed h.bay.engine h'.bay.engine ∧ h.bay.engine.link.Alike h'.bay.engine.link ∧
        (h'.store.index.object ref).Shows o)
      fun _ _ => False := by
  unfold fetch
  rw [if_neg hne]
  refine leaves_bind (leaves_call_of ((hlive.leaves_objectInfo hfault handle).mono ?_ ?_))
  · rintro info e ⟨hundisturbed, halike, o', ho', rfl⟩
    obtain rfl : o = o' := Option.some.inj (ho.symm.trans ho')
    exact leaves_bind (leaves_read (leaves_ofFunction ⟨hundisturbed, halike, shows_learn hx handle o _⟩))
  · rintro error e ⟨-, -, hnone⟩
    rw [ho] at hnone
    cases hnone

/-- A fault that is armed for descriptions keeps an object from being fetched. -/
theorem leaves_fetch_of_fault (hlive : Live h.bay.engine) (hne : handle ≠ 0) {fault : Fault}
    {faults : List (Operation × Fault)}
    (ht : takeFault .getObjectInfo h.bay.engine.link.faults = (some fault, faults)) :
    (fetch handle).Leaves h (fun _ _ => False) fun _ h' => Disturbed fault faults h.bay.engine h'.bay.engine := by
  have ht' : takeFault (.ofCode Operation.getObjectInfo.code) h.bay.engine.link.faults = (some fault, faults) := ht
  unfold fetch
  rw [if_neg hne]
  refine leaves_bind
    (leaves_call_of ((hlive.leaves_askDataset_of_fault _ ht' (by decide) (by simp [maxParameters])).mono ?_ ?_))
  · exact fun _ _ hf => hf.elim
  · exact fun _ _ hdisturbed => hdisturbed

/-- The list of a folder comes just when the camera can answer it. -/
theorem leaves_handles {may : Engine Camera → Prop} (hr : Operated may h) (storage parent : UInt32) :
    (call none (Engine.handles storage parent)).Leaves h
      (fun handles h' => Operated may h' ∧ CanList h.bay.engine storage parent ∧
        Undisturbed h.bay.engine h'.bay.engine ∧
        h.bay.engine.link.Alike h'.bay.engine.link ∧
        handles = Camera.listing h.bay.engine.link.objects storage (wireParent parent))
      fun error _ => (∀ missing, error ≠ .noSuchFile missing) ∧ ¬ CanList h.bay.engine storage parent := by
  have hrun := Operated.enduring.handles storage parent h hr
  refine ((leaves_of_state hrun).and ?_).mono (fun _ _ hq => hq) fun _ _ he => he.2
  refine leaves_call_of ((hr.calm.leaves_handles storage parent).mono ?_ ?_)
  · exact fun _ _ hlisted => hlisted
  · exact fun error _ hnot => ⟨StorageError.ofPtp_ne_noSuchFile none error, hnot⟩

/-- Nothing is fetched over a link that is broken. -/
theorem leaves_fetch_of_disconnected (hc : h.bay.engine.link.connected = false) (handle : UInt32) :
    (fetch handle).Leaves h (fun _ _ => False) fun _ h' => h'.bay.engine.link.connected = false := by
  have hgone : ¬ h.bay.engine.link.connected = true := by
    rw [hc]
    exact Bool.false_ne_true
  unfold fetch
  split
  · exact leaves_bind (leaves_fail hc)
  · refine leaves_bind (leaves_call_of ((Engine.leaves_askDataset_of_disconnected _ hgone _).mono ?_ ?_))
    · exact fun _ _ hf => hf.elim
    · rintro error e hlink
      show e.link.connected = false
      rw [hlink, hc]

end Host

namespace Mount

variable {may : Engine Camera → Prop} {h : Host Camera} {dir : Node} {slot : Slot} {name : String}

/-! ## Listings with faults armed -/

/-- The objects of a list that get a line while these faults are armed.  Handle 0 gets none, every fault for
descriptions costs one line, and the one that breaks the link all that follow. -/
def described : List (Operation × Fault) → List UInt32 → List UInt32
  | _, [] => []
  | faults, handle :: rest =>
    if handle = 0 then described faults rest
    else
      match takeFault .getObjectInfo faults with
      | (none, _) => handle :: described faults rest
      | (some fault, left) => if fault = .disconnect then [] else described left rest

/-- All are described when no fault is armed for descriptions. -/
theorem described_of_unarmed {faults : List (Operation × Fault)} (hfault : Unarmed faults .getObjectInfo) :
    ∀ handles, described faults handles = handles.filter (· ≠ 0)
  | [] => rfl
  | handle :: rest => by
    unfold described
    rw [Camera.takeFault_of_unarmed hfault, described_of_unarmed hfault rest, List.filter_cons]
    by_cases hzero : handle = 0 <;> simp [hzero]

theorem describeAll_cons_of_ok {handle : UInt32} {h h' : Host Camera} {ref : ObjectRef}
    (hx : Host.fetch handle h = (.ok ref, h')) (rest : List UInt32) :
    (describeAll (handle :: rest) h).1 = .ofObject (h'.store.index.object ref) :: (describeAll rest h').1 := by
  rw [describeAll, hx]

theorem describeAll_cons_of_error {handle : UInt32} {h h' : Host Camera} {error : StorageError}
    (hx : Host.fetch handle h = (.error error, h')) (rest : List UInt32) :
    describeAll (handle :: rest) h = describeAll rest h' := by
  rw [describeAll, hx]

theorem describeAll_of_disconnected : ∀ (handles : List UInt32) {h : Host Camera},
    h.bay.engine.link.connected = false → (describeAll handles h).1 = []
  | [], _, _ => rfl
  | handle :: rest, h, hc => by
    obtain ⟨error, h', hx, hc'⟩ := (Host.leaves_fetch_of_disconnected hc handle).exists_error
    rw [describeAll_cons_of_error hx, describeAll_of_disconnected rest hc']

/-- Of objects that the camera has, those get lines that the armed faults leave. -/
theorem describeAll_described : ∀ (handles : List UInt32) {h : Host Camera}, Operated may h → Live h.bay.engine →
    (∀ handle ∈ handles, ∃ o, h.bay.engine.link.objects.get? handle = some o) →
      Lists h.bay.engine.link.objects (described h.bay.engine.link.faults handles) (describeAll handles h).1
  | [], _, _, _, _ => ⟨rfl, fun entry hmem => by cases hmem⟩
  | handle :: rest, h, hr, hlive, hknown => by
    obtain ⟨o, ho⟩ := hknown handle List.mem_cons_self
    have hx := hr.reached.linked.toRooted
    have hr' := Operated.enduring.fetch handle h hr
    have hrest : ∀ {h' : Host Camera}, h.bay.engine.link.Alike h'.bay.engine.link →
        ∀ handle' ∈ rest, ∃ o', h'.bay.engine.link.objects.get? handle' = some o' := by
      intro h' halike handle' hmem
      rw [halike.objects]
      exact hknown handle' (List.mem_cons_of_mem _ hmem)
    unfold described
    by_cases hzero : handle = 0
    · rw [if_pos hzero, hzero, describeAll_cons_of_error rfl]
      exact describeAll_described rest hr hlive (hrest (.refl _))
    · rw [if_neg hzero]
      rcases ht : takeFault .getObjectInfo h.bay.engine.link.faults with ⟨_ | fault, faults⟩
      · have hfetch := Host.leaves_fetch_of_unarmed hlive (Camera.unarmed_of_takeFault ht) hx hzero ho
        obtain ⟨ref, h', hfetched, hundisturbed, halike, hshows⟩ := hfetch.exists_ok
        have hsame := (Host.leaves_fetch_handle hx handle).1 ref h' hfetched
        rw [hfetched] at hr'
        have hlists := describeAll_described rest hr' hundisturbed.live (hrest halike)
        rw [hundisturbed.faults, halike.objects] at hlists
        rw [describeAll_cons_of_ok hfetched]
        refine ⟨congrArg₂ List.cons hsame hlists.handles, fun entry hmem => ?_⟩
        rcases List.mem_cons.mp hmem with rfl | hmem
        · exact ⟨_, o, rfl, (congrArg _ hsame).trans ho, hshows⟩
        · exact hlists.shows entry hmem
      · obtain ⟨error, h', hfailed, hdisturbed⟩ := (Host.leaves_fetch_of_fault hlive hzero ht).exists_error
        rw [hfailed] at hr'
        rw [describeAll_cons_of_error hfailed]
        dsimp only
        split
        · rename_i hgone
          rw [describeAll_of_disconnected rest (hdisturbed.gone hgone)]
          exact ⟨rfl, fun entry hmem => by cases hmem⟩
        · rename_i hstays
          have hlists := describeAll_described rest hr' (hdisturbed.live hstays) (hrest hdisturbed.alike)
          rwa [hdisturbed.faults, hdisturbed.alike.objects] at hlists

/-- A listing of a directory on the active card is answered. -/
structure Answers (h : Host Camera) (dir : Node) (slot : Slot) : Prop where
  directory : dir.isDirectory h.store.index = true
  active : h.bay.table.active = some slot
  canList : CanList h.bay.engine (h.bay.table.volume slot).storageId (dir.handle h.store.index)

theorem Answers.slot_eq {slot' : Slot} (ha : Answers h dir slot) (ha' : Answers h dir slot') : slot = slot' :=
  Option.some.inj (ha.active.symm.trans ha'.active)

/-- The lines of a listing are those of the objects that can be described; a listing that fails is no missing
name. -/
theorem leaves_children_described (hr : Operated may h) (dir : Node) : (children dir).Leaves h
      (fun entries _ => ∃ slot, Answers h dir slot ∧
        Lists h.bay.engine.link.objects (described h.bay.engine.link.faults (listed h dir slot)) entries)
      fun error _ => (∀ missing, error ≠ .noSuchFile missing) ∧ ¬ ∃ slot, Answers h dir slot := by
  refine leaves_children_of (fun hfile => ⟨fun _ => StorageError.noConfusion, ?_⟩)
    (fun hnone => ⟨fun _ => StorageError.noConfusion, ?_⟩) fun hdirectory slot hactive => ?_
  · rintro ⟨slot, hanswers⟩
    exact hfile hanswers.directory
  · rintro ⟨slot, hanswers⟩
    have hsome := hanswers.active
    rw [hnone] at hsome
    cases hsome
  · refine (Host.leaves_handles hr _ _).mono ?_ ?_
    · rintro handles h' ⟨hr', hcan, hundisturbed, halike, rfl⟩
      have hlists := describeAll_described (listed h dir slot) hr' hundisturbed.live fun handle hmem => by
        obtain ⟨o, ho, -⟩ := Camera.mem_listing_iff.mp hmem
        exact ⟨o, halike.objects ▸ ho⟩
      rw [hundisturbed.faults, halike.objects] at hlists
      exact ⟨slot, ⟨hdirectory, hactive, hcan⟩, hlists⟩
    · rintro error h' ⟨hother, hnot⟩
      refine ⟨hother, ?_⟩
      rintro ⟨slot', hanswers⟩
      obtain rfl : slot = slot' := Option.some.inj (hactive.symm.trans hanswers.active)
      exact hnot hanswers.canList

/-! ## Looking names up -/

/-- The object gets a line when the directory is listed, and has the name. -/
def Shown (h : Host Camera) (dir : Node) (slot : Slot) (name : String) (handle : UInt32) : Prop :=
  handle ∈ described h.bay.engine.link.faults (listed h dir slot) ∧
    ∃ o, h.bay.engine.link.objects.get? handle = some o ∧ Dataset.told o.info.filename = name

/-- The name is said to be missing. -/
def SaysMissing (h : Host Camera) (dir : Node) (name : String) : Prop :=
  ∃ missing, (lookup dir name h).1 = .error (.noSuchFile missing)

/-- Everything in the directory is shown while no fault is armed for descriptions. -/
theorem shown_of_holds (hwire : dir.handle h.store.index ≠ wireRoot)
    (hfault : Unarmed h.bay.engine.link.faults .getObjectInfo) {handle : UInt32} {o : CameraObject}
    (hholds : Holds h dir slot name handle o)
    (hstorage : o.info.storageId = (h.bay.table.volume slot).storageId) (hne : handle ≠ 0) :
    Shown h dir slot name handle := by
  refine ⟨?_, o, hholds.object, hholds.name⟩
  rw [described_of_unarmed hfault, List.mem_filter]
  refine ⟨(mem_listed_iff hwire).mpr ⟨o, hholds.object, ?_, hholds.parent⟩, decide_eq_true hne⟩
  rw [← hstorage]
  exact Camera.liesOn_self o

/-- A name that is found is shown; one that is not is missing just when nothing of the name is. -/
theorem leaves_lookup_shown (hr : Operated may h) (dir : Node) (hdot : name ≠ ".") (hup : name ≠ "..") :
    (lookup dir name).Leaves h
      (fun n h' => ∃ slot, Answers h dir slot ∧ ∃ ref, n = .bound ref ∧
        Shown h dir slot name (h'.store.index.object ref).handle)
      fun error _ => (∃ missing, error = .noSuchFile missing) ↔
        ∃ slot, Answers h dir slot ∧ ∀ handle, ¬ Shown h dir slot name handle := by
  have hrun := Operated.enduring.keeps_children dir h hr
  refine leaves_lookup_of hdot hup (((leaves_of_state hrun).and (leaves_children_described hr dir)).mono ?_ ?_)
  · rintro entries h' ⟨hr', slot, hanswers, hlists⟩
    have hfind := hlists.find? name
    cases hfound : entries.find? fun e => e.name = name with
    | none =>
      rw [hfound] at hfind
      refine ⟨fun _ => ⟨slot, hanswers, ?_⟩, fun _ => ⟨name, rfl⟩⟩
      rintro handle ⟨hmem, o, ho, hname⟩
      exact hfind handle hmem o ho hname
    | some entry =>
      rw [hfound] at hfind
      have hshown : Shown h dir slot name entry.handle := hfind
      refine (Host.leaves_fetch_handle hr'.reached.linked.toRooted entry.handle).mono ?_ ?_
      · rintro ref h'' hhandle
        refine ⟨slot, hanswers, ref, rfl, ?_⟩
        rw [hhandle]
        exact hshown
      · rintro error h'' hother
        refine ⟨fun ⟨missing, hmissing⟩ => absurd hmissing (hother missing), ?_⟩
        rintro ⟨slot', hanswers', hnone⟩
        obtain rfl := hanswers.slot_eq hanswers'
        exact (hnone entry.handle hshown).elim
  · rintro error h' ⟨-, hother, hnot⟩
    refine ⟨fun ⟨missing, hmissing⟩ => absurd hmissing (hother missing), ?_⟩
    rintro ⟨slot, hanswers, -⟩
    exact absurd ⟨slot, hanswers⟩ hnot

/-! ## Creating files -/

section Create

variable {m : Mount} {content : Bytes} {h' : Host Camera}

/-- Nothing is created where the mount or the active card does not allow it, nor under a name that is too long. -/
theorem admitted_of_create {n : Node} (hok : (m.create dir name content h).1 = .ok n) :
    m.checkWritable h = (.ok (), h) ∧ ¬ maxNameLength < name.utf8ByteSize := by
  have hsame : (m.checkWritable h).2 = h := (m.keeps_checkWritable (P := (· = h))) h rfl
  unfold create at hok
  rw [bind_apply] at hok
  cases hcheck : m.checkWritable h with
  | mk r h₁ =>
    rw [hcheck] at hok hsame
    obtain rfl : h₁ = h := hsame
    cases r with
    | error error => cases hok
    | ok _ =>
      refine ⟨rfl, fun hlong => ?_⟩
      dsimp only at hok
      rw [if_pos hlong] at hok
      cases hok

/-- A name that is looked up is replaced. -/
theorem create_of_found (hcheck : m.checkWritable h = (.ok (), h)) (hshort : ¬ maxNameLength < name.utf8ByteSize)
    {found : Node} (hx : lookup dir name h = (.ok found, h')) :
    m.create dir name content h = m.write found content h' := by
  unfold create
  rw [bind_apply, hcheck]
  dsimp only
  rw [if_neg hshort, bind_apply, attempt, hx]

/-- A lookup that fails otherwise is no reason to upload. -/
theorem create_of_failed (hcheck : m.checkWritable h = (.ok (), h)) (hshort : ¬ maxNameLength < name.utf8ByteSize)
    {error : StorageError} (hother : ∀ missing, error ≠ .noSuchFile missing)
    (hx : lookup dir name h = (.error error, h')) :
    m.create dir name content h = (.error error, h') := by
  unfold create
  rw [bind_apply, hcheck]
  dsimp only
  rw [if_neg hshort, bind_apply, attempt, hx]
  cases error with
  | noSuchFile missing => exact absurd rfl (hother missing)
  | _ => rfl

end Create

/-- Wherever a run came, whatever faults are armed.  A name is said to be missing just when a listing of the
directory is answered that shows nothing of the name; so while no fault is armed for descriptions nothing of the
name is in the directory on the active card, and otherwise there may be what an armed fault hides.  A creation
that succeeds replaces what is shown of the name, or was told that the name is missing.  A listing that fails is
that failure, to a lookup and to a creation. -/
theorem lookup_missing (hr : Operated may h) (dir : Node) (hdot : name ≠ ".") (hup : name ≠ "..") :
    (SaysMissing h dir name ↔ ∃ slot, Answers h dir slot ∧ ∀ handle, ¬ Shown h dir slot name handle) ∧
    (SaysMissing h dir name → Unarmed h.bay.engine.link.faults .getObjectInfo →
      dir.handle h.store.index ≠ wireRoot →
      ∀ slot, h.bay.table.active = some slot → ∀ handle o, Holds h dir slot name handle o →
        o.info.storageId = (h.bay.table.volume slot).storageId → handle = 0) ∧
    (∀ (m : Mount) (content : Bytes) (n : Node), (m.create dir name content h).1 = .ok n →
      SaysMissing h dir name ∨ ∃ slot found h', Answers h dir slot ∧ lookup dir name h = (.ok (.bound found), h') ∧
        Shown h dir slot name (h'.store.index.object found).handle ∧
        m.create dir name content h = m.write (.bound found) content h') ∧
    ∀ (error : StorageError) (h' : Host Camera), children dir h = (.error error, h') →
      (∀ missing, error ≠ .noSuchFile missing) ∧ lookup dir name h = (.error error, h') ∧
      ∀ (m : Mount) (content : Bytes), m.checkWritable h = (.ok (), h) → name.utf8ByteSize ≤ maxNameLength →
        m.create dir name content h = (.error error, h') := by
  have hlookup := leaves_lookup_shown hr dir hdot hup
  have hmissing : SaysMissing h dir name ↔ ∃ slot, Answers h dir slot ∧
      ∀ handle, ¬ Shown h dir slot name handle := by
    unfold SaysMissing
    cases hx : lookup dir name h with
    | mk r h' =>
      cases r with
      | error error => simpa using hlookup.2 error h' hx
      | ok n =>
        obtain ⟨slot, hanswers, ref, -, hshown⟩ := hlookup.1 n h' hx
        refine ⟨fun ⟨_, hsaid⟩ => (by cases hsaid), ?_⟩
        rintro ⟨slot', hanswers', hnone⟩
        obtain rfl := hanswers.slot_eq hanswers'
        exact absurd hshown (hnone _)
  refine ⟨hmissing, ?_, ?_, ?_⟩
  · intro hsaid hfault hwire slot hactive handle o hholds hstorage
    obtain ⟨slot', hanswers, hnone⟩ := hmissing.mp hsaid
    obtain rfl : slot = slot' := Option.some.inj (hactive.symm.trans hanswers.active)
    by_contra hne
    exact hnone handle (shown_of_holds hwire hfault hholds hstorage hne)
  · intro m content n hok
    obtain ⟨hcheck, hshort⟩ := admitted_of_create hok
    cases hx : lookup dir name h with
    | mk r h' =>
      cases r with
      | ok found =>
        obtain ⟨slot, hanswers, ref, rfl, hshown⟩ := hlookup.1 found h' hx
        exact .inr ⟨slot, ref, h', hanswers, rfl, hshown, create_of_found hcheck hshort hx⟩
      | error error =>
        by_cases hsaid : ∃ missing, error = .noSuchFile missing
        · obtain ⟨missing, rfl⟩ := hsaid
          exact .inl ⟨missing, congrArg Prod.fst hx⟩
        · rw [create_of_failed hcheck hshort (fun missing hmissing => hsaid ⟨missing, hmissing⟩) hx] at hok
          cases hok
  · intro error h' hchildren
    have hother := ((leaves_children_described hr dir).2 error h' hchildren).1
    have hx : lookup dir name h = (.error error, h') := lookup_of_error hdot hup hchildren
    exact ⟨hother, hx, fun m content hcheck hshort => create_of_failed hcheck (Nat.not_lt_of_le hshort) hother hx⟩

end Mount

/-! ## A run with a busy camera -/

/-- A picture on the first of two cards; the camera will be too busy to describe the next object. -/
def Host.busy : Host Camera :=
  (Host.twoCards.given Host.picture [1, 2, 3]).updateEngine fun e =>
    { e with link := (CameraStep.injectFault .getObjectInfo (.respond .deviceBusy)).run e.link }

theorem Operated.busy : Operated Engine.HasHandle Host.busy :=
  (Operated.twoCards.given Host.picture [1, 2, 3] (by decide +kernel)).camera
    (.injectFault .getObjectInfo (.respond .deviceBusy)) fun h => h.elim

namespace Mount

theorem lookup_missing_busy :
    (Operated Engine.HasHandle Host.busy ∧ "a.jpg" ≠ "." ∧ "a.jpg" ≠ "..") ∧
      ∃ slot, Answers Host.busy .root slot ∧ ∀ handle, ¬ Shown Host.busy .root slot "a.jpg" handle := by
  have hsaid : (lookup .root "a.jpg" Host.busy).1 = .error (.noSuchFile "a.jpg") := by decide +kernel
  exact ⟨⟨Operated.busy, by decide, by decide⟩,
    (lookup_missing Operated.busy .root (by decide) (by decide)).1.mp ⟨_, hsaid⟩⟩

/-- The picture is there, under its name and on the active card, but is said to be missing; and a creation under
its name that succeeds leaves two files of it there. -/
theorem create_over_hidden :
    (Operated Engine.HasHandle Host.busy ∧ Host.busy.bay.table.active = some 0 ∧
      Holds Host.busy .root 0 "a.jpg" 1 ⟨Host.picture, [1, 2, 3]⟩ ∧
      Host.picture.storageId = (Host.busy.bay.table.volume 0).storageId) ∧
    (lookup .root "a.jpg" Host.busy).1 = .error (.noSuchFile "a.jpg") ∧
    (writing.create .root "a.jpg" [4, 5] Host.busy).1 = .ok (.bound 1) ∧
    ∀ handle ∈ [1, 2], ∃ o, Holds (writing.create .root "a.jpg" [4, 5] Host.busy).2 .root 0 "a.jpg" handle o := by
  have hheld : Holds Host.busy .root 0 "a.jpg" 1 ⟨Host.picture, [1, 2, 3]⟩ :=
    ⟨by decide +kernel, rfl, fun _ => by decide +kernel, by decide +kernel⟩
  have hnamed : ([1, 2].all fun handle => ((writing.create .root "a.jpg" [4, 5]
      Host.busy).2.bay.engine.link.objects.get? handle).any fun o => o.info.parent = 0 ∧
        Camera.liesOn ((writing.create .root "a.jpg" [4, 5] Host.busy).2.bay.table.volume 0).storageId o ∧
        Dataset.told o.info.filename = "a.jpg") = true := by decide +kernel
  refine ⟨⟨Operated.busy, by decide +kernel, hheld, by decide +kernel⟩, by decide +kernel, by decide +kernel, ?_⟩
  intro handle hmem
  obtain ⟨o, ho, hchild⟩ := (Option.any_eq_true ..).mp (List.all_eq_true.mp hnamed handle hmem)
  obtain ⟨hparent, hlies, hname⟩ := of_decide_eq_true hchild
  exact ⟨o, ho, hparent, fun _ => hlies, hname⟩

end Mount

end Tether
