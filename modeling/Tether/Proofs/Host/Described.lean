import Tether.Proofs.Cache.Records
import Tether.Proofs.Camera.Handles
import Tether.Proofs.Host.Operated

/-!
# Tether.Proofs.Host.Described — what a store knows is what the camera has

Every description of a store was told by the camera or was sent to it.  As long as the camera has handles left,
it has nothing under the handle of an object but what the object was described as, by name and folder
(`Operated.matches_camera`), whether the description is old, its content is cached, or the object stands for its
handle no more.
-/

namespace Tether

open Ptp Tether.Action
open Engine (Lasting Calm)
open Index (SameRecords)

namespace Camera

variable {c c' : Camera} {x y : Index}

theorem Alike.spares (h : c.Alike c') : c.Spares c' :=
  .inl h.nextHandle

/-- The camera vouches for every object of an index. -/
structure Matches (c : Camera) (x : Index) : Prop where
  numbered : c.Numbered
  vouches : ∀ {ref}, ref < x.objects.size → c.Vouches (x.object ref)

theorem Change.matches_index (h : Change c c') (hc : c.Matches x) (hspare : c.Spares c') : c'.Matches x :=
  ⟨h.numbered hc.numbered hspare, fun hlt => h.vouches (hc.vouches hlt) hspare⟩

/-- What a camera vouches for is a handle, a name and a folder. -/
theorem Vouches.congr {r r' : RemoteObject} (h : c.Vouches r) (hhandle : r'.handle = r.handle)
    (hname : r'.metadata.name = r.metadata.name) (hparent : r'.metadata.parent = r.metadata.parent) :
    c.Vouches r' := by
  refine ⟨hhandle ▸ h.lt, fun hknows => ?_⟩
  unfold Agrees
  rw [hname, hparent]
  exact h.agrees (hhandle ▸ hknows)

theorem Vouches.of_record {r r' : RemoteObject} (h : c.Vouches r) (hr : r'.record = r.record) : c.Vouches r' := by
  obtain ⟨hhandle, hname, hparent, -⟩ := RemoteObject.eq_of_record hr
  exact h.congr hhandle hname hparent

theorem Matches.records (hc : c.Matches x) (h : SameRecords x y) : c.Matches y :=
  ⟨hc.numbered, fun {ref} hlt => (hc.vouches (h.size ▸ hlt)).of_record (h.record ref)⟩

theorem Matches.recorded {ref : ObjectRef} {r : RemoteObject} (hc : c.Matches x) (h : x.Recorded ref r y)
    (hr : c.Vouches r) : c.Matches y := by
  refine ⟨hc.numbered, fun {ref'} hlt => ?_⟩
  by_cases hne : ref' = ref
  · rw [hne]
    exact hr.of_record h.self
  · exact (hc.vouches (h.old hne hlt)).of_record (h.other hne)

/-- An object is put in. -/
theorem matches_insert_iff {r : RemoteObject} : c.Matches (x.insert r).2 ↔ c.Matches x ∧ c.Vouches r := by
  have h := x.recorded_insert r
  refine ⟨fun hc => ⟨⟨hc.numbered, fun {ref} hlt => ?_⟩, (hc.vouches h.lt_size).of_record h.self.symm⟩,
    fun hc => ?_⟩
  · exact (hc.vouches (Nat.lt_of_lt_of_le hlt h.size_le)).of_record (h.other (Nat.ne_of_lt hlt)).symm
  · exact hc.1.recorded h hc.2

/-- The camera vouches for what it describes. -/
theorem Numbered.vouches_described (hc : c.Numbered) {handle : UInt32} {o : CameraObject}
    (ho : c.objects.get? handle = some o) (slot : Option Nat) (model : Option String) :
    c.Vouches { handle, metadata := .ofInfo o.described.told slot model } := by
  refine ⟨hc.lt (.object ho), fun hknows => ?_⟩
  cases hknows with
  | object ho' =>
    rw [ho] at ho'
    cases ho'
    exact ⟨Dataset.told_told _, rfl⟩
  | upload hp hh =>
    have hfree := hc.free hp
    rw [hh, show c.objects.get? handle = some o from ho] at hfree
    cases hfree

/-- The camera vouches for what an upload was announced as. -/
theorem Numbered.vouches_announced (hc : c.Numbered) (hspare : c.nextHandle ≠ 0xFFFFFFFF) (storage : UInt32)
    (info : ObjectInfo) (slot : Option Nat) (model : Option String) :
    (c.announced storage info.parent info).Vouches
      { handle := c.nextHandle, metadata := .ofInfo info slot model } := by
  refine ⟨lt_next hspare, fun hknows => ?_⟩
  cases hknows with
  | object ho => exact absurd (hc.lt (.object ho)) (UInt32.lt_irrefl _)
  | upload hp hh =>
    cases hp
    refine ⟨(Dataset.told_told _).symm, ?_⟩
    exact (folderOf_folderOf info.parent).symm

end Camera

open Camera (Matches Change Spares)

namespace Store

variable {c : Camera} {s : Store}

/-- A store learns what the camera describes. -/
theorem matches_learn (hx : Index.Rooted s.index) (hc : c.Matches s.index) {handle : UInt32} {o : CameraObject}
    (ho : c.objects.get? handle = some o) (slot : Option Nat) (model : Option String) :
    c.Matches (s.learn handle (.ofInfo o.described.told slot model)).2.index :=
  hc.recorded (Store.recorded_learn hx handle _) (hc.numbered.vouches_described ho slot model)

end Store

/-! ## Calls -/

namespace Engine

variable {e : Engine Camera}

/-- The camera has a handle left. -/
def HasHandle (e : Engine Camera) : Prop :=
  e.link.nextHandle ≠ 0xFFFFFFFF

instance (e : Engine Camera) : Decidable (HasHandle e) :=
  inferInstanceAs (Decidable (_ ≠ _))

/-- What changes of the camera's objects keep lasts, as long as the camera has handles left. -/
theorem lasting_of_change {P : Camera → Prop} (hP : ∀ {c c'}, Change c c' → Spares c c' → P c → P c') :
    Lasting HasHandle fun e => Calm e ∧ P e.link where
  execute := by
    intro operation payload e hpaired parameters h hmay
    obtain ⟨hserved, hcalm⟩ := execute_cases h.1 hpaired parameters
    have halike : ∀ {c c' : Camera}, c.Alike c' → P c → P c' := fun h => hP h.change h.spares
    refine ⟨hcalm, ?_⟩
    generalize (execute operation parameters payload e).1 = r at hserved
    generalize (execute operation parameters payload e).2.link = c' at hserved ⊢
    cases hserved with
    | failed error hsame => exact halike hsame h.2
    | refused code hsame => exact halike hsame h.2
    | @performed c₁ c₂ _ answer hsame hperform hsame' =>
      have hchange := Camera.change_perform (.ofCode operation.code) parameters payload c₁
      rw [hperform] at hchange
      refine halike hsame' (hP hchange ?_ (halike hsame h.2))
      by_cases hcode : Operation.ofCode operation.code = .sendObjectInfo
      · exact .inr (hsame.nextHandle ▸ hmay hcode)
      · have hnext := Camera.keeps_nextHandle hcode parameters payload c₁.nextHandle c₁ rfl
        rw [hperform] at hnext
        exact .inl hnext
  idle {e e'} h hlink hreceived := by
    refine ⟨(lasting_calm HasHandle).idle h.1 hlink hreceived, ?_⟩
    rw [hlink]
    exact h.2

/-- That the camera vouches for an index lasts, as long as it has handles left. -/
theorem lasting_matches (x : Index) : Lasting HasHandle fun e => Calm e ∧ e.link.Matches x :=
  lasting_of_change fun hchange hspare hm => hchange.matches_index hm hspare

/-- A description is that of the object that the camera has. -/
theorem leaves_objectInfo (h : Calm e) (handle : UInt32) : (objectInfo handle).Leaves e
    (fun info e' => e.link.Alike e'.link ∧
      ∃ o, e'.link.objects.get? handle = some o ∧ info = o.described.told)
    fun _ e' => e.link.Alike e'.link := by
  refine leaves_bind ((leaves_executeOk h (by decide) _).mono ?_ fun _ _ he => he.2)
  rintro response e' ⟨-, hobeyed⟩
  generalize hc' : e'.link = c' at hobeyed
  cases hobeyed with
  | pretended hparameters hdata halike =>
    -- an answer that all is well describes nothing
    unfold Response.expectData
    rw [hdata]
    exact leaves_bind (leaves_fail (hc' ▸ halike))
  | @performed c₁ c₂ _ reply halike hperform halike' =>
    have hperform' : Camera.perform .getObjectInfo [handle] none c₁ = (.ok reply, c₂) := hperform
    rw [Camera.perform_eq (by decide) (by decide)] at hperform'
    split at hperform'
    · have hdescribe : Camera.describe handle c₁ = (.ok reply, c₂) := hperform'
      have hasks : Camera.Asks .getObjectInfo := trivial
      have hsame := (Camera.watching_performInSession hasks [handle] none c₁).1
      rw [hperform'] at hsame
      obtain rfl : c₂ = c₁ := hsame
      obtain ⟨o, ho, rfl⟩ := (Camera.leaves_describe handle c₂).1 reply c₂ hdescribe
      have hsame := halike.trans halike'
      refine leaves_bind (leaves_ofExcept (fun bytes hbytes => ?_) fun _ _ => hc' ▸ hsame)
      have hsent : o.described.encode = bytes := Option.some.inj (Response.expectData_eq_ok_iff.mp hbytes).1
      rw [← hsent, ObjectInfo.parse_encode]
      refine leaves_of_eq_ok rfl ⟨hc' ▸ hsame, o, ?_, rfl⟩
      rw [hc', halike'.objects]
      exact ho
    · cases hperform'

end Engine

namespace Host

variable {h : Host Camera}

/-- What is fetched is what the camera describes. -/
theorem matches_fetch (hcalm : Calm h.bay.engine) (hx : Index.Rooted h.store.index)
    (hm : h.bay.engine.link.Matches h.store.index) (handle : UInt32) :
    (fetch handle h).2.bay.engine.link.Matches (fetch handle h).2.store.index := by
  refine Leaves.state (P := fun h' : Host Camera => h'.bay.engine.link.Matches h'.store.index) ?_
  unfold fetch
  split
  · exact leaves_bind (leaves_fail hm)
  · refine leaves_bind (leaves_call_of ((Engine.leaves_objectInfo hcalm handle).mono ?_ ?_))
    · rintro info engine ⟨halike, o, ho, rfl⟩
      refine leaves_bind (leaves_read (leaves_ofFunction ?_))
      exact Store.matches_learn hx (halike.change.matches_index hm halike.spares) ho _ _
    · intro error engine halike
      exact halike.change.matches_index hm halike.spares

/-- What is uploaded is what the camera gets. -/
theorem matches_writeNew (hcalm : Calm h.bay.engine) (hm : h.bay.engine.link.Matches h.store.index)
    (hspare : Engine.HasHandle h.bay.engine) (name : String) (content : Bytes) (parent : UInt32) :
    (writeNew name content parent h).2.bay.engine.link.Matches (writeNew name content parent h).2.store.index := by
  refine Leaves.state (P := fun h' : Host Camera => h'.bay.engine.link.Matches h'.store.index) ?_
  unfold writeNew
  refine leaves_bind (leaves_ofExcept (fun _ _ => ?_) fun _ _ => hm)
  refine leaves_bind (leaves_ofExcept (fun size _ => ?_) fun _ _ => hm)
  refine leaves_bind (leaves_state ?_)
  refine leaves_bind (leaves_ofExcept (fun target _ => ?_) fun _ _ => hm)
  obtain ⟨slot, storage⟩ := target
  dsimp only
  generalize hinfo : { ObjectInfo.forUpload storage parent name (FileType.detect name).objectFormat size with
    captureDate := some h.bay.engine.clock.wholeSecond
    modificationDate := some h.bay.engine.clock.wholeSecond } = info
  have hfile : info.told.isFolder = false := hinfo ▸ ObjectInfo.isFolder_upload storage parent name size _
  obtain rfl : info.parent = parent := hinfo ▸ rfl
  refine leaves_bind (leaves_call_of ((Engine.leaves_announceUpload hcalm storage info.parent hfile).mono ?_ ?_))
  · rintro handle e₁ ⟨hcalm₁, hhandle, c₁, halike, -, -, hannounced⟩
    have hm₁ := halike.change.matches_index hm halike.spares
    rw [← halike.nextHandle] at hhandle
    have hspare₁ : c₁.nextHandle ≠ 0xFFFFFFFF := halike.nextHandle ▸ hspare
    have hchange : Change c₁ (c₁.announced storage info.parent info) := .announces _ rfl rfl rfl
    -- the object is vouched for as soon as it is announced, and stays so while its content is sent
    have hm₂ : e₁.link.Matches (h.store.index.insert { handle, metadata := .ofInfo info none none }).2 := by
      rw [hhandle]
      have hnew := hm₁.numbered.vouches_announced hspare₁ storage info none none
      refine hannounced.change.matches_index ?_ hannounced.spares
      exact Camera.matches_insert_iff.mpr ⟨hchange.matches_index hm₁ (.inr hspare₁), hnew⟩
    have hsent := (Engine.lasting_matches _).keeps_sendContent content e₁ ⟨hcalm₁, hm₂⟩
    refine leaves_bind (leaves_call_of
      ((leaves_of_state (P := fun e => Calm e ∧ e.link.Matches (Index.insert _ _).2)
      hsent).mono ?_ ?_))
    · rintro _ e₂ ⟨-, hm₃⟩
      obtain ⟨hm, hnew⟩ := Camera.matches_insert_iff.mp hm₃
      refine leaves_bind (leaves_change (leaves_bind (leaves_read (leaves_ofFunction ?_))))
      exact Camera.matches_insert_iff.mpr ⟨hm, hnew.congr rfl rfl rfl⟩
    · rintro error e₂ ⟨-, hm₃⟩
      exact (Camera.matches_insert_iff.mp hm₃).1
  · rintro error e₁ ⟨-, halike⟩
    exact halike.change.matches_index hm halike.spares

end Host

/-! ## Runs -/

theorem Camera.Untouched.numbered {c : Camera} (hc : c.Untouched) : c.Numbered where
  lt hknows := by
    cases hknows with
    | object ho => exact hc.handle_lt ho
    | upload hp _ => rw [hc.pendingUpload] at hp; cases hp
  free hp := by rw [hc.pendingUpload] at hp; cases hp

theorem Camera.change_adjustInfo (c : Camera) (handle : UInt32) {f : ObjectInfo → ObjectInfo}
    (hf : ∀ info, (f info).filename = info.filename ∧ (f info).parent = info.parent) :
    Change c (c.adjustInfo handle f) := by
  refine .fewer (fun {handle' o'} ho' => ?_) rfl rfl
  have hadjust : (c.objects.adjust handle fun o => { o with info := f o.info }).get? handle' = some o' := ho'
  rw [OrderedMap.get?_adjust] at hadjust
  split at hadjust
  · rename_i hh
    obtain ⟨o, ho, rfl⟩ := Option.map_eq_some_iff.mp hadjust
    exact ⟨o, hh ▸ ho, (hf o.info).1, (hf o.info).2, rfl⟩
  · exact ⟨o', hadjust, rfl, rfl, rfl⟩

/-- By hand objects are put in under the next handle, taken out, or described otherwise but for names and
folders. -/
theorem CameraStep.change (s : CameraStep) (c : Camera) : Change c (s.run c) := by
  cases s with
  | addObject info data => exact .adds ⟨info, data⟩ rfl rfl rfl
  | removeStorage id =>
    refine .fewer (fun {handle o'} ho' => ⟨o', ?_, rfl, rfl, rfl⟩) rfl rfl
    have hfilter : (c.objects.filter fun _ o => o.info.storageId ≠ id).get? handle = some o' := ho'
    rw [OrderedMap.get?_filter, Option.filter_eq_some_iff] at hfilter
    exact hfilter.1
  | setModified handle date =>
    exact c.change_adjustInfo handle (f := fun info => { info with modificationDate := some date })
      fun _ => ⟨rfl, rfl⟩
  | setPixelSize handle width height =>
    exact c.change_adjustInfo handle (f := fun info =>
      { info with imagePixWidth := width, imagePixHeight := height })
      fun _ => ⟨rfl, rfl⟩
  | _ => exact Camera.change_of_same rfl rfl rfl

theorem CameraStep.spares (s : CameraStep) {c : Camera} (h : s.TakesHandle → c.nextHandle ≠ 0xFFFFFFFF) :
    c.Spares (s.run c) := by
  cases s with
  | addObject info data => exact .inr (h trivial)
  | _ => exact .inl rfl

/-- Whatever is done to hosts and cameras, a camera vouches for the store, as long as it has a handle left for
each that is used up. -/
theorem Operated.matches_camera {h : Host Camera} (hr : Operated Engine.HasHandle h) :
    h.bay.engine.link.Matches h.store.index := by
  have hupdate : ∀ {h : Host Camera} (f : Bay Camera → Bay Camera),
      (f h.bay).engine.link.Matches h.store.index →
      (h.updateBay f).bay.engine.link.Matches (h.updateBay f).store.index :=
    fun f hm => hm.records (Store.sameRecords_followAll _ _)
  induction hr with
  | new budget staleness _ huntouched =>
    exact ⟨huntouched.numbered, fun hlt => absurd hlt (Nat.not_lt_zero _)⟩
  | @store c h hr hplain hmay ih =>
    by_cases hrecords : c.Records
    · cases c with
      | fetch handle => exact Host.matches_fetch hr.calm hr.reached.linked.toRooted ih handle
      | writeNew name content parent => exact Host.matches_writeNew hr.calm ih (hmay trivial) name content parent
      | bay f => exact hplain.elim
      | _ => exact hrecords.elim
    · have hlasts := c.lasts_run (Engine.lasting_matches h.store.index) hplain ⟨hr.calm, ih⟩ hmay
      exact hlasts.2.records (c.sameRecords hrecords h)
  | @bay c h hr hplain ih =>
    exact hupdate _ (c.lasts_run (Engine.lasting_matches h.store.index) hplain ⟨hr.calm, ih⟩).2
  | @request r h hr hmay ih =>
    exact hupdate _ ((Engine.lasting_matches h.store.index).request r ⟨hr.calm, ih⟩ hmay).2
  | @idle f h hr hf ih => exact hupdate _ ((hf h.bay.engine).1 ▸ ih)
  | @camera s h hr hmay ih =>
    exact hupdate _ ((s.change h.bay.engine.link).matches_index ih (s.spares hmay))

end Tether
