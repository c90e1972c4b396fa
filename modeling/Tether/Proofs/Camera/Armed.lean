import Tether.Proofs.Camera.Performing
import Tether.Proofs.Exchange.Sessions

/-!
# Tether.Proofs.Camera.Armed — questions to a camera that may have faults armed

An armed fault takes the place of one call of its operation and of no other call.  So what is asked with no fault
armed for it is answered by what the camera has (`Live.leaves_ask`), whatever else is armed, and what an armed
fault takes the place of brings no data (`Live.leaves_askDataset_of_fault`).  Only the fault that breaks the link
is felt by the calls behind it.
-/

namespace Tether

open Ptp Tether.Action

namespace Camera

/-! ## Faults -/

/-- No fault is armed for the operation. -/
def Unarmed (faults : List (Operation × Fault)) (operation : Operation) : Prop :=
  ∀ f ∈ faults, f.1 ≠ operation

instance (faults : List (Operation × Fault)) (operation : Operation) : Decidable (Unarmed faults operation) :=
  inferInstanceAs (Decidable (∀ f ∈ faults, f.1 ≠ operation))

theorem unarmed_nil (operation : Operation) : Unarmed [] operation :=
  fun _ hmem => by cases hmem

variable {operation : Operation} {faults : List (Operation × Fault)}

theorem takeFault_of_unarmed : ∀ {faults}, Unarmed faults operation → takeFault operation faults = (none, faults)
  | [], _ => rfl
  | f :: fs, h => by
    have hrest : Unarmed fs operation := fun g hg => h g (List.mem_cons_of_mem _ hg)
    unfold takeFault
    rw [if_neg (h f List.mem_cons_self), takeFault_of_unarmed hrest]

/-- A fault is taken whenever one is armed. -/
theorem unarmed_of_takeFault : ∀ {faults rest}, takeFault operation faults = (none, rest) →
    Unarmed faults operation
  | [], _, _ => unarmed_nil operation
  | f :: fs, _, h => by
    unfold takeFault at h
    by_cases hf : f.1 = operation
    · rw [if_pos hf] at h
      cases h
    · rw [if_neg hf] at h
      have hrest : Unarmed fs operation := unarmed_of_takeFault (Prod.ext (Prod.mk.inj h).1 rfl)
      intro g hg
      rcases List.mem_cons.mp hg with rfl | hg
      · exact hf
      · exact hrest g hg

end Camera

namespace Engine

variable {operation : Operation} {parameters : List UInt32} {e e' : Engine Camera}

/-- A calm engine with a session open at both ends; any faults may be armed. -/
structure Live (e : Engine Camera) : Prop extends Calm e where
  connected : e.link.connected = true
  session : e.session ≠ none
  sessionOpen : e.link.sessionOpen = true

/-- From `e` to `e'` no fault came up. -/
structure Undisturbed (e e' : Engine Camera) : Prop where
  live : Live e'
  faults : e'.link.faults = e.link.faults

/-- From `e` to `e'` one fault came up, which left these. -/
structure Disturbed (fault : Fault) (faults : List (Operation × Fault)) (e e' : Engine Camera) : Prop where
  alike : e.link.Alike e'.link
  faults : e'.link.faults = faults
  live : fault ≠ .disconnect → Live e'
  gone : fault = .disconnect → e'.link.connected = false

/-- An operation that only asks is neither the opening of a session nor the description of the camera. -/
theorem ne_of_asks (hasks : Camera.Asks (.ofCode operation.code)) :
    Operation.ofCode operation.code ≠ .getDeviceInfo ∧ Operation.ofCode operation.code ≠ .openSession := by
  constructor
  all_goals
    intro hcode
    rw [hcode] at hasks
    exact hasks

theorem ne_openSession (hopen : Operation.ofCode operation.code ≠ .openSession) : operation ≠ .openSession := by
  rintro rfl
  exact hopen (by decide)

theorem checkCall_of_session (hs : e.session ≠ none) (hn : parameters.length ≤ maxParameters) :
    checkCall operation parameters none e = .ok () := by
  refine checkCall_eq_ok_iff.mpr ?_
  rintro (hlong | ⟨p, hp, -⟩ | ⟨-, hnone⟩)
  · exact Nat.not_lt_of_le hn hlong
  · cases hp
  · exact hs hnone

theorem isSome_none_iff (hpaired : ¬ Camera.Uploads operation) :
    (none : Option Bytes).isSome = true ↔ Camera.Uploads operation :=
  ⟨fun hs => (by cases hs), fun ho => absurd ho hpaired⟩

/-! ## Questions that are answered -/

/-- A call without data for which no fault is armed comes to what the camera makes of the operation. -/
theorem Live.leaves_executeOk (h : Live e) (hfault : Camera.Unarmed e.link.faults (.ofCode operation.code))
    (hpaired : ¬ Camera.Uploads operation) (hn : parameters.length ≤ maxParameters)
    (hinfo : Operation.ofCode operation.code ≠ .getDeviceInfo)
    (hopen : Operation.ofCode operation.code ≠ .openSession)
    (hsession : (Camera.performInSession (.ofCode operation.code) parameters none).Keeps (·.sessionOpen = true)) :
    (executeOk operation parameters none).Leaves e
      (fun response e' => Undisturbed e e' ∧ ∃ c₁ c₂ reply, e.link.Alike c₁ ∧
        Camera.performInSession (.ofCode operation.code) parameters none c₁ = (.ok reply, c₂) ∧ c₂.Alike e'.link ∧
        response = .ofAnswer operation e.nextTransaction (.ok reply))
      fun error e' => Undisturbed e e' ∧ e.link.Alike e'.link ∧ ∃ c₁ c₂ code, e.link.Alike c₁ ∧
        Camera.performInSession (.ofCode operation.code) parameters none c₁ = (.error code, c₂) ∧
        error = .device operation (.ofCode code.code) := by
  have hx := executeOk_eq operation parameters none e
  have hsame := session_execute operation parameters none e
  obtain ⟨c₁, c₂, c', answer, halike, hperform, halike', ⟨hconnected, hclear, hfaults⟩, hr, hlink, hreceived⟩ :=
    execute_of_unspoiled h.toCalm h.connected (Camera.takeFault_of_unarmed hfault) (isSome_none_iff hpaired)
      (checkCall_of_session h.session hn)
  rw [Camera.perform_eq hinfo hopen, if_pos (halike.sessionOpen.trans h.sessionOpen)] at hperform
  have hsessionOpen := hsession c₁ (halike.sessionOpen.trans h.sessionOpen)
  rw [hperform] at hsessionOpen
  have hundisturbed : Undisturbed e (execute operation parameters none e).2 := by
    refine ⟨⟨⟨hreceived, fun _ => hlink ▸ hclear⟩, hlink ▸ hconnected, fun hnone => h.session (hsame ▸ hnone), ?_⟩,
      hlink ▸ hfaults⟩
    rw [hlink, halike'.sessionOpen]
    exact hsessionOpen
  rw [← hlink] at halike'
  rw [hr] at hx
  cases answer with
  | ok reply => exact leaves_of_eq_ok hx ⟨hundisturbed, c₁, c₂, reply, halike, hperform, halike', rfl⟩
  | error code =>
    obtain ⟨rfl, hrefuses⟩ := Camera.refusing_performInSession _ _ _ _ _ _ hperform
    dsimp only [Except.bind] at hx
    rw [accepted_of_refuses hrefuses] at hx
    exact leaves_of_eq_error hx ⟨hundisturbed, halike.trans halike', _, _, code, halike, hperform, rfl⟩

/-- What is only asked for changes nothing. -/
theorem Live.leaves_ask (h : Live e) (hfault : Camera.Unarmed e.link.faults (.ofCode operation.code))
    (hasks : Camera.Asks (.ofCode operation.code)) (hpaired : ¬ Camera.Uploads operation)
    (hn : parameters.length ≤ maxParameters) :
    (executeOk operation parameters none).Leaves e
      (fun response e' => Undisturbed e e' ∧ e.link.Alike e'.link ∧ ∃ c₁ reply, e.link.Alike c₁ ∧
        Camera.performInSession (.ofCode operation.code) parameters none c₁ = (.ok reply, c₁) ∧
        response = .ofAnswer operation e.nextTransaction (.ok reply))
      fun error e' => Undisturbed e e' ∧ e.link.Alike e'.link ∧ ∃ c₁ code, e.link.Alike c₁ ∧
        Camera.performInSession (.ofCode operation.code) parameters none c₁ = (.error code, c₁) ∧
        error = .device operation (.ofCode code.code) := by
  have hwatching := Camera.watching_performInSession hasks parameters none
  obtain ⟨hinfo, hopen⟩ := ne_of_asks hasks
  have hsession :
      (Camera.performInSession (.ofCode operation.code) parameters none).Keeps (·.sessionOpen = true) := by
    intro c hc
    rw [(hwatching c).1]
    exact hc
  refine (h.leaves_executeOk hfault hpaired hn hinfo hopen hsession).mono ?_ ?_
  · rintro response e' ⟨hundisturbed, c₁, c₂, reply, halike, hperform, halike', hresponse⟩
    have hsame := (hwatching c₁).1
    rw [hperform] at hsame
    obtain rfl : c₂ = c₁ := hsame
    exact ⟨hundisturbed, halike.trans halike', c₂, reply, halike, hperform, hresponse⟩
  · rintro error e' ⟨hundisturbed, halike', c₁, c₂, code, halike, hperform, herror⟩
    have hsame := (hwatching c₁).1
    rw [hperform] at hsame
    obtain rfl : c₂ = c₁ := hsame
    exact ⟨hundisturbed, halike', c₂, code, halike, hperform, herror⟩

/-- A list of words is read as it was sent, if it is not too long to be sent. -/
theorem leaves_readWords (operation : Operation) (transaction : UInt32) (what : String) (words : List UInt32)
    (e : Engine Camera) :
    (do
      let bytes ← .ofExcept
        (Response.ofAnswer operation transaction (.ok { data := some (Dataset.ofU32List words) })).expectData
      .ofExcept (Dataset.parseU32List what bytes) : Action (Engine Camera) PtpError (List UInt32)).Leaves e
      (fun read e' => e' = e ∧ read = words ∧ read.length ≤ Camera.maxListing)
      fun _ e' => e' = e ∧ ¬ words.length ≤ Camera.maxListing := by
  have hlength : (Dataset.ofU32List words).length = 4 + words.length * 4 := by
    rw [Dataset.ofU32List, List.length_append, Bytes.length_ofU32s]
    rfl
  have hmax : maxWord = 2 ^ 32 - 1 := rfl
  have hheader : headerLength = 12 := rfl
  have hlisting : Camera.maxListing = 2 ^ 30 - 5 := rfl
  refine leaves_bind (leaves_ofExcept (fun bytes hbytes => ?_) fun error herror => ⟨rfl, fun hshort => ?_⟩)
  · obtain ⟨hsent, hfits⟩ := Response.expectData_eq_ok_iff.mp hbytes
    obtain rfl : Dataset.ofU32List words = bytes := Option.some.inj hsent
    rw [Dataset.parseU32List_ofU32List _ (by omega)]
    exact leaves_of_eq_ok rfl ⟨rfl, rfl, by omega⟩
  · have hfits : headerLength + (Dataset.ofU32List words).length ≤ maxWord := by omega
    rw [Response.expectData_eq_ok_iff.mpr ⟨rfl, hfits⟩] at herror
    cases herror

/-- The camera lists a folder, if the storage and the folder are there and the list is not too long to send. -/
theorem Live.leaves_handles (h : Live e) (hfault : Camera.Unarmed e.link.faults .getObjectHandles)
    (storage parent : UInt32) :
    (handles storage parent).Leaves e
      (fun handles e' => Undisturbed e e' ∧ e.link.Alike e'.link ∧ e.link.HasStorage storage ∧
        e.link.HasFolder (wireParent parent) ∧ handles =
          Camera.listing e.link.objects storage (wireParent parent) ∧
        handles.length ≤ Camera.maxListing)
      fun _ e' => Undisturbed e e' ∧ e.link.Alike e'.link ∧ ¬ (e.link.HasStorage storage ∧
        e.link.HasFolder (wireParent parent) ∧
        (Camera.listing e.link.objects storage (wireParent parent)).length ≤ Camera.maxListing) := by
  have hasks : Camera.Asks (.ofCode Operation.getObjectHandles.code) := trivial
  have hunarmed : Camera.Unarmed e.link.faults (.ofCode Operation.getObjectHandles.code) := hfault
  have hlists : ∀ c₁ : Camera, e.link.Alike c₁ → (Camera.listHandles storage (wireParent parent)).Leaves c₁
      (fun reply _ => e.link.HasStorage storage ∧ e.link.HasFolder (wireParent parent) ∧
        reply = { data := some (Dataset.ofU32List (Camera.listing e.link.objects storage (wireParent parent))) })
      fun _ _ => ¬ (e.link.HasStorage storage ∧ e.link.HasFolder (wireParent parent)) := by
    intro c₁ halike
    have hleaves := Camera.leaves_listHandles storage (wireParent parent) c₁
    unfold Camera.HasStorage Camera.HasFolder at *
    rwa [halike.storages, halike.objects] at hleaves
  refine leaves_bind ((h.leaves_ask hunarmed hasks (by decide) (by simp [maxParameters])).mono ?_ ?_)
  · rintro response e' ⟨hundisturbed, halike', c₁, reply, halike, hperform, rfl⟩
    obtain ⟨hstorage, hfolder, rfl⟩ := (hlists c₁ halike).1 reply c₁ hperform
    refine (leaves_readWords .getObjectHandles e.nextTransaction "ObjectHandles" _ e').mono ?_ ?_
    · rintro handles e' ⟨rfl, rfl, hshort⟩
      exact ⟨hundisturbed, halike', hstorage, hfolder, rfl, hshort⟩
    · rintro error e' ⟨rfl, hlong⟩
      exact ⟨hundisturbed, halike', fun hall => hlong hall.2.2⟩
  · rintro error e' ⟨hundisturbed, halike', c₁, code, halike, hperform, -⟩
    exact ⟨hundisturbed, halike', fun hall => (hlists c₁ halike).2 code c₁ hperform ⟨hall.1, hall.2.1⟩⟩

/-- The camera lists its storages, if they are not too many to send. -/
theorem Live.leaves_storageIds (h : Live e) (hfault : Camera.Unarmed e.link.faults .getStorageIds) :
    storageIds.Leaves e
      (fun storages e' => Undisturbed e e' ∧ e.link.Alike e'.link ∧ storages = e.link.storages.keys ∧
        storages.length ≤ Camera.maxListing)
      fun _ e' => Undisturbed e e' ∧ e.link.Alike e'.link ∧ ¬ e.link.storages.keys.length ≤ Camera.maxListing := by
  have hasks : Camera.Asks (.ofCode Operation.getStorageIds.code) := trivial
  have hunarmed : Camera.Unarmed e.link.faults (.ofCode Operation.getStorageIds.code) := hfault
  refine leaves_bind ((h.leaves_ask hunarmed hasks (by decide) (by decide)).mono ?_ ?_)
  · rintro response e' ⟨hundisturbed, halike', c₁, reply, halike, hperform, rfl⟩
    obtain ⟨hreply, -⟩ := Prod.mk.inj hperform
    obtain rfl := Except.ok.inj hreply
    rw [halike.storages]
    refine (leaves_readWords .getStorageIds e.nextTransaction "StorageIDs" _ e').mono ?_ ?_
    · rintro storages e' ⟨rfl, rfl, hshort⟩
      exact ⟨hundisturbed, halike', rfl, hshort⟩
    · rintro error e' ⟨rfl, hlong⟩
      exact ⟨hundisturbed, halike', hlong⟩
  · rintro error e' ⟨-, -, c₁, code, -, hperform, -⟩
    cases hperform

/-- The camera describes the objects that it has. -/
theorem Live.leaves_objectInfo (h : Live e) (hfault : Camera.Unarmed e.link.faults .getObjectInfo)
    (handle : UInt32) :
    (objectInfo handle).Leaves e
      (fun info e' => Undisturbed e e' ∧ e.link.Alike e'.link ∧
        ∃ o, e.link.objects.get? handle = some o ∧ info = o.described.told)
      fun _ e' => Undisturbed e e' ∧ e.link.Alike e'.link ∧ e.link.objects.get? handle = none := by
  have hasks : Camera.Asks (.ofCode Operation.getObjectInfo.code) := trivial
  have hunarmed : Camera.Unarmed e.link.faults (.ofCode Operation.getObjectInfo.code) := hfault
  refine leaves_bind ((h.leaves_ask hunarmed hasks (by decide) (by simp [maxParameters])).mono ?_ ?_)
  · rintro response e' ⟨hundisturbed, halike', c₁, reply, halike, hperform, rfl⟩
    obtain ⟨o, ho, rfl⟩ := (Camera.leaves_describe handle c₁).1 reply c₁ hperform
    rw [halike.objects] at ho
    have hlength := o.described.length_encode_le
    have hfits : headerLength + o.described.encode.length ≤ maxWord := by
      show 12 + _ ≤ 0xFFFFFFFF
      omega
    rw [Response.expectData_eq_ok_iff.mpr ⟨rfl, hfits⟩]
    refine leaves_bind (leaves_of_eq_ok rfl ?_)
    rw [ObjectInfo.parse_encode]
    exact leaves_of_eq_ok rfl ⟨hundisturbed, halike', o, ho, rfl⟩
  · rintro error e' ⟨hundisturbed, halike', c₁, code, halike, hperform, -⟩
    exact ⟨hundisturbed, halike', halike.objects ▸ (Camera.leaves_describe handle c₁).2 code c₁ hperform⟩

/-! ## Questions that are not -/

section AskDataset

variable {α : Type} (parse : Bytes → Except PtpError α)

/-- A call that fails, or is answered without data, brings no dataset. -/
theorem leaves_askDataset_of_spoiled {fault : Fault} {faults : List (Operation × Fault)} {c : Camera}
    (h : Spoiled operation e.nextTransaction fault faults c (execute operation parameters none e).1
      (execute operation parameters none e).2.link) :
    (askDataset operation parameters parse).Leaves e (fun _ _ => False)
      fun _ e' => e' = (execute operation parameters none e).2 := by
  have hx := executeOk_eq operation parameters none e
  refine leaves_bind ?_
  cases hr : (execute operation parameters none e).1 with
  | error error =>
    rw [hr] at hx
    exact leaves_of_eq_error hx rfl
  | ok response =>
    obtain ⟨code, rfl⟩ := h.outcome response hr
    rw [hr] at hx
    dsimp only [Except.bind] at hx
    by_cases hrefuses : Camera.Refuses code
    · rw [accepted_of_refuses hrefuses] at hx
      exact leaves_of_eq_error hx rfl
    · rw [accepted_of_not_refuses hrefuses] at hx
      exact leaves_of_eq_ok hx (leaves_bind (leaves_of_eq_error rfl rfl))

/-- An armed fault takes the place of the question. -/
theorem Live.leaves_askDataset_of_fault (h : Live e) {fault : Fault} {faults : List (Operation × Fault)}
    (ht : Camera.takeFault (.ofCode operation.code) e.link.faults = (some fault, faults))
    (hpaired : ¬ Camera.Uploads operation) (hn : parameters.length ≤ maxParameters) :
    (askDataset operation parameters parse).Leaves e (fun _ _ => False) fun _ e' =>
      Disturbed fault faults e e' := by
  obtain ⟨hspoiled, hreceived⟩ := execute_of_fault h.toCalm h.connected ht (isSome_none_iff hpaired)
    (checkCall_of_session h.session hn)
  have hsame := session_execute operation parameters none e
  refine (leaves_askDataset_of_spoiled parse hspoiled).mono (fun _ _ hf => hf) ?_
  rintro _ e' rfl
  refine ⟨hspoiled.alike, hspoiled.faults, fun hstays => ?_, fun hgone => ?_⟩
  · exact ⟨⟨hreceived, hspoiled.clear⟩, hspoiled.connected.trans (decide_eq_true hstays),
      fun hnone => h.session (hsame ▸ hnone), hspoiled.alike.sessionOpen.trans h.sessionOpen⟩
  · rw [hspoiled.connected, hgone]
    rfl

/-- A link that is broken brings nothing. -/
theorem leaves_askDataset_of_disconnected (hc : ¬ e.link.connected = true) (parameters : List UInt32) :
    (askDataset operation parameters parse).Leaves e (fun _ _ => False) fun _ e' => e'.link = e.link := by
  have hx := executeOk_eq operation parameters none e
  refine leaves_bind ?_
  cases hcheck : checkCall operation parameters none e with
  | error error =>
    rw [execute_of_refused hcheck] at hx
    exact leaves_of_eq_error hx rfl
  | ok _ =>
    rw [execute_of_disconnected hc hcheck] at hx
    exact leaves_of_eq_error hx rfl

/-- Only an engine that is live gets a dataset, and only when no fault is armed for the question. -/
theorem Calm.leaves_askDataset (h : Calm e) (hasks : Camera.Asks (.ofCode operation.code))
    (hpaired : ¬ Camera.Uploads operation) (hn : parameters.length ≤ maxParameters) :
    (askDataset operation parameters parse).Leaves e
      (fun _ _ => Live e ∧ Camera.Unarmed e.link.faults (.ofCode operation.code)) fun _ _ => True := by
  obtain ⟨hinfo, hopen⟩ := ne_of_asks hasks
  have hnothing {E : PtpError → Engine Camera → Prop}
      (hx : (askDataset operation parameters parse).Leaves e (fun _ _ => False) E) :
      (askDataset operation parameters parse).Leaves e
        (fun _ _ => Live e ∧ Camera.Unarmed e.link.faults (.ofCode operation.code)) fun _ _ => True :=
    hx.mono (fun _ _ hf => hf.elim) fun _ _ _ => trivial
  by_cases hc : e.link.connected = true
  · by_cases hs : e.session = none
    · exact hnothing (leaves_askDataset_of_closed hs (ne_openSession hopen) parameters parse)
    · have hcheck : checkCall operation parameters none e = .ok () := checkCall_of_session hs hn
      rcases ht : Camera.takeFault (.ofCode operation.code) e.link.faults with ⟨_ | fault, faults⟩
      · by_cases ho : e.link.sessionOpen = true
        · exact ⟨fun _ _ _ => ⟨⟨h, hc, hs, ho⟩, Camera.unarmed_of_takeFault ht⟩, fun _ _ _ => trivial⟩
        · -- a camera without a session refuses
          obtain ⟨c₁, c₂, c', answer, halike, hperform, -, -, hr, -⟩ :=
            execute_of_unspoiled h hc ht (isSome_none_iff hpaired) hcheck
          rw [Camera.perform_eq hinfo hopen, if_neg (fun hopen => ho (halike.sessionOpen ▸ hopen))] at hperform
          obtain ⟨rfl, -⟩ := Prod.mk.inj hperform
          have hx := executeOk_eq operation parameters none e
          rw [hr] at hx
          dsimp only [Except.bind] at hx
          rw [accepted_of_refuses (by decide)] at hx
          exact hnothing (leaves_bind (leaves_of_eq_error (E := fun _ _ => True) hx trivial))
      · obtain ⟨hspoiled, -⟩ := execute_of_fault h hc ht (isSome_none_iff hpaired) hcheck
        exact hnothing (leaves_askDataset_of_spoiled parse hspoiled)
  · exact hnothing (leaves_askDataset_of_disconnected parse hc parameters)

end AskDataset

/-- A list of storages is the camera's own. -/
theorem Calm.leaves_storageIds (h : Calm e) : storageIds.Leaves e
      (fun storages e' => storages = e.link.storages.keys ∧ e.link.Alike e'.link) fun _ _ => True := by
  have hasks : Camera.Asks (.ofCode Operation.getStorageIds.code) := trivial
  by_cases hlive : Live e ∧ Camera.Unarmed e.link.faults .getStorageIds
  · refine (hlive.1.leaves_storageIds hlive.2).mono ?_ fun _ _ _ => trivial
    rintro storages e' ⟨-, halike, hstorages, -⟩
    exact ⟨hstorages, halike⟩
  · refine (h.leaves_askDataset _ hasks (by decide) (by decide)).mono ?_ fun _ _ _ => trivial
    exact fun _ _ hanswered => absurd hanswered hlive

/-- A list of a folder's handles is answered: the engine is live, no fault is armed for the question, the storage
and the folder are there, and the list is not too long to send. -/
structure CanList (e : Engine Camera) (storage parent : UInt32) : Prop where
  live : Live e
  unarmed : Camera.Unarmed e.link.faults .getObjectHandles
  hasStorage : e.link.HasStorage storage
  hasFolder : e.link.HasFolder (wireParent parent)
  short : (Camera.listing e.link.objects storage (wireParent parent)).length ≤ Camera.maxListing

/-- A list of handles comes just when it can be answered, and is what the camera has. -/
theorem Calm.leaves_handles (h : Calm e) (storage parent : UInt32) : (handles storage parent).Leaves e
      (fun handles e' => CanList e storage parent ∧ Undisturbed e e' ∧ e.link.Alike e'.link ∧
        handles = Camera.listing e.link.objects storage (wireParent parent))
      fun _ _ => ¬ CanList e storage parent := by
  have hasks : Camera.Asks (.ofCode Operation.getObjectHandles.code) := trivial
  by_cases hlive : Live e ∧ Camera.Unarmed e.link.faults .getObjectHandles
  · obtain ⟨hlive, hfault⟩ := hlive
    refine (hlive.leaves_handles hfault storage parent).mono ?_ ?_
    · rintro handles e' ⟨hundisturbed, halike, hstorage, hfolder, rfl, hshort⟩
      exact ⟨⟨hlive, hfault, hstorage, hfolder, hshort⟩, hundisturbed, halike, rfl⟩
    · rintro error e' ⟨-, -, hnot⟩ hcan
      exact hnot ⟨hcan.hasStorage, hcan.hasFolder, hcan.short⟩
  · refine (h.leaves_askDataset _ hasks (by decide) (by simp [maxParameters])).mono ?_ ?_
    · exact fun _ _ hanswered => absurd hanswered hlive
    · exact fun _ _ _ hcan => hlive ⟨hcan.live, hcan.unarmed⟩

end Engine

end Tether
