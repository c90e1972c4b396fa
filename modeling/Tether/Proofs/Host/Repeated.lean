import Tether.Proofs.Files.Failing
import Tether.Proofs.Host.Apart
import Tether.Proofs.Volume.Current

/-!
# Tether.Proofs.Host.Repeated — a report that comes twice

Of every report there is something that is true once a bay has taken it in (`Bay.HasTaken`), and a bay of which
it is true does nothing about the report any more.  The same holds of the store.  So at a camera without faults a
report that comes again, after whatever time, changes nothing and is told to nobody (`Operated.repeated_event`).
-/

namespace Tether

open Ptp Tether.Action
open Engine (Ready)
open Index (Linked)

/-! ## The bay -/

/-- Storages are found by their ids alone. -/
theorem VolumeTable.slotOf_congr {t t' : VolumeTable}
    (h : ∀ slot, (t'.volume slot).storageId = (t.volume slot).storageId) (storage : UInt32) :
    t'.slotOf storage = t.slotOf storage := by
  unfold slotOf
  simp only [h]

theorem VolumeTable.slotOf_zero (t : VolumeTable) : t.slotOf 0 = none :=
  if_pos rfl

/-- A card that was noted as full is so already. -/
theorem Volume.noteFull_noteFull (v : Volume) : Bay.noteFull (Bay.noteFull v) = Bay.noteFull v := by
  by_cases hfull : v.isMounted = true ∧ ¬ v.writeProtected = true
  · have hnoted : (Bay.noteFull v).isMounted = true ∧ ¬ (Bay.noteFull v).writeProtected = true :=
      ⟨(isMounted_noteFull v).trans hfull.1, hfull.2⟩
    have hstatus : (Bay.noteFull v).status = .full := if_pos hfull
    exact congrArg (fun status => { Bay.noteFull v with status }) ((if_pos hnoted).trans hstatus.symm)
  · have hnoted : ¬ ((Bay.noteFull v).isMounted = true ∧ ¬ (Bay.noteFull v).writeProtected = true) :=
      fun h => hfull ⟨(isMounted_noteFull v).symm.trans h.1, h.2⟩
    exact congrArg (fun status => { Bay.noteFull v with status }) (if_neg hnoted)

namespace Bay

variable {b b' : Bay Camera} {event : DeviceEvent} {storage : UInt32}

/-- What is true of a bay that has taken a report in. -/
def HasTaken (event : DeviceEvent) (b : Bay Camera) : Prop :=
  match event with
  | .storeAdded storage => b.engine.link.ListsStorages → Current b ∧ b.table.Seated ∧
      ∀ slot, b.table.slotOf storage = some slot → (b.table.volume slot).status ≠ .inserted
  | .storeRemoved storage => b.table.slotOf storage = none
  | .storeFull storage => ∀ slot, b.table.slotOf storage = some slot →
      noteFull (b.table.volume slot) = b.table.volume slot
  | .storageInfoChanged _ => ∀ slot, (b.table.volume slot).Fresh b.engine.link b.uploads
  | .deviceReset => b.engine.link.ListsStorages → Current b ∧ b.table.Seated
  | _ => True

/-- It stays true while the slots and what the camera holds stay the same. -/
theorem HasTaken.of_asked (h : HasTaken event b) (ha : Asked b b')
    (htable : b'.table = b.table) : HasTaken event b' := by
  have hcurrent : Current b → Current b' := by
    intro hc slot
    rw [htable, ha.uploads, ha.alike.findingIn]
    exact hc slot
  cases event with
  | storeAdded storage =>
    intro hlists
    obtain ⟨hc, hrest⟩ := h (ha.alike.listsStorages_iff.mp hlists)
    rw [htable]
    exact ⟨hcurrent hc, hrest⟩
  | storeRemoved storage | storeFull storage =>
    unfold HasTaken at *
    dsimp only at *
    rwa [htable]
  | storageInfoChanged storage =>
    intro slot hm
    rw [htable] at hm ⊢
    obtain ⟨info, hinfo, heq⟩ := h slot hm
    refine ⟨info, ?_, ?_⟩
    · rw [ha.alike.storages, hinfo]
    · rw [ha.alike.census, ha.uploads, heq]
  | deviceReset =>
    intro hlists
    obtain ⟨hc, hseated⟩ := h (ha.alike.listsStorages_iff.mp hlists)
    rw [htable]
    exact ⟨hcurrent hc, hseated⟩
  | _ => trivial

/-! ### The first time -/

/-- A card that waits for it is mounted, and nothing else happens. -/
theorem leaves_welcome (slot : Slot) (b : Bay Camera) : (welcome slot.val).Leaves b
    (fun _ b' => (b' = b ∧ (b.table.volume slot).status ≠ .inserted) ∨
      Mounts slot b b' ∧ b'.engine = b.engine ∧ b'.uploads = b.uploads) fun _ _ => False := by
  have hvolume : volume slot.val b = (.ok (b.table.volume slot), b) := by
    unfold volume
    rw [bind_apply, Slot.check_val]
    rfl
  refine leaves_bind (leaves_of_eq_ok hvolume ?_)
  split
  · rename_i hinserted
    have hmount : (mount slot.val).Leaves b (fun _ _ => True) fun _ _ => False := by
      unfold mount
      rw [Slot.check_val]
      refine leaves_bind (leaves_of_eq_ok rfl (leaves_bind (leaves_state ?_)))
      split
      · rename_i hnot
        exact absurd hinserted hnot
      · exact leaves_change trivial
    have hkept : (mount slot.val).Keeps fun b' => b'.engine = b.engine ∧ b'.uploads = b.uploads :=
      keeps_bind (keeps_ofExcept _) fun _ => keeps_bind keeps_state fun _ =>
        keeps_guard (keeps_change fun _ h => h)
    refine ((hmount.and (leaves_mount slot.val b)).and (leaves_of_state
      (P := fun b' => b'.engine = b.engine ∧ b'.uploads = b.uploads) (hkept b ⟨rfl, rfl⟩))).mono ?_
        fun _ _ hf => hf.1.1
    rintro _ b' ⟨⟨-, other, hval, hmounts⟩, hsame⟩
    obtain rfl : other = slot := Fin.ext hval
    exact .inr ⟨hmounts, hsame⟩
  · rename_i hnot
    exact leaves_pure (.inl ⟨rfl, hnot⟩)

/-- A mount leaves every slot its storage. -/
theorem Mounts.slotOf {slot : Slot} (h : Mounts slot b b') (storage : UInt32) :
    b'.table.slotOf storage = b.table.slotOf storage := by
  refine VolumeTable.slotOf_congr (fun other => ?_) storage
  by_cases hne : other = slot
  · rw [hne, h.volume]
    rfl
  · rw [h.other other hne]

/-- What is up to date stays so when a card is mounted. -/
theorem Mounts.current {slot : Slot} (h : Mounts slot b b') (hlink : b'.engine.link = b.engine.link)
    (huploads : b'.uploads = b.uploads) (hcurrent : Current b) : Current b' := by
  intro other
  rw [hlink, huploads]
  by_cases hne : other = slot
  · subst hne
    rw [h.volume]
    exact (hcurrent other).mounted h.inserted _
  · rw [h.other other hne]
    exact hcurrent other

/-- A storage that a camera brings is looked for by a scan, and its card is mounted. -/
theorem leaves_storeAdded (h : Ready b.engine) (storage : UInt32) : (reactTo (.storeAdded storage)).Leaves b
    (fun _ b' => Asked b b' ∧ HasTaken (.storeAdded storage) b')
    fun _ b' => Asked b b' ∧ HasTaken (.storeAdded storage) b' := by
  refine leaves_bind ((leaves_scan_ready h).mono ?_ ?_)
  · intro _ b₁ hscanned
    have hlists : b₁.engine.link.ListsStorages := hscanned.alike.listsStorages_iff.mpr hscanned.lists
    refine leaves_bind (leaves_read ?_)
    cases hslot : b₁.table.slotOf storage with
    | none =>
      refine leaves_pure ⟨hscanned.toAsked, fun _ => ⟨hscanned.current, hscanned.seated, fun slot hsome => ?_⟩⟩
      rw [hslot] at hsome
      cases hsome
    | some slot =>
      refine (leaves_welcome slot b₁).mono ?_ fun _ _ hf => hf.elim
      rintro _ b₂ (⟨rfl, hnot⟩ | ⟨hmounts, hengine, huploads⟩)
      · refine ⟨hscanned.toAsked, fun _ => ⟨hscanned.current, hscanned.seated, fun other hsome => ?_⟩⟩
        rw [hslot] at hsome
        cases hsome
        exact hnot
      · refine ⟨⟨hengine ▸ hscanned.ready, hengine ▸ hscanned.alike, huploads.trans hscanned.uploads⟩, fun _ =>
          ⟨hmounts.current (hengine ▸ rfl) huploads hscanned.current, hmounts.seated hscanned.seated,
            fun other hsome => ?_⟩⟩
        rw [hmounts.slotOf, hslot] at hsome
        cases hsome
        intro hinserted
        have hmounted := hmounts.isMounted
        unfold Volume.isMounted at hmounted
        rw [hinserted] at hmounted
        cases hmounted
  · rintro error b₁ ⟨hunmoved, hlong⟩
    exact ⟨hunmoved.toAsked, fun hlists => absurd (hunmoved.alike.listsStorages_iff.mp hlists) hlong⟩

theorem handleEvent_storeRemoved (storage : UInt32) (b : Bay Camera) :
    handleEvent (.storeRemoved storage) b = (b.table.slotOf storage).elim b b.vacate := by
  rw [← runAll_reportSteps]
  show BayStep.runAll (storageSteps storage _ b) b = _
  unfold storageSteps
  cases b.table.slotOf storage with
  | none => rfl
  | some slot =>
    show (unmount slot.val b).2 = b.vacate slot
    unfold unmount
    rw [bind_apply, Slot.check_val]
    rfl

theorem handleEvent_storeFull (storage : UInt32) (b : Bay Camera) :
    handleEvent (.storeFull storage) b =
      (b.table.slotOf storage).elim b fun slot => b.updateTable (·.adjust slot noteFull) := by
  rw [← runAll_reportSteps]
  show BayStep.runAll (storageSteps storage _ b) b = _
  unfold storageSteps
  cases b.table.slotOf storage with
  | none => rfl
  | some slot => rfl

/-- A slot whose card is gone is given up, and no other slot has its storage. -/
theorem taken_storeRemoved (h : Ready b.engine) (ha : b.table.Apart) (storage : UInt32) :
    Asked b (handleEvent (.storeRemoved storage) b) ∧
    HasTaken (.storeRemoved storage) (handleEvent (.storeRemoved storage) b) := by
  rw [handleEvent_storeRemoved]
  cases hslot : b.table.slotOf storage with
  | none => exact ⟨.refl h, hslot⟩
  | some slot =>
    have hzero : storage ≠ 0 := by
      rintro rfl
      rw [VolumeTable.slotOf_zero] at hslot
      cases hslot
    refine ⟨(Asked.refl h).vacate slot, ?_⟩
    show (b.vacate slot).table.slotOf storage = none
    rw [Option.eq_none_iff_forall_ne_some]
    intro other hother
    have hid := (((thins_vacate slot b).apart ha).slotOf_eq_some_iff hzero).mp hother
    by_cases hne : other = slot
    · subst hne
      rw [(fills_vacate other b).volume] at hid
      exact hzero hid.symm
    · rw [(fills_vacate slot b).other other hne] at hid
      exact hne (Option.some.inj (((ha.slotOf_eq_some_iff hzero).mpr hid).symm.trans hslot))

theorem taken_storeFull (h : Ready b.engine) (storage : UInt32) :
    Asked b (handleEvent (.storeFull storage) b) ∧
    HasTaken (.storeFull storage) (handleEvent (.storeFull storage) b) := by
  rw [handleEvent_storeFull]
  cases hslot : b.table.slotOf storage with
  | none =>
    refine ⟨.refl h, fun slot hsome => ?_⟩
    cases hslot.symm.trans hsome
  | some slot =>
    refine ⟨⟨h, .refl _, rfl⟩, fun other hsome => ?_⟩
    have hsame : (b.table.adjust slot noteFull).slotOf storage = b.table.slotOf storage := by
      refine VolumeTable.slotOf_congr (fun other => ?_) storage
      by_cases hne : other = slot
      · rw [hne, VolumeTable.volume_adjust_self]
        rfl
      · rw [VolumeTable.volume_adjust_of_ne hne]
    obtain rfl : slot = other := Option.some.inj (hslot.symm.trans (hsame.symm.trans hsome))
    show noteFull ((b.table.adjust slot noteFull).volume slot) = (b.table.adjust slot noteFull).volume slot
    rw [VolumeTable.volume_adjust_self]
    exact Volume.noteFull_noteFull _

/-- Once a report was handled the bay has taken it in. -/
theorem taken (h : Ready b.engine) (ha : b.table.Apart) (event : DeviceEvent) :
    Asked b (handleEvent event b) ∧ HasTaken event (handleEvent event b) := by
  cases event with
  | storeAdded storage => exact (leaves_storeAdded h storage).state
  | storeRemoved storage => exact taken_storeRemoved h ha storage
  | storeFull storage => exact taken_storeFull h storage
  | storageInfoChanged storage =>
    obtain ⟨hasked, hfresh, -⟩ := refreshed h
    refine ⟨hasked, fun slot hm => ?_⟩
    obtain ⟨info, hinfo, heq⟩ := hfresh slot hm
    refine ⟨info, (congrArg (OrderedMap.get? · _) hasked.alike.storages).trans hinfo, ?_⟩
    have hsame : (handleEvent (.storageInfoChanged storage) b) = b.refresh.2 := rfl
    rw [hsame, hasked.alike.census, hasked.uploads, heq]
  | deviceReset =>
    have hscan : (reactTo .deviceReset).Leaves b (fun _ b' => Asked b b' ∧ HasTaken .deviceReset b')
        fun _ b' => Asked b b' ∧ HasTaken .deviceReset b' := by
      refine leaves_bind ((leaves_scan_ready h).mono ?_ ?_)
      · intro _ b₁ hscanned
        exact leaves_pure ⟨hscanned.toAsked, fun _ => ⟨hscanned.current, hscanned.seated⟩⟩
      · rintro error b₁ ⟨hunmoved, hlong⟩
        exact ⟨hunmoved.toAsked, fun hlists => absurd (hunmoved.alike.listsStorages_iff.mp hlists) hlong⟩
    exact hscan.state
  | _ => exact ⟨.refl h, trivial⟩

/-! ### The next time -/

/-- A bay that has taken a report in does nothing about it any more. -/
theorem HasTaken.unmoved (ht : HasTaken event b) (h : Ready b.engine) (hnil : b.changes = []) :
    Unmoved b (handleEvent event b) := by
  cases event with
  | storeAdded storage =>
    have hscan : (reactTo (.storeAdded storage)).Leaves b (fun _ b' => Unmoved b b') fun _ b' => Unmoved b b' := by
      refine leaves_bind ((leaves_scan_ready h).mono ?_ fun _ _ hunmoved => hunmoved.1)
      intro _ b₁ hscanned
      obtain ⟨hcurrent, hseated, hslots⟩ := ht hscanned.lists
      have hunmoved := hscanned.unmoved hcurrent hseated hnil
      refine leaves_bind (leaves_read ?_)
      cases hslot : b₁.table.slotOf storage with
      | none => exact leaves_pure hunmoved
      | some slot =>
        refine (leaves_welcome slot b₁).mono ?_ fun _ _ hf => hf.elim
        rintro _ b₂ (⟨rfl, -⟩ | ⟨hmounts, -⟩)
        · exact hunmoved
        · have hinserted := hmounts.inserted
          rw [hunmoved.table] at hslot hinserted
          exact absurd hinserted (hslots slot hslot)
    exact hscan.state
  | storeRemoved storage =>
    have hgone : b.table.slotOf storage = none := ht
    rw [handleEvent_storeRemoved, hgone]
    exact .refl h
  | storeFull storage =>
    rw [handleEvent_storeFull]
    cases hslot : b.table.slotOf storage with
    | none => exact .refl h
    | some slot => exact ⟨⟨h, .refl _, rfl⟩, VolumeTable.adjust_of_eq noteFull (ht slot hslot), rfl⟩
  | storageInfoChanged storage =>
    obtain ⟨hasked, -, hsame⟩ := refreshed h
    exact ⟨hasked, hsame ht, (course_refresh b).changes_of_table (hsame ht) hnil⟩
  | deviceReset =>
    have hscan : (reactTo .deviceReset).Leaves b (fun _ b' => Unmoved b b') fun _ b' => Unmoved b b' := by
      refine leaves_bind ((leaves_scan_ready h).mono ?_ fun _ _ hunmoved => hunmoved.1)
      intro _ b₁ hscanned
      obtain ⟨hcurrent, hseated⟩ := ht hscanned.lists
      exact leaves_pure (hscanned.unmoved hcurrent hseated hnil)
    exact hscan.state
  | _ => exact .refl h

end Bay

/-! ## The store -/

namespace Index

variable {x : Index}

theorem uncache_of_not_cached {handle : UInt32} (h : x.ticks.get? handle = none) :
    x.uncache handle = (none, x) := by
  unfold uncache
  rw [OrderedMap.contains_eq_false_iff.mpr h]
  rfl

theorem Linked.uncache_uncache (hx : Linked x) (handle : UInt32) :
    ((x.uncache handle).2.uncache handle).2 = (x.uncache handle).2 := by
  rw [uncache_of_not_cached]
  rw [hx.ticks_uncache, if_pos rfl]

theorem Linked.remove_remove (hx : Linked x) (handle : UInt32) :
    ((x.remove handle).2.remove handle).2 = (x.remove handle).2 := by
  have hticks : (x.remove handle).2.ticks.get? handle = none := by
    rw [hx.ticks_remove, if_pos rfl]
  have htree : ((x.remove handle).2.tree).erase handle = (x.remove handle).2.tree :=
    OrderedMap.erase_of_get?_eq_none (OrderedMap.get?_erase_self _ _)
  show { ((x.remove handle).2.uncache handle).2 with tree :=
    ((x.remove handle).2.uncache handle).2.tree.erase handle } = _
  rw [uncache_of_not_cached hticks]
  dsimp only
  rw [htree]

theorem Linked.clear_clear (hx : Linked x) : x.clear.2.clear.2 = x.clear.2 := by
  show { (x.clear.2.uncacheAll x.clear.2.cachedHandles).2 with tree := .empty } = _
  rw [hx.cachedHandles_clear]
  rfl

end Index

/-- A store that has taken a report in does nothing about it any more. -/
theorem Store.handleEvent_handleEvent {s : Store} (hx : Linked s.index) (event : DeviceEvent) :
    (s.handleEvent event).handleEvent event = s.handleEvent event := by
  cases event with
  | objectRemoved handle => exact congrArg (fun index => { s with index }) (hx.remove_remove handle)
  | objectInfoChanged handle => exact congrArg (fun index => { s with index }) (hx.uncache_uncache handle)
  | deviceReset => exact congrArg (fun index => { s with index }) hx.clear_clear
  | _ => rfl

/-! ## The host -/

/-- Where the bay and the store do nothing about a report, nothing happens. -/
theorem Host.spared_handleEvent {h : Host Camera} {event : DeviceEvent}
    (hbay : h.bay.Unmoved (Bay.handleEvent event h.bay))
    (hnil : h.bay.changes = []) (hstore : h.store.handleEvent event = h.store) :
    h.Spared (h.handleEvent event) := by
  have hquiet := updateBay_of_quiet (f := Bay.handleEvent event) (hbay.changes.trans hnil)
  unfold handleEvent
  rw [hquiet]
  exact ⟨hstore, hbay.table, rfl, hbay.alike.objects, hbay.alike.storages⟩

/-- Wherever a run at a camera comes: once a report was handled while the camera had no fault armed and a session
was open, handling it again changes neither the slots nor the store, and nothing is told to anyone, also when it
comes after some time in which the camera goes on to hold the same. -/
theorem Operated.repeated_event {may : Engine Camera → Prop} {h : Host Camera} (hr : Operated may h)
    (hready : Ready h.bay.engine) (event : DeviceEvent) :
    (h.handleEvent event).Spared ((h.handleEvent event).handleEvent event) ∧
      ∀ e, Ready e → h.bay.engine.link.Alike e.link →
        (h.handleEvent event).Spared
          (Host.handleEvent event { h.handleEvent event with bay :=
            { (h.handleEvent event).bay with engine := e } }) := by
  obtain ⟨hasked, htaken⟩ := Bay.taken hready hr.apart event
  have hlinked : Linked ((Bay.handleEvent event h.bay).changes.foldl Store.follow h.store).index :=
    kept_linked.followAll _ hr.reached.linked
  have hstore := Store.handleEvent_handleEvent hlinked event
  -- the bay that has told its changes, with whatever engine finds the camera as it was
  have hlater : ∀ e, Ready e → h.bay.engine.link.Alike e.link →
      (h.handleEvent event).Spared
        (Host.handleEvent event { h.handleEvent event with bay :=
            { (h.handleEvent event).bay with engine := e } }) := by
    intro e he halike
    have hsame : (Bay.handleEvent event h.bay).Asked { (h.handleEvent event).bay with engine := e } :=
      ⟨he, hasked.alike.symm.trans halike, rfl⟩
    have hunmoved := (htaken.of_asked hsame rfl).unmoved he rfl
    have hbefore : (h.handleEvent event).Spared { h.handleEvent event with bay :=
      { (h.handleEvent event).bay with engine := e } } :=
      ⟨rfl, rfl, rfl, hsame.alike.objects, hsame.alike.storages⟩
    exact hbefore.trans (Host.spared_handleEvent hunmoved rfl hstore)
  exact ⟨hlater _ hasked.ready hasked.alike, hlater⟩

/-- The camera reports twice that the card of a cached picture is gone. -/
theorem Operated.repeated_event_removed :
    (Operated (fun _ => True) Host.pictured ∧ Ready Host.pictured.bay.engine ∧
      Host.pictured.store.index.cachedBytes = 3 ∧
      (Host.pictured.handleEvent (.storeRemoved Camera.cfExpressId)).notices = [.unmounted 0] ∧
      (Host.pictured.handleEvent (.storeRemoved Camera.cfExpressId)).store.index.cachedBytes = 0) ∧
    (Host.pictured.handleEvent (.storeRemoved Camera.cfExpressId)).Spared
      ((Host.pictured.handleEvent (.storeRemoved Camera.cfExpressId)).handleEvent
        (.storeRemoved Camera.cfExpressId)) := by
  have hr : Operated (fun _ => True) Host.pictured := .pictured trivial
  have hready : Ready Host.pictured.bay.engine :=
    ⟨⟨hr.calm, by decide +kernel, rfl, by decide +kernel⟩, by decide +kernel, by decide +kernel⟩
  exact ⟨⟨hr, hready, by decide +kernel, by decide +kernel, by decide +kernel⟩,
    (Operated.repeated_event hr hready _).1⟩

end Tether
