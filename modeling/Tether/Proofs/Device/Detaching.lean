import Tether.Proofs.Cache.Surplus
import Tether.Proofs.Device.Runs
import Tether.Proofs.Exchange.Sessions

/-!
# Tether.Proofs.Device.Detaching — what is left when a camera is detached

Detaching drops the objects, gives the slots up and closes the session, each of them whatever the others leave
and whatever becomes of the last exchange.  What was handed out before finds no card and no session in such a
host, and nothing can be asked for (`Host.Spent`).  Only the byte count may not come back to 0: what was counted
too much stays on it (`Device.detach_completes`).
-/

namespace Tether

open Ptp Tether.Action
open Index (Surplus)

variable {τ : Type}

/-! ## Giving everything up -/

namespace Bay

theorem table_vacate (slot : Slot) (b : Bay τ) : (b.vacate slot).table = b.table.reset slot := by
  show (b.reportUnmounted slot).table.reset slot = _
  rw [table_reportUnmounted]

theorem table_unmountAll (b : Bay τ) : b.unmountAll.table = (b.table.reset 0).reset 1 := by
  show ((b.vacate 0).vacate 1).table = _
  rw [table_vacate, table_vacate]

theorem volume_unmountAll (slot : Slot) (b : Bay τ) : b.unmountAll.table.volume slot = .empty slot := by
  rw [table_unmountAll]
  match slot with
  | 0 => rw [VolumeTable.volume_reset_of_ne (by decide), VolumeTable.volume_reset_self]
  | 1 => rw [VolumeTable.volume_reset_self]

theorem active_unmountAll (b : Bay τ) : b.unmountAll.table.active = none := by
  rw [table_unmountAll]
  refine Option.eq_none_iff_forall_ne_some.mpr fun slot ha => ?_
  obtain ⟨ha, hone⟩ := VolumeTable.active_reset_iff.mp ha
  obtain ⟨-, hzero⟩ := VolumeTable.active_reset_iff.mp ha
  match slot with
  | 0 => exact hzero rfl
  | 1 => exact hone rfl

end Bay

namespace Store

variable {s : Store}

theorem handlesOn_of_empty (hs : s.index.tree = .empty) (slot : Slot) (cachedOnly : Bool) :
    s.handlesOn slot cachedOnly = [] := by
  unfold handlesOn
  rw [hs]
  rfl

/-- A store without objects drops nothing when slots are given up. -/
theorem followAll_of_empty (hs : s.index.tree = .empty) (changes : List VolumeChange) :
    changes.foldl follow s = s := by
  have hfollow : ∀ change, s.follow change = s := by
    intro change
    cases change with
    | unmounted slot =>
      unfold follow
      dsimp only
      rw [handlesOn_of_empty hs]
      rfl
    | formatted slot =>
      unfold follow
      dsimp only
      rw [handlesOn_of_empty hs]
      rfl
  induction changes with
  | nil => rfl
  | cons change rest ih =>
    rw [List.foldl_cons, hfollow]
    exact ih

end Store

namespace Host

/-- Nothing is left in a host: no card, no object, no session, and nothing to tell. -/
structure Spent (h : Host τ) : Prop where
  volume : ∀ slot, h.bay.table.volume slot = .empty slot
  active : h.bay.table.active = none
  tree : h.store.index.tree = .empty
  session : h.bay.engine.session = none
  changes : h.bay.changes = []

section TearDown

variable [Transport τ]

theorem store_tearDown (h : Host τ) : h.tearDown.store = h.store.clear :=
  Store.followAll_of_empty rfl _

theorem spent_tearDown (h : Host τ) : h.tearDown.Spent where
  volume slot := Bay.volume_unmountAll slot h.bay
  active := Bay.active_unmountAll h.bay
  tree := by
    rw [store_tearDown]
    rfl
  session := Engine.session_closeSession _
  changes := rfl

end TearDown

namespace Spent

variable [Transport τ] {h : Host τ} (hs : h.Spent)
include hs

omit [Transport τ] in
theorem barred : h.Barred := by
  intro slot ha
  rw [hs.active] at ha
  cases ha

theorem scan : ∃ error, onBay Bay.scan h = (.error error, h) := by
  have hids : Engine.storageIds.Leaves h.bay.engine (fun _ _ => False) fun _ e' => e' = h.bay.engine :=
    Engine.leaves_askDataset_of_closed hs.session (by decide) _ _
  obtain ⟨error, herror⟩ := hids.eq_error
  have hscan := Bay.scan_of_unlisted herror
  have hsettle : h.settle = h := updateBay_of_quiet (f := id) hs.changes
  refine ⟨.ofPtp none error, ?_⟩
  unfold onBay
  rw [hscan]
  exact congrArg (Prod.mk _) hsettle

theorem fetch (handle : UInt32) : ∃ error, Host.fetch handle h = (.error error, h) := by
  refine Leaves.eq_error ?_
  unfold Host.fetch
  split
  · exact leaves_bind (leaves_fail rfl)
  · refine leaves_bind (leaves_call_of ?_)
    refine (Engine.leaves_askDataset_of_closed hs.session (by decide) _ _).mono (fun _ _ hf => hf.elim) ?_
    rintro _ _ rfl
    rfl

omit [Transport τ] in
theorem activeSlot : Mount.activeSlot h = (.error (.noSuchDevice none), h) := by
  unfold Mount.activeSlot
  rw [bind_apply]
  show Action.ofOption _ h.bay.table.active h = _
  rw [hs.active]
  rfl

theorem list (dir : Node) : ∃ error, Mount.list dir h = (.error error, h) := by
  refine Leaves.eq_error (leaves_bind (leaves_read (leaves_bind (leaves_bind (leaves_read ?_)))))
  split
  · exact leaves_bind (leaves_fail rfl)
  · exact leaves_bind (leaves_of_eq_error hs.activeSlot rfl)

end Spent

end Host

/-! ## The device -/

namespace Device

variable [Transport τ] {d : Device τ}

theorem Used.reached (hu : d.Used) : Reached True d.host := by
  refine hu.host (P := fun _ h => Reached True h) (fun _ => ?_) fun info engine budget staleness => ?_
  · exact ⟨Reached.changes_nil, fun c _ _ hr => hr.bay c.run, fun c _ _ hr => .call c hr (.inl trivial)⟩
  · exact .new _ [] budget staleness rfl

theorem detach_of_attached (hattached : d.isDetached = false) :
    d.detach.host = d.host.tearDown ∧ d.detach.isDetached = true := by
  unfold detach
  rw [hattached]
  exact ⟨rfl, rfl⟩

/-- Whatever was done with a device, and whatever the camera answers to the last command or fails to: after
detaching every slot is empty and none is active, there are no objects and none is cached, the session is closed,
nothing can be mounted, and every scan, description, listing, write, creation and deletion fails and leaves
everything as it is, so that nothing is sent; detaching once more changes nothing.  On the byte count stays what
was counted too much before, so it is 0 exactly when the count was right. -/
theorem detach_completes (hu : d.Used) (hattached : d.isDetached = false) :
    (∀ slot, d.detach.host.bay.table.volume slot = .empty slot) ∧ d.detach.host.bay.table.active = none ∧
    d.detach.host.store.index.tree = .empty ∧ d.detach.host.store.index.cachedHandles = [] ∧
    d.detach.host.store.index.cachedBytes + d.host.store.index.heldBytes = d.host.store.index.cachedBytes ∧
    (d.detach.host.store.index.cachedBytes = 0 ↔ d.host.store.index.cachedBytes = d.host.store.index.heldBytes) ∧
    d.detach.isSessionOpen = false ∧
    (∀ options, d.detach.mount options = (.error .notConnected, d.detach)) ∧
    (∃ error, Host.onBay Bay.scan d.detach.host = (.error error, d.detach.host)) ∧
    (∀ handle, ∃ error, Host.fetch handle d.detach.host = (.error error, d.detach.host)) ∧
    (∀ dir, ∃ error, Mount.list dir d.detach.host = (.error error, d.detach.host)) ∧
    (∀ m : Mount, (∀ n content, ∃ error, m.write n content d.detach.host = (.error error, d.detach.host)) ∧
      (∀ dir name content, ∃ error, m.create dir name content d.detach.host = (.error error, d.detach.host)) ∧
      ∀ n, ∃ error, m.unlink n d.detach.host = (.error error, d.detach.host)) ∧
    d.detach.detach = d.detach := by
  obtain ⟨hhost, hdetached⟩ := detach_of_attached hattached
  obtain ⟨n, hn⟩ := hu.reached.surplus
  have hindex : d.host.tearDown.store.index = d.host.store.index.clear.2 := by
    rw [Host.store_tearDown]
    rfl
  have hcleared : d.host.tearDown.store.index.cachedBytes = n := by
    rw [hindex, hn.cachedBytes_clear]
  have hcached : d.host.tearDown.store.index.cachedHandles = [] := by
    rw [hindex, hn.cachedHandles_clear]
  have hs := d.host.spent_tearDown
  have hcounted := hn.counted
  have hclosed : d.detach.isSessionOpen = false := by
    unfold isSessionOpen Engine.isSessionOpen
    rw [hhost, hs.session]
    rfl
  have hmount : ∀ options, d.detach.mount options = (.error .notConnected, d.detach) :=
    fun options => if_pos hdetached
  have hagain : d.detach.detach = d.detach := if_pos hdetached
  refine ⟨?_, ?_, ?_, ?_, ?_, ?_, hclosed, hmount, ?_, ?_, ?_, ?_, hagain⟩
  all_goals rw [hhost]
  · exact hs.volume
  · exact hs.active
  · exact hs.tree
  · exact hcached
  · omega
  · omega
  · exact hs.scan
  · exact hs.fetch
  · exact hs.list
  · exact fun m => ⟨hs.barred.write m, hs.barred.create m, hs.barred.unlink m⟩

/-- An upload is cached on the first card. -/
def caching : List (DeviceStep Camera) :=
  [.mount {}, .store (.writeNew "a.jpg" [1, 2, 3] 0), .store (.cache 0)]

/-- The camera forgets the upload and gives its handle out again. -/
def forgetting : List (DeviceStep Camera) :=
  [.bay (.step (.engine fun e => { e with link := { e.link with objects := .empty, nextHandle := 1 } })),
    .store (.writeNew "b.jpg" [4] 0)]

theorem usual_caching : ∀ s ∈ caching, s.Usual := by
  simp only [caching, List.forall_mem_cons]
  exact ⟨trivial, trivial, trivial, List.forall_mem_nil _⟩

theorem usual_forgetting : ∀ s ∈ forgetting, s.Usual := by
  simp only [forgetting, List.forall_mem_cons]
  exact ⟨trivial, trivial, List.forall_mem_nil _⟩

/-- What was cached is no longer counted once the camera is detached. -/
theorem detach_completes_caching :
    ∃ d : Device Camera, (d.Used ∧ d.isDetached = false ∧ d.host.store.index.cachedBytes = 3) ∧
      d.detach.host.store.index.cachedBytes = 0 ∧ d.detach.mount {} = (.error .notConnected, d.detach) := by
  have hbegin : ((attached? Engine.idle.clock (.withTwoCards Engine.idle.clock)).map fun d =>
      let d := DeviceStep.runAll caching d
      decide (d.isDetached = false ∧ d.host.store.index.cachedBytes = 3 ∧ d.host.store.index.heldBytes = 3)) =
          some true := by
    decide +kernel
  obtain ⟨d, hd, hfacts⟩ := Option.map_eq_some_iff.mp hbegin
  obtain ⟨hattached, hcached, hheld⟩ := of_decide_eq_true hfacts
  have hu := (used_of_attached? hd).runAll usual_caching
  obtain ⟨-, -, -, -, -, hcount, -, hmount, -⟩ := detach_completes hu hattached
  exact ⟨_, ⟨hu, hattached, hcached⟩, hcount.mpr (hcached.trans hheld.symm), hmount {}⟩

/-- The bytes of the forgotten upload are still counted once the camera is detached. -/
theorem detach_leaves_count :
    ∃ d : Device Camera, d.Used ∧ d.isDetached = false ∧ d.detach.host.store.index.cachedBytes = 3 := by
  have hbegin : ((attached? Engine.idle.clock (.withTwoCards Engine.idle.clock)).map fun d =>
      let d := DeviceStep.runAll (caching ++ forgetting) d
      decide (d.isDetached = false ∧ d.detach.host.store.index.cachedBytes = 3)) = some true := by
    decide +kernel
  obtain ⟨d, hd, hfacts⟩ := Option.map_eq_some_iff.mp hbegin
  obtain ⟨hattached, hcached⟩ := of_decide_eq_true hfacts
  have hu := (used_of_attached? hd).runAll (List.forall_mem_append.mpr ⟨usual_caching, usual_forgetting⟩)
  exact ⟨_, hu, hattached, hcached⟩

end Device

end Tether
