import Tether.Proofs.Volume.Turn

/-!
# Tether.Proofs.Volume.Survey — what a scan makes of the camera's answers

A scan asks for the list of storages and then, slot by slot, about the storage at the slot's place in this list.
What it finds there (`Bay.finding`) and the record before decide the record afterwards (`Volume.found`), and the
slot that was active stays so if it is still mounted (`Bay.scan_of_listed`).  A scan that is refused the list
changes no slot (`Bay.scan_of_unlisted`).
-/

namespace Tether

open Ptp
open Tether.Action

/-- What a scan finds at the place of a slot. -/
inductive Finding where
  /-- The list of storages ends before. -/
  | nothing
  /-- A storage that the camera does not describe. -/
  | unreadable (storage : UInt32)
  /-- A storage, with its description and the numbers of its objects. -/
  | card (storage : UInt32) (info : StorageInfo) (census : Bay.Census)
deriving DecidableEq

namespace Finding

/-- Whether it is a readable card of a storage. -/
def isCardOf (storage : UInt32) : Finding → Bool
  | .card found _ _ => found = storage
  | _ => false

theorem ne_unreadable_of_isCardOf {finding : Finding} {storage other : UInt32}
    (h : finding.isCardOf storage = true) :
    finding ≠ .unreadable other := by
  rintro rfl
  cases h

end Finding

namespace Volume

/-- The record of a slot after a scan that found this in it. -/
def found (uploads : Bool) (slot : Slot) (v : Volume) : Finding → Volume
  | .nothing => .empty slot
  | .unreadable storage => Bay.unreadable slot storage
  | .card storage info census =>
    if v.isMounted ∧ v.storageId = storage then (v.reported storage info census uploads).remounted
    else { v.reported storage info census uploads with status := .inserted }

variable {uploads : Bool} {slot : Slot} {v : Volume} {finding : Finding}

theorem turn_found (uploads : Bool) (slot : Slot) (v : Volume) (finding : Finding) :
    Turn uploads slot v (v.found uploads slot finding) := by
  cases finding with
  | nothing => exact .emptied v
  | unreadable storage => exact .unreadable v storage
  | card storage info census =>
    unfold found
    dsimp only
    split
    · rename_i hkept
      rw [← hkept.2]
      exact .reread v info census hkept.1
    · exact .inserted v storage info census

/-- A slot is mounted after a scan if it was mounted before and the card in it is the same. -/
theorem isMounted_found_iff :
    (v.found uploads slot finding).isMounted = true ↔
      v.isMounted = true ∧ finding.isCardOf v.storageId = true := by
  cases finding with
  | nothing => exact ⟨fun h => (by cases h), fun h => (by cases h.2)⟩
  | unreadable storage => exact ⟨fun h => (by cases h), fun h => (by cases h.2)⟩
  | card storage info census =>
    unfold found
    dsimp only
    by_cases hkept : v.isMounted = true ∧ v.storageId = storage
    · rw [if_pos hkept]
      have hcard : (Finding.card storage info census).isCardOf v.storageId = true := by
        simp [Finding.isCardOf, hkept.2]
      exact ⟨fun _ => ⟨hkept.1, hcard⟩, fun _ => isMounted_remounted _⟩
    · rw [if_neg hkept]
      refine ⟨fun h => (by cases h), fun ⟨hm, hcard⟩ => absurd ⟨hm, ?_⟩ hkept⟩
      exact (of_decide_eq_true hcard).symm

/-- A scan keeps a slot on the storage it found there. -/
theorem storageId_found {storage : UInt32} (h : finding = .unreadable storage ∨ finding.isCardOf storage = true) :
    (v.found uploads slot finding).storageId = storage := by
  rcases h with rfl | h
  · rfl
  · cases finding with
    | nothing => cases h
    | unreadable storage => cases h
    | card found info census =>
      have heq : found = storage := of_decide_eq_true h
      unfold Volume.found
      dsimp only
      split <;> exact heq

end Volume

namespace Bay

variable {τ : Type} [Transport τ]

/-- What the camera tells about a storage. -/
def askAbout (storage : UInt32) (e : Engine τ) : Finding × Engine τ :=
  match Engine.storageInfo storage e with
  | (.error _, e) => (.unreadable storage, e)
  | (.ok info, e) => (.card storage info (census storage e).1, (census storage e).2)

/-- What the camera tells about the place of a slot in a list of storages. -/
def lookAt (storages : List UInt32) (slot : Slot) (e : Engine τ) : Finding × Engine τ :=
  match storages[slot.val]? with
  | some storage => askAbout storage e
  | none => (.nothing, e)

/-- The engine when a scan comes to a slot: it has asked about the slots before. -/
def engineAt (storages : List UInt32) (slot : Slot) (e : Engine τ) : Engine τ :=
  (Slot.all.take slot.val).foldl (fun e before => (lookAt storages before e).2) e

/-- What a scan finds in a slot, after the camera has listed its storages. -/
def finding (storages : List UInt32) (slot : Slot) (e : Engine τ) : Finding :=
  (lookAt storages slot (engineAt storages slot e)).1

/-- The list may be cut to the number of slots. -/
theorem lookAt_take (storages : List UInt32) (slot : Slot) (e : Engine τ) :
    lookAt (storages.take slotCount) slot e = lookAt storages slot e := by
  unfold lookAt
  rw [List.getElem?_take_of_lt slot.isLt]

theorem finding_take (storages : List UInt32) (slot : Slot) (e : Engine τ) :
    finding (storages.take slotCount) slot e = finding storages slot e := by
  unfold finding engineAt
  simp only [lookAt_take]

/-- A scan finds in a slot nothing else than the storage at its place. -/
theorem finding_of_getElem? {storages : List UInt32} {slot : Slot} {storage : UInt32}
    (h : storages[slot.val]? = some storage) (e : Engine τ) :
    finding storages slot e = .unreadable storage ∨ (finding storages slot e).isCardOf storage = true := by
  unfold finding lookAt askAbout
  rw [h]
  dsimp only
  split
  · exact .inl rfl
  · exact .inr (decide_eq_true rfl)

theorem getElem?_of_isCardOf {storages : List UInt32} {slot : Slot} {storage : UInt32} {e : Engine τ}
    (h : (finding storages slot e).isCardOf storage = true) : storages[slot.val]? = some storage := by
  cases hs : storages[slot.val]? with
  | none =>
    unfold finding lookAt at h
    rw [hs] at h
    cases h
  | some found =>
    rcases finding_of_getElem? hs e with hf | hf
    · rw [hf] at h
      cases h
    · cases hc : finding storages slot e with
      | nothing =>
        rw [hc] at h
        cases h
      | unreadable storage =>
        rw [hc] at h
        cases h
      | card other info census =>
        rw [hc] at h hf
        have hother : other = storage := of_decide_eq_true h
        have hfound : other = found := of_decide_eq_true hf
        rw [← hfound, hother]

/-! ## One slot -/

section Slot

omit [Transport τ]

variable {slot : Slot} {finding : Finding} {b b' : Bay τ} {w : Volume}

/-- From `b` to `b'` a slot became what was found in it, and no other slot changed. -/
structure Fills (slot : Slot) (finding : Finding) (b b' : Bay τ) : Prop where
  uploads : b'.uploads = b.uploads
  volume : b'.table.volume slot = (b.table.volume slot).found b.uploads slot finding
  other : ∀ other, other ≠ slot → b'.table.volume other = b.table.volume other
  changes : b'.changes = b.changes ++
    if (b.table.volume slot).isMounted ∧ ¬ (b'.table.volume slot).isMounted then [.unmounted slot] else []
  active : ∀ s, b'.table.active = some s ↔ b.table.active = some s ∧ ¬ (s = slot ∧ finding = .nothing)

theorem Fills.turns (h : Fills slot finding b b') : Turns b b' := by
  refine Turns.of_slot slot h.uploads ?_ h.other h.changes
  rw [h.volume]
  exact Volume.turn_found _ _ _ _

/-- A slot that stays mounted. -/
theorem fills_adjust (engine : Engine τ) (hw : w = (b.table.volume slot).found b.uploads slot finding)
    (hmounted : w.isMounted = (b.table.volume slot).isMounted) (hne : finding ≠ .nothing) :
    Fills slot finding b (updateTable (·.adjust slot fun _ => w) { b with engine }) where
  uploads := rfl
  volume := (VolumeTable.volume_adjust_self _ _ _).trans hw
  other _ hother := VolumeTable.volume_adjust_of_ne hother
  changes := by
    have hself : (updateTable (·.adjust slot fun _ => w) { b with engine }).table.volume slot = w :=
      VolumeTable.volume_adjust_self _ _ _
    rw [hself, hmounted, if_neg fun h => h.2 h.1]
    exact (List.append_nil _).symm
  active _ := ⟨fun h => ⟨h, fun hn => hne hn.2⟩, And.left⟩

/-- A slot that is given up. -/
theorem fills_giveUp {f : VolumeTable → VolumeTable} (engine : Engine τ)
    (hw : (f b.table).volume slot = (b.table.volume slot).found b.uploads slot finding)
    (hmounted : ((f b.table).volume slot).isMounted = false)
    (hother : ∀ other, other ≠ slot → (f b.table).volume other = b.table.volume other)
    (hactive : ∀ s, (f b.table).active = some s ↔ b.table.active = some s ∧ ¬ (s = slot ∧ finding = .nothing)) :
    Fills slot finding b ((reportUnmounted slot { b with engine }).updateTable f) := by
  have htable : ((reportUnmounted slot { b with engine }).updateTable f).table = f b.table := by
    show f (reportUnmounted slot { b with engine }).table = _
    rw [table_reportUnmounted]
  refine ⟨uploads_reportUnmounted slot _, ?_, fun other hne => ?_, ?_, fun s => ?_⟩
  · rw [htable, hw]
  · rw [htable, hother other hne]
  · rw [htable, hmounted]
    show (reportUnmounted slot { b with engine }).changes = _
    rw [changes_reportUnmounted]
    simp
  · rw [htable]
    exact hactive s

theorem fills_vacate (slot : Slot) (b : Bay τ) : Fills slot .nothing b (b.vacate slot) := by
  refine fills_giveUp b.engine (VolumeTable.volume_reset_self _ _) ?_
    (fun _ hne => VolumeTable.volume_reset_of_ne hne) ?_
  · rw [VolumeTable.volume_reset_self]
    rfl
  · intro s
    rw [VolumeTable.active_reset_iff, and_iff_left rfl]

end Slot

/-- Reading a slot asks about its storage. -/
theorem engine_inspect (storage : UInt32) (v : Volume) (b : Bay τ) :
    (inspect storage v b).2.engine = (askAbout storage b.engine).2 := by
  unfold askAbout
  rcases inspect_cases storage v b with ⟨error, engine, hi, he⟩ | ⟨info, engine, hi, he⟩ <;> rw [hi, he]

theorem fills_fillSlot (slot : Slot) (storage : UInt32) (b : Bay τ) :
    (b.fillSlot slot storage).engine = (askAbout storage b.engine).2 ∧
      Fills slot (askAbout storage b.engine).1 b (b.fillSlot slot storage) := by
  unfold fillSlot askAbout
  dsimp only
  rcases inspect_cases storage (b.table.volume slot) b with ⟨error, engine, hi, he⟩ | ⟨info, engine, hi, he⟩
  · rw [hi, he]
    dsimp only
    refine ⟨engine_reportUnmounted slot _,
      fills_giveUp engine ?_ ?_ (fun _ hne => VolumeTable.volume_adjust_of_ne hne) ?_⟩
    · exact VolumeTable.volume_adjust_self _ _ _
    · rw [VolumeTable.volume_adjust_self]
      rfl
    · intro s
      simp
  · rw [hi, he]
    dsimp only
    split
    · rename_i hkept
      refine ⟨rfl, fills_adjust _ ?_ ?_ (by simp)⟩
      · exact (if_pos hkept).symm
      · exact (Volume.isMounted_remounted _).trans hkept.1.symm
    · rename_i hkept
      refine ⟨engine_reportUnmounted slot _,
        fills_giveUp _ ?_ ?_ (fun _ hne => VolumeTable.volume_adjust_of_ne hne) ?_⟩
      · rw [VolumeTable.volume_adjust_self]
        exact (if_neg hkept).symm
      · rw [VolumeTable.volume_adjust_self]
        rfl
      · intro s
        simp

theorem fills_placeStorage (storages : List UInt32) (b : Bay τ) (slot : Slot) :
    (placeStorage storages b slot).engine = (lookAt storages slot b.engine).2 ∧
      Fills slot (lookAt storages slot b.engine).1 b (placeStorage storages b slot) := by
  unfold placeStorage lookAt
  cases storages[slot.val]? with
  | none => exact ⟨engine_reportUnmounted slot b, fills_vacate slot b⟩
  | some storage => exact fills_fillSlot slot storage b

/-! ## All slots -/

/-- After all slots were filled, each holds what was found in it. -/
structure Surveyed (storages : List UInt32) (b b' : Bay τ) : Prop where
  turns : Turns b b'
  volume : ∀ slot, b'.table.volume slot = (b.table.volume slot).found b.uploads slot
    (finding storages slot b.engine)
  active : ∀ slot, b'.table.active = some slot ↔
    b.table.active = some slot ∧ finding storages slot b.engine ≠ .nothing

theorem surveyed_foldl (storages : List UInt32) (b : Bay τ) :
    Surveyed storages b (Slot.all.foldl (placeStorage storages) b) := by
  have hfold : Slot.all.foldl (placeStorage storages) b = placeStorage storages (placeStorage storages b 0) 1 :=
    rfl
  have hfirst : finding storages 0 b.engine = (lookAt storages 0 b.engine).1 := rfl
  obtain ⟨hengine, h₀⟩ := fills_placeStorage storages b 0
  obtain ⟨-, h₁⟩ := fills_placeStorage storages (placeStorage storages b 0) 1
  have hsecond : finding storages 1 b.engine = (lookAt storages 1 (placeStorage storages b 0).engine).1 := by
    rw [hengine]
    rfl
  rw [← hfirst] at h₀
  rw [← hsecond] at h₁
  rw [hfold]
  refine ⟨h₀.turns.trans h₁.turns, fun slot => ?_, fun slot => ?_⟩
  · match slot with
    | 0 => rw [h₁.other 0 (by decide), h₀.volume]
    | 1 => rw [h₁.volume, h₀.other 1 (by decide), h₀.uploads]
  · rw [h₁.active, h₀.active]
    match slot with
    | 0 => simp
    | 1 => simp

/-- Filling some slots in order asks about them in order. -/
theorem engine_foldl_placeStorage (storages : List UInt32) (slots : List Slot) (b : Bay τ) :
    (slots.foldl (placeStorage storages) b).engine =
      slots.foldl (fun e slot => (lookAt storages slot e).2) b.engine := by
  induction slots generalizing b with
  | nil => rfl
  | cons slot rest ih =>
    rw [List.foldl_cons, List.foldl_cons, ih, (fills_placeStorage storages b slot).1]

/-! ## The scan -/

variable {b : Bay τ} {storages : List UInt32} {engine : Engine τ}

section Call

omit [Transport τ]

variable {α : Type} {handle : Option UInt32} {x : Action (Engine τ) PtpError α}

theorem call_of_ok {a : α} (h : x b.engine = (.ok a, engine)) : call handle x b = (.ok a, { b with engine }) := by
  simp [call, within, mapError, h]

theorem call_of_error {error : PtpError}
    (h : x b.engine = (.error error, engine)) :
    call handle x b = (.error (.ofPtp handle error), { b with engine }) := by
  simp [call, within, mapError, h]

end Call

section Preserving

variable {P : Engine τ → Prop}

omit [Transport τ] in
theorem preserves_call {α : Type} {handle : Option UInt32} {x : Action (Engine τ) PtpError α} (hx : x.Keeps P) :
    (call handle x).Keeps fun b => P b.engine := by
  intro b h
  show P (x.mapError (StorageError.ofPtp handle) b.engine).2
  rw [snd_mapError]
  exact hx b.engine h

variable (hinfo : ∀ storage, (Engine.storageInfo storage : Action (Engine τ) PtpError StorageInfo).Keeps P)
  (hcount : ∀ storage format, (Engine.countObjects storage format : Action (Engine τ) PtpError UInt32).Keeps P)
include hcount

theorem preserves_census (storage : UInt32) {e : Engine τ} (h : P e) : P (census storage e).2 := by
  have hcounted := hcount storage (some .association) _ (hcount storage none e h)
  unfold census
  dsimp only
  split <;> exact hcounted

include hinfo

/-- What questions about storages keep of an engine is kept while a storage is asked about. -/
theorem preserves_askAbout (storage : UInt32) {e : Engine τ} (h : P e) : P (askAbout storage e).2 := by
  have hasked := hinfo storage e h
  unfold askAbout
  split
  · rename_i hx
    rwa [hx] at hasked
  · rename_i hx
    rw [hx] at hasked
    exact preserves_census hcount storage hasked

theorem preserves_inspect (storage : UInt32) (v : Volume) {b : Bay τ} (h : P b.engine) :
    P (inspect storage v b).2.engine := by
  rw [engine_inspect]
  exact preserves_askAbout hinfo hcount storage h

theorem preserves_placeStorage (storages : List UInt32) (slot : Slot) {b : Bay τ} (h : P b.engine) :
    P (b.placeStorage storages slot).engine := by
  rw [(fills_placeStorage storages b slot).1]
  unfold lookAt
  split
  · exact preserves_askAbout hinfo hcount _ h
  · exact h

theorem preserves_scan (hids : (Engine.storageIds : Action (Engine τ) PtpError (List UInt32)).Keeps P) :
    scan.Keeps fun b : Bay τ => P b.engine := by
  refine keeps_bind (preserves_call hids) fun storages => ?_
  refine keeps_bind (keeps_change fun b h => ?_) fun _ => keeps_pure _
  exact preserves_placeStorage hinfo hcount _ _ (preserves_placeStorage hinfo hcount _ _ h)

end Preserving

/-- A scan that the camera answers with a list of storages fills every slot, and the active slot stays so if it is
mounted. -/
theorem scan_of_listed (h : Engine.storageIds b.engine = (.ok storages, engine)) :
    ∃ b', scan b = (.ok (min slotCount storages.length), b') ∧ Course b b' ∧
      (∀ slot, b'.table.volume slot = (b.table.volume slot).found b.uploads slot (finding storages slot engine)) ∧
      ∀ slot, b'.table.active = some slot ↔
        b.table.active = some slot ∧ (b'.table.volume slot).isMounted = true := by
  have hscan : scan b = (.ok (storages.take slotCount).length,
      (Slot.all.foldl (placeStorage (storages.take slotCount)) { b with engine }).updateTable
          (·.settleActive)) := by
    unfold scan
    rw [bind_apply, call_of_ok h]
    rfl
  obtain ⟨hturns, hvolume, hactive⟩ := surveyed_foldl (storages.take slotCount) { b with engine }
  generalize Slot.all.foldl (placeStorage (storages.take slotCount)) { b with engine } = filled
    at hscan hturns hvolume hactive
  simp only [finding_take] at hvolume hactive
  have hasked : Turns b { b with engine } := .of_same rfl (fun _ => rfl) rfl
  have hsettled : Turns filled (filled.updateTable (·.settleActive)) := .of_same rfl (fun _ => rfl) rfl
  have hiff : ∀ slot, (filled.updateTable (·.settleActive)).table.active = some slot ↔
      b.table.active = some slot ∧ (filled.table.volume slot).isMounted = true := by
    intro slot
    have hfilter : (filled.updateTable (·.settleActive)).table.active = some slot ↔
        filled.table.active = some slot ∧ (filled.table.volume slot).isMounted = true := Option.filter_eq_some_iff
    rw [hfilter, hactive]
    constructor
    · rintro ⟨⟨ha, -⟩, hm⟩
      exact ⟨ha, hm⟩
    · rintro ⟨ha, hm⟩
      refine ⟨⟨ha, fun hnothing => ?_⟩, hm⟩
      -- a slot in which nothing was found is not mounted
      rw [hvolume slot, hnothing] at hm
      cases hm
  refine ⟨_, by rw [hscan, List.length_take], ⟨(hasked.trans hturns).trans hsettled, fun _ slot ha => ?_⟩, hvolume,
    hiff⟩
  exact ((hiff slot).mp ha).2

/-- What a scan asks does not depend on the slots. -/
theorem engine_scan (h : Engine.storageIds b.engine = (.ok storages, engine)) :
    (scan b).2.engine = Slot.all.foldl (fun e slot => (lookAt storages slot e).2) engine := by
  have hfold := engine_foldl_placeStorage (storages.take slotCount) Slot.all { b with engine }
  simp only [lookAt_take] at hfold
  rw [← hfold]
  unfold scan
  rw [bind_apply, call_of_ok h]
  rfl

/-- A scan that is refused the list of storages changes the engine alone. -/
theorem scan_of_unlisted {error : PtpError} (h : Engine.storageIds b.engine = (.error error, engine)) :
    scan b = (.error (.ofPtp none error), { b with engine }) := by
  unfold scan
  rw [bind_apply, call_of_error h]

/-- A scan is a course of the slots, and one that fails leaves the table as it is. -/
theorem leaves_scan (b : Bay τ) :
    scan.Leaves b (fun _ b' => Course b b') fun _ b' => Course b b' ∧ b'.table = b.table := by
  cases h : Engine.storageIds b.engine with
  | mk r engine =>
    cases r with
    | ok storages =>
      obtain ⟨b', hscan, hcourse, -, -⟩ := scan_of_listed h
      exact leaves_of_eq_ok hscan hcourse
    | error error => exact leaves_of_eq_error (scan_of_unlisted h) ⟨Course.of_engine engine, rfl⟩

end Bay

end Tether
