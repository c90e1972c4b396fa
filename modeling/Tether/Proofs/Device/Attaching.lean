import Tether.Device
import Tether.Proofs.Exchange.Sessions
import Tether.Proofs.Host.Effects
import Tether.Proofs.Volume.Survey

/-!
# Tether.Proofs.Device.Attaching — an attaching that fails leaves no session

Behind the command that opens the session an attaching asks any number of questions, and most of the failures
among them are fatal while others are absorbed.  What every transaction keeps is kept by all of them
(`keeps_prepare`): the session that was recorded, and that what is sent comes behind what was sent before.  So
wherever an attaching fails the session is there to be closed, and that is the last thing that is sent.
-/

namespace Tether

open Ptp Tether.Action
open Calendar (Instant)

variable {τ : Type} [Transport τ]

/-! ## What transactions keep -/

namespace Engine

variable {P : Engine τ → Prop}
    (hP : ∀ operation parameters payload, (execute operation parameters payload).Keeps P)
include hP

theorem preserves_executeOk (operation : Operation) (parameters : List UInt32) (payload : Option Bytes) :
    (executeOk operation parameters payload).Keeps P :=
  keeps_bind (hP operation parameters payload) fun _ => keeps_ofExcept _

theorem preserves_askDataset {α : Type} (operation : Operation) (parameters : List UInt32)
    (parse : Bytes → Except PtpError α) : (askDataset operation parameters parse).Keeps P :=
  keeps_bind (preserves_executeOk hP _ _ _) fun _ => keeps_bind (keeps_ofExcept _) fun _ => keeps_ofExcept _

theorem preserves_countObjects (storage : UInt32) (format : Option ObjectFormat) :
    (countObjects storage format).Keeps P :=
  keeps_bind (preserves_executeOk hP _ _ _) fun _ => keeps_ofOption _ _

end Engine

/-- What every transaction keeps is kept while the camera is asked about itself and its cards. -/
theorem Host.keeps_prepare {P : Engine τ → Prop}
    (hP : ∀ operation parameters payload, (Engine.execute operation parameters payload).Keeps P) :
    prepare.Keeps fun h : Host τ => P h.bay.engine := by
  have hask : ∀ {α : Type} operation parameters (parse : Bytes → Except PtpError α),
      (Engine.askDataset operation parameters parse).Keeps P := Engine.preserves_askDataset hP
  have hscan := Bay.preserves_scan (fun _ => hask _ _ _) (Engine.preserves_countObjects hP) (hask _ _ _)
  refine keeps_bind (fun h hp => Bay.preserves_call (hask _ _ _) h.bay hp) fun info => ?_
  refine keeps_bind (keeps_change fun h hp => hp) fun _ => ?_
  refine keeps_bind (fun h hp => hscan h.bay hp) fun _ => ?_
  exact keeps_bind (keeps_change fun h hp => hp) fun _ => keeps_pure _

/-! ## What is sent -/

namespace Engine

variable {e : Engine (Recorded τ)} {operation : Operation} {parameters : List UInt32}

/-- A command without data goes out in one transfer, as it is encoded. -/
theorem sends_execute_command (hc : checkCall operation parameters none e = .ok ()) :
    ∃ command, (Container.command operation.code e.nextTransaction parameters).encode = .ok command ∧
      (execute operation parameters none e).2.link.sends = e.link.sends ++ [command] := by
  obtain ⟨sent, hprefix, hne, hsends⟩ := sends_execute hc
  have hall : sent = outgoing operation e.nextTransaction parameters none :=
    hprefix.eq_of_length_le (List.length_pos_iff.mpr hne)
  refine ⟨_, encode_command (length_le_of_checkCall hc).1 operation e.nextTransaction, ?_⟩
  rw [hsends, hall]
  rfl

/-- The session is the one there is, and what was sent comes behind these transfers. -/
def InSessionBehind (before : List Bytes) (e : Engine (Recorded τ)) : Prop :=
  e.session = some sessionId ∧ before <+: e.link.sends

/-- A transaction forgets neither the session nor what was sent. -/
theorem keeps_inSessionBehind (before : List Bytes) (operation : Operation) (parameters : List UInt32)
    (payload : Option Bytes) : (execute operation parameters payload : Action (Engine (Recorded τ)) _ _).Keeps
      (InSessionBehind before) := by
  intro e ⟨hsession, hbefore⟩
  refine ⟨(session_execute operation parameters payload e).trans hsession, ?_⟩
  cases hc : checkCall operation parameters payload e with
  | ok _ =>
    obtain ⟨sent, -, -, hsends⟩ := sends_execute hc
    rw [hsends]
    exact hbefore.trans (List.prefix_append _ _)
  | error error =>
    rw [execute_of_refused hc]
    exact hbefore

/-- In a session the last thing that is sent is the command that closes it. -/
theorem InSessionBehind.close {before : List Bytes} (h : InSessionBehind before e) :
    (closeSession e).session = none ∧
      ∃ between transaction closing, (Container.command Operation.closeSession.code transaction []).encode =
        .ok closing ∧
        (closeSession e).link.sends = before ++ between ++ [closing] := by
  obtain ⟨hsession, between, hbetween⟩ := h
  have hopen : e.session ≠ none := by
    rw [hsession]
    exact Option.some_ne_none _
  have hc : checkCall .closeSession [] none e = .ok () := by
    refine checkCall_eq_ok_iff.mpr ?_
    simp [hopen]
  obtain ⟨closing, hencode, hsends⟩ := sends_execute_command hc
  refine ⟨session_closeSession e, between, e.nextTransaction, closing, hencode, ?_⟩
  rw [closeSession_of_open hopen, hbetween]
  exact hsends

end Engine

/-! ## The course of an attaching -/

namespace Device

variable (clock : Instant) (config : Config) (link : τ)

/-- The engine before a word was sent to the camera. -/
def fresh : Engine τ :=
  (Host.ofLink clock config link).bay.engine

/-- The host once the camera means that the session is open. -/
def welcomed : Host τ :=
  let h := Host.ofLink clock config link
  { h with bay := { h.bay with engine :=
    { (Engine.execute .openSession [Engine.sessionId] none h.bay.engine).2 with
      session := some Engine.sessionId } } }

/-- How an attaching ends and the host that it leaves, which is given up when it fails. -/
def attachTo : Except StorageError DeviceInfo × Host τ :=
  match Host.call none Engine.openSession (Host.ofLink clock config link) with
  | (.error e, h) => (.error e, h)
  | (.ok (), h) =>
    match Host.prepare h with
    | (.error e, h) => (.error e, h.closeSession)
    | (.ok info, h) => (.ok info, h)

/-- The engine that an attaching leaves. -/
def lastEngine : Engine τ :=
  (attachTo clock config link).2.bay.engine

theorem attach_eq : attach clock config link =
    ((attachTo clock config link).1.map fun info => { host := (attachTo clock config link).2, info, config },
      (lastEngine clock config link).link) := by
  unfold attach lastEngine attachTo
  cases Host.call none Engine.openSession (Host.ofLink clock config link) with
  | mk r opened =>
    cases r with
    | error error => rfl
    | ok _ =>
      dsimp only
      cases Host.prepare opened with
      | mk r prepared => cases r <;> rfl

variable {clock config link}

theorem attachTo_of_unwelcome (h : ¬ (fresh clock config link).Welcomed) :
    ∃ error, (attachTo clock config link).1 = .error error ∧ lastEngine clock config link =
      (Engine.execute .openSession [Engine.sessionId] none (fresh clock config link)).2 := by
  have hleaves := Engine.leaves_openSession (e := fresh clock config link) rfl
  cases hx : Engine.openSession (fresh clock config link) with
  | mk r e =>
    cases r with
    | ok _ => exact absurd (hleaves.1 () e hx).1 h
    | error error =>
      obtain ⟨-, rfl⟩ := hleaves.2 error e hx
      have hcall : Host.call none Engine.openSession (Host.ofLink clock config link) =
          (.error (.ofPtp none error), _) :=
            congrArg (fun x => (x.1, { Host.ofLink clock config link with bay := x.2 }))
            (show Bay.call none _ _ = _ from Bay.call_of_error hx)
      unfold lastEngine attachTo
      rw [hcall]
      exact ⟨_, rfl, rfl⟩

theorem attachTo_of_welcomed (h : (fresh clock config link).Welcomed) :
    attachTo clock config link =
      match Host.prepare (welcomed clock config link) with
      | (.error e, h) => (.error e, h.closeSession)
      | (.ok info, h) => (.ok info, h) := by
  have hleaves := Engine.leaves_openSession (e := fresh clock config link) rfl
  cases hx : Engine.openSession (fresh clock config link) with
  | mk r e =>
    cases r with
    | error error => exact absurd h (hleaves.2 error e hx).1
    | ok _ =>
      obtain ⟨-, rfl⟩ := hleaves.1 () e hx
      have hcall : Host.call none Engine.openSession (Host.ofLink clock config link) =
          (.ok (), welcomed clock config link) :=
            congrArg (fun x => (x.1, { Host.ofLink clock config link with bay := x.2 }))
            (show Bay.call none _ _ = _ from Bay.call_of_ok hx)
      unfold attachTo
      rw [hcall]

end Device

/-! ## What an attaching finds -/

namespace Volume

/-- The record of a slot at whose place a list of storages has this one, or none: the storage is in it, readable
or not, and not mounted. -/
def Holds (slot : Slot) (v : Volume) : Option UInt32 → Prop
  | some storage => v.storageId = storage ∧ (v.status = .inserted ∨ v.status = .error)
  | none => v = .empty slot

theorem Holds.not_mounted {slot : Slot} {v : Volume} {storage : Option UInt32} (h : Holds slot v storage) :
    v.isMounted = false := by
  unfold isMounted
  cases storage with
  | none =>
    obtain rfl : v = .empty slot := h
    rfl
  | some storage =>
    obtain ⟨-, hs | hs⟩ := h
    · rw [hs]
      rfl
    · rw [hs]
      rfl

/-- A slot that was not mounted holds what the list has at its place. -/
theorem holds_found {uploads : Bool} {slot : Slot} {v : Volume} (hm : v.isMounted = false) (storages : List UInt32)
    (e : Engine τ) : Holds slot (v.found uploads slot (Bay.finding storages slot e)) storages[slot.val]? := by
  cases hs : storages[slot.val]? with
  | none =>
    have hnothing : Bay.finding storages slot e = .nothing := by
      unfold Bay.finding Bay.lookAt
      rw [hs]
    rw [hnothing]
    rfl
  | some storage =>
    have hfound := Bay.finding_of_getElem? hs e
    refine ⟨storageId_found hfound, ?_⟩
    cases hf : Bay.finding storages slot e with
    | nothing =>
      rw [hf] at hfound
      rcases hfound with h | h <;> cases h
    | unreadable other => exact .inr rfl
    | card other info census =>
      refine .inl ?_
      have hkept : ¬ (v.isMounted = true ∧ v.storageId = other) := by
        rw [hm]
        exact fun h => Bool.false_ne_true h.1
      exact congrArg Volume.status (if_neg hkept)

end Volume

/-- A description of the camera and a list of its storages were answered, and from these every slot of a host
without mounted slots is filled.  Nothing happens to the objects. -/
theorem Host.leaves_prepare_unmounted {h : Host τ} (hm : ∀ slot, (h.bay.table.volume slot).isMounted = false)
    (hnil : h.bay.changes = []) :
    prepare.Leaves h
      (fun info h' => ∃ e₁ storages e₂, Engine.deviceInfo h.bay.engine = (.ok info, e₁) ∧
        Engine.storageIds e₁ = (.ok storages, e₂) ∧
        (∀ slot, Volume.Holds slot (h'.bay.table.volume slot) storages[slot.val]?) ∧
        (h.bay.table.active = none → h'.bay.table.active = none) ∧ h'.store.index = h.store.index)
      fun _ _ => True := by
  unfold prepare
  refine leaves_bind (leaves_call_of ⟨fun info e₁ hinfo => ?_, fun _ _ _ => trivial⟩)
  refine leaves_bind (leaves_change ?_)
  refine leaves_bind ⟨fun n h' hscan => ?_, fun _ _ _ => trivial⟩
  obtain ⟨hok, rfl⟩ := Prod.mk.inj hscan
  refine leaves_bind (leaves_change (leaves_pure ?_))
  let b : Bay τ := { h.bay with engine := e₁, uploads := info.supportsUpload }
  cases hids : Engine.storageIds e₁ with
  | mk r e₂ =>
    cases r with
    | error error =>
      rw [show (Bay.scan b).1 = .error _ from congrArg Prod.fst (Bay.scan_of_unlisted (b := b) hids)] at hok
      cases hok
    | ok storages =>
      obtain ⟨b', hb', hcourse, hvolume, hactive⟩ := Bay.scan_of_listed (b := b) hids
      have hchanges : b'.changes = [] := by
        refine hcourse.changes_eq_nil hnil fun slot => ?_
        unfold Bay.mountedOn
        rw [hm slot]
        exact Nat.zero_le _
      refine ⟨e₁, storages, e₂, hinfo, hids, fun slot => ?_, fun hnone => ?_, ?_⟩
      · show Volume.Holds slot ((Bay.scan b).2.table.volume slot) _
        rw [hb', hvolume slot]
        exact Volume.holds_found (hm slot) storages e₂
      · show (Bay.scan b).2.table.active = none
        rw [hb', Option.eq_none_iff_forall_ne_some]
        intro slot ha
        have hbefore := ((hactive slot).mp ha).1
        rw [show b.table.active = none from hnone] at hbefore
        cases hbefore
      · show ((Bay.scan b).2.changes.foldl Store.follow h.store).index = _
        rw [hb', hchanges]
        rfl

namespace Device

/-- Behind an opening that is welcomed the host is in the session, behind the command that opened it. -/
theorem inSessionBehind_welcomed {clock : Instant} {config : Config} {link : Recorded τ} {opening : Bytes}
    (hsends : (Engine.execute .openSession [Engine.sessionId] none (fresh clock config link)).2.link.sends =
      link.sends ++ [opening]) :
    (welcomed clock config link).bay.engine.InSessionBehind (link.sends ++ [opening]) :=
  ⟨rfl, hsends ▸ List.prefix_rfl⟩

/-- Whatever the camera answers and whichever transfers fail: an attaching that is not welcomed fails and sends
nothing behind the command that opens the session.  One that fails later sends the command that closes the
session last, and no session is recorded.  One that succeeds has its session recorded, no slot mounted or active
and no objects, and the slots hold the first storages that the camera listed, in order. -/
theorem attach_leaves_no_session (clock : Instant) (config : Config) (link : Recorded τ) :
    ∃ opening, (Container.command Operation.openSession.code 1 [1]).encode = .ok opening ∧
      (attach clock config link).2 = (lastEngine clock config link).link ∧
      (¬ (fresh clock config link).Welcomed →
        (∃ error, (attach clock config link).1 = .error error) ∧
          (lastEngine clock config link).link.sends = link.sends ++ [opening]) ∧
      ((fresh clock config link).Welcomed → ∀ error, (attach clock config link).1 = .error error →
        (lastEngine clock config link).session = none ∧
          ∃ between transaction closing,
            (Container.command Operation.closeSession.code transaction []).encode = .ok closing ∧
              (lastEngine clock config link).link.sends = link.sends ++ [opening] ++ between ++ [closing]) ∧
      ∀ d, (attach clock config link).1 = .ok d →
        d.host.bay.engine = lastEngine clock config link ∧ d.host.bay.engine.session = some 1 ∧
          d.host.bay.table.active = none ∧ d.host.store.index = { budget := config.cacheMaxBytes.toNat } ∧
          ∃ e₁ storages e₂, Engine.deviceInfo (welcomed clock config link).bay.engine = (.ok d.info, e₁) ∧
            Engine.storageIds e₁ = (.ok storages, e₂) ∧
            ∀ slot, (d.host.bay.table.volume slot).isMounted = false ∧
              Volume.Holds slot (d.host.bay.table.volume slot) storages[slot.val]? := by
  have hcheck : Engine.checkCall .openSession [Engine.sessionId] none (fresh clock config link) = .ok () := rfl
  obtain ⟨opening, hencode, hsends⟩ := Engine.sends_execute_command hcheck
  have hwelcomed := inSessionBehind_welcomed hsends
  have hprepared := Host.keeps_prepare (Engine.keeps_inSessionBehind _) _ hwelcomed
  rw [attach_eq]
  refine ⟨opening, hencode, rfl, fun hno => ?_, fun hyes error herror => ?_, fun d hd => ?_⟩
  · obtain ⟨error, herror, hlast⟩ := attachTo_of_unwelcome hno
    refine ⟨⟨error, by rw [herror]; rfl⟩, ?_⟩
    rw [hlast]
    exact hsends
  · have hto := attachTo_of_welcomed hyes
    cases hx : Host.prepare (welcomed clock config link) with
    | mk r h =>
      rw [hx] at hto hprepared
      cases r with
      | ok info =>
        rw [hto] at herror
        cases herror
      | error fault =>
        unfold lastEngine
        rw [hto]
        exact hprepared.close
  · by_cases hyes : (fresh clock config link).Welcomed
    · have hto := attachTo_of_welcomed hyes
      have hfilled := Host.leaves_prepare_unmounted (h := welcomed clock config link)
        (fun slot => by show (VolumeTable.empty.volume slot).isMounted = false; rw [VolumeTable.volume_empty]; rfl)
        rfl
      unfold lastEngine
      rw [hto] at hd ⊢
      cases hx : Host.prepare (welcomed clock config link) with
      | mk r h =>
        rw [hx] at hd hprepared
        cases r with
        | error fault => cases hd
        | ok info =>
          obtain rfl := Except.ok.inj hd
          obtain ⟨e₁, storages, e₂, hinfo, hids, hholds, hactive, hindex⟩ := hfilled.1 info h hx
          exact ⟨rfl, hprepared.1, hactive rfl, hindex, e₁, storages, e₂, hinfo, hids,
            fun slot => ⟨(hholds slot).not_mounted, hholds slot⟩⟩
    · obtain ⟨error, herror, -⟩ := attachTo_of_unwelcome hyes
      rw [herror] at hd
      cases hd

/-- A link to a camera with two cards that breaks when the storages are asked for. -/
def breaking : Recorded Link :=
  { link := { Engine.idle.link with camera := Engine.idle.link.camera.injectFault .getStorageIds .disconnect } }

/-- A link to a camera with two cards that is busy when the session is opened. -/
def refusing : Recorded Link :=
  { link := { Engine.idle.link with camera :=
    Engine.idle.link.camera.injectFault .openSession (.respond .deviceBusy) } }

theorem attach_leaves_no_session_faults :
    ((fresh Engine.idle.clock {} breaking).Welcomed ∧
      (∃ error, (attach Engine.idle.clock {} breaking).1 = .error error) ∧
      (lastEngine Engine.idle.clock {} breaking).session = none) ∧
    (¬ (fresh Engine.idle.clock {} refusing).Welcomed ∧
      (lastEngine Engine.idle.clock {} refusing).link.sends.length = 1) ∧
    ∃ d : Device (Recorded Link), (attach Engine.idle.clock {} { link := Engine.idle.link }).1 = .ok d ∧
      ∀ slot, (d.host.bay.table.volume slot).isMounted = false := by
  have hopened : (Engine.execute .openSession [1] none (fresh Engine.idle.clock {} breaking)).1 =
      .ok { operation := .openSession, transaction := 1, code := .ok, parameters := [], data := none } := by
    decide +kernel
  have hbusy : (Engine.execute .openSession [1] none (fresh Engine.idle.clock {} refusing)).1 =
      .ok { operation := .openSession, transaction := 1, code := .deviceBusy, parameters := [],
            data := none } := by
    decide +kernel
  have hbroken : (attach Engine.idle.clock {} breaking).1.toOption.isNone = true := by decide +kernel
  have hwelcomed : (fresh Engine.idle.clock {} breaking).Welcomed := ⟨_, hopened, .inl rfl⟩
  have hunwelcome : ¬ (fresh Engine.idle.clock {} refusing).Welcomed := by
    rintro ⟨response, hr, hcode⟩
    obtain rfl := Except.ok.inj (hbusy.symm.trans hr)
    rcases hcode with hcode | hcode <;> cases hcode
  refine ⟨⟨hwelcomed, ?_⟩, ⟨hunwelcome, ?_⟩, ?_⟩
  · obtain ⟨_, -, -, -, hfailed, -⟩ := attach_leaves_no_session Engine.idle.clock {} breaking
    cases hx : (attach Engine.idle.clock {} breaking).1 with
    | ok d =>
      rw [hx] at hbroken
      cases hbroken
    | error error => exact ⟨⟨error, rfl⟩, (hfailed hwelcomed error hx).1⟩
  · obtain ⟨opening, -, -, hsent, -⟩ := attach_leaves_no_session Engine.idle.clock {} refusing
    rw [(hsent hunwelcome).2]
    rfl
  · have hok :
        (attach Engine.idle.clock {} { link := Engine.idle.link : Recorded Link }).1.toOption.isSome = true := by
      decide +kernel
    obtain ⟨_, -, -, -, -, hattached⟩ :=
      attach_leaves_no_session Engine.idle.clock {} { link := Engine.idle.link : Recorded Link }
    cases hx : (attach Engine.idle.clock {} { link := Engine.idle.link : Recorded Link }).1 with
    | error error =>
      rw [hx] at hok
      cases hok
    | ok d =>
      obtain ⟨-, -, -, -, _, _, _, -, -, hslots⟩ := hattached d hx
      exact ⟨d, rfl, fun slot => (hslots slot).1⟩

end Device

end Tether
