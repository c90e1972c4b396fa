import Mathlib.Data.List.Basic
import Tether.Camera.Wire
import Tether.Proofs.Action
import Tether.Proofs.Exchange.Outcome
import Tether.Proofs.Exchange.Reassembly

/-!
# Tether.Proofs.Camera.Answering — what a camera makes of a call

Carrying out a command leaves what the camera has to do with its link alone (`keeps_perform`).  So a call to a
camera at rest is taken in whole, whatever its transfers are, and what waits for the host then is the answer:
data of the call's transaction and behind them at most one frame of something else (`answering_sendAll`).
-/

namespace Tether.Camera

open Ptp Tether.Action

/-! ## Carrying out a command -/

/-- What a camera has to do with its link. -/
def wires (c : Camera) : Bool × List Bytes × Bytes × Option Container × List (Operation × Fault) :=
  (c.connected, c.inbound, c.outbound, c.awaitingData, c.faults)

section Keeps

variable (w : Bool × List Bytes × Bytes × Option Container × List (Operation × Fault))

theorem keeps_checkStorage (id : UInt32) : (checkStorage id).Keeps fun c => c.wires = w := by
  intro c h
  unfold checkStorage
  split <;> exact h

theorem keeps_checkWritable (id : UInt32) : (checkWritable id).Keeps fun c => c.wires = w := by
  intro c h
  unfold checkWritable
  split
  · split <;> exact h
  · exact h

theorem keeps_findObject (handle : UInt32) : (findObject handle).Keeps fun c => c.wires = w := by
  intro c h
  unfold findObject
  split <;> exact h

theorem keeps_openSession (id : UInt32) : (openSession id).Keeps fun c => c.wires = w := by
  intro c h
  unfold openSession
  split
  · exact h
  · split <;> exact h

theorem keeps_countObjects (storage format : UInt32) : (countObjects storage format).Keeps fun c => c.wires = w :=
  keeps_bind (keeps_checkStorage w storage) fun _ => keeps_bind keeps_state fun _ => keeps_pure _

theorem keeps_listHandles (storage parent : UInt32) : (listHandles storage parent).Keeps fun c => c.wires = w := by
  refine keeps_bind (keeps_checkStorage w storage) fun _ => keeps_bind keeps_state fun c => ?_
  exact keeps_ite (keeps_fail _) (keeps_pure _)

theorem keeps_describe (handle : UInt32) : (describe handle).Keeps fun c => c.wires = w :=
  keeps_bind (keeps_findObject w handle) fun _ => keeps_pure _

theorem keeps_readPart (handle offset length : UInt32) :
    (readPart handle offset length).Keeps fun c => c.wires = w :=
  keeps_bind (keeps_findObject w handle) fun _ => keeps_pure _

theorem keeps_delete (handle : UInt32) : (delete handle).Keeps fun c => c.wires = w := by
  refine keeps_bind (keeps_findObject w handle) fun o => keeps_ite (keeps_fail _) ?_
  refine keeps_bind (keeps_checkWritable w _) fun _ => ?_
  exact keeps_bind (keeps_change fun c h => h) fun _ => keeps_pure _

theorem wires_ite {p : Prop} [Decidable p] {c c' : Camera} (h : c.wires = w) (h' : c'.wires = w) :
    (if p then c else c').wires = w := by
  split
  · exact h
  · exact h'

theorem keeps_beginUpload (storage parent : UInt32) (data : Option Bytes) :
    (beginUpload storage parent data).Keeps fun c => c.wires = w := by
  refine keeps_bind (keeps_ofOption _ _) fun payload => ?_
  dsimp only
  split
  · refine keeps_bind (keeps_pure _) fun info => ?_
    refine keeps_bind (keeps_checkStorage w _) fun _ => keeps_bind (keeps_checkWritable w _) fun _ => ?_
    refine keeps_bind keeps_state fun c => keeps_ite (keeps_fail _) (keeps_ite (keeps_fail _) ?_)
    exact keeps_bind (keeps_change fun c' h => wires_ite w h h) fun _ => keeps_pure _
  · exact fun c h => h

theorem keeps_finishUpload (data : Option Bytes) : (finishUpload data).Keeps fun c => c.wires = w := by
  intro c h
  unfold finishUpload
  split <;> exact h

theorem keeps_format (storage : UInt32) : (format storage).Keeps fun c => c.wires = w := by
  refine keeps_bind (keeps_checkStorage w _) fun _ => keeps_bind (keeps_checkWritable w _) fun _ => ?_
  exact keeps_bind (keeps_change fun c h => h) fun _ => keeps_pure _

theorem keeps_performInSession (operation : Operation) (parameters : List UInt32) (data : Option Bytes) :
    (performInSession operation parameters data).Keeps fun c => c.wires = w := by
  cases operation with
  | closeSession => exact fun c h => h
  | getStorageIds => exact fun c h => h
  | getStorageInfo =>
    intro c h
    unfold performInSession
    dsimp only
    split <;> exact h
  | getNumObjects => exact keeps_countObjects w _ _
  | getObjectHandles => exact keeps_listHandles w _ _
  | getObjectInfo => exact keeps_describe w _
  | getObject => exact keeps_bind (keeps_findObject w _) fun _ => keeps_pure _
  | getPartialObject => exact keeps_readPart w _ _ _
  | deleteObject => exact keeps_delete w _
  | sendObjectInfo => exact keeps_beginUpload w _ _ data
  | sendObject => exact keeps_finishUpload w data
  | formatStore => exact keeps_format w _
  | _ => exact keeps_fail _

theorem keeps_perform (operation : Operation) (parameters : List UInt32) (data : Option Bytes) :
    (perform operation parameters data).Keeps fun c => c.wires = w := by
  have hsession : ∀ c : Camera, c.wires = w → (if c.sessionOpen then performInSession operation parameters data c
      else (.error .sessionNotOpen, c)).2.wires = w := by
    intro c h
    split
    · exact keeps_performInSession w operation parameters data c h
    · exact h
  cases operation with
  | getDeviceInfo => exact fun c h => h
  | openSession => exact keeps_openSession w _
  | _ => exact hsession

end Keeps

/-! ## What waits for the host -/

/-- The camera is connected and not in the middle of a command, and no fault is armed that breaks the link. -/
structure Idle (c : Camera) : Prop where
  connected : c.connected = true
  outbound : c.outbound = []
  awaitingData : c.awaitingData = none
  faults : ∀ f ∈ c.faults, f.2 ≠ .disconnect

/-- The transfers hold data of a transaction and nothing else. -/
def Loaded (transaction : UInt32) (transfers : List Bytes) : Prop :=
  ∃ datas : List Container, (∀ d ∈ datas, d.Recognised ∧ d.Carries transaction) ∧ transfers.flatten = wire datas ∧
    ∀ bytes ∈ transfers, bytes ≠ []

/-- The transfers hold data of a transaction and behind them at most one frame, which is something else. -/
def Queued (transaction : UInt32) (transfers : List Bytes) : Prop :=
  ∃ (datas : List Container) (last : Option Bytes), (∀ d ∈ datas, d.Recognised ∧ d.Carries transaction) ∧
    (∀ frame, last = some frame →
      IsFrame frame ∧ ∀ c, Container.decode frame = .ok c → ¬ c.Carries transaction) ∧
    transfers.flatten = wire datas ++ last.getD [] ∧ ∀ bytes ∈ transfers, bytes ≠ []

variable {transaction : UInt32} {transfers : List Bytes} {c : Camera}

theorem loaded_nil : Loaded transaction [] :=
  ⟨[], fun d hd => (by cases hd), rfl, fun bytes hb => (by cases hb)⟩

theorem Loaded.queued (h : Loaded transaction transfers) : Queued transaction transfers := by
  obtain ⟨datas, hdatas, hflatten, hne⟩ := h
  exact ⟨datas, none, hdatas, fun frame hf => (by cases hf), hflatten.trans (List.append_nil _).symm, hne⟩

theorem push_of_ok {container : Container} {frame : Bytes} (h : container.encode = .ok frame) :
    c.push container = { c with inbound := c.inbound ++ [frame] } := by
  unfold push
  rw [h]

theorem push_of_error {container : Container} {error : PtpError} (h : container.encode = .error error) :
    c.push container = c := by
  unfold push
  rw [h]

theorem Idle.push (h : c.Idle) (container : Container) : (c.push container).Idle := by
  cases he : container.encode with
  | ok frame =>
    rw [push_of_ok he]
    exact ⟨h.connected, h.outbound, h.awaitingData, h.faults⟩
  | error error =>
    rw [push_of_error he]
    exact h

theorem Loaded.push_data (h : Loaded transaction c.inbound) (code : UInt16) (payload : Bytes) :
    Loaded transaction (c.push (.data code transaction payload)).inbound := by
  obtain ⟨datas, hdatas, hflatten, hne⟩ := h
  cases he : (Container.data code transaction payload).encode with
  | error error =>
    rw [push_of_error he]
    exact ⟨datas, hdatas, hflatten, hne⟩
  | ok frame =>
    have hd : (Container.data code transaction payload).Recognised :=
      (Container.canonical_data _ _ _).recognised he
    rw [push_of_ok he]
    refine ⟨datas ++ [.data code transaction payload], fun d hd' => ?_, ?_, fun bytes hb => ?_⟩
    · rcases List.mem_append.mp hd' with hd' | hd'
      · exact hdatas d hd'
      · rw [List.mem_singleton.mp hd']
        exact ⟨hd, rfl, rfl⟩
    · have hframe : wire [.data code transaction payload] = frame := by simp [wire, he, Except.toOption]
      simp [hflatten, wire_append, hframe]
    · rcases List.mem_append.mp hb with hb | hb
      · exact hne bytes hb
      · rw [List.mem_singleton.mp hb]
        exact (Container.isFrame_of_encode he).ne_nil

theorem Loaded.push (h : Loaded transaction c.inbound) {container : Container}
    (hc : ∀ frame, container.encode = .ok frame → ∀ d, Container.decode frame = .ok d → ¬ d.Carries transaction) :
    Queued transaction (c.push container).inbound := by
  cases he : container.encode with
  | error error =>
    rw [push_of_error he]
    exact h.queued
  | ok frame =>
    have hf := Container.isFrame_of_encode he
    obtain ⟨datas, hdatas, hflatten, hne⟩ := h
    rw [push_of_ok he]
    refine ⟨datas, some frame, hdatas, fun frame' hframe => ?_, by simp [hflatten], fun bytes hb => ?_⟩
    · cases hframe
      exact ⟨hf, hc frame he⟩
    · rcases List.mem_append.mp hb with hb | hb
      · exact hne bytes hb
      · rw [List.mem_singleton.mp hb]
        exact hf.ne_nil

/-- The camera is idle, and what waits for the host is the answer to a transaction. -/
structure Answering (transaction : UInt32) (c : Camera) : Prop where
  idle : c.Idle
  queued : Queued transaction c.inbound

/-- No response carries data, whatever its transaction is. -/
theorem answering_respond (h : c.Idle) (hl : Loaded transaction c.inbound) (code : ResponseCode) (id : UInt32)
    (parameters : List UInt32) : Answering transaction (c.respond code id parameters) := by
  refine ⟨h.push _, hl.push fun frame he d hd hcarries => ?_⟩
  rw [Container.decode_of_encode (Container.canonical_response _ _ _) he] at hd
  cases hd
  cases hcarries.1

/-- A camera that is idle and at which nothing waits for the host. -/
structure Quiet (c : Camera) : Prop where
  idle : c.Idle
  inbound : c.inbound = []

theorem Quiet.loaded (h : c.Quiet) (transaction : UInt32) : Loaded transaction c.inbound := by
  rw [h.inbound]
  exact loaded_nil

/-- Only what a camera has to do with its link decides whether it is quiet. -/
theorem Quiet.of_wires {c' : Camera} (h : c.Quiet) (hw : c'.wires = c.wires) : c'.Quiet := by
  obtain ⟨⟨hc, ho, ha, hf⟩, hi⟩ := h
  simp only [wires, Prod.mk.injEq] at hw
  obtain ⟨hc', hi', ho', ha', hf'⟩ := hw
  refine ⟨⟨hc'.trans hc, ho'.trans ho, ha'.trans ha, ?_⟩, hi'.trans hi⟩
  rwa [hf']

theorem answering_answer (h : c.Quiet) (operation : Operation) (command : Container) (data : Option Bytes) :
    Answering command.transaction (c.answer operation command data) := by
  have hw := keeps_perform c.wires operation command.parameters data c rfl
  unfold answer
  cases hp : perform operation command.parameters data c with
  | mk r c' =>
    rw [hp] at hw
    have hq : c'.Quiet := h.of_wires hw
    cases r with
    | error code => exact answering_respond hq.idle (hq.loaded _) _ _ _
    | ok reply =>
      dsimp only
      cases reply.data with
      | none => exact answering_respond hq.idle (hq.loaded _) _ _ _
      | some payload => exact answering_respond (hq.idle.push _) ((hq.loaded _).push_data _ _) _ _ _

theorem takeFault_mem (operation : Operation) (faults : List (Operation × Fault)) :
    (∀ fault, (takeFault operation faults).1 = some fault → (operation, fault) ∈ faults) ∧
      ∀ f ∈ (takeFault operation faults).2, f ∈ faults := by
  induction faults with
  | nil => exact ⟨fun fault h => (by cases h), fun f hf => hf⟩
  | cons f faults ih =>
    unfold takeFault
    split
    · rename_i ho
      refine ⟨fun fault h => ?_, fun f' hf' => List.mem_cons_of_mem _ hf'⟩
      cases h
      rw [← ho]
      exact List.mem_cons_self
    · refine ⟨fun fault h => List.mem_cons_of_mem _ (ih.1 fault h), fun f' hf' => ?_⟩
      rcases List.mem_cons.mp hf' with rfl | hf'
      · exact List.mem_cons_self
      · exact List.mem_cons_of_mem _ (ih.2 f' hf')

/-- A container of an unknown kind is none. -/
theorem decode_of_unknown {container : Container} {frame : Bytes} (hk : container.kind = .other 7)
    (he : container.encode = .ok frame) (d : Container) : Container.decode frame ≠ .ok d := by
  rw [Container.decode_eq_ofHeader he, hk]
  intro hd
  cases hd

theorem answering_dispatch (h : c.Quiet) (operation : Operation) (command : Container) (data : Option Bytes) :
    Answering command.transaction (c.dispatch operation command data) := by
  obtain ⟨hfound, hleft⟩ := takeFault_mem operation c.faults
  unfold dispatch
  cases ht : takeFault operation c.faults with
  | mk fault faults =>
    rw [ht] at hfound hleft
    dsimp only
    have hq : ({ c with faults } : Camera).Quiet :=
      ⟨⟨h.idle.connected, h.idle.outbound, h.idle.awaitingData,
        fun f hf => h.idle.faults f (hleft f hf)⟩, h.inbound⟩
    have hl := hq.loaded command.transaction
    cases fault with
    | none => exact answering_answer hq operation command data
    | some fault =>
      cases fault with
      | respond code => exact answering_respond hq.idle hl _ _ _
      | mismatch => exact answering_respond hq.idle hl _ _ _
      | malformed =>
        refine ⟨hq.idle.push _, hl.push fun frame he d hd _ => ?_⟩
        exact decode_of_unknown rfl he d hd
      | noResponse => exact ⟨hq.idle, hl.queued⟩
      -- no fault that breaks the link is armed
      | disconnect => exact absurd rfl (h.idle.faults _ (hfound _ rfl))

/-! ## Taking in a call -/

theorem send_of_unframe (hc : c.connected = true) {bytes rest : Bytes} {cs : List Container}
    (hu : unframe (c.outbound ++ bytes) = ⟨cs, none, rest⟩) :
    Transport.send bytes c = (.ok (), cs.foldl accept { c with sends := c.sends + 1, outbound := rest }) := by
  show Camera.send bytes c = _
  unfold Camera.send
  rw [if_neg (fun hn => hn hc), hu]

/-- The transfer that completes a container has it taken in. -/
theorem send_of_frame (hc : c.connected = true) {container : Container} {bytes : Bytes}
    (hcan : container.Canonical) (he : container.encode = .ok (c.outbound ++ bytes)) :
    Transport.send bytes c = (.ok (),
      ({ c with sends := c.sends + 1, outbound := [] } : Camera).accept container) := by
  have hu := unframe_of_frame (Container.isFrame_of_encode he) (Container.decode_of_encode hcan he) unframe_nil
  rw [List.append_nil] at hu
  exact send_of_unframe hc hu

/-- A transfer with a part of a container is kept until the rest of it comes. -/
theorem send_of_part (hc : c.connected = true) {container : Container} {bytes more : Bytes}
    (he : container.encode = .ok (c.outbound ++ bytes ++ more)) (hm : more ≠ []) :
    Transport.send bytes c = (.ok (), { c with sends := c.sends + 1, outbound := c.outbound ++ bytes }) :=
  send_of_unframe hc (unframe_of_part (Container.isFrame_of_encode he) hm)

/-- The operation is one for which the camera waits for data. -/
def Uploads (operation : Operation) : Prop :=
  Operation.ofCode operation.code = .sendObjectInfo ∨ Operation.ofCode operation.code = .sendObject

instance (operation : Operation) : Decidable (Uploads operation) :=
  inferInstanceAs (Decidable (_ ∨ _))

theorem answering_accept_command (h : c.Quiet) {operation : Operation} (ho : ¬ Uploads operation)
    (parameters : List UInt32) :
    Answering transaction (c.accept (.command operation.code transaction parameters)) := by
  have ha : c.accept (.command operation.code transaction parameters) =
      ({ c with commands := c.commands ++ [(.ofCode operation.code, transaction)] } : Camera).dispatch
        (.ofCode operation.code) (.command operation.code transaction parameters) none :=
    if_neg ho
  have hq : ({ c with commands := c.commands ++ [(.ofCode operation.code, transaction)] } : Camera).Quiet :=
    h.of_wires rfl
  rw [ha]
  exact answering_dispatch hq _ (.command operation.code transaction parameters) none

/-- A camera that waits for the data of a command, and at which nothing waits for the host. -/
structure Expecting (command : Container) (c : Camera) : Prop where
  connected : c.connected = true
  inbound : c.inbound = []
  awaitingData : c.awaitingData = some command
  faults : ∀ f ∈ c.faults, f.2 ≠ .disconnect

theorem accept_upload {operation : Operation} (ho : Uploads operation) (parameters : List UInt32) :
    c.accept (.command operation.code transaction parameters) =
      { c with commands := c.commands ++ [(.ofCode operation.code, transaction)],
               awaitingData := some (.command operation.code transaction parameters) } :=
  if_pos ho

theorem expecting_accept_upload (h : c.Quiet) {operation : Operation} (ho : Uploads operation)
    (transaction : UInt32) (parameters : List UInt32) :
    Expecting (.command operation.code transaction parameters)
      (c.accept (.command operation.code transaction parameters)) ∧
      (c.accept (.command operation.code transaction parameters)).outbound = [] := by
  rw [accept_upload ho]
  exact ⟨⟨h.idle.connected, h.inbound, rfl, h.idle.faults⟩, h.idle.outbound⟩

theorem answering_accept_data {command : Container} (h : Expecting command c) (ho : c.outbound = [])
    (code : UInt16) (payload : Bytes) :
    Answering command.transaction (c.accept (.data code command.transaction payload)) := by
  have hq : ({ c with awaitingData := none } : Camera).Quiet := ⟨⟨h.connected, ho, rfl, h.faults⟩, h.inbound⟩
  have ha : c.accept (.data code command.transaction payload) =
      ({ c with awaitingData := none } : Camera).dispatch (.ofCode command.code) command (some payload) := by
    simp [accept, Container.data, h.awaitingData]
  rw [ha]
  exact answering_dispatch hq _ command (some payload)

open Engine in
/-- The data of a command are taken in with their last transfer, and then the command is answered. -/
theorem answering_sendAll_data {command : Container} (h : Expecting command c) (ho : c.outbound = [])
    {operation : Operation} {payload : Bytes} (hp : headerLength + payload.length ≤ maxWord) :
    ∃ c', Transport.sendAll (dataTransfers operation command.transaction payload) c = (.ok (), c') ∧
      Answering command.transaction c' := by
  have he := encode_data hp operation command.transaction
  have hcan := Container.canonical_data operation.code command.transaction payload
  have hlast : ∀ sends, Answering command.transaction
      (({ c with sends, outbound := [] } : Camera).accept (.data operation.code command.transaction payload)) :=
    fun sends => answering_accept_data (c := { c with sends, outbound := [] })
      ⟨h.connected, h.inbound, h.awaitingData, h.faults⟩ rfl _ _
  have hpart := he
  rw [← List.nil_append (headerBytes _ _ _ _), ← ho] at hpart
  unfold dataTransfers
  by_cases hnil : payload = []
  · subst hnil
    rw [List.append_nil] at hpart
    rw [if_pos rfl, Transport.sendAll_of_ok (send_of_frame h.connected hcan hpart)]
    exact ⟨_, rfl, hlast _⟩
  · -- the header is kept until the content comes
    rw [if_neg hnil, Transport.sendAll_of_ok (send_of_part h.connected hpart hnil), ho, List.nil_append]
    let c₁ : Camera := { c with
      sends := c.sends + 1
      outbound := headerBytes operation command.transaction .data (headerLength + payload.length) }
    have hsend := send_of_frame (c := c₁) h.connected hcan he
    exact ⟨_, Transport.sendAll_of_ok hsend [], hlast _⟩

open Engine in
/-- A quiet camera takes a call in and has the answer ready. -/
theorem answering_sendAll (h : c.Quiet) {operation : Operation} {parameters : List UInt32} {payload : Option Bytes}
    (hpaired : payload.isSome = true ↔ Uploads operation) (hn : parameters.length ≤ maxParameters)
    (hp : ∀ p, payload = some p → headerLength + p.length ≤ maxWord) (transaction : UInt32) :
    ∃ c', Transport.sendAll (outgoing operation transaction parameters payload) c = (.ok (), c') ∧
      Answering transaction c' := by
  have he := encode_command hn operation transaction
  rw [← List.nil_append (_ ++ _), ← h.idle.outbound] at he
  have hsend := send_of_frame h.idle.connected (Container.canonical_command _ _ _) he
  have hq : ({ c with sends := c.sends + 1, outbound := [] } : Camera).Quiet :=
    h.of_wires (by simp [wires, h.idle.outbound])
  unfold outgoing
  rw [Transport.sendAll_of_ok hsend]
  cases payload with
  | none =>
    have ho : ¬ Uploads operation := fun ho => by simpa using hpaired.mpr ho
    exact ⟨_, rfl, answering_accept_command hq ho parameters⟩
  | some payload =>
    have ho : Uploads operation := hpaired.mp rfl
    obtain ⟨hexpecting, hout⟩ := expecting_accept_upload hq ho transaction parameters
    exact answering_sendAll_data hexpecting hout (hp payload rfl)

end Tether.Camera
