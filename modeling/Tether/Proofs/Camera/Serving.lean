import Tether.Proofs.Camera.Residue

/-!
# Tether.Proofs.Camera.Serving — what becomes of a call at a camera

An engine is at rest when it has received nothing that it has not used and a camera that is still connected has
nothing waiting and is in the middle of nothing.  A call leaves the engine at rest whatever fault is armed, one
that breaks the link included.  What the camera holds is the same afterwards, unless it carried the operation
out: then it holds what carrying it out has left, and the call is answered with what that came to
(`execute_cases`).
-/

namespace Tether

open Ptp Tether.Action

theorem Ptp.Container.exists_encode_response (code : UInt16) (transaction : UInt32) {parameters : List UInt32}
    (h : parameters.length ≤ maxParameters) :
    ∃ frame, (response code transaction parameters).encode = .ok frame := by
  have hlength : (response code transaction parameters).encodedLength ≤ maxWord := by
    show headerLength + parameters.length * 4 ≤ maxWord
    unfold maxParameters at h
    unfold headerLength maxWord
    omega
  exact ⟨_, encode_eq_ok_iff.mpr ⟨fun _ => h, hlength, rfl⟩⟩

/-- An answer of a camera as the host reads it. -/
def Response.ofAnswer (operation : Operation) (transaction : UInt32) : Except ResponseCode Camera.Reply → Response
  | .error code => { operation, transaction, code := .ofCode code.code, parameters := [], data := none }
  | .ok reply =>
    { operation, transaction, code := .ok, parameters := reply.parameters
      -- data that do not fit a container are left out
      data := reply.data.filter fun payload => headerLength + payload.length ≤ maxWord }

namespace Camera

/-- The cameras hold the same and are at the same point of a session and of an upload; what they have to do with
their links may differ. -/
structure Alike (c c' : Camera) : Prop where
  deviceInfo : c'.deviceInfo = c.deviceInfo
  clock : c'.clock = c.clock
  sessionOpen : c'.sessionOpen = c.sessionOpen
  storages : c'.storages = c.storages
  objects : c'.objects = c.objects
  nextHandle : c'.nextHandle = c.nextHandle
  pendingUpload : c'.pendingUpload = c.pendingUpload

theorem Alike.refl (c : Camera) : c.Alike c :=
  ⟨rfl, rfl, rfl, rfl, rfl, rfl, rfl⟩

theorem Alike.trans {c c' c'' : Camera} (h : c.Alike c') (h' : c'.Alike c'') : c.Alike c'' :=
  ⟨h'.deviceInfo.trans h.deviceInfo, h'.clock.trans h.clock, h'.sessionOpen.trans h.sessionOpen,
    h'.storages.trans h.storages, h'.objects.trans h.objects, h'.nextHandle.trans h.nextHandle,
    h'.pendingUpload.trans h.pendingUpload⟩

theorem Alike.symm {c c' : Camera} (h : c.Alike c') : c'.Alike c :=
  ⟨h.deviceInfo.symm, h.clock.symm, h.sessionOpen.symm, h.storages.symm, h.objects.symm, h.nextHandle.symm,
    h.pendingUpload.symm⟩

/-- Nothing of another command stands in the way of a call. -/
structure Clear (c : Camera) : Prop where
  inbound : c.inbound = []
  outbound : c.outbound = []
  awaitingData : c.awaitingData = none

/-- Only what a camera has to do with its link decides whether it is clear. -/
theorem Clear.of_wires {c c' : Camera} (h : c.Clear) (hw : c'.wires = c.wires) : c'.Clear := by
  simp only [wires, Prod.mk.injEq] at hw
  obtain ⟨-, hinbound, houtbound, hawaiting, -⟩ := hw
  exact ⟨hinbound.trans h.inbound, houtbound.trans h.outbound, hawaiting.trans h.awaitingData⟩

/-! ## Taking in a call -/

open Engine in
/-- The data that a command waits for complete it. -/
theorem sendAll_data {c : Camera} (hc : c.connected = true) (houtbound : c.outbound = []) {operation : Operation}
    {transaction : UInt32} {parameters : List UInt32} {payload : Bytes}
    (hawaiting : c.awaitingData = some (.command operation.code transaction parameters))
    (hp : headerLength + payload.length ≤ maxWord) :
    ∃ c₁ : Camera, c.Alike c₁ ∧ c₁.wires = (c.connected, c.inbound, [], none, c.faults) ∧
      Transport.sendAll (dataTransfers operation transaction payload) c =
        (.ok (), c₁.dispatch (.ofCode operation.code) (.command operation.code transaction parameters)
          (some payload)) := by
  have he := encode_data hp operation transaction
  have hcan := Container.canonical_data operation.code transaction payload
  -- the command is answered with the last of its data, whatever transfers these come in
  have hlast :
      ∀ sends, ({ c with sends, outbound := [] } : Camera).accept (.data operation.code transaction payload) =
      ({ c with sends, outbound := [], awaitingData := none } : Camera).dispatch (.ofCode operation.code)
        (.command operation.code transaction parameters) (some payload) := by
    intro sends
    simp [accept, Container.data, Container.command, hawaiting]
  have hpart := he
  rw [← List.nil_append (headerBytes _ _ _ _), ← houtbound] at hpart
  unfold dataTransfers
  by_cases hnil : payload = []
  · subst hnil
    rw [List.append_nil] at hpart
    rw [if_pos rfl, Transport.sendAll_of_ok (send_of_frame hc hcan hpart), hlast]
    exact ⟨{ c with sends := c.sends + 1, outbound := [], awaitingData := none },
      ⟨rfl, rfl, rfl, rfl, rfl, rfl, rfl⟩, rfl, rfl⟩
  · rw [if_neg hnil, Transport.sendAll_of_ok (send_of_part hc hpart hnil), houtbound, List.nil_append]
    let c₂ : Camera := { c with
      sends := c.sends + 1
      outbound := headerBytes operation transaction .data (headerLength + payload.length) }
    rw [Transport.sendAll_of_ok (send_of_frame (c := c₂) hc hcan he), hlast]
    exact ⟨{ c with sends := c.sends + 1 + 1, outbound := [], awaitingData := none },
      ⟨rfl, rfl, rfl, rfl, rfl, rfl, rfl⟩, rfl, rfl⟩

open Engine in
/-- The transfers of a call come to one command, complete with its data, that is answered. -/
theorem sendAll_outgoing {c : Camera} (hc : c.connected = true) (h : c.Clear) {operation : Operation}
    {parameters : List UInt32} {payload : Option Bytes} (hpaired : payload.isSome = true ↔ Uploads operation)
    (hn : parameters.length ≤ maxParameters) (hp : ∀ p, payload = some p → headerLength + p.length ≤ maxWord)
    (transaction : UInt32) :
    ∃ c₁ : Camera, c.Alike c₁ ∧ c₁.wires = c.wires ∧
      Transport.sendAll (outgoing operation transaction parameters payload) c =
        (.ok (), c₁.dispatch (.ofCode operation.code)
          (.command operation.code transaction parameters) payload) := by
  have he := encode_command hn operation transaction
  rw [← List.nil_append (_ ++ _), ← h.outbound] at he
  have hsend := send_of_frame hc (Container.canonical_command _ _ _) he
  have hwires : c.wires = (c.connected, c.inbound, [], none, c.faults) := by
    rw [wires, h.outbound, h.awaitingData]
  unfold outgoing
  rw [Transport.sendAll_of_ok hsend]
  cases payload with
  | none =>
    have ho : ¬ Uploads operation := fun ho => by simpa using hpaired.mpr ho
    let c₁ : Camera := { c with
      sends := c.sends + 1
      outbound := []
      commands := c.commands ++ [(.ofCode operation.code, transaction)] }
    have hw : c₁.wires = c.wires := by
      rw [wires, wires, h.outbound]
    refine ⟨c₁, ⟨rfl, rfl, rfl, rfl, rfl, rfl, rfl⟩, hw, ?_⟩
    exact congrArg (Prod.mk (Except.ok ())) (if_neg ho)
  | some payload =>
    have ho : Uploads operation := hpaired.mp rfl
    rw [accept_upload ho, hwires]
    let c₂ : Camera := { c with
      sends := c.sends + 1
      outbound := []
      commands := c.commands ++ [(.ofCode operation.code, transaction)]
      awaitingData := some (.command operation.code transaction parameters) }
    have halike : c.Alike c₂ := ⟨rfl, rfl, rfl, rfl, rfl, rfl, rfl⟩
    obtain ⟨c₁, halike', hwires', hsent⟩ := sendAll_data (c := c₂) hc rfl rfl (hp payload rfl)
    exact ⟨c₁, halike.trans halike', hwires', hsent⟩

/-! ## Carrying out a command -/

/-- What a step answers fits a response. -/
def Brief (x : Step Reply) : Prop :=
  ∀ (c c' : Camera) (reply : Reply), x c = (.ok reply, c') → reply.parameters.length ≤ maxParameters

section Brief

variable {α : Type} {x y : Step Reply}

theorem brief_pure {reply : Reply} (h : reply.parameters.length ≤ maxParameters) : Brief (pure reply) := by
  intro c c' reply' hx
  cases hx
  exact h

theorem brief_fail (code : ResponseCode) : Brief (Action.fail code) := by
  intro c c' reply hx
  cases hx

theorem brief_ite {p : Prop} [Decidable p] (hx : Brief x) (hy : Brief y) : Brief (if p then x else y) := by
  split
  · exact hx
  · exact hy

/-- The last part of a step is what answers. -/
theorem brief_bind {first : Step α} {f : α → Step Reply} (hf : ∀ a, Brief (f a)) : Brief (first >>= f) := by
  intro c c' reply hx
  rw [bind_apply] at hx
  cases hfirst : first c with
  | mk r c₁ =>
    rw [hfirst] at hx
    cases r with
    | ok a => exact hf a c₁ c' reply hx
    | error code => cases hx

theorem brief_performInSession (operation : Operation) (parameters : List UInt32) (data : Option Bytes) :
    Brief (performInSession operation parameters data) := by
  have hnone : ([] : List UInt32).length ≤ maxParameters := Nat.zero_le _
  cases operation with
  | closeSession | getStorageIds =>
    all_goals
      intro c c' reply hx
      cases hx
      exact hnone
  | getStorageInfo =>
    intro c c' reply hx
    unfold performInSession at hx
    dsimp only at hx
    split at hx
    · cases hx
      exact hnone
    · cases hx
  | getNumObjects =>
    refine brief_bind fun _ => brief_bind fun c => brief_pure ?_
    show 1 ≤ maxParameters
    decide
  | getObjectHandles => exact brief_bind fun _ => brief_bind fun c => brief_ite (brief_fail _) (brief_pure hnone)
  | getObjectInfo => exact brief_bind fun o => brief_pure hnone
  | getObject => exact brief_bind fun o => brief_pure hnone
  | getPartialObject =>
    refine brief_bind fun o => brief_pure ?_
    show 1 ≤ maxParameters
    decide
  | deleteObject =>
    refine brief_bind fun o => brief_ite (brief_fail _) ?_
    exact brief_bind fun _ => brief_bind fun _ => brief_pure hnone
  | sendObjectInfo =>
    have hfew : ∀ storage parent handle : UInt32, [storage, parent, handle].length ≤ maxParameters := by
      intro _ _ _
      show 3 ≤ maxParameters
      decide
    refine brief_bind fun payload => ?_
    dsimp only
    split
    · refine brief_bind fun info => brief_bind fun _ => brief_bind fun _ => brief_bind fun c => ?_
      exact brief_ite (brief_fail _) (brief_ite (brief_fail _) (brief_bind fun _ => brief_pure (hfew _ _ _)))
    · intro c c' reply hx
      cases hx
  | sendObject =>
    intro c c' reply hx
    unfold performInSession finishUpload at hx
    dsimp only at hx
    split at hx
    · cases hx
    · cases hx
      exact hnone
  | formatStore => exact brief_bind fun _ => brief_bind fun _ => brief_bind fun _ => brief_pure hnone
  | _ => exact brief_fail _

/-- No answer has more parameters than a response can carry. -/
theorem brief_perform (operation : Operation) (parameters : List UInt32) (data : Option Bytes) :
    Brief (perform operation parameters data) := by
  have hsession : Brief fun c : Camera =>
      if c.sessionOpen then performInSession operation parameters data c else (.error .sessionNotOpen, c) := by
    intro c c' reply hx
    dsimp only at hx
    split at hx
    · exact brief_performInSession operation parameters data c c' reply hx
    · cases hx
  cases operation with
  | getDeviceInfo =>
    intro c c' reply hx
    cases hx
    exact Nat.zero_le _
  | openSession =>
    intro c c' reply hx
    unfold perform openSession at hx
    dsimp only at hx
    split at hx
    · cases hx
    · split at hx
      · cases hx
      · cases hx
        exact Nat.zero_le _
  | _ => exact hsession

end Brief

end Camera

namespace Engine

variable {operation : Operation} {transaction : UInt32} {e : Engine Camera}

/-- Where nothing waits, nothing comes. -/
theorem collect_of_empty (he : e.received = []) (hempty : e.link.connected = true → e.link.inbound = [])
    (operation : Operation) (transaction : UInt32) :
    ∃ error, collect operation transaction none e = (.error (.transport error), e) := by
  have hreceive : ∃ error, Transport.receive e.packetLimit e.link = (.error error, e.link) := by
    show ∃ error, Camera.receive _ _ = _
    unfold Camera.receive
    by_cases hc : e.link.connected = true
    · rw [if_neg (fun hn => hn hc), hempty hc]
      exact ⟨_, rfl⟩
    · rw [if_pos hc]
      exact ⟨_, rfl⟩
  obtain ⟨error, hr⟩ := hreceive
  exact ⟨error, collect_of_silence operation transaction none he (.nil e.link) rfl
    (flowing_of_length_le (by decide)) hr⟩

/-- All that waits is read: data of the transaction, and behind them one frame that is something else. -/
theorem collect_of_last (he : e.received = []) (hc : e.link.connected = true) (operation : Operation)
    (transaction : UInt32) {datas : List Container} (hdatas : ∀ d ∈ datas, d.Recognised ∧ d.Carries transaction)
    {frames : List Bytes}
    (hframes : frames.flatten = wire datas) (hne : ∀ frame ∈ frames, frame ≠ []) {last : Bytes} (hf : IsFrame last)
    (hn : ∀ c, Container.decode last = .ok c → ¬ c.Carries transaction) (hin : e.link.inbound = frames ++ [last]) :
    collect operation transaction none e =
      (Container.decode last >>= verdict operation transaction (gather none datas),
        { e with link := { e.link with inbound := [] } }) := by
  have hwaiting : ∀ bytes ∈ e.link.inbound, bytes ≠ [] := by
    rw [hin]
    intro bytes hb
    rcases List.mem_append.mp hb with hb | hb
    · exact hne bytes hb
    · rw [List.mem_singleton.mp hb]
      exact hf.ne_nil
  obtain ⟨transfers, hd, hsame, htransfers⟩ := Camera.exists_delivers e.packetLimit_pos e.link hc hwaiting
  have hahead : Ahead e transfers (wire datas ++ (last ++ [])) { e.link with inbound := [] } := by
    refine ⟨hd, ?_⟩
    rw [he, List.nil_append, hsame, hin, List.flatten_append, hframes, List.flatten_singleton, List.append_nil]
  obtain ⟨used, left, e', heq, hsplit, ⟨-, hadvanced⟩, hleft⟩ :=
    collect_of_ahead hf hn operation none hdatas hahead (flowing_of_forall_ne_nil htransfers)
  obtain ⟨hreceived, hlink⟩ := hleft.at_end fun bytes hb => htransfers bytes (hsplit ▸ List.mem_append_right _ hb)
  rw [heq, hadvanced, hreceived, hlink]
  congr 1
  obtain ⟨link, clock, next, session, received, stats, maxPacket⟩ := e
  obtain rfl : received = [] := he
  rfl

/-- The response behind the data is read, and nothing is left behind it. -/
theorem collect_respond (he : e.received = []) {c : Camera} (hc : c.connected = true) (operation : Operation)
    (transaction : UInt32) {datas : List Container} (hdatas : ∀ d ∈ datas, d.Recognised ∧ d.Carries transaction)
    (hframes : c.inbound.flatten = wire datas) (hne : ∀ frame ∈ c.inbound, frame ≠ []) (code : ResponseCode)
    {parameters : List UInt32} (hn : parameters.length ≤ maxParameters) {id : UInt32}
    (hlink : e.link = c.respond code id parameters) :
    collect operation transaction none e =
      (verdict operation transaction (gather none datas) (.response code.code id parameters),
        { e with link := { c with inbound := [] } }) := by
  obtain ⟨frame, hencode⟩ := Container.exists_encode_response code.code id hn
  have hdecode := Container.decode_of_encode (Container.canonical_response _ _ _) hencode
  have hpush := Camera.push_of_ok (c := c) hencode
  rw [Camera.respond, hpush] at hlink
  have hcarries : ∀ d, Container.decode frame = .ok d → ¬ d.Carries transaction := by
    intro d hd hcarries
    rw [hdecode] at hd
    cases hd
    cases hcarries.1
  have hcollect := collect_of_last he (by rw [hlink]; exact hc) operation transaction hdatas hframes hne
    (Container.isFrame_of_encode hencode) hcarries (by rw [hlink])
  rw [hcollect, hdecode, hlink]
  rfl

/-- A response alone is the answer. -/
theorem collect_respond_alone (he : e.received = []) {c : Camera} (hc : c.connected = true) (hin : c.inbound = [])
    (operation : Operation) (code : ResponseCode) {parameters : List UInt32}
    (hn : parameters.length ≤ maxParameters)
    (hlink : e.link = c.respond code transaction parameters) :
    collect operation transaction none e =
      (.ok { operation, transaction, code := .ofCode code.code, parameters, data := none },
        { e with link := { c with inbound := [] } }) := by
  have hanswers : (Container.response code.code transaction parameters).Answers transaction := ⟨rfl, rfl⟩
  have hnone : ∀ d ∈ ([] : List Container), d.Recognised ∧ d.Carries transaction := fun d hd => by cases hd
  have hcollect := collect_respond he hc operation transaction hnone (by rw [hin]; rfl)
    (by rw [hin]; exact fun frame hf => by cases hf) code hn hlink
  rw [hcollect, verdict_of_answers hanswers]
  rfl

/-- A response behind data is the answer, with the data if they fit a container. -/
theorem collect_respond_data (he : e.received = []) {c : Camera} (hc : c.connected = true) (hin : c.inbound = [])
    (operation : Operation) (code : UInt16) (payload : Bytes) {parameters : List UInt32}
    (hn : parameters.length ≤ maxParameters)
    (hlink : e.link = (c.push (.data code transaction payload)).respond .ok transaction parameters) :
    collect operation transaction none e =
      (.ok (.ofAnswer operation transaction (.ok { parameters, data := some payload })),
        { e with link := { c with inbound := [] } }) := by
  by_cases hfits : headerLength + payload.length ≤ maxWord
  · have hdata : Response.ofAnswer operation transaction (.ok { parameters, data := some payload }) =
        { operation, transaction, code := .ok, parameters, data := some payload } := by
      simp [Response.ofAnswer, hfits]
    obtain ⟨frame, hencode⟩ : ∃ frame, (Container.data code transaction payload).encode = .ok frame :=
      ⟨_, Container.encode_eq_ok_iff.mpr ⟨fun h => absurd rfl h, hfits, rfl⟩⟩
    have hpush := Camera.push_of_ok (c := c) hencode
    rw [hin, List.nil_append] at hpush
    rw [hpush] at hlink
    have hanswers : (Container.response ResponseCode.ok.code transaction parameters).Answers transaction :=
      ⟨rfl, rfl⟩
    have hcarries : ∀ d ∈ [Container.data code transaction payload], d.Recognised ∧ d.Carries transaction := by
      intro d hd
      rw [List.mem_singleton.mp hd]
      exact ⟨(Container.canonical_data _ _ _).recognised hencode, rfl, rfl⟩
    have hframes : [frame].flatten = wire [Container.data code transaction payload] := by
      simp [wire, hencode, Except.toOption]
    have hne : ∀ bytes ∈ [frame], bytes ≠ [] := by
      intro bytes hb
      rw [List.mem_singleton.mp hb]
      exact (Container.isFrame_of_encode hencode).ne_nil
    have hcollect := collect_respond he (c := { c with inbound := [frame] }) hc operation transaction
      hcarries hframes hne .ok hn hlink
    rw [hcollect, verdict_of_answers hanswers, hdata, gather_none, if_neg (List.cons_ne_nil _ _)]
    simp [Container.data, Container.response]
    rfl
  · have hdata : Response.ofAnswer operation transaction (.ok { parameters, data := some payload }) =
        { operation, transaction, code := .ok, parameters, data := none } := by
      simp [Response.ofAnswer, Nat.lt_of_not_le hfits]
    -- the camera cannot write data that long, and answers without them
    obtain ⟨error, hencode⟩ : ∃ error, (Container.data code transaction payload).encode = .error error := by
      cases hencode : (Container.data code transaction payload).encode with
      | error error => exact ⟨error, rfl⟩
      | ok frame => exact absurd (Container.encode_eq_ok_iff.mp hencode).2.1 hfits
    rw [Camera.push_of_error hencode] at hlink
    rw [collect_respond_alone he hc hin operation .ok hn hlink, hdata]
    rfl

/-- A command that is carried out is answered with what that came to. -/
theorem collect_answer (he : e.received = []) {c c' : Camera} (hc : c.connected = true) (hin : c.inbound = [])
    (operation : Operation) (transaction : UInt32) {parameters : List UInt32} {payload : Option Bytes}
    {answer : Except ResponseCode Camera.Reply}
    (hperform : Camera.perform (.ofCode operation.code) parameters payload c = (answer, c'))
    (hlink : e.link = c.answer (.ofCode operation.code) (.command operation.code transaction parameters) payload) :
    collect operation transaction none e =
      (.ok (.ofAnswer operation transaction answer), { e with link := { c' with inbound := [] } }) := by
  have hwires := Camera.keeps_perform c.wires (.ofCode operation.code) parameters payload c rfl
  rw [hperform] at hwires
  simp only [Camera.wires, Prod.mk.injEq] at hwires
  obtain ⟨hconnected, hinbound, -⟩ := hwires
  have hperform' : Camera.perform (.ofCode operation.code)
      (Container.command operation.code transaction parameters).parameters payload c = (answer, c') := hperform
  unfold Camera.answer at hlink
  rw [hperform'] at hlink
  cases answer with
  | error code =>
    exact collect_respond_alone he (hconnected.trans hc) (hinbound.trans hin) operation code (Nat.zero_le _) hlink
  | ok reply =>
    have hfew := Camera.brief_perform _ _ _ _ _ _ hperform
    obtain ⟨replied, data⟩ := reply
    cases data with
    | none =>
      exact collect_respond_alone he (hconnected.trans hc) (hinbound.trans hin) operation .ok hfew hlink
    | some bytes =>
      exact collect_respond_data he (hconnected.trans hc) (hinbound.trans hin) operation _ bytes hfew hlink

/-! ## The whole call -/

/-- What a call may come to at a camera that holds what `c` does: its outcome, and the camera behind it. -/
inductive Served (operation : Operation) (transaction : UInt32) (parameters : List UInt32) (payload : Option Bytes)
    (c : Camera) : Except PtpError Response → Camera → Prop
  /-- The camera did not hear it, or an armed fault spoiled the answer. -/
  | failed {c' : Camera} (error : PtpError) : c.Alike c' →
    Served operation transaction parameters payload c (.error error) c'
  /-- An armed fault refused it. -/
  | refused {c' : Camera} (code : ResponseCode) : c.Alike c' →
      Served operation transaction parameters payload c (.ok (.ofAnswer operation transaction (.error code))) c'
  /-- The camera carried it out. -/
  | performed {c₁ c₂ c' : Camera} {answer : Except ResponseCode Camera.Reply} : c.Alike c₁ →
      Camera.perform (.ofCode operation.code) parameters payload c₁ = (answer, c₂) → c₂.Alike c' →
      Served operation transaction parameters payload c (.ok (.ofAnswer operation transaction answer)) c'

/-- What a call comes to whose place a fault took: a failure or a code that the camera did not answer.  The
camera is as it was, but the fault is used up and may have broken the link. -/
structure Spoiled (operation : Operation) (transaction : UInt32) (fault : Fault)
    (faults : List (Operation × Fault)) (c : Camera) (r : Except PtpError Response) (c' : Camera) : Prop where
  alike : c.Alike c'
  faults : c'.faults = faults
  connected : c'.connected = decide (fault ≠ .disconnect)
  clear : c'.connected = true → c'.Clear
  outcome : ∀ response, r = .ok response → ∃ code, response = .ofAnswer operation transaction (.error code)

theorem Spoiled.served {operation : Operation} {transaction : UInt32} {fault : Fault}
    {faults : List (Operation × Fault)} {c c' : Camera} {r : Except PtpError Response}
    (h : Spoiled operation transaction fault faults c r c')
    (parameters : List UInt32) (payload : Option Bytes) :
    Served operation transaction parameters payload c r c' := by
  cases r with
  | error error => exact .failed error h.alike
  | ok response =>
    obtain ⟨code, rfl⟩ := h.outcome response rfl
    exact .refused code h.alike

/-- Nothing is received that was not used, and nothing stands in the way of a call at a camera that is still
connected. -/
structure Calm (e : Engine Camera) : Prop where
  received : e.received = []
  clear : e.link.connected = true → e.link.Clear

/-- The response of another transaction, or a container of no known kind, is no answer. -/
theorem collect_broken (he : e.received = []) {c : Camera} (hc : c.connected = true) (hin : c.inbound = [])
    (operation : Operation) (transaction : UInt32) {last : Container}
    (hlast : last.parameters = [] ∧ last.kind ≠ .data)
    (hn : ∀ frame, last.encode = .ok frame → ∀ d, Container.decode frame = .ok d → d.transaction ≠ transaction)
    (hlink : e.link = c.push last) :
    ∃ error, collect operation transaction none e = (.error error,
      { e with link := { c with inbound := [] } }) := by
  have hlength : last.encodedLength ≤ maxWord := by
    rw [Container.encodedLength, if_neg hlast.2, hlast.1]
    decide
  have hfew : last.parameters.length ≤ maxParameters := by
    rw [hlast.1]
    exact Nat.zero_le _
  obtain ⟨frame, hencode⟩ : ∃ frame, last.encode = .ok frame :=
    ⟨_, Container.encode_eq_ok_iff.mpr ⟨fun _ => hfew, hlength, rfl⟩⟩
  have hforeign := hn frame hencode
  rw [Camera.push_of_ok hencode] at hlink
  have hcarries : ∀ d, Container.decode frame = .ok d → ¬ d.Carries transaction := fun d hd h => hforeign d hd h.2
  have hnone : ∀ d ∈ ([] : List Container), d.Recognised ∧ d.Carries transaction := fun d hd => by cases hd
  have hempty : ∀ waiting ∈ ([] : List Bytes), waiting ≠ [] := fun waiting hw => by cases hw
  have hflatten : ([] : List Bytes).flatten = wire [] := rfl
  have hcollect := collect_of_last he (by rw [hlink]; exact hc) operation transaction hnone hflatten hempty
    (Container.isFrame_of_encode hencode) hcarries (by rw [hlink, hin])
  rw [hcollect, hlink]
  cases hdecode : Container.decode frame with
  | error error => exact ⟨error, rfl⟩
  | ok d =>
    obtain ⟨fault, hfault⟩ := verdict_of_not_answers operation (fun h => hforeign d hdecode h.2) (gather none [])
    refine ⟨.framing fault, ?_⟩
    rw [← hfault]
    rfl

/-- A fault that takes the place of a command leaves the camera as it was, but for the link. -/
theorem collect_fault (he : e.received = []) {c : Camera} (hc : c.connected = true) (hclear : c.Clear)
    (operation : Operation) (transaction : UInt32) (parameters : List UInt32) (payload : Option Bytes)
    {fault : Fault} {faults : List (Operation × Fault)}
    (ht : Camera.takeFault (.ofCode operation.code) c.faults = (some fault, faults))
    (hlink : e.link = c.dispatch (.ofCode operation.code)
      (.command operation.code transaction parameters) payload) :
    ∃ r c', collect operation transaction none e = (r, { e with link := c' }) ∧
      Spoiled operation transaction fault faults c r c' := by
  have halike : c.Alike { c with faults, inbound := [] } := ⟨rfl, rfl, rfl, rfl, rfl, rfl, rfl⟩
  have hclear' : ({ c with faults, inbound := [] } : Camera).Clear := ⟨rfl, hclear.outbound, hclear.awaitingData⟩
  have hsame : ({ c with faults } : Camera) = { c with faults, inbound := [] } := by rw [hclear.inbound]
  have hfailed : ∀ {fault : Fault} (error : PtpError), fault ≠ .disconnect →
      Spoiled operation transaction fault faults c (.error error) { c with faults, inbound := [] } :=
    fun error hstays => ⟨halike, rfl, hc.trans (decide_eq_true hstays).symm, fun _ => hclear',
      fun _ h => by cases h⟩
  unfold Camera.dispatch at hlink
  rw [ht] at hlink
  dsimp only at hlink
  cases fault with
  | respond code =>
    have hcollect := collect_respond_alone he (c := { c with faults }) hc hclear.inbound
      operation code (Nat.zero_le _) hlink
    refine ⟨_, _, hcollect, halike, rfl, hc, fun _ => hclear', fun response hr => ?_⟩
    cases hr
    exact ⟨code, rfl⟩
  | mismatch =>
    have hforeign : ∀ frame, (Container.response ResponseCode.ok.code (transaction + 100) []).encode = .ok frame →
        ∀ d, Container.decode frame = .ok d → d.transaction ≠ transaction := by
      intro frame hencode d hd
      rw [Container.decode_of_encode (Container.canonical_response _ _ _) hencode] at hd
      cases hd
      show transaction + 100 ≠ transaction
      intro heq
      have hnat := congrArg UInt32.toNat heq
      have hlt := transaction.toNat_lt
      rw [UInt32.toNat_add, show (100 : UInt32).toNat = 100 from rfl] at hnat
      omega
    obtain ⟨error, hcollect⟩ := collect_broken he (c := { c with faults }) hc hclear.inbound
      operation transaction ⟨rfl, by simp [Container.response]⟩ hforeign hlink
    exact ⟨_, _, hcollect, hfailed error (by decide)⟩
  | malformed =>
    obtain ⟨error, hcollect⟩ := collect_broken he (c := { c with faults }) hc hclear.inbound
      operation transaction ⟨rfl, by simp⟩ (fun frame hencode d hd =>
        absurd hd (Camera.decode_of_unknown rfl hencode d)) hlink
    exact ⟨_, _, hcollect, hfailed error (by decide)⟩
  | noResponse =>
    rw [hsame] at hlink
    obtain ⟨error, hcollect⟩ := collect_of_empty he (fun _ => by rw [hlink]) operation transaction
    refine ⟨_, e.link, hcollect, ?_⟩
    rw [hlink]
    exact hfailed _ (by decide)
  | disconnect =>
    have hgone : e.link.connected = false := by rw [hlink]; rfl
    obtain ⟨error, hcollect⟩ := collect_of_empty he (fun h => by rw [hgone] at h; cases h) operation transaction
    refine ⟨_, e.link, hcollect, ?_, ?_, hgone, fun h => ?_, fun _ h => by cases h⟩
    · rw [hlink]
      exact ⟨rfl, rfl, rfl, rfl, rfl, rfl, rfl⟩
    · rw [hlink]
      rfl
    · rw [hgone] at h
      cases h

/-- A command without a fault in its place is carried out and answered. -/
theorem collect_performed (he : e.received = []) {c : Camera} (hc : c.connected = true) (hclear : c.Clear)
    (operation : Operation) (transaction : UInt32) (parameters : List UInt32) (payload : Option Bytes)
    {faults : List (Operation × Fault)} (ht : Camera.takeFault (.ofCode operation.code) c.faults = (none, faults))
    (hlink : e.link = c.dispatch (.ofCode operation.code)
      (.command operation.code transaction parameters) payload) :
    ∃ c₁ c₂ c' answer, c.Alike c₁ ∧ Camera.perform (.ofCode operation.code) parameters payload c₁ = (answer, c₂) ∧
      c₂.Alike c' ∧ collect operation transaction none e = (.ok (.ofAnswer operation transaction answer),
        { e with link := c' }) ∧
      c'.connected = true ∧ c'.Clear ∧ c'.faults = faults := by
  unfold Camera.dispatch at hlink
  rw [ht] at hlink
  cases hp : Camera.perform (.ofCode operation.code) parameters payload { c with faults } with
  | mk answer c₂ =>
    have hcollect := collect_answer he (c := { c with faults }) hc hclear.inbound operation transaction hp hlink
    have hwires := Camera.keeps_perform _ (.ofCode operation.code) parameters payload { c with faults } rfl
    rw [hp] at hwires
    simp only [Camera.wires, Prod.mk.injEq] at hwires
    obtain ⟨hconnected, -, houtbound, hawaiting, hfaults⟩ := hwires
    exact ⟨{ c with faults }, c₂, { c₂ with inbound := [] }, answer, ⟨rfl, rfl, rfl, rfl, rfl, rfl, rfl⟩, hp,
      ⟨rfl, rfl, rfl, rfl, rfl, rfl, rfl⟩, hcollect, hconnected.trans hc,
      ⟨rfl, houtbound.trans hclear.outbound, hawaiting.trans hclear.awaitingData⟩, hfaults⟩

section Execute

variable {parameters : List UInt32} {payload : Option Bytes}

theorem link_execute_of_sent (hcheck : checkCall operation parameters payload e = .ok ()) {c c' : Camera}
    (hs : Transport.sendAll (outgoing operation e.nextTransaction parameters payload) e.link = (.ok (), c))
    {r : Except PtpError Response}
    (hcollect : collect operation e.nextTransaction none (sent e c) = (r, { sent e c with link := c' }))
    (he : e.received = []) :
    (execute operation parameters payload e).1 = r ∧ (execute operation parameters payload e).2.link = c' ∧
      (execute operation parameters payload e).2.received = [] := by
  rw [execute_of_sent hcheck hs, settle_outcome, link_settle, hcollect]
  exact ⟨rfl, rfl, received_settle_of_nil he⟩

/-- A link that is broken takes no command. -/
theorem execute_of_disconnected (hc : ¬ e.link.connected = true)
    (hcheck : checkCall operation parameters payload e = .ok ()) :
    execute operation parameters payload e = settle (.error (.transport .disconnected), sent e e.link) := by
  refine execute_of_unsent hcheck (Transport.sendAll_of_error ?_ _)
  show Camera.send _ e.link = _
  exact if_pos hc

/-- At a camera that is connected a call that is not refused comes to what is collected behind its command. -/
theorem exists_dispatch (h : Calm e) (hc : e.link.connected = true)
    (hpaired : payload.isSome = true ↔ Camera.Uploads operation)
    (hcheck : checkCall operation parameters payload e = .ok ()) :
    ∃ c d : Camera, e.link.Alike c ∧ c.connected = true ∧ c.Clear ∧ c.faults = e.link.faults ∧
      d = c.dispatch (.ofCode operation.code) (.command operation.code e.nextTransaction parameters) payload ∧
      ∀ r c', collect operation e.nextTransaction none (sent e d) = (r, { sent e d with link := c' }) →
        (execute operation parameters payload e).1 = r ∧ (execute operation parameters payload e).2.link = c' ∧
          (execute operation parameters payload e).2.received = [] := by
  obtain ⟨hn, hp⟩ := length_le_of_checkCall hcheck
  obtain ⟨c, halike, hwires, hs⟩ := Camera.sendAll_outgoing hc (h.clear hc) hpaired hn hp e.nextTransaction
  have hclear := (h.clear hc).of_wires hwires
  simp only [Camera.wires, Prod.mk.injEq] at hwires
  obtain ⟨hconnected, -, -, -, hfaults⟩ := hwires
  exact ⟨c, _, halike, hconnected.trans hc, hclear, hfaults, rfl,
    fun r c' hcollect => link_execute_of_sent hcheck hs hcollect h.received⟩

/-- A fault that is armed for the operation takes the place of a call that is not refused. -/
theorem execute_of_fault (h : Calm e) (hc : e.link.connected = true) {fault : Fault}
    {faults : List (Operation × Fault)}
    (ht : Camera.takeFault (.ofCode operation.code) e.link.faults = (some fault, faults))
    (hpaired : payload.isSome = true ↔ Camera.Uploads operation)
    (hcheck : checkCall operation parameters payload e = .ok ()) :
    Spoiled operation e.nextTransaction fault faults e.link (execute operation parameters payload e).1
        (execute operation parameters payload e).2.link ∧
      (execute operation parameters payload e).2.received = [] := by
  obtain ⟨c, d, halike, hc', hclear, hfaults, hd, hexecute⟩ := exists_dispatch h hc hpaired hcheck
  obtain ⟨r, c', hcollect, hspoiled⟩ :=
    collect_fault (e := sent e d) h.received hc' hclear operation e.nextTransaction
    parameters payload (hfaults ▸ ht) hd
  obtain ⟨hr, hlink, hreceived⟩ := hexecute r c' hcollect
  rw [hr, hlink]
  exact ⟨{ hspoiled with alike := halike.trans hspoiled.alike }, hreceived⟩

/-- At a camera that is connected and has no fault armed for the operation, a call that is not refused is carried
out. -/
theorem execute_of_unspoiled (h : Calm e) (hc : e.link.connected = true) {faults : List (Operation × Fault)}
    (ht : Camera.takeFault (.ofCode operation.code) e.link.faults = (none, faults))
    (hpaired : payload.isSome = true ↔ Camera.Uploads operation)
    (hcheck : checkCall operation parameters payload e = .ok ()) :
    ∃ c₁ c₂ c' answer, e.link.Alike c₁ ∧ Camera.perform (.ofCode operation.code) parameters payload c₁ =
      (answer, c₂) ∧
      c₂.Alike c' ∧ (c'.connected = true ∧ c'.Clear ∧ c'.faults = faults) ∧
      (execute operation parameters payload e).1 = .ok (.ofAnswer operation e.nextTransaction answer) ∧
      (execute operation parameters payload e).2.link = c' ∧
      (execute operation parameters payload e).2.received = [] := by
  obtain ⟨c, d, halike, hc', hclear, hfaults, hd, hexecute⟩ := exists_dispatch h hc hpaired hcheck
  obtain ⟨c₁, c₂, c', answer, halike₁, hperform, halike₂, hcollect, hconnected, hclear', hleft⟩ :=
    collect_performed (e := sent e d) h.received hc' hclear operation e.nextTransaction parameters payload
      (hfaults ▸ ht) hd
  exact ⟨c₁, c₂, c', answer, halike.trans halike₁, hperform, halike₂, ⟨hconnected, hclear', hleft⟩,
    hexecute _ c' hcollect⟩

/-- A call leaves the engine calm, and the camera as it was unless it carried the operation out. -/
theorem execute_cases (h : Calm e) (hpaired : payload.isSome = true ↔ Camera.Uploads operation)
    (parameters : List UInt32) :
    Served operation e.nextTransaction parameters payload e.link (execute operation parameters payload e).1
        (execute operation parameters payload e).2.link ∧
      Calm (execute operation parameters payload e).2 := by
  cases hcheck : checkCall operation parameters payload e with
  | error error =>
    rw [execute_of_refused hcheck]
    exact ⟨.failed error (.refl _), h⟩
  | ok _ =>
    by_cases hc : e.link.connected = true
    · -- either a fault takes the place of the command, or it is carried out
      rcases ht : Camera.takeFault (.ofCode operation.code) e.link.faults with ⟨_ | fault, faults⟩
      · obtain ⟨c₁, c₂, c', answer, halike, hperform, halike', ⟨-, hclear, -⟩, hr, hlink, hreceived⟩ :=
          execute_of_unspoiled h hc ht hpaired hcheck
        refine ⟨?_, hreceived, fun _ => hlink ▸ hclear⟩
        rw [hr, hlink]
        exact .performed halike hperform halike'
      · obtain ⟨hspoiled, hreceived⟩ := execute_of_fault h hc ht hpaired hcheck
        exact ⟨hspoiled.served parameters payload, hreceived, hspoiled.clear⟩
    · rw [execute_of_disconnected hc hcheck]
      refine ⟨.failed _ (.refl _), rfl, fun hconnected => ?_⟩
      exact absurd hconnected hc

end Execute

end Engine

end Tether
