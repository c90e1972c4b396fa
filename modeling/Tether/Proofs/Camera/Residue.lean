import Mathlib.Data.List.Basic
import Tether.Engine.Operations
import Tether.Engine.Session
import Tether.Proofs.Camera.Answering
import Tether.Proofs.Exchange.Answered

/-!
# Tether.Proofs.Camera.Residue — no call leaves anything behind

An engine at a camera is settled when it has received nothing that it has not used, nothing waits at the camera
for the host, and the camera is in the middle of nothing.  A call takes the camera out of that state and its
answer, whatever an armed fault makes of it, back into it: the camera has exactly one answer ready, and the
engine reads that answer to its end (`settled_collect`).  A request is made of such calls, so it keeps what they
keep (`Lasting.request`); the announcement of an upload, which uses up a handle of the camera, may be left out or
made to depend on the engine.
-/

namespace Tether

open Ptp Tether.Action

/-! ## What a camera hands out -/

/-- Everything that waits is handed out, in pieces that are not empty. -/
theorem Camera.exists_delivers {limit : Nat} (hl : 0 < limit) (c : Camera) (hc : c.connected = true)
    (hne : ∀ bytes ∈ c.inbound, bytes ≠ []) :
    ∃ transfers, Delivers limit c transfers { c with inbound := [] } ∧ transfers.flatten = c.inbound.flatten ∧
      ∀ bytes ∈ transfers, bytes ≠ [] := by
  cases hq : c.inbound with
  | nil =>
    have hsame : { c with inbound := [] } = c := by rw [← hq]
    exact ⟨[], by rw [hsame]; exact .nil c, rfl, fun bytes hb => by cases hb⟩
  | cons chunk rest =>
    rw [hq] at hne
    obtain ⟨hchunk, hrest⟩ := List.forall_mem_cons.mp hne
    have hn : 0 < min limit c.maxChunk := Nat.lt_min.mpr ⟨hl, c.maxChunk_pos⟩
    by_cases hlt : min limit c.maxChunk < chunk.length
    · -- the front of the first transfer, the rest of which stays
      let n := min limit c.maxChunk
      have hr : Camera.receive limit c = (.ok (chunk.take n), { c with inbound := chunk.drop n :: rest }) := by
        unfold Camera.receive
        rw [if_neg (fun h => h hc), hq]
        exact if_pos hlt
      have hdrop : chunk.drop n ≠ [] := by
        have hlt' : n < chunk.length := hlt
        simp only [ne_eq, List.drop_eq_nil_iff, Nat.not_le]
        exact hlt'
      have htake : chunk.take n ≠ [] := by
        have hn' : n ≠ 0 := Nat.ne_of_gt hn
        simp [List.take_eq_nil_iff, hn', hchunk]
      obtain ⟨transfers, hd, hflatten, htransfers⟩ :=
        exists_delivers hl { c with inbound := chunk.drop n :: rest } hc (List.forall_mem_cons.mpr ⟨hdrop, hrest⟩)
      refine ⟨chunk.take n :: transfers, .next hr hd, ?_, List.forall_mem_cons.mpr ⟨htake, htransfers⟩⟩
      rw [List.flatten_cons, hflatten, List.flatten_cons, List.flatten_cons, ← List.append_assoc,
        List.take_append_drop]
    · have hr : Camera.receive limit c = (.ok chunk, { c with inbound := rest }) := by
        unfold Camera.receive
        rw [if_neg (fun h => h hc), hq]
        exact if_neg hlt
      obtain ⟨transfers, hd, hflatten, htransfers⟩ := exists_delivers hl { c with inbound := rest } hc hrest
      refine ⟨chunk :: transfers, .next hr hd, ?_, List.forall_mem_cons.mpr ⟨hchunk, htransfers⟩⟩
      rw [List.flatten_cons, hflatten, List.flatten_cons]
termination_by c.backlog
decreasing_by
  all_goals exact Nat.lt_of_le_of_lt (Nat.le_add_left _ _) (Camera.backlog_receive_lt hl hr)

namespace Engine

/-! ## One call -/

/-- Nothing of a call is left, neither at the engine nor at the camera. -/
def Settled (e : Engine Camera) : Prop :=
  e.received = [] ∧ e.link.Quiet

/-- At the end of a stream that holds no empty transfer nothing is left to receive. -/
theorem Ahead.at_end {τ : Type} [Transport τ] {e : Engine τ} {left : List Bytes} {link' : τ}
    (h : Ahead e left [] link') (hne : ∀ bytes ∈ left, bytes ≠ []) : e.received = [] ∧ e.link = link' := by
  obtain ⟨hreceived, hflatten⟩ := List.append_eq_nil_iff.mp h.stream_eq
  refine ⟨hreceived, ?_⟩
  cases left with
  | nil =>
    cases h.delivers
    rfl
  | cons bytes left =>
    have hnil := List.flatten_eq_nil_iff.mp hflatten bytes List.mem_cons_self
    exact absurd hnil (hne bytes List.mem_cons_self)

theorem received_settle_of_nil {τ : Type} {x : Except PtpError Response × Engine τ} (h : x.2.received = []) :
    (settle x).2.received = [] := by
  obtain ⟨r, e⟩ := x
  cases r with
  | ok response => exact h
  | error error => rfl

/-- The engine reads an answer to its end. -/
theorem settled_collect {operation : Operation} {transaction : UInt32} {e : Engine Camera} (he : e.received = [])
    (ha : e.link.Answering transaction) : Settled (settle (collect operation transaction none e)).2 := by
  obtain ⟨hidle, datas, last, hdatas, hlast, hflatten, hne⟩ := ha
  obtain ⟨transfers, hd, hsame, htransfers⟩ := Camera.exists_delivers e.packetLimit_pos e.link hidle.connected hne
  have hquiet : ({ e.link with inbound := [] } : Camera).Quiet :=
    ⟨⟨hidle.connected, hidle.outbound, hidle.awaitingData, hidle.faults⟩, rfl⟩
  have hahead : Ahead e transfers (wire datas ++ last.getD []) { e.link with inbound := [] } := by
    refine ⟨hd, ?_⟩
    rw [he, List.nil_append, hsame, hflatten]
  have hflow := flowing_of_forall_ne_nil htransfers
  have hsub : ∀ {used left : List Bytes}, used ++ left = transfers → ∀ bytes ∈ left, bytes ≠ [] :=
    fun hsplit bytes hb => htransfers bytes (hsplit ▸ List.mem_append_right _ hb)
  cases last with
  | some frame =>
    obtain ⟨hf, hc⟩ := hlast frame rfl
    rw [show (some frame).getD [] = frame ++ [] from (List.append_nil frame).symm] at hahead
    obtain ⟨used, left, e', heq, hsplit, -, hleft⟩ := collect_of_ahead hf hc operation none hdatas hahead hflow
    obtain ⟨hreceived, hlink⟩ := hleft.at_end (hsub hsplit)
    rw [heq]
    refine ⟨received_settle_of_nil hreceived, ?_⟩
    rw [link_settle, hlink]
    exact hquiet
  | none =>
    obtain ⟨used, left, e', heq, hsplit, -, hleft⟩ := collect_of_datas operation none hdatas hahead hflow
    obtain ⟨hreceived, hlink⟩ := hleft.at_end (hsub hsplit)
    -- behind the data nothing comes, so the exchange ends for want of a response
    have hr : Transport.receive e'.packetLimit e'.link = (.error .timeout, e'.link) := by
      rw [hlink]
      show Camera.receive _ _ = _
      unfold Camera.receive
      rw [if_neg (fun h => h hidle.connected)]
    have hsilence := collect_of_silence operation transaction (gather none datas) hreceived (.nil _) rfl
      (flowing_of_forall_ne_nil fun bytes hb => by cases hb) hr
    rw [heq, hsilence]
    refine ⟨rfl, ?_⟩
    rw [link_settle, hlink]
    exact hquiet

theorem keeps_execute {operation : Operation} {payload : Option Bytes}
    (hpaired : payload.isSome = true ↔ Camera.Uploads operation) (parameters : List UInt32) :
    (execute operation parameters payload).Keeps Settled := by
  intro e h
  cases hc : checkCall operation parameters payload e with
  | error error =>
    rw [execute_of_refused hc]
    exact h
  | ok _ =>
    obtain ⟨hn, hp⟩ := length_le_of_checkCall hc
    obtain ⟨c', hs, ha⟩ := Camera.answering_sendAll h.2 hpaired hn hp e.nextTransaction
    rw [execute_of_sent hc hs]
    exact settled_collect (e := sent e c') h.1 ha

/-! ## Every operation -/

/-- What a host can ask of an engine. -/
inductive Request where
  | deviceInfo
  | storageIds
  | storageInfo (storage : UInt32)
  | countObjects (storage : UInt32) (format : Option ObjectFormat)
  | handles (storage parent : UInt32)
  | objectInfo (handle : UInt32)
  | download (handle : UInt32)
  | downloadPart (handle offset length : UInt32)
  | deleteObject (handle : UInt32)
  | formatStore (storage : UInt32)
  | announceUpload (storage parent : UInt32) (info : ObjectInfo)
  | sendContent (content : Bytes)
  | upload (storage parent : UInt32) (info : ObjectInfo) (content : Bytes)
  | openSession
  | closeSession

/-- The engine after a request, whether it succeeded or failed. -/
def Request.run {τ : Type} [Transport τ] : Request → Engine τ → Engine τ
  | .deviceInfo, e => (Engine.deviceInfo e).2
  | .storageIds, e => (Engine.storageIds e).2
  | .storageInfo storage, e => (Engine.storageInfo storage e).2
  | .countObjects storage format, e => (Engine.countObjects storage format e).2
  | .handles storage parent, e => (Engine.handles storage parent e).2
  | .objectInfo handle, e => (Engine.objectInfo handle e).2
  | .download handle, e => (Engine.download handle e).2
  | .downloadPart handle offset length, e => (Engine.downloadPart handle offset length e).2
  | .deleteObject handle, e => (Engine.deleteObject handle e).2
  | .formatStore storage, e => (Engine.formatStore storage e).2
  | .announceUpload storage parent info, e => (Engine.announceUpload storage parent info e).2
  | .sendContent content, e => (Engine.sendContent content e).2
  | .upload storage parent info content, e => (Engine.upload storage parent info content e).2
  | .openSession, e => (Engine.openSession e).2
  | .closeSession, e => Engine.closeSession e

/-- A property that is about the link and the bytes received only, and that transactions keep, the announcement
of an upload as long as `may` allows it. -/
structure Lasting (may P : Engine Camera → Prop) : Prop where
  execute : ∀ {operation : Operation} {payload : Option Bytes} {e : Engine Camera},
    (payload.isSome = true ↔ Camera.Uploads operation) → ∀ parameters : List UInt32, P e →
      (Operation.ofCode operation.code = .sendObjectInfo → may e) →
      P (Engine.execute operation parameters payload e).2
  idle : ∀ {e e' : Engine Camera}, P e → e'.link = e.link → e'.received = e.received → P e'

/-- The request uses up a handle of the camera, if the camera grants it. -/
def Request.TakesHandle : Request → Prop
  | .announceUpload .. | .upload .. => True
  | _ => False

namespace Lasting

variable {may P : Engine Camera → Prop} (hP : Lasting may P)
include hP

theorem executeOk {operation : Operation} {payload : Option Bytes} {e : Engine Camera}
    (hpaired : payload.isSome = true ↔ Camera.Uploads operation) (parameters : List UInt32) (h : P e)
    (hmay : Operation.ofCode operation.code = .sendObjectInfo → may e) :
    P (Engine.executeOk operation parameters payload e).2 := by
  refine Leaves.state ?_
  refine leaves_bind ((leaves_of_state (hP.execute hpaired parameters h hmay)).mono ?_ fun _ _ he => he)
  exact fun response e' he => leaves_of_state (keeps_ofExcept _ e' he)

/-- A request without data, of an operation for which the camera waits for none. -/
theorem keeps_ask {operation : Operation} (ho : ¬ Camera.Uploads operation) (parameters : List UInt32) :
    (Engine.executeOk operation parameters none).Keeps P :=
  fun _ h => hP.executeOk ⟨fun h => (by cases h), fun h => absurd h ho⟩ parameters h fun hcode =>
    absurd (.inl hcode) ho

theorem keeps_askDataset {α : Type} {operation : Operation} (ho : ¬ Camera.Uploads operation)
    (parameters : List UInt32) (parse : Bytes → Except PtpError α) :
    (askDataset operation parameters parse).Keeps P :=
  keeps_bind (hP.keeps_ask ho parameters) fun _ => keeps_bind (keeps_ofExcept _) fun _ => keeps_ofExcept _

theorem announceUpload (storage parent : UInt32) (info : ObjectInfo) {e : Engine Camera} (h : P e)
    (hmay : may e) : P (Engine.announceUpload storage parent info e).2 := by
  have hok : P (Engine.executeOk .sendObjectInfo [storage, wireParent parent] (some info.encode) e).2 :=
    hP.executeOk ⟨fun _ => .inl rfl, fun _ => rfl⟩ _ h fun _ => hmay
  unfold Engine.announceUpload
  rw [bind_apply]
  cases hx : Engine.executeOk .sendObjectInfo [storage, wireParent parent] (some info.encode) e with
  | mk r e' =>
    rw [hx] at hok
    cases r with
    | ok response => exact keeps_ofOption _ _ e' hok
    | error error => exact hok

theorem keeps_sendContent (content : Bytes) : (sendContent content).Keeps P := by
  refine keeps_bind (fun e h => ?_) fun _ => keeps_pure _
  exact hP.executeOk ⟨fun _ => .inr rfl, fun _ => rfl⟩ [] h fun hcode => absurd hcode (by decide)

theorem keeps_openSession : openSession.Keeps P := by
  have hpaired : (none : Option Bytes).isSome = true ↔ Camera.Uploads .openSession := by decide
  refine keeps_bind (keeps_read _) fun isOpen => keeps_ite (keeps_pure _) ?_
  refine keeps_bind (fun e h => ?_) fun response => keeps_ite ?_ (keeps_fail _)
  · exact hP.execute hpaired _ h fun hcode => absurd hcode (by decide)
  · exact keeps_change fun e h => hP.idle h rfl rfl

theorem closeSession {e : Engine Camera} (h : P e) : P e.closeSession := by
  have hpaired : (none : Option Bytes).isSome = true ↔ Camera.Uploads .closeSession := by decide
  unfold Engine.closeSession
  split
  · exact hP.idle (hP.execute hpaired [] h fun hcode => absurd hcode (by decide)) rfl rfl
  · exact h

/-- Requests keep what lasts. -/
theorem request (r : Request) {e : Engine Camera} (h : P e)
    (hmay : r.TakesHandle → may e) : P (r.run e) := by
  cases r with
  | deviceInfo => exact hP.keeps_askDataset (by decide) _ _ e h
  | storageIds => exact hP.keeps_askDataset (by decide) _ _ e h
  | storageInfo storage => exact hP.keeps_askDataset (by decide) _ _ e h
  | countObjects storage format => exact keeps_bind (hP.keeps_ask (by decide) _) (fun _ => keeps_ofOption _ _) e h
  | handles storage parent => exact hP.keeps_askDataset (by decide) _ _ e h
  | objectInfo handle => exact hP.keeps_askDataset (by decide) _ _ e h
  | download handle => exact keeps_bind (hP.keeps_ask (by decide) _) (fun _ => keeps_pure _) e h
  | downloadPart handle offset length => exact keeps_bind (hP.keeps_ask (by decide) _) (fun _ => keeps_pure _) e h
  | deleteObject handle => exact keeps_bind (hP.keeps_ask (by decide) _) (fun _ => keeps_pure _) e h
  | formatStore storage => exact keeps_bind (hP.keeps_ask (by decide) _) (fun _ => keeps_pure _) e h
  | announceUpload storage parent info =>
    exact hP.announceUpload storage parent info h (hmay trivial)
  | sendContent content => exact hP.keeps_sendContent content e h
  | upload storage parent info content =>
    have hannounced := hP.announceUpload storage parent info h (hmay trivial)
    show P (Engine.upload storage parent info content e).2
    unfold Engine.upload
    rw [bind_apply]
    cases hx : Engine.announceUpload storage parent info e with
    | mk r e' =>
      rw [hx] at hannounced
      cases r with
      | ok handle => exact keeps_bind (hP.keeps_sendContent content) (fun _ => keeps_pure _) e' hannounced
      | error error => exact hannounced
  | openSession => exact hP.keeps_openSession e h
  | closeSession => exact hP.closeSession h

/-- A request that uses up no handle. -/
theorem ask (r : Request) (hr : ¬ r.TakesHandle) {e : Engine Camera} (h : P e) : P (r.run e) :=
  hP.request r h fun ht => absurd ht hr

end Lasting

/-! ## No request leaves anything behind -/

/-- What every call leaves behind, every request does. -/
theorem lasting_settled : Lasting (fun _ => True) Settled where
  execute hpaired parameters h _ := keeps_execute hpaired parameters _ h
  idle h hlink hreceived := ⟨hreceived.trans h.1, hlink ▸ h.2⟩

/-- An engine at a camera, reached by requests from a new one at a camera as it is made.  Between the requests
time may pass, anything may happen to the camera but at its link, and any fault may be armed but the one that
breaks the link. -/
inductive Attended : Engine Camera → Prop
  | new (clock made : Calendar.Instant) (maxPacket : Nat) : Attended { link := .bare made, clock, maxPacket }
  | request (r : Request) {e : Engine Camera} : Attended e → Attended (r.run e)
  | aside (c : Camera) (clock : Calendar.Instant) {e : Engine Camera} : Attended e →
      c.connected = e.link.connected →
      c.inbound = e.link.inbound → c.outbound = e.link.outbound → c.awaitingData = e.link.awaitingData →
      (∀ f ∈ c.faults, f.2 ≠ .disconnect) → Attended { e with link := c, clock }

theorem Attended.settled {e : Engine Camera} (h : Attended e) : Settled e := by
  induction h with
  | new clock made maxPacket => exact ⟨rfl, ⟨rfl, rfl, rfl, fun f hf => by cases hf⟩, rfl⟩
  | request r _ ih => exact lasting_settled.request r ih fun _ => trivial
  | aside c clock _ hc hi ho ha hf ih =>
    obtain ⟨hreceived, ⟨hconnected, houtbound, hawaiting, -⟩, hinbound⟩ := ih
    exact ⟨hreceived, ⟨hc.trans hconnected, ho.trans houtbound, ha.trans hawaiting, hf⟩, hi.trans hinbound⟩

/-- After every request, whether it succeeded or failed, the engine holds no bytes, nothing waits at the camera
for the host, the camera holds no part of a container, and no command waits for its data. -/
theorem Attended.no_residue {e : Engine Camera} (h : Attended e) :
    e.received = [] ∧ e.link.inbound = [] ∧ e.link.outbound = [] ∧ e.link.awaitingData = none := by
  obtain ⟨hreceived, hidle, hinbound⟩ := h.settled
  exact ⟨hreceived, hinbound, hidle.outbound, hidle.awaitingData⟩

/-- A camera with two cards, whose transfers are of five bytes at most and whose next list of storages is
answered under another id. -/
def troubled : Camera :=
  ((Camera.withTwoCards idle.clock).setMaxChunk 5).injectFault .getStorageIds .mismatch

/-- The engine that has opened a session with that camera. -/
def attending : Engine Camera :=
  Request.openSession.run { link := troubled, clock := idle.clock, maxPacket := 16 }

theorem Attended.no_residue_troubled :
    (storageIds attending).1 =
        .error (.framing (.foreignTransaction .getStorageIds 2 102 .response)) ∧
      (Request.storageIds.run attending).received = [] ∧ (Request.storageIds.run attending).link.inbound = [] := by
  have hnew : Attended { link := .bare idle.clock, clock := idle.clock, maxPacket := 16 } := .new _ _ _
  have htroubled : Attended { link := troubled, clock := idle.clock, maxPacket := 16 } :=
    .aside troubled _ hnew rfl rfl rfl rfl (by decide)
  have h := no_residue (.request .storageIds (.request .openSession htroubled))
  exact ⟨by decide +kernel, h.1, h.2.1⟩

end Engine

end Tether
