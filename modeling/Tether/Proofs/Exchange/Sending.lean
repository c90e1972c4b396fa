import Tether.Engine.Exchange

/-!
# Tether.Proofs.Exchange.Sending — the transfers of a call

A call that is not refused fits its containers, so nothing but a transfer can fail before the answer: an exchange
sends its transfers one after the other, until one fails, and collects the answer (`exchange_eq`).
-/

namespace Tether

open Ptp

variable {τ : Type} [Transport τ]

/-! ## Several transfers -/

/-- Sends transfers one after the other, until one fails. -/
def Transport.sendAll : List Bytes → Action τ TransportError Unit
  | [] => pure ()
  | bytes :: rest => do
    Transport.send bytes
    sendAll rest

theorem Transport.sendAll_of_ok {bytes : Bytes} {link link₁ : τ} (h : Transport.send bytes link = (.ok (), link₁))
    (rest : List Bytes) : sendAll (bytes :: rest) link = sendAll rest link₁ := by
  rw [sendAll, Action.bind_apply, h]

theorem Transport.sendAll_of_error {bytes : Bytes} {link link₁ : τ} {error : TransportError}
    (h : Transport.send bytes link = (.error error, link₁)) (rest : List Bytes) :
    sendAll (bytes :: rest) link = (.error error, link₁) := by
  rw [sendAll, Action.bind_apply, h]

theorem Ptp.Header.make_of_le {length : Nat} (h : length ≤ maxWord) (kind : ContainerKind) (code : UInt16)
    (transaction : UInt32) :
    make length kind code transaction = .ok { length := .ofNat length, kind := kind.code, code, transaction } :=
  if_neg (Nat.not_lt.mpr h)

theorem Ptp.payloadHeader_of_le {n : Nat} (h : headerLength + n ≤ maxWord) (code : UInt16) (transaction : UInt32) :
    payloadHeader code transaction n =
      .ok (Header.encode
        { length := .ofNat (headerLength + n), kind := ContainerKind.data.code, code, transaction }) := by
  rw [payloadHeader, Header.make_of_le h]
  rfl

/-! ## What a call sends -/

namespace Engine

/-- The header of a container of so many bytes. -/
def headerBytes (operation : Operation) (transaction : UInt32) (kind : ContainerKind) (length : Nat) : Bytes :=
  Header.encode { length := .ofNat length, kind := kind.code, code := operation.code, transaction }

/-- The transfers of a call's data: the header and, unless there is none, the content. -/
def dataTransfers (operation : Operation) (transaction : UInt32) (payload : Bytes) : List Bytes :=
  headerBytes operation transaction .data (headerLength + payload.length) :: if payload = [] then [] else [payload]

/-- The transfers of a call: the command and its data, if it has some. -/
def outgoing (operation : Operation) (transaction : UInt32) (parameters : List UInt32) (payload : Option Bytes) :
    List Bytes :=
  (headerBytes operation transaction .command (headerLength + parameters.length * 4) ++ Bytes.ofU32s parameters) ::
    (payload.map (dataTransfers operation transaction)).getD []

theorem encode_command {parameters : List UInt32} (h : parameters.length ≤ maxParameters) (operation : Operation)
    (transaction : UInt32) :
    (Container.command operation.code transaction parameters).encode =
      .ok (headerBytes operation transaction .command (headerLength + parameters.length * 4) ++
        Bytes.ofU32s parameters) := by
  have hlength : headerLength + parameters.length * 4 ≤ maxWord := by
    unfold maxParameters at h
    unfold headerLength maxWord
    omega
  unfold Container.encode
  rw [if_neg fun hc => absurd hc.2 (Nat.not_lt.mpr h)]
  show (Header.make (headerLength + parameters.length * 4) .command operation.code transaction).map _ = _
  rw [Header.make_of_le hlength]
  rfl

theorem flatten_dataTransfers (operation : Operation) (transaction : UInt32) (payload : Bytes) :
    (dataTransfers operation transaction payload).flatten =
      headerBytes operation transaction .data (headerLength + payload.length) ++ payload := by
  unfold dataTransfers
  by_cases hp : payload = []
  · rw [if_pos hp, hp]
    rfl
  · rw [if_neg hp]
    simp

theorem encode_data {payload : Bytes} (h : headerLength + payload.length ≤ maxWord) (operation : Operation)
    (transaction : UInt32) :
    (Container.data operation.code transaction payload).encode =
      .ok (headerBytes operation transaction .data (headerLength + payload.length) ++ payload) := by
  unfold Container.encode
  rw [if_neg fun hc => hc.1 rfl]
  show (Header.make (headerLength + payload.length) .data operation.code transaction).map _ = _
  rw [Header.make_of_le h]
  rfl

/-! ## Sending and collecting -/

/-- Sends transfers one after the other from the engine's link. -/
def transmitAll (transfers : List Bytes) : Action (Engine τ) PtpError Unit :=
  .within Engine.link (fun link e => { e with link }) ((Transport.sendAll transfers).mapError .transport)

theorem transmitAll_of_ok {transfers : List Bytes} {e : Engine τ} {link : τ}
    (h : Transport.sendAll transfers e.link = (.ok (), link)) :
    transmitAll transfers e = (.ok (), { e with link }) := by
  unfold transmitAll Action.within Action.mapError
  rw [h]

theorem transmitAll_of_error {transfers : List Bytes} {e : Engine τ} {link : τ} {error : TransportError}
    (h : Transport.sendAll transfers e.link = (.error error, link)) :
    transmitAll transfers e = (.error (.transport error), { e with link }) := by
  unfold transmitAll Action.within Action.mapError
  rw [h]

theorem transmitAll_nil : (transmitAll [] : Action (Engine τ) PtpError Unit) = pure () := rfl

theorem transmitAll_cons (bytes : Bytes) (rest : List Bytes) :
    (transmitAll (bytes :: rest) : Action (Engine τ) PtpError Unit) = transmit bytes >>= fun _ =>
      transmitAll rest := by
  funext e
  rw [Action.bind_apply]
  unfold transmit Action.within Action.mapError
  cases hs : Transport.send bytes e.link with
  | mk r link =>
    cases r with
    | ok _ =>
      unfold transmitAll Action.within Action.mapError
      rw [Transport.sendAll_of_ok hs]
    | error error => rw [transmitAll_of_error (Transport.sendAll_of_error hs rest)]

theorem transmitData_eq {payload : Bytes} (h : headerLength + payload.length ≤ maxWord) (operation : Operation)
    (transaction : UInt32) :
    (transmitData operation transaction payload : Action (Engine τ) PtpError Unit) =
      transmitAll (dataTransfers operation transaction payload) := by
  unfold transmitData dataTransfers
  rw [payloadHeader_of_le h, transmitAll_cons]
  refine congrArg (transmit _ >>= ·) (funext fun _ => ?_)
  by_cases hp : payload = []
  · rw [if_pos hp, if_neg (fun hne => hne hp)]
    rfl
  · rw [if_neg hp, if_pos hp, transmitAll_cons, transmitAll_nil]
    exact (bind_pure (transmit payload : Action (Engine τ) PtpError Unit)).symm

/-- An exchange that is not refused sends its transfers and collects the answer. -/
theorem exchange_eq (operation : Operation) (transaction : UInt32) {parameters : List UInt32}
    {payload : Option Bytes} (hn : parameters.length ≤ maxParameters)
    (hp : ∀ p, payload = some p → headerLength + p.length ≤ maxWord) :
    (exchange operation transaction parameters payload : Action (Engine τ) PtpError Response) =
      transmitAll (outgoing operation transaction parameters payload) >>= fun _ =>
        collect operation transaction none := by
  unfold exchange outgoing
  rw [encode_command hn, transmitAll_cons]
  refine Eq.trans (congrArg (transmit _ >>= ·) (funext fun _ => ?_)) (Action.andThen_assoc _ _ _).symm
  cases payload with
  | none => rfl
  | some p =>
    show (transmitData operation transaction p >>= fun _ => collect operation transaction none) = _
    rw [transmitData_eq (hp p rfl)]
    rfl

end Engine

end Tether
