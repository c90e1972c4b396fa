import Mathlib.Data.List.Basic
import Tether.Proofs.Exchange.Outcome
import Tether.Proofs.Ptp.Frame

/-!
# Tether.Proofs.Exchange.Transactions — ids, refusals and counters along every run

An engine is given calls in any number and order.  Between them the session that it records may change, the
counters may begin anew, and anything may happen to the link, so calls end in any way there is.  A call is
refused before it sends anything, or it uses the next id in all that it sends and is counted
(`execute_of_accepted`).

The number of calls accepted so far tells the next id: they go round from 1 to 0xFFFFFFFE.
-/

namespace Tether

open Ptp
open Calendar (Instant)

variable {τ : Type} [Transport τ]

/-! ## A link with a record -/

/-- A link and every transfer that was sent over it, or was tried to. -/
structure Recorded (τ : Type) where
  link : τ
  sends : List Bytes := []

namespace Recorded

instance : Transport (Recorded τ) where
  send bytes l :=
    ((Transport.send bytes l.link).1, { link := (Transport.send bytes l.link).2, sends := l.sends ++ [bytes] })
  receive limit l := ((Transport.receive limit l.link).1, { l with link := (Transport.receive limit l.link).2 })
  backlog l := Transport.backlog l.link
  backlog_receive_lt := by
    intro limit l l' bytes hl h
    obtain ⟨hr, rfl⟩ := Prod.mk.inj h
    exact Transport.backlog_receive_lt hl (Prod.ext hr rfl)

variable {l l' : Recorded τ} {limit : Nat}

theorem sends_send {bytes : Bytes} {r : Except TransportError Unit} (h : Transport.send bytes l = (r, l')) :
    l'.sends = l.sends ++ [bytes] := by
  obtain ⟨-, rfl⟩ := Prod.mk.inj h
  rfl

theorem sends_receive {r : Except TransportError Bytes} (h : Transport.receive limit l = (r, l')) :
    l'.sends = l.sends := by
  obtain ⟨-, rfl⟩ := Prod.mk.inj h
  rfl

/-- Transfers are sent in order, and none behind one that fails. -/
theorem sends_sendAll {r : Except TransportError Unit} : ∀ {transfers : List Bytes} {l l' : Recorded τ},
    Transport.sendAll transfers l = (r, l') →
      ∃ sent, sent <+: transfers ∧ l'.sends = l.sends ++ sent ∧ (transfers ≠ [] → sent ≠ [])
  | [], l, l', h => by
    obtain ⟨-, rfl⟩ := Prod.mk.inj h
    exact ⟨[], List.nil_prefix, (List.append_nil _).symm, id⟩
  | bytes :: rest, l, l', h => by
    cases hs : Transport.send bytes l with
    | mk r₁ l₁ =>
      have hl := sends_send hs
      cases r₁ with
      | ok _ =>
        rw [Transport.sendAll_of_ok hs] at h
        obtain ⟨sent, ⟨left, rfl⟩, hsent, -⟩ := sends_sendAll h
        refine ⟨bytes :: sent, ⟨left, rfl⟩, ?_, fun _ => List.cons_ne_nil _ _⟩
        rw [hsent, hl, List.append_assoc, List.singleton_append]
      | error error =>
        rw [Transport.sendAll_of_error hs] at h
        obtain ⟨-, rfl⟩ := Prod.mk.inj h
        exact ⟨[bytes], ⟨rest, rfl⟩, hl, fun _ => List.cons_ne_nil _ _⟩

end Recorded

/-! ## What a call sends -/

namespace Engine

/-- The containers of a call: the command, and its data if it has some. -/
def request (operation : Operation) (transaction : UInt32) (parameters : List UInt32) (payload : Option Bytes) :
    List Container :=
  .command operation.code transaction parameters ::
    (payload.map (Container.data operation.code transaction)).toList

theorem transaction_of_mem_request {operation : Operation} {transaction : UInt32} {parameters : List UInt32}
    {payload : Option Bytes} :
    ∀ c ∈ request operation transaction parameters payload, c.transaction = transaction := by
  unfold request
  cases payload <;> simp [Container.command, Container.data]

/-- What a call sends is its containers and nothing else. -/
theorem unframe_outgoing {operation : Operation} {transaction : UInt32} {parameters : List UInt32}
    {payload : Option Bytes} (hn : parameters.length ≤ maxParameters)
    (hp : ∀ p, payload = some p → headerLength + p.length ≤ maxWord) :
    unframe (outgoing operation transaction parameters payload).flatten =
      ⟨request operation transaction parameters payload, none, []⟩ := by
  have hcommand := encode_command hn operation transaction
  have hdecode := Container.decode_of_encode (Container.canonical_command _ _ _) hcommand
  have hframe := Container.isFrame_of_encode hcommand
  unfold outgoing request
  rw [List.flatten_cons]
  cases payload with
  | none => exact unframe_of_frame hframe hdecode unframe_nil
  | some payload =>
    have hdata := encode_data (hp payload rfl) operation transaction
    rw [← flatten_dataTransfers] at hdata
    have hdata' := Container.decode_of_encode (Container.canonical_data _ _ _) hdata
    have hrest := unframe_of_frame (Container.isFrame_of_encode hdata) hdata' unframe_nil
    rw [List.append_nil] at hrest
    exact unframe_of_frame hframe hdecode hrest

/-! ## One call -/

/-- A call ended before anything was sent: it has an argument that no container carries, or there is no session. -/
def refused : Except PtpError Response → Bool
  | .error .notConnected => true
  | .error (.invalidArgument _) => true
  | _ => false

/-- A call was answered with `ok`. -/
def succeeded : Except PtpError Response → Bool
  | .ok response => response.isOk
  | .error _ => false

section Execute

variable {operation : Operation} {parameters : List UInt32} {payload : Option Bytes}

omit [Transport τ] in
theorem checkCall_eq_ok_iff {e : Engine τ} :
    checkCall operation parameters payload e = .ok () ↔
      ¬ (5 < parameters.length ∨ (∃ p, payload = some p ∧ 2 ^ 32 - 1 < 12 + p.length) ∨
        operation ≠ .openSession ∧ e.session = none) := by
  have hpayload : (payload.isSome ∧ maxWord < headerLength + (payload.map List.length).getD 0) ↔
      ∃ p, payload = some p ∧ 2 ^ 32 - 1 < 12 + p.length := by
    cases payload <;> simp [maxWord, headerLength]
  have hn : maxParameters < parameters.length ↔ 5 < parameters.length := Iff.rfl
  unfold checkCall
  dsimp only
  rw [← hpayload, ← hn]
  split
  · rename_i h
    exact ⟨fun hc => (by cases hc), fun hc => absurd (.inl h) hc⟩
  · split
    · rename_i h
      exact ⟨fun hc => (by cases hc), fun hc => absurd (.inr (.inl h)) hc⟩
    · split
      · rename_i h
        exact ⟨fun hc => (by cases hc), fun hc => absurd (.inr (.inr h)) hc⟩
      · rename_i h₁ h₂ h₃
        exact ⟨fun _ => not_or.mpr ⟨h₁, not_or.mpr ⟨h₂, h₃⟩⟩, fun _ => rfl⟩

omit [Transport τ] in
theorem refused_of_checkCall {e : Engine τ} {error : PtpError}
    (h : checkCall operation parameters payload e = .error error) : refused (.error error) = true := by
  unfold checkCall at h
  dsimp only at h
  split at h
  · cases h
    rfl
  · split at h
    · cases h
      rfl
    · split at h
      · cases h
        rfl
      · cases h

theorem not_refused_of_listened {limit : Nat} {link link' : τ} {r : Except PtpError Response}
    (h : Listened limit link r link') : refused r = false := by
  cases h <;> rfl

/-- Reading a container changes the link and the bytes received, and nothing else. -/
theorem awaitContainer_unchanged (empties : Nat) (e : Engine τ) :
    (awaitContainer empties e).2 =
      { e with link := (awaitContainer empties e).2.link, received := (awaitContainer empties e).2.received } := by
  fun_induction awaitContainer empties e with
  | case1 => rfl
  | case2 => rfl
  | case3 => rfl
  | case4 => rfl
  | case5 _ _ _ _ _ _ ih => exact ih
  | case6 _ _ _ _ _ _ _ ih => exact ih

theorem collect_unchanged (operation : Operation) (transaction : UInt32) (data : Option Bytes) (e : Engine τ) :
    (collect operation transaction data e).2 =
      { e with link := (collect operation transaction data e).2.link,
               received := (collect operation transaction data e).2.received } := by
  have hnext : ∀ {e e' : Engine τ} {r : Except PtpError Container}, nextContainer e = (r, e') →
      e' = { e with link := e'.link, received := e'.received } := by
    intro e e' r h
    have hu := awaitContainer_unchanged 0 e
    rwa [show awaitContainer 0 e = (r, e') from h] at hu
  fun_induction collect operation transaction data e with
  | case1 data e error e' hn => exact hnext hn
  | case2 data e c e' hn ht => exact hnext hn
  | case3 data e c e' hn ht hk ih =>
    rw [ih]
    rw [hnext hn]
  | case4 data e c e' hn ht hk => exact hnext hn
  | case5 data e c e' hn ht hd hr => exact hnext hn

omit [Transport τ] in
theorem settle_unchanged (x : Except PtpError Response × Engine τ) :
    (settle x).2 =
      { x.2 with received := (settle x).2.received,
                 stats := x.2.stats.recordExchange x.2.clock (succeeded x.1) } := by
  unfold settle
  split <;> rfl

/-- A call that is not refused uses the next id and is counted; apart from that only the link and the bytes
received change. -/
theorem execute_of_accepted {e : Engine τ} (hc : checkCall operation parameters payload e = .ok ()) :
    refused (execute operation parameters payload e).1 = false ∧
      (execute operation parameters payload e).2 =
        { e with link := (execute operation parameters payload e).2.link,
                 received := (execute operation parameters payload e).2.received,
                 nextTransaction := nextId e.nextTransaction,
                 stats := e.stats.recordExchange e.clock
                     (succeeded (execute operation parameters payload e).1) } := by
  cases hs : Transport.sendAll (outgoing operation e.nextTransaction parameters payload) e.link with
  | mk r link =>
    cases r with
    | ok _ =>
      have hl := listened_collect operation e.nextTransaction none (sent e link)
      have hu := collect_unchanged operation e.nextTransaction none (sent e link)
      rw [execute_of_sent hc hs, settle_outcome]
      refine ⟨not_refused_of_listened hl, ?_⟩
      rw [settle_unchanged, hu]
      rfl
    | error error =>
      rw [execute_of_unsent hc hs]
      exact ⟨rfl, rfl⟩

/-- A call does not change what session the engine takes for open. -/
theorem session_execute (operation : Operation) (parameters : List UInt32) (payload : Option Bytes)
    (e : Engine τ) :
    (execute operation parameters payload e).2.session = e.session := by
  cases hc : checkCall operation parameters payload e with
  | ok _ => rw [(execute_of_accepted hc).2]
  | error error => rw [execute_of_refused hc]

/-- A call is refused for too many parameters, for too much data, or because no session is open. -/
theorem refused_execute_iff {e : Engine τ} :
    refused (execute operation parameters payload e).1 = true ↔
      5 < parameters.length ∨ (∃ p, payload = some p ∧ 2 ^ 32 - 1 < 12 + p.length) ∨
        operation ≠ .openSession ∧ e.session = none := by
  cases hc : checkCall operation parameters payload e with
  | ok _ =>
    rw [(execute_of_accepted hc).1]
    exact ⟨fun h => (by cases h), fun h => absurd h (checkCall_eq_ok_iff.mp hc)⟩
  | error error =>
    rw [execute_of_refused hc]
    refine ⟨fun _ => by_contra fun hn => ?_, fun _ => refused_of_checkCall hc⟩
    rw [checkCall_eq_ok_iff.mpr hn] at hc
    cases hc

theorem sends_execute {e : Engine (Recorded τ)} (hc : checkCall operation parameters payload e = .ok ()) :
    ∃ sent, sent <+: outgoing operation e.nextTransaction parameters payload ∧ sent ≠ [] ∧
      (execute operation parameters payload e).2.link.sends = e.link.sends ++ sent := by
  have hne : outgoing operation e.nextTransaction parameters payload ≠ [] := List.cons_ne_nil _ _
  cases hs : Transport.sendAll (outgoing operation e.nextTransaction parameters payload) e.link with
  | mk r link =>
    obtain ⟨transfers, hprefix, hsends, htransfers⟩ := Recorded.sends_sendAll hs
    refine ⟨transfers, hprefix, htransfers hne, ?_⟩
    cases r with
    | ok _ =>
      have hl := listened_collect operation e.nextTransaction none (sent e link)
      rw [execute_of_sent hc hs, link_settle, hl.same Recorded.sends_receive]
      exact hsends
    | error error =>
      rw [execute_of_unsent hc hs]
      exact hsends

end Execute

end Engine

/-! ## Runs -/

/-- What may happen to an engine. -/
inductive EngineStep (τ : Type) where
  | call (operation : Operation) (parameters : List UInt32) (payload : Option Bytes)
  /-- Another session is recorded, or none. -/
  | recordSession (session : Option UInt32)
  /-- The counters begin anew. -/
  | resetStats
  /-- Anything that happens to the link between calls. -/
  | relink (link : τ)

namespace EngineStep

open Engine

def run : EngineStep τ → Engine (Recorded τ) → Engine (Recorded τ)
  | .call operation parameters payload, e => (execute operation parameters payload e).2
  | .recordSession session, e => { e with session }
  | .resetStats, e => e.count Stats.reset
  | .relink link, e => { e with link := { e.link with link } }

/-- How a call ended, if the step is one. -/
def result : EngineStep τ → Engine (Recorded τ) → List (Except PtpError Response)
  | .call operation parameters payload, e => [(execute operation parameters payload e).1]
  | _, _ => []

def runAll (steps : List (EngineStep τ)) (e : Engine (Recorded τ)) : Engine (Recorded τ) :=
  steps.foldl (fun e step => step.run e) e

/-- How the calls among some steps ended. -/
def results : List (EngineStep τ) → Engine (Recorded τ) → List (Except PtpError Response)
  | [], _ => []
  | step :: steps, e => step.result e ++ results steps (step.run e)

/-- The number of calls that were not refused. -/
def accepted (rs : List (Except PtpError Response)) : Nat :=
  rs.countP fun r => !refused r

/-- The number of calls that were not refused and not answered with `ok` either. -/
def failures (rs : List (Except PtpError Response)) : Nat :=
  rs.countP fun r => !refused r && !succeeded r

theorem accepted_singleton (r : Except PtpError Response) : accepted [r] = if refused r then 0 else 1 := by
  unfold accepted
  rw [List.countP_singleton]
  cases refused r <;> rfl

theorem failures_singleton (r : Except PtpError Response) :
    failures [r] = if refused r then 0 else if succeeded r then 0 else 1 := by
  unfold failures
  rw [List.countP_singleton]
  cases refused r <;> cases succeeded r <;> rfl

theorem accepted_append (rs rs' : List (Except PtpError Response)) :
    accepted (rs ++ rs') = accepted rs + accepted rs' :=
  List.countP_append

theorem failures_append (rs rs' : List (Except PtpError Response)) :
    failures (rs ++ rs') = failures rs + failures rs' :=
  List.countP_append

theorem runAll_append (before after : List (EngineStep τ)) (e : Engine (Recorded τ)) :
    runAll (before ++ after) e = runAll after (runAll before e) :=
  List.foldl_append

/-- So many calls have been accepted since the first id. -/
def Numbered (n : Nat) (e : Engine (Recorded τ)) : Prop :=
  e.nextTransaction.toNat = 1 + n % (2 ^ 32 - 2)

omit [Transport τ] in
theorem Numbered.next {n : Nat} {e : Engine (Recorded τ)} (h : Numbered n e) {e' : Engine (Recorded τ)}
    (he : e'.nextTransaction = nextId e.nextTransaction) : Numbered (n + 1) e' := by
  unfold Numbered at h ⊢
  rw [he, toNat_nextId]
  split <;> omega

/-- A call is not refused and uses the next id, or it is refused and changes nothing. -/
theorem call_cases (operation : Operation) (parameters : List UInt32) (payload : Option Bytes)
    (e : Engine (Recorded τ)) :
    (refused (execute operation parameters payload e).1 = false ∧
        (execute operation parameters payload e).2.nextTransaction = nextId e.nextTransaction ∧
        (execute operation parameters payload e).2.stats =
          e.stats.recordExchange e.clock (succeeded (execute operation parameters payload e).1)) ∨
      refused (execute operation parameters payload e).1 = true ∧
      (execute operation parameters payload e).2 = e := by
  cases hc : checkCall operation parameters payload e with
  | ok _ =>
    obtain ⟨hr, he⟩ := execute_of_accepted hc
    exact .inl ⟨hr, by rw [he], by rw [he]⟩
  | error error =>
    rw [execute_of_refused hc]
    exact .inr ⟨refused_of_checkCall hc, rfl⟩

theorem numbered_run {n : Nat} {e : Engine (Recorded τ)} (h : Numbered n e) (step : EngineStep τ) :
    Numbered (n + accepted (step.result e)) (step.run e) := by
  cases step with
  | call operation parameters payload =>
    show Numbered (n + accepted [_]) (execute operation parameters payload e).2
    rw [accepted_singleton]
    rcases call_cases operation parameters payload e with ⟨hr, he, -⟩ | ⟨hr, he⟩
    · rw [hr]
      exact h.next he
    · rw [hr, he]
      exact h
  | recordSession session => exact h
  | resetStats => exact h
  | relink link => exact h

/-- The counters stand at these numbers. -/
def Counted (operations errors : Nat) (e : Engine (Recorded τ)) : Prop :=
  e.stats.ptpOperations = operations ∧ e.stats.ptpErrors = errors

theorem counted_run {operations errors : Nat} {e : Engine (Recorded τ)} (h : Counted operations errors e)
    {step : EngineStep τ} (hstep : step ≠ .resetStats) :
    Counted (operations + accepted (step.result e)) (errors + failures (step.result e)) (step.run e) := by
  cases step with
  | call operation parameters payload =>
    obtain ⟨rfl, rfl⟩ := h
    show Counted (_ + accepted [_]) (_ + failures [_]) (execute operation parameters payload e).2
    rw [accepted_singleton, failures_singleton]
    rcases call_cases operation parameters payload e with ⟨hr, -, hs⟩ | ⟨hr, he⟩
    · unfold Counted
      rw [hr, hs]
      cases succeeded (execute operation parameters payload e).1 <;> exact ⟨rfl, rfl⟩
    · rw [hr, he]
      exact ⟨rfl, rfl⟩
  | recordSession session => exact h
  | resetStats => exact absurd rfl hstep
  | relink link => exact h

theorem numbered_runAll (steps : List (EngineStep τ)) :
    ∀ {n : Nat} {e : Engine (Recorded τ)}, Numbered n e →
      Numbered (n + accepted (results steps e)) (runAll steps e) := by
  induction steps with
  | nil => exact fun h => h
  | cons step steps ih =>
    intro n e h
    have h' := ih (numbered_run h step)
    rw [Nat.add_assoc, ← accepted_append] at h'
    exact h'

theorem counted_runAll (steps : List (EngineStep τ)) :
    ∀ {operations errors : Nat} {e : Engine (Recorded τ)}, Counted operations errors e → .resetStats ∉ steps →
      Counted (operations + accepted (results steps e)) (errors + failures (results steps e))
        (runAll steps e) := by
  induction steps with
  | nil => exact fun h _ => h
  | cons step steps ih =>
    intro operations errors e h hreset
    have hne : step ≠ .resetStats := fun hs => hreset (hs ▸ List.mem_cons_self)
    have h' := ih (counted_run h hne) fun hm => hreset (List.mem_cons_of_mem _ hm)
    rw [Nat.add_assoc, Nat.add_assoc, ← accepted_append, ← failures_append] at h'
    exact h'

end EngineStep

/-- An engine that has not been used yet. -/
def Engine.unused (link : τ) (clock : Instant) (maxPacket : Nat) : Engine (Recorded τ) :=
  { link := { link }, clock, maxPacket }

namespace EngineStep

open Engine

omit [Transport τ] in
theorem Numbered.not_reserved {n : Nat} {e : Engine (Recorded τ)} (h : Numbered n e) :
    e.nextTransaction ≠ 0 ∧ e.nextTransaction ≠ 0xFFFFFFFF := by
  have h0 : (0 : UInt32).toNat = 0 := rfl
  have hlast : (0xFFFFFFFF : UInt32).toNat = 2 ^ 32 - 1 := rfl
  unfold Numbered at h
  refine ⟨fun he => ?_, fun he => ?_⟩
  · rw [he] at h
    omega
  · rw [he] at h
    omega

section Call

variable {operation : Operation} {parameters : List UInt32} {payload : Option Bytes} {e : Engine (Recorded τ)}

theorem unchanged_of_refused (h : refused (execute operation parameters payload e).1 = true) :
    (execute operation parameters payload e).2 = e := by
  rcases call_cases operation parameters payload e with ⟨ha, -⟩ | ⟨-, he⟩
  · rw [h] at ha
    cases ha
  · exact he

/-- A call that is not refused begins to send its request, and its request is all that it sends. -/
theorem request_of_accepted (h : refused (execute operation parameters payload e).1 = false) :
    (∃ sent, sent ≠ [] ∧ sent <+: outgoing operation e.nextTransaction parameters payload ∧
        (execute operation parameters payload e).2.link.sends = e.link.sends ++ sent) ∧
      unframe (outgoing operation e.nextTransaction parameters payload).flatten =
        ⟨request operation e.nextTransaction parameters payload, none, []⟩ := by
  cases hc : checkCall operation parameters payload e with
  | ok _ =>
    obtain ⟨hn, hp⟩ := length_le_of_checkCall hc
    obtain ⟨sent, hsent, hne, hsends⟩ := sends_execute hc
    exact ⟨⟨sent, hne, hsent, hsends⟩, unframe_outgoing hn hp⟩
  | error error =>
    rw [execute_of_refused hc, refused_of_checkCall hc] at h
    cases h

end Call

/-- The counters are zero in an unused engine and after they began anew. -/
theorem counted_zero (link : τ) (clock : Instant) (maxPacket : Nat) {before : List (EngineStep τ)}
    (h : before = [] ∨ before.getLast? = some .resetStats) :
    Counted 0 0 (runAll before (unused link clock maxPacket)) := by
  rcases h with rfl | hlast
  · exact ⟨rfl, rfl⟩
  · obtain ⟨earlier, rfl⟩ := List.getLast?_eq_some_iff.mp hlast
    rw [runAll_append]
    exact ⟨rfl, rfl⟩

end EngineStep

open Engine EngineStep in
/-- After any run from an engine that has not been used, the next id is the one behind the number of calls
accepted so far.  A further call is refused exactly for its arguments or for want of a session, and then changes
nothing; otherwise it begins to send its request, in which every container carries the id.  The counters tell the
calls accepted since they last began, and the failures among them. -/
theorem Engine.transactions_in_order (link : τ) (clock : Instant) (maxPacket : Nat) (steps : List (EngineStep τ)) :
    let start := unused link clock maxPacket
    let e := runAll steps start
    let n := accepted (results steps start)
    e.nextTransaction.toNat = 1 + n % (2 ^ 32 - 2) ∧ e.nextTransaction ≠ 0 ∧ e.nextTransaction ≠ 0xFFFFFFFF ∧
    (∀ operation parameters payload,
      (refused (execute operation parameters payload e).1 = true ↔
        5 < parameters.length ∨ (∃ p, payload = some p ∧ 2 ^ 32 - 1 < 12 + p.length) ∨
          operation ≠ .openSession ∧ e.session = none) ∧
      (refused (execute operation parameters payload e).1 = true →
        (execute operation parameters payload e).2 = e) ∧
      (refused (execute operation parameters payload e).1 = false →
        (∃ sent, sent ≠ [] ∧ sent <+: outgoing operation e.nextTransaction parameters payload ∧
          (execute operation parameters payload e).2.link.sends = e.link.sends ++ sent) ∧
        unframe (outgoing operation e.nextTransaction parameters payload).flatten =
          ⟨request operation e.nextTransaction parameters payload, none, []⟩ ∧
        ∀ c ∈ request operation e.nextTransaction parameters payload, c.transaction = e.nextTransaction)) ∧
    ∀ before after, steps = before ++ after → before = [] ∨ before.getLast? = some .resetStats →
      .resetStats ∉ after →
      e.stats.ptpOperations = accepted (results after (runAll before start)) ∧
        e.stats.ptpErrors = failures (results after (runAll before start)) := by
  intro start e n
  have hnumbered : Numbered n e := by
    have h := numbered_runAll steps (n := 0) (e := start) rfl
    rwa [Nat.zero_add] at h
  obtain ⟨hzero, hlast⟩ := hnumbered.not_reserved
  refine ⟨hnumbered, hzero, hlast, fun operation parameters payload => ?_, ?_⟩
  · refine ⟨refused_execute_iff, unchanged_of_refused, fun hr => ?_⟩
    obtain ⟨hsent, hrequest⟩ := request_of_accepted hr
    exact ⟨hsent, hrequest, transaction_of_mem_request⟩
  · rintro before after rfl hbefore hreset
    have h := counted_runAll after (counted_zero link clock maxPacket hbefore) hreset
    rw [Nat.zero_add, Nat.zero_add, ← runAll_append] at h
    exact h

/-- A session is opened, and the counters begin anew. -/
def EngineStep.opening : List (EngineStep Link) :=
  [.call .openSession [1] none, .resetStats]

/-- Of two calls in a session one has too many parameters. -/
def EngineStep.asking : List (EngineStep Link) :=
  [.recordSession (some 1), .call .getStorageIds [] none, .call .getObject [1, 2, 3, 4, 5, 6] none]

open Engine EngineStep in
theorem Engine.transactions_in_order_opened :
    let e := runAll (opening ++ asking) (unused idle.link idle.clock 512)
    e.nextTransaction.toNat = 3 ∧ e.stats.ptpOperations = 1 ∧ e.stats.ptpErrors = 0 ∧
      (execute .getObject [1, 2, 3, 4, 5, 6] none e).2 = e := by
  intro e
  have hn : accepted (results (opening ++ asking) (unused idle.link idle.clock 512)) = 2 := by decide +kernel
  obtain ⟨hid, -, -, hcalls, hcounters⟩ := transactions_in_order idle.link idle.clock 512 (opening ++ asking)
  obtain ⟨hrefused, hunchanged, -⟩ := hcalls .getObject [1, 2, 3, 4, 5, 6] none
  have hreset : .resetStats ∉ asking := by simp [asking]
  obtain ⟨hops, herrors⟩ := hcounters opening asking rfl (.inr rfl) hreset
  rw [hn] at hid
  refine ⟨hid, hops.trans (by decide +kernel), herrors.trans (by decide +kernel), ?_⟩
  exact hunchanged (hrefused.mpr (.inl (by decide)))

end Tether
