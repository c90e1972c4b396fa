import Mathlib.Data.List.Basic
import Tether.Camera.Link
import Tether.Proofs.Exchange.Listening
import Tether.Proofs.Exchange.Sending

/-!
# Tether.Proofs.Exchange.Outcome — what one exchange accepts

A call that is not refused sends its transfers until one fails, and then only receives.  It is answered exactly
when containers of data of its own transaction come and then its response (`execute_accepts`); any other
container ends it with a framing fault, and so does a frame that is no container.
-/

namespace Tether

open Ptp

variable {τ : Type} [Transport τ]

/-! ## The containers of an answer -/

namespace Ptp.Container

/-- The container carries data of a transaction. -/
def Carries (transaction : UInt32) (c : Container) : Prop :=
  c.kind = .data ∧ c.transaction = transaction

/-- The container is the response of a transaction. -/
def Answers (transaction : UInt32) (c : Container) : Prop :=
  c.kind = .response ∧ c.transaction = transaction

theorem Answers.not_carries {transaction : UInt32} {c : Container} (h : c.Answers transaction) :
    ¬ c.Carries transaction := by
  rintro ⟨hk, -⟩
  rw [h.1] at hk
  cases hk

end Ptp.Container

/-- The answer that data and a response make. -/
def Response.ofContainers (operation : Operation) (transaction : UInt32) (datas : List Container) (c : Container) :
    Response where
  operation := operation
  transaction := transaction
  code := .ofCode c.code
  parameters := c.parameters
  data := if datas = [] then none else some (datas.map Container.payload).flatten

/-- A list is of one kind throughout, or there is a first member that is of another. -/
theorem exists_first {α : Type} (p : α → Prop) (l : List α) :
    (∀ a ∈ l, p a) ∨ ∃ before a after, l = before ++ a :: after ∧ (∀ b ∈ before, p b) ∧ ¬ p a := by
  induction l with
  | nil => exact .inl fun a ha => by cases ha
  | cons a l ih =>
    by_cases ha : p a
    · rcases ih with hall | ⟨before, b, after, rfl, hbefore, hb⟩
      · exact .inl (List.forall_mem_cons.mpr ⟨ha, hall⟩)
      · exact .inr ⟨a :: before, b, after, rfl, List.forall_mem_cons.mpr ⟨ha, hbefore⟩, hb⟩
    · exact .inr ⟨[], a, l, rfl, fun b hb => (by cases hb), ha⟩

/-- The first member of another kind is the first one of the list if that is of another kind. -/
theorem eq_of_first {α : Type} {p : α → Prop} {a b : α} {l before after : List α}
    (h : a :: l = before ++ b :: after) (hp : ∀ c ∈ before, p c) (ha : ¬ p a) : before = [] ∧ b = a := by
  cases before with
  | nil => exact ⟨rfl, (List.cons.inj h).1.symm⟩
  | cons c before =>
    have hac : a = c := (List.cons.inj h).1
    exact absurd (hp c List.mem_cons_self) (hac ▸ ha)

namespace Engine

variable {operation : Operation} {transaction : UInt32}

/-- Data that came so far with those of some containers behind them. -/
def gather (data : Option Bytes) (datas : List Container) : Option Bytes :=
  datas.foldl (fun data c => extendData data c.payload) data

theorem gather_some (bytes : Bytes) (datas : List Container) :
    gather (some bytes) datas = some (bytes ++ (datas.map Container.payload).flatten) := by
  induction datas generalizing bytes with
  | nil => simp [gather]
  | cons c rest ih =>
    show gather (some (bytes ++ c.payload)) rest = _
    rw [ih, List.map_cons, List.flatten_cons, List.append_assoc]

theorem gather_none (datas : List Container) :
    gather none datas = if datas = [] then none else some (datas.map Container.payload).flatten := by
  cases datas with
  | nil => rfl
  | cons c rest =>
    rw [if_neg (List.cons_ne_nil c rest)]
    exact gather_some c.payload rest

/-- Collecting only receives. -/
theorem listened_collect (operation : Operation) (transaction : UInt32) (data : Option Bytes) (e : Engine τ) :
    Listened e.packetLimit e.link (collect operation transaction data e).1
      (collect operation transaction data e).2.link := by
  fun_induction collect operation transaction data e with
  | case1 data e error e' hn => exact (listened_nextContainer hn).of_error
  | case2 data e c e' hn ht => exact .broken (listened_nextContainer hn).received
  | case3 data e c e' hn ht hk ih =>
    rw [packetLimit_nextContainer hn] at ih
    exact .after (listened_nextContainer hn).received ih
  | case4 data e c e' hn ht hk => exact .answered (listened_nextContainer hn).received
  | case5 data e c e' hn ht hd hr => exact .broken (listened_nextContainer hn).received

/-- What the first container makes of an exchange that carries no data of it: the answer, or a fault. -/
def verdict (operation : Operation) (transaction : UInt32) (data : Option Bytes) (c : Container) :
    Except PtpError Response :=
  if c.transaction ≠ transaction then
    .error (.framing (.foreignTransaction operation transaction c.transaction c.kind))
  else if c.kind = .response then
    .ok { operation, transaction, code := .ofCode c.code, parameters := c.parameters, data }
  else .error (.framing (.unexpectedContainer operation c.kind))

theorem verdict_of_answers {c : Container} (h : c.Answers transaction) (data : Option Bytes) :
    verdict operation transaction data c =
      .ok { operation, transaction, code := .ofCode c.code, parameters := c.parameters, data } := by
  unfold verdict
  rw [if_neg (fun hne => hne h.2), if_pos h.1]

theorem verdict_of_not_answers (operation : Operation) {c : Container} (h : ¬ c.Answers transaction)
    (data : Option Bytes) :
    ∃ fault, verdict operation transaction data c = .error (.framing fault) := by
  unfold verdict
  split
  · exact ⟨_, rfl⟩
  · rename_i ht
    rw [if_neg fun hk => h ⟨hk, by simpa using ht⟩]
    exact ⟨_, rfl⟩

/-- The first container that carries no data of the transaction ends the collection. -/
theorem collect_of_first {c : Container} (hc : ¬ c.Carries transaction) (data : Option Bytes) (e : Engine τ) :
    ∀ {datas rest : List Container}, (inbound e).1 = datas ++ c :: rest → (∀ d ∈ datas, d.Carries transaction) →
      (collect operation transaction data e).1 = verdict operation transaction (gather data datas) c := by
  fun_induction collect operation transaction data e with
  | case1 data e error e' hn =>
    intro datas rest hcs _
    rw [inbound_of_error hn] at hcs
    cases datas <;> cases hcs
  | case2 data e c' e' hn ht =>
    intro datas rest hcs hd
    rw [inbound_of_ok hn] at hcs
    obtain ⟨rfl, rfl⟩ := eq_of_first hcs hd fun h => ht h.2
    exact (if_pos ht).symm
  | case3 data e c' e' hn ht hk ih =>
    intro datas rest hcs hd
    rw [inbound_of_ok hn] at hcs
    cases datas with
    | nil =>
      obtain ⟨rfl, -⟩ := List.cons.inj hcs
      exact absurd ⟨hk, by simpa using ht⟩ hc
    | cons d datas =>
      -- one more container of data; the first other one is still to come
      obtain ⟨rfl, hrest⟩ := List.cons.inj hcs
      exact ih hrest fun d hm => hd d (List.mem_cons_of_mem _ hm)
  | case4 data e c' e' hn ht hk =>
    intro datas rest hcs hd
    rw [inbound_of_ok hn] at hcs
    have hanswers : c'.Answers transaction := ⟨hk, by simpa using ht⟩
    obtain ⟨rfl, rfl⟩ := eq_of_first hcs hd hanswers.not_carries
    exact (verdict_of_answers hanswers data).symm
  | case5 data e c' e' hn ht hdata hresponse =>
    intro datas rest hcs hd
    rw [inbound_of_ok hn] at hcs
    obtain ⟨rfl, rfl⟩ := eq_of_first hcs hd fun h => hdata h.1
    unfold verdict
    rw [if_neg ht, if_neg hresponse]

/-- When only data come, the exchange fails as the read after them does. -/
theorem collect_of_all (data : Option Bytes) (e : Engine τ) (hd : ∀ d ∈ (inbound e).1, d.Carries transaction) :
    (collect operation transaction data e).1 = .error (inbound e).2 := by
  fun_induction collect operation transaction data e with
  | case1 data e error e' hn => rw [inbound_of_error hn]
  | case2 data e c e' hn ht =>
    rw [inbound_of_ok hn] at hd
    exact absurd (hd _ List.mem_cons_self).2 ht
  | case3 data e c e' hn ht hk ih =>
    rw [inbound_of_ok hn] at hd ⊢
    exact ih fun d hm => hd d (List.mem_cons_of_mem _ hm)
  | case4 data e c e' hn ht hk =>
    rw [inbound_of_ok hn] at hd
    have hdata := (hd _ List.mem_cons_self).1
    rw [hk] at hdata
    cases hdata
  | case5 data e c e' hn ht hdata hresponse =>
    rw [inbound_of_ok hn] at hd
    exact absurd (hd _ List.mem_cons_self).1 hdata

/-! ## The whole exchange -/

omit [Transport τ] in
theorem length_le_of_checkCall {parameters : List UInt32} {payload : Option Bytes} {e : Engine τ}
    (h : checkCall operation parameters payload e = .ok ()) :
    parameters.length ≤ maxParameters ∧ ∀ p, payload = some p → headerLength + p.length ≤ maxWord := by
  unfold checkCall at h
  dsimp only at h
  split at h
  · cases h
  · rename_i hn
    split at h
    · cases h
    · rename_i hp
      refine ⟨Nat.le_of_not_lt hn, fun p hsome => Nat.le_of_not_lt fun hlt => hp ?_⟩
      subst hsome
      exact ⟨rfl, hlt⟩

/-- The engine once a transaction has its id and its transfers are sent. -/
def sent (e : Engine τ) (link : τ) : Engine τ :=
  { e with link, nextTransaction := nextId e.nextTransaction }

section Execute

variable {parameters : List UInt32} {payload : Option Bytes} {e : Engine τ} {link : τ}
  (hc : checkCall operation parameters payload e = .ok ())
include hc

theorem execute_eq :
    execute operation parameters payload e =
      settle (Action.andThen (transmitAll (outgoing operation e.nextTransaction parameters payload))
        (fun _ => collect operation e.nextTransaction none) (sent e e.link)) := by
  obtain ⟨hn, hp⟩ := length_le_of_checkCall hc
  unfold execute
  rw [hc]
  exact congrArg settle (congrFun (exchange_eq operation e.nextTransaction hn hp) (sent e e.link))

theorem execute_of_unsent {error : TransportError}
    (hs : Transport.sendAll (outgoing operation e.nextTransaction parameters payload) e.link =
      (.error error, link)) :
    execute operation parameters payload e = settle (.error (.transport error), sent e link) := by
  have ht := transmitAll_of_error (e := sent e e.link) hs
  rw [execute_eq hc]
  unfold Action.andThen
  rw [ht]
  rfl

theorem execute_of_sent
    (hs : Transport.sendAll (outgoing operation e.nextTransaction parameters payload) e.link = (.ok (), link)) :
    execute operation parameters payload e = settle (collect operation e.nextTransaction none (sent e link)) := by
  have ht := transmitAll_of_ok (e := sent e e.link) hs
  rw [execute_eq hc]
  unfold Action.andThen
  rw [ht]
  rfl

end Execute

theorem execute_of_refused {parameters : List UInt32} {payload : Option Bytes} {e : Engine τ} {error : PtpError}
    (hc : checkCall operation parameters payload e = .error error) :
    execute operation parameters payload e = (.error error, e) := by
  unfold execute
  rw [hc]

omit [Transport τ] in
theorem settle_outcome (x : Except PtpError Response × Engine τ) : (settle x).1 = x.1 := by
  unfold settle
  split <;> rfl

omit [Transport τ] in
theorem link_settle (x : Except PtpError Response × Engine τ) : (settle x).2.link = x.2.link := by
  unfold settle
  split <;> rfl

omit [Transport τ] in
/-- A failed exchange leaves no received bytes. -/
theorem received_settle {x : Except PtpError Response × Engine τ} {error : PtpError} (h : x.1 = .error error) :
    (settle x).2.received = [] := by
  obtain ⟨r, e⟩ := x
  cases h
  rfl

end Engine

open Engine in
/-- A call that is not refused sends its transfers.  When one of them fails, that is the failure of the call.
Otherwise the call is answered exactly when data of its transaction come and then its response, with the
concatenated data; any other container after such data is a framing fault, and when there is none, the call fails
as the read after them does.  It only receives after sending, and fails by the failure of a receive only when a
receive fails.  A failed call leaves no received bytes. -/
theorem Engine.execute_accepts {operation : Operation} {parameters : List UInt32} {payload : Option Bytes}
    {e : Engine τ} (hc : checkCall operation parameters payload e = .ok ()) :
    (∀ error link,
      Transport.sendAll (outgoing operation e.nextTransaction parameters payload) e.link = (.error error, link) →
      (execute operation parameters payload e).1 = .error (.transport error) ∧
        (execute operation parameters payload e).2.link = link) ∧
    (∀ link, Transport.sendAll (outgoing operation e.nextTransaction parameters payload) e.link = (.ok (), link) →
      (∀ r, (execute operation parameters payload e).1 = .ok r ↔
        ∃ datas c rest, (inbound (sent e link)).1 = datas ++ c :: rest ∧
          (∀ d ∈ datas, d.Carries e.nextTransaction) ∧ c.Answers e.nextTransaction ∧
          r = .ofContainers operation e.nextTransaction datas c) ∧
      (∀ datas c rest, (inbound (sent e link)).1 = datas ++ c :: rest →
        (∀ d ∈ datas, d.Carries e.nextTransaction) →
        ¬ c.Carries e.nextTransaction → ¬ c.Answers e.nextTransaction →
        ∃ fault, (execute operation parameters payload e).1 = .error (.framing fault)) ∧
      ((∀ d ∈ (inbound (sent e link)).1, d.Carries e.nextTransaction) →
        (execute operation parameters payload e).1 = .error (inbound (sent e link)).2) ∧
      Listened e.packetLimit link (execute operation parameters payload e).1
        (execute operation parameters payload e).2.link) ∧
    (∀ error, (execute operation parameters payload e).1 = .error error →
      (execute operation parameters payload e).2.received = []) := by
  refine ⟨fun error link hs => ?_, fun link hs => ?_, fun error herror => ?_⟩
  · rw [execute_of_unsent hc hs, settle_outcome, link_settle]
    exact ⟨rfl, rfl⟩
  · rw [execute_of_sent hc hs, settle_outcome, link_settle]
    have hfirst := fun {c : Container} (hn : ¬ c.Carries e.nextTransaction) =>
      @collect_of_first τ _ operation e.nextTransaction c hn none (sent e link)
    refine ⟨fun r => ⟨fun hr => ?_, ?_⟩, fun datas c rest hcs hd hn ha => ?_,
      collect_of_all none (sent e link), ?_⟩
    · rcases exists_first (Container.Carries e.nextTransaction) (inbound (sent e link)).1 with
        hall | ⟨datas, c, rest, hcs, hd, hn⟩
      · rw [collect_of_all none (sent e link) hall] at hr
        cases hr
      · rw [hfirst hn hcs hd] at hr
        by_cases ha : c.Answers e.nextTransaction
        · rw [verdict_of_answers ha, gather_none, Except.ok.injEq] at hr
          exact ⟨datas, c, rest, hcs, hd, ha, hr.symm⟩
        · obtain ⟨fault, hf⟩ := verdict_of_not_answers operation ha (gather none datas)
          rw [hf] at hr
          cases hr
    · rintro ⟨datas, c, rest, hcs, hd, ha, rfl⟩
      rw [hfirst ha.not_carries hcs hd, verdict_of_answers ha, gather_none]
      rfl
    · rw [hfirst hn hcs hd]
      exact verdict_of_not_answers operation ha _
    · exact listened_collect operation e.nextTransaction none (sent e link)
  · cases hs : Transport.sendAll (outgoing operation e.nextTransaction parameters payload) e.link with
    | mk r link =>
      cases r with
      | ok _ =>
        rw [execute_of_sent hc hs, settle_outcome] at herror
        rw [execute_of_sent hc hs]
        exact received_settle herror
      | error _ =>
        rw [execute_of_unsent hc hs]
        exact received_settle rfl

/-- An engine without a session at a camera with two empty cards. -/
def Engine.idle : Engine Link :=
  let newYear : Calendar.Instant :=
    { date := ⟨2026, 1, 1, by decide⟩
      minute := ⟨0, by decide⟩
      second := ⟨0, by decide⟩
      nanosecond := Calendar.Instant.noFraction }
  { link := { camera := .withTwoCards newYear }, clock := newYear, maxPacket := 512 }

open Engine in
/-- The camera opens a session: its response comes without data. -/
theorem Engine.execute_accepts_openSession :
    checkCall .openSession [1] none idle = .ok () ∧
      ∃ link, Transport.sendAll (outgoing .openSession idle.nextTransaction [1] none) idle.link = (.ok (), link) ∧
        ∃ c rest, (inbound (sent idle link)).1 = c :: rest ∧ c.Answers idle.nextTransaction := by
  have hc : checkCall .openSession [1] none idle = .ok () := by decide +kernel
  have hok : (Transport.sendAll (outgoing .openSession idle.nextTransaction [1] none) idle.link).1 = .ok () := by
    decide +kernel
  have hr : (execute .openSession [1] none idle).1 =
      .ok { operation := .openSession, transaction := 1, code := .ok, parameters := [], data := none } := by
    decide +kernel
  obtain ⟨datas, c, rest, hcs, -, ha, hdata⟩ := (((execute_accepts hc).2.1 _ (Prod.ext hok rfl)).1 _).mp hr
  have hnil : datas = [] := by
    by_contra hne
    have hd := congrArg Response.data hdata
    rw [show (Response.ofContainers _ _ datas c).data = some _ from if_neg hne] at hd
    cases hd
  subst hnil
  exact ⟨hc, _, Prod.ext hok rfl, c, rest, hcs, ha⟩

end Tether
