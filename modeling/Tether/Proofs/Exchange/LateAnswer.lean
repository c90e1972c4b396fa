import Mathlib.Data.List.Basic
import Tether.Proofs.Exchange.Answered

/-!
# Tether.Proofs.Exchange.LateAnswer — what a late answer does to the calls after it

The device here answers every command completely and in order, but the answer to one command comes only after its
call has ended for want of it, together with the answer to the next command.  The next call then reads a
container of the call before it, and fails; the bytes received are dropped.

Dropped are only the transfers up to the one with the end of that container.  If nothing of the two answers is
behind it, all further calls are answered.  But whatever is behind it waits at the link, and the call after reads
it (`late_answer`).
-/

namespace Tether

open Ptp

/-! ## A device that answers in turns -/

/-- A device that hands out the transfers of a turn from the time on at which it was sent something. -/
@[ext]
structure Responder where
  /-- Transfers that can be received. -/
  queue : List Bytes := []
  /-- The turns to come. -/
  turns : List (List Bytes)
  /-- Whether something was sent since the last receive; one turn is enough for a command and its data. -/
  asked : Bool := false
deriving DecidableEq

namespace Responder

instance : Transport Responder where
  send _ d := (.ok (), if d.asked then d
    else { queue := d.queue ++ d.turns.headD [], turns := d.turns.tail, asked := true })
  receive _ d :=
    match d.queue with
    | [] => (.error .timeout, { d with asked := false })
    | bytes :: more => (.ok bytes, { d with queue := more, asked := false })
  backlog d := (d.queue.map fun bytes => bytes.length + 1).sum
  backlog_receive_lt := by
    intro limit d d' bytes _ h
    split at h
    · cases h
    · rename_i hqueue
      cases h
      simp only [hqueue, List.map_cons, List.sum_cons]
      omega

variable {d d' : Responder} {limit : Nat}

theorem receive_of_nil (limit : Nat) (h : d.queue = []) :
    Transport.receive limit d = (.error .timeout, { d with asked := false }) := by
  simp only [Transport.receive, h]

theorem receive_of_cons (limit : Nat) {bytes : Bytes} {more : List Bytes} (h : d.queue = bytes :: more) :
    Transport.receive limit d = (.ok bytes, { d with queue := more, asked := false }) := by
  simp only [Transport.receive, h]

theorem sendAll_of_asked (h : d.asked = true) (transfers : List Bytes) :
    Transport.sendAll transfers d = (.ok (), d) := by
  induction transfers with
  | nil => rfl
  | cons bytes transfers ih =>
    have hs : Transport.send bytes d = (.ok (), d) := by simp only [Transport.send, h, if_true]
    rw [Transport.sendAll_of_ok hs, ih]

theorem sendAll_of_idle {transfers : List Bytes} (hne : transfers ≠ []) (h : d.asked = false) :
    Transport.sendAll transfers d =
      (.ok (), { queue := d.queue ++ d.turns.headD [], turns := d.turns.tail, asked := true }) := by
  cases transfers with
  | nil => exact absurd rfl hne
  | cons bytes rest =>
    -- the first transfer brings the turn about, and those behind it change nothing
    have hs : Transport.send bytes d =
        (.ok (), { queue := d.queue ++ d.turns.headD [], turns := d.turns.tail, asked := true }) := by
      simp [Transport.send, h]
    rw [Transport.sendAll_of_ok hs, sendAll_of_asked rfl]

theorem exists_delivers (limit : Nat) (transfers : List Bytes) :
    ∀ {d : Responder}, d.queue = transfers → ∃ d', Delivers limit d transfers d' ∧ d'.queue = [] ∧
      d'.turns = d.turns := by
  induction transfers with
  | nil => exact fun {d} h => ⟨d, .nil d, h, rfl⟩
  | cons bytes more ih =>
    intro d h
    obtain ⟨d', hd, hqueue, hturns⟩ := ih (d := { d with queue := more, asked := false }) rfl
    exact ⟨d', .next (receive_of_cons limit h) hd, hqueue, hturns⟩

theorem of_delivers {used : List Bytes} :
    ∀ {d : Responder}, Delivers limit d used d' →
      d.queue = used ++ d'.queue ∧ d'.turns = d.turns ∧ (used ≠ [] → d'.asked = false) := by
  induction used with
  | nil =>
    intro d h
    cases h
    exact ⟨rfl, rfl, fun hne => absurd rfl hne⟩
  | cons bytes used ih =>
    intro d h
    cases hq : d.queue with
    | nil => cases (h.uncons (receive_of_nil limit hq)).1
    | cons bytes' more =>
      obtain ⟨hok, hmore⟩ := h.uncons (receive_of_cons limit hq)
      cases hok
      obtain ⟨hqueue, hturns, hasked⟩ := ih hmore
      refine ⟨congrArg (bytes :: ·) hqueue, hturns, fun _ => ?_⟩
      cases used with
      | nil =>
        cases hmore
        rfl
      | cons => exact hasked (List.cons_ne_nil _ _)

end Responder

/-! ## Calls in turn -/

/-- A call, the device's answer to it, and the transfers that come when it is made. -/
structure Turn where
  operation : Operation
  parameters : List UInt32 := []
  payload : Option Bytes := none
  datas : List Container := []
  response : Container
  transfers : List Bytes

namespace Turn

/-- The containers of the answer. -/
def containers (t : Turn) : List Container :=
  t.datas ++ [t.response]

/-- The answer under the id of the call. -/
structure Answers (t : Turn) (id : UInt32) : Prop where
  recognised : ∀ c ∈ t.containers, c.Recognised
  datas : ∀ d ∈ t.datas, d.Carries id
  response : t.response.Answers id

/-- What the call is to return. -/
def own (t : Turn) (id : UInt32) : Response :=
  .ofContainers t.operation id t.datas t.response

/-- The call is not refused. -/
def Admitted {τ : Type} (t : Turn) (e : Engine τ) : Prop :=
  Engine.checkCall t.operation t.parameters t.payload e = .ok ()

def call {τ : Type} [Transport τ] (t : Turn) : Action (Engine τ) PtpError Response :=
  Engine.execute t.operation t.parameters t.payload

/-- Each of the calls is answered when it is made, the first of them under this id. -/
def Prompt : UInt32 → List Turn → Prop
  | _, [] => True
  | id, t :: ts => t.Answers id ∧ t.transfers.flatten = wire t.containers ∧ Prompt (Engine.nextId id) ts

/-- What the calls are to return, the first of them under this id. -/
def owns : UInt32 → List Turn → List (Except PtpError Response)
  | _, [] => []
  | id, t :: ts => .ok (t.own id) :: owns (Engine.nextId id) ts

/-- What the calls return, one after the other. -/
def outcomes {τ : Type} [Transport τ] : List Turn → Engine τ → List (Except PtpError Response)
  | [], _ => []
  | t :: ts, e => (t.call e).1 :: outcomes ts (t.call e).2

theorem outcomes_cons {τ : Type} [Transport τ] (t : Turn) (ts : List Turn) (e : Engine τ) :
    outcomes (t :: ts) e = (t.call e).1 :: outcomes ts (t.call e).2 := rfl

theorem Admitted.of_session {t : Turn} {τ τ' : Type} {e : Engine τ} {e' : Engine τ'} (h : t.Admitted e)
    (hs : e'.session = e.session) : t.Admitted e' := by
  unfold Admitted Engine.checkCall at h ⊢
  rw [hs]
  exact h

variable {t : Turn} {id : UInt32}

theorem Answers.mem_datas (h : t.Answers id) {d : Container} (hd : d ∈ t.datas) : d.Recognised ∧ d.Carries id :=
  ⟨h.recognised d (List.mem_append_left _ hd), h.datas d hd⟩

theorem Answers.transaction (h : t.Answers id) {c : Container} (hc : c ∈ t.containers) : c.transaction = id := by
  rcases List.mem_append.mp hc with hc | hc
  · exact (h.datas c hc).2
  · rw [List.mem_singleton.mp hc]
    exact h.response.2

end Turn

namespace Engine

open Turn

theorem nextId_ne (id : UInt32) : nextId id ≠ id := by
  have hid := id.toNat_lt
  intro h
  have hnat := congrArg UInt32.toNat h
  rw [toNat_nextId] at hnat
  split at hnat <;> omega

theorem nextId_nextId_ne (id : UInt32) : nextId (nextId id) ≠ id := by
  have hid := id.toNat_lt
  intro h
  have hnat := congrArg UInt32.toNat h
  rw [toNat_nextId, toNat_nextId] at hnat
  split at hnat <;> split at hnat <;> omega

/-- The engine is between two calls, with these transfers at the link and these turns to come. -/
def Between (e : Engine Responder) (queue : List Bytes) (turns : List (List Bytes)) : Prop :=
  e.received = [] ∧ e.link = { queue, turns }

structure Follows (e e' : Engine Responder) : Prop where
  session : e'.session = e.session
  transaction : e'.nextTransaction = nextId e.nextTransaction

/-- The engine once the transfers of a call are sent. -/
def awaiting (e : Engine Responder) (queue : List Bytes) (turns : List (List Bytes)) : Engine Responder :=
  sent e { queue, turns, asked := true }

theorem ahead_awaiting {e : Engine Responder} (he : e.received = []) (queue : List Bytes)
    (turns : List (List Bytes)) :
    ∃ link', Ahead (awaiting e queue turns) queue queue.flatten link' := by
  obtain ⟨link', hd, -, -⟩ := Responder.exists_delivers e.packetLimit queue
    (d := (awaiting e queue turns).link) rfl
  refine ⟨link', hd, ?_⟩
  show e.received ++ queue.flatten = queue.flatten
  rw [he, List.nil_append]

theorem of_advanced_awaiting {e e' : Engine Responder} {queue used left : List Bytes} {turns : List (List Bytes)}
    (hadv : Advanced (awaiting e queue turns) used e') (hsplit : used ++ left = queue) (hne : used ≠ []) :
    e'.link = { queue := left, turns } ∧ Follows e e' := by
  obtain ⟨hd, he'⟩ := hadv
  obtain ⟨hqueue, hturns, hasked⟩ := Responder.of_delivers hd
  have hleft : e'.link.queue = left := List.append_cancel_left (hqueue.symm.trans hsplit.symm)
  refine ⟨Responder.ext hleft hturns (hasked hne), ?_, ?_⟩
  · rw [he']
    rfl
  · rw [he']
    rfl

theorem ne_nil_of_length_le {used : List Bytes} {taken : Bytes} (ht : taken ≠ [])
    (h : taken.length ≤ used.flatten.length) : used ≠ [] := by
  rintro rfl
  have := List.length_pos_iff.mpr ht
  rw [List.flatten_nil, List.length_nil] at h
  omega

section Call

variable {e : Engine Responder} {queue : List Bytes} {turns : List (List Bytes)} {t : Turn}
  (hb : Between e queue (t.transfers :: turns)) (hadmitted : t.Admitted e)
include hb hadmitted

theorem call_eq :
    t.call e = settle (collect t.operation e.nextTransaction none (awaiting e (queue ++ t.transfers) turns)) := by
  have hne : outgoing t.operation e.nextTransaction t.parameters t.payload ≠ [] := List.cons_ne_nil _ _
  have hs : Transport.sendAll (outgoing t.operation e.nextTransaction t.parameters t.payload) e.link =
      (.ok (), { queue := queue ++ t.transfers, turns, asked := true }) := by
    rw [hb.2]
    exact Responder.sendAll_of_idle hne rfl
  exact execute_of_sent hadmitted hs

/-- With nothing left over from the calls before, a call whose answer comes in time returns it, and leaves
nothing over. -/
theorem call_of_answers (hempty : queue.flatten = []) (hflow : Flowing (queue ++ t.transfers))
    (ht : t.Answers e.nextTransaction) (hwire : t.transfers.flatten = wire t.containers) :
    ∃ used left e', t.call e = (.ok (t.own e.nextTransaction), e') ∧ used ++ left = queue ++ t.transfers ∧
      Between e' left turns ∧ left.flatten = [] ∧ Follows e e' := by
  obtain ⟨frame, hf, hdecode, hframe⟩ := (ht.recognised t.response (by simp [containers])).exists_frame
  have hverdict : ∀ c, Container.decode frame = .ok c → ¬ c.Carries e.nextTransaction := by
    intro c hc
    rw [hdecode] at hc
    cases hc
    exact ht.response.not_carries
  have hstream : (queue ++ t.transfers).flatten = wire t.datas ++ (frame ++ []) := by
    rw [List.flatten_append, hempty, List.nil_append, hwire, containers, wire_append, hframe]
    rfl
  obtain ⟨link', ha⟩ := ahead_awaiting hb.1 (queue ++ t.transfers) turns
  rw [hstream] at ha
  obtain ⟨used, left, e', heq, hsplit, hadv, ha'⟩ :=
    collect_of_ahead hf hverdict t.operation none (fun d => ht.mem_datas) ha hflow
  rw [← List.append_assoc] at ha
  have hreceived₀ : (awaiting e (queue ++ t.transfers) turns).received = [] := hb.1
  have hle := ha.length_le_used hreceived₀ hsplit ha'
  have hne : used ≠ [] := ne_nil_of_length_le (List.append_ne_nil_of_right_ne_nil _ hf.ne_nil) hle
  -- the response is the end of the stream, so what is left holds no bytes
  obtain ⟨hreceived, hleft⟩ := List.append_eq_nil_iff.mp ha'.stream_eq
  obtain ⟨hlink, hfollows⟩ := of_advanced_awaiting hadv hsplit hne
  have hcall : t.call e = settle (verdict t.operation e.nextTransaction (gather none t.datas) t.response, e') := by
    rw [call_eq hb hadmitted, heq, hdecode]
    rfl
  rw [verdict_of_answers ht.response, gather_none] at hcall
  exact ⟨used, left, _, hcall, hsplit, ⟨hreceived, hlink⟩, hleft, ⟨hfollows.session, hfollows.transaction⟩⟩

/-- A container of another call at the front fails the call, and nothing of it is kept.  The transfers behind the
one with its end stay at the link. -/
theorem call_of_foreign (hflow : Flowing (queue ++ t.transfers)) {c : Container} {cs : List Container}
    {rest : Bytes} (hc : c.Recognised) (hforeign : c.transaction ≠ e.nextTransaction)
    (hstream : (queue ++ t.transfers).flatten = wire (c :: cs) ++ rest) :
    ∃ fault used left e', t.call e = (.error (.framing fault), e') ∧ used ++ left = queue ++ t.transfers ∧
      Between e' left turns ∧ Follows e e' ∧ (wire [c]).length ≤ used.flatten.length ∧
      used.dropLast.flatten.length < (wire [c]).length := by
  obtain ⟨frame, hf, hdecode, hframe⟩ := hc.exists_frame
  have hverdict : ∀ c', Container.decode frame = .ok c' → ¬ c'.Carries e.nextTransaction := by
    intro c' hc' hcarries
    rw [hdecode] at hc'
    cases hc'
    exact hforeign hcarries.2
  have hwire : wire [c] = frame := (hframe []).trans (List.append_nil frame)
  obtain ⟨link', ha⟩ := ahead_awaiting hb.1 (queue ++ t.transfers) turns
  rw [hstream, hframe, List.append_assoc] at ha
  obtain ⟨used, left, e', heq, hsplit, hadv, ha', hshort⟩ := collect_of_frame hf hverdict t.operation none ha hflow
  have hreceived₀ : (awaiting e (queue ++ t.transfers) turns).received = [] := hb.1
  have hle := ha.length_le_used hreceived₀ hsplit ha'
  have hne : used ≠ [] := ne_nil_of_length_le hf.ne_nil hle
  have hlast : used.dropLast.flatten.length < frame.length := by
    have h := hshort hne
    rwa [hreceived₀, List.nil_append] at h
  obtain ⟨hlink, hfollows⟩ := of_advanced_awaiting hadv hsplit hne
  obtain ⟨fault, hfault⟩ := verdict_of_not_answers t.operation (fun h => hforeign h.2) none
  have hcall : t.call e = settle (verdict t.operation e.nextTransaction none c, e') := by
    rw [call_eq hb hadmitted, heq, hdecode]
    rfl
  rw [hfault] at hcall
  rw [hwire]
  exact ⟨fault, used, left, _, hcall, hsplit, ⟨rfl, hlink⟩, ⟨hfollows.session, hfollows.transaction⟩, hle, hlast⟩

/-- A call for which nothing comes ends for want of an answer. -/
theorem call_of_silence (hempty : queue.flatten = []) (hflow : Flowing queue) (hsilent : t.transfers = []) :
    ∃ e', t.call e = (.error (.transport .timeout), e') ∧ Between e' [] turns ∧ Follows e e' := by
  have heq := call_eq hb hadmitted
  rw [hsilent, List.append_nil] at heq
  let link : Responder := (awaiting e queue turns).link
  obtain ⟨d', hd, hd', hturns⟩ := Responder.exists_delivers e.packetLimit queue (d := link) rfl
  have hr := Responder.receive_of_nil e.packetLimit hd'
  have hcollect := collect_of_silence t.operation e.nextTransaction none
      (e := awaiting e queue turns) hb.1 hd hempty hflow hr
  rw [hcollect] at heq
  refine ⟨_, heq, ⟨rfl, ?_⟩, rfl, rfl⟩
  show ({ d' with asked := false } : Responder) = _
  rw [hd', hturns]
  rfl

end Call

/-! ## Runs -/

variable {e e' : Engine Responder}

theorem Follows.admitted (h : Follows e e') {ts : List Turn}
    (hts : ∀ t ∈ ts, t.Admitted e) : ∀ t ∈ ts, t.Admitted e' :=
  fun t ht => (hts t ht).of_session h.session

/-- Calls whose answers come in time return them, one after the other, and leave nothing over. -/
theorem outcomes_of_prompt {turns : List (List Bytes)} (ts : List Turn) :
    ∀ {e : Engine Responder} {queue : List Bytes}, Between e queue (ts.map Turn.transfers ++ turns) →
      queue.flatten = [] → Flowing (queue ++ (ts.map Turn.transfers ++ turns).flatten) → (∀ t ∈ ts, t.Admitted e) →
      Prompt e.nextTransaction ts →
      ∃ e' left, Between e' left turns ∧ left.flatten = [] ∧ Flowing (left ++ turns.flatten) ∧
        e'.session = e.session ∧
        e'.nextTransaction = nextId^[ts.length] e.nextTransaction ∧
        ∀ us, outcomes (ts ++ us) e = owns e.nextTransaction ts ++ outcomes us e' := by
  induction ts with
  | nil =>
    intro e queue hb hempty hflow _ _
    exact ⟨e, queue, hb, hempty, hflow, rfl, rfl, fun us => rfl⟩
  | cons t ts ih =>
    intro e queue hb hempty hflow hadmitted ⟨ht, hwire, hts⟩
    obtain ⟨hadmitted, hadmitted'⟩ := List.forall_mem_cons.mp hadmitted
    rw [List.map_cons, List.cons_append, List.flatten_cons, ← List.append_assoc] at hflow
    have hflow₁ : Flowing (queue ++ t.transfers) := hflow.of_infix ⟨[], _, rfl⟩
    obtain ⟨used, left₁, e₁, heq, hsplit, hb₁, hempty₁, hfollows⟩ :=
      call_of_answers hb hadmitted hempty hflow₁ ht hwire
    -- the next call is in the position of this one: only empty transfers are left at the link
    rw [← hsplit, List.append_assoc] at hflow
    rw [← hfollows.transaction] at hts
    obtain ⟨e', left, hb', hempty', hflow', hsession, hid, hrun⟩ :=
      ih hb₁ hempty₁ (hflow.of_suffix (List.suffix_append _ _)) (hfollows.admitted hadmitted') hts
    refine ⟨e', left, hb', hempty', hflow', hsession.trans hfollows.session, ?_, fun us => ?_⟩
    · rw [hid, hfollows.transaction]
      rfl
    · rw [List.cons_append, outcomes_cons, heq, hrun us, hfollows.transaction]
      rfl

/-- Of transfers that go on with others, those up to the end of the first `n` bytes are determined. -/
theorem eq_of_shortest {n : Nat} {used left first rest : List Bytes} (h : used ++ left = first ++ rest)
    (hused : n ≤ used.flatten.length) (hused' : used.dropLast.flatten.length < n)
    (hfirst : n ≤ first.flatten.length) (hfirst' : first.dropLast.flatten.length < n) :
    used = first ∧ left = rest := by
  have hlonger : ∀ {l more : List Bytes}, more ≠ [] → l.flatten.length ≤ (l ++ more).dropLast.flatten.length := by
    intro l more hm
    rw [List.dropLast_append_of_ne_nil hm, List.flatten_append, List.length_append]
    exact Nat.le_add_right _ _
  -- were one of the two longer, it would hold `n` bytes without its last transfer
  rcases List.append_eq_append_iff.mp h with ⟨more, rfl, rfl⟩ | ⟨more, rfl, rfl⟩
  · by_cases hm : more = []
    · simp [hm]
    · have := hlonger (l := used) hm
      omega
  · by_cases hm : more = []
    · simp [hm]
    · have := hlonger (l := first) hm
      omega

/-- A run in which the answer of one call, with this id, is late.  Every other answer comes when its call is
made; nothing comes for the call of `late`, and what comes with the call of `next` is the late answer and behind
it that call's own. -/
structure Belated (e : Engine Responder) (before : List Turn) (id : UInt32) (late next : Turn)
    (after : List Turn) :
    Prop where
  between : Between e [] ((before ++ late :: next :: after).map Turn.transfers)
  flowing : Flowing ((before ++ late :: next :: after).map Turn.transfers).flatten
  admitted : ∀ t ∈ before ++ late :: next :: after, t.Admitted e
  id_eq : id = nextId^[before.length] e.nextTransaction
  promptBefore : Prompt e.nextTransaction before
  lateAnswers : late.Answers id
  silent : late.transfers = []
  nextAnswers : next.Answers (nextId id)
  coming : next.transfers.flatten = wire (late.containers ++ next.containers)
  promptAfter : Prompt (nextId (nextId id)) after

namespace Belated

variable {before : List Turn} {id : UInt32} {late next : Turn} {after : List Turn}

/-- No container of the two answers belongs to the call after them. -/
theorem foreign (h : Belated e before id late next after) {c : Container}
    (hc : c ∈ late.containers ++ next.containers) :
    c.Recognised ∧ c.transaction ≠ nextId (nextId id) := by
  rcases List.mem_append.mp hc with hc | hc
  · refine ⟨h.lateAnswers.recognised c hc, ?_⟩
    rw [h.lateAnswers.transaction hc]
    exact (nextId_nextId_ne id).symm
  · refine ⟨h.nextAnswers.recognised c hc, ?_⟩
    rw [h.nextAnswers.transaction hc]
    exact (nextId_ne (nextId id)).symm

/-- Up to the call whose answer is late all calls return, and that call times out. -/
theorem outcomes_eq (h : Belated e before id late next after) :
    ∃ e', Between e' [] (next.transfers :: after.map Turn.transfers) ∧ e'.session = e.session ∧
      e'.nextTransaction = nextId id ∧
      outcomes (before ++ late :: next :: after) e =
        owns e.nextTransaction before ++ .error (.transport .timeout) :: outcomes (next :: after) e' := by
  have hadmitted := List.forall_mem_append.mp h.admitted
  have hbetween := h.between
  have hflow := h.flowing
  rw [List.map_append] at hbetween hflow
  obtain ⟨e₁, left, hb₁, hempty, hflow₁, hsession, hid, hrun⟩ :=
    outcomes_of_prompt before hbetween rfl hflow hadmitted.1 h.promptBefore
  have hlate : late.Admitted e₁ := (hadmitted.2 late List.mem_cons_self).of_session hsession
  have hflow₂ : Flowing left := hflow₁.of_infix ⟨[], _, rfl⟩
  obtain ⟨e', heq, hb', hfollows⟩ := call_of_silence hb₁ hlate hempty hflow₂ h.silent
  refine ⟨e', hb', hfollows.session.trans hsession, ?_, ?_⟩
  · rw [hfollows.transaction, hid, h.id_eq]
  · rw [hrun, outcomes_cons, heq]

/-- The call after that reads the first container of the late answer, and no transfer behind the one with its
end. -/
theorem outcomes_next (h : Belated e before id late next after) {e₁ : Engine Responder}
    (hb : Between e₁ [] (next.transfers :: after.map Turn.transfers)) (hsession : e₁.session = e.session)
    (hid : e₁.nextTransaction = nextId id) {first rest : List Bytes} {c : Container} {gone left : List Container}
    (hsplit : next.transfers = first ++ rest)
    (hcontainers : late.containers ++ next.containers = c :: gone ++ left)
    (hgone : first.flatten = wire (c :: gone)) (hfirst : first.dropLast.flatten.length < (wire [c]).length) :
    ∃ fault e', Between e' rest (after.map Turn.transfers) ∧ e'.session = e.session ∧
      e'.nextTransaction = nextId (nextId id) ∧
      outcomes (next :: after) e₁ = .error (.framing fault) :: outcomes after e' := by
  have hadmitted : next.Admitted e₁ := (h.admitted next (by simp)).of_session hsession
  have hflow : Flowing next.transfers :=
    h.flowing.of_infix ⟨(before.map Turn.transfers).flatten ++ late.transfers,
      (after.map Turn.transfers).flatten, by simp⟩
  have hlate : c ∈ late.containers := by
    cases hl : late.containers with
    | nil => simp [containers] at hl
    | cons c' cs =>
      rw [hl] at hcontainers
      rw [(List.cons.inj hcontainers).1]
      exact List.mem_cons_self
  have hforeign : c.transaction ≠ e₁.nextTransaction := by
    rw [h.lateAnswers.transaction hlate, hid]
    exact (nextId_ne id).symm
  have hwire : next.transfers.flatten = wire (c :: gone) ++ wire left := by
    rw [h.coming, hcontainers, wire_append]
  obtain ⟨fault, used, behind, e', heq, hused, hb', hfollows, hle, hshort⟩ :=
    call_of_foreign hb hadmitted hflow (h.lateAnswers.recognised c hlate) hforeign hwire
  have hfirst' : (wire [c]).length ≤ first.flatten.length := by
    have hcons : wire (c :: gone) = wire [c] ++ wire gone := wire_append [c] gone
    rw [hgone, hcons, List.length_append]
    exact Nat.le_add_right _ _
  obtain ⟨-, rfl⟩ := eq_of_shortest (hused.trans hsplit) hle hshort hfirst' hfirst
  refine ⟨fault, e', hb', hfollows.session.trans hsession, by rw [hfollows.transaction, hid], ?_⟩
  rw [outcomes_cons, heq]

/-- Behind that, with nothing of the two answers left over, the calls go on as if they were the first ones. -/
theorem outcomes_after (h : Belated e before id late next after) {e₂ : Engine Responder} {rest : List Bytes}
    (hb : Between e₂ rest (after.map Turn.transfers)) (hsession : e₂.session = e.session)
    (hid : e₂.nextTransaction = nextId (nextId id)) (hempty : rest.flatten = [])
    (hflow : Flowing (rest ++ (after.map Turn.transfers).flatten)) :
    outcomes after e₂ = owns (nextId (nextId id)) after := by
  have hadmitted : ∀ t ∈ after, t.Admitted e₂ := fun t ht => (h.admitted t (by simp [ht])).of_session hsession
  have hturns : after.map Turn.transfers = after.map Turn.transfers ++ [] := (List.append_nil _).symm
  rw [hturns] at hb hflow
  obtain ⟨e₃, last, -, -, -, -, -, hrun⟩ :=
    outcomes_of_prompt after hb hempty hflow hadmitted (hid ▸ h.promptAfter)
  have hall := hrun []
  rw [List.append_nil, hid] at hall
  exact hall.trans (List.append_nil _)

/-- With a container left over, the first of them fails like the one before. -/
theorem outcomes_left_over {t : Turn} {ts : List Turn} (h : Belated e before id late next (t :: ts))
    {e₂ : Engine Responder} {rest : List Bytes} (hb : Between e₂ rest ((t :: ts).map Turn.transfers))
    (hsession : e₂.session = e.session) (hid : e₂.nextTransaction = nextId (nextId id)) {d : Container}
    {left : List Container} (hd : d ∈ late.containers ++ next.containers) (hrest : rest.flatten = wire (d :: left))
    (hflow : Flowing (rest ++ ((t :: ts).map Turn.transfers).flatten)) :
    ∃ fault more, outcomes (t :: ts) e₂ = .error (.framing fault) :: more := by
  obtain ⟨hrecognised, hforeign⟩ := h.foreign hd
  rw [← hid] at hforeign
  have hadmitted : t.Admitted e₂ := (h.admitted t (by simp)).of_session hsession
  rw [List.map_cons, List.flatten_cons, ← List.append_assoc] at hflow
  have hflow' : Flowing (rest ++ t.transfers) := hflow.of_infix ⟨[], _, rfl⟩
  have hstream : (rest ++ t.transfers).flatten = wire (d :: left) ++ t.transfers.flatten := by
    rw [List.flatten_append, hrest]
  obtain ⟨fault, -, -, e₃, heq, -⟩ := call_of_foreign hb hadmitted hflow' hrecognised hforeign hstream
  refine ⟨fault, outcomes ts e₃, ?_⟩
  rw [outcomes_cons, heq]

end Belated

/-- The calls before the late answer return their own answers, that of the late answer times out, and the next
one fails with a framing fault.  Let `first` be the transfers up to the one with the end of the late answer's
first container, and let them end with a container.  If no container is left behind them, every further call
returns its own answer.  Otherwise the call after the next one fails as well. -/
theorem late_answer {before : List Turn} {id : UInt32} {late next : Turn} {after : List Turn}
    (h : Belated e before id late next after) {first rest : List Bytes} {gone left : List Container}
    (hsplit : next.transfers = first ++ rest) (hcontainers : late.containers ++ next.containers = gone ++ left)
    (hgone : first.flatten = wire gone) (hfirst : first.dropLast.flatten.length < (wire (gone.take 1)).length) :
    ∃ fault later, outcomes (before ++ late :: next :: after) e =
        owns e.nextTransaction before ++ .error (.transport .timeout) :: .error (.framing fault) :: later ∧
      (left = [] → later = owns (nextId (nextId id)) after) ∧
      (left ≠ [] → ∀ t ts, after = t :: ts → ∃ fault' more, later = .error (.framing fault') :: more) := by
  cases gone with
  | nil => exact absurd hfirst (Nat.not_lt_zero _)
  | cons c gone =>
    obtain ⟨e₁, hb₁, hsession₁, hid₁, hrun₁⟩ := h.outcomes_eq
    obtain ⟨fault, e₂, hb₂, hsession₂, hid₂, hrun₂⟩ :=
      h.outcomes_next hb₁ hsession₁ hid₁ hsplit hcontainers hgone hfirst
    have hrest : rest.flatten = wire left := by
      have hwire := h.coming
      rw [hsplit, hcontainers, List.flatten_append, wire_append, hgone] at hwire
      exact List.append_cancel_left hwire
    have hflow : Flowing (rest ++ (after.map Turn.transfers).flatten) :=
      h.flowing.of_suffix ⟨((before ++ [late]).map Turn.transfers).flatten ++ first, by simp [hsplit]⟩
    refine ⟨fault, outcomes after e₂, by rw [hrun₁, hrun₂], ?_, ?_⟩
    · rintro rfl
      exact h.outcomes_after hb₂ hsession₂ hid₂ hrest hflow
    · rintro hne t ts rfl
      obtain ⟨d, ds, rfl⟩ := List.exists_cons_of_ne_nil hne
      have hd : d ∈ late.containers ++ next.containers := hcontainers ▸ List.mem_append_right _ List.mem_cons_self
      exact h.outcomes_left_over hb₂ hsession₂ hid₂ hd hrest hflow

/-- The transfer of a response that counts no objects. -/
def noneCounted (id : UInt32) : Bytes :=
  wire [.response 0x2001 id [0]]

/-- A call that counts objects; the transfers are those that come when it is made. -/
def counting (id : UInt32) (transfers : List Bytes) : Turn where
  operation := .getNumObjects
  parameters := [Camera.cfExpressId, 0, 0]
  response := .response 0x2001 id [0]
  transfers := transfers

/-- Four such calls; the answer to the second comes with the third, in these transfers. -/
def counted (transfers : List Bytes) : List Turn :=
  [counting 1 [noneCounted 1], counting 2 [], counting 3 transfers, counting 4 [noneCounted 4]]

/-- An engine with a session at a device with these turns. -/
def opened (turns : List (List Bytes)) : Engine Responder :=
  { link := { turns }, clock := idle.clock, session := some 1, maxPacket := 512 }

theorem answers_counting (id : UInt32) (transfers : List Bytes) : (counting id transfers).Answers id where
  recognised := by
    intro c hc
    obtain rfl := List.mem_singleton.mp hc
    exact (Container.canonical_response _ _ _).recognised rfl
  datas := fun d hd => by cases hd
  response := ⟨rfl, rfl⟩

theorem belated_counted {transfers : List Bytes} (hflatten : transfers.flatten = noneCounted 2 ++ noneCounted 3)
    (hne : ∀ bytes ∈ transfers, bytes ≠ []) :
    Belated (opened ((counted transfers).map Turn.transfers)) [counting 1 [noneCounted 1]] 2 (counting 2 [])
      (counting 3 transfers) [counting 4 [noneCounted 4]] where
  between := ⟨rfl, rfl⟩
  flowing := by
    refine flowing_of_forall_ne_nil fun bytes hb => ?_
    simp only [counting, List.map_cons, List.map_append, List.map_nil, List.flatten_cons, List.flatten_append,
      List.flatten_nil, List.nil_append, List.append_nil, List.mem_append, List.mem_singleton] at hb
    rcases hb with rfl | hb | rfl
    · decide
    · exact hne bytes hb
    · decide
  admitted := fun t ht => by
    simp only [List.mem_append, List.mem_cons, List.not_mem_nil, or_false] at ht
    rcases ht with rfl | rfl | rfl | rfl <;> rfl
  id_eq := rfl
  promptBefore := ⟨answers_counting 1 _, rfl, trivial⟩
  lateAnswers := answers_counting 2 _
  silent := rfl
  nextAnswers := answers_counting 3 _
  coming := hflatten
  promptAfter := ⟨answers_counting 4 _, rfl, trivial⟩

/-- Both answers come in one transfer, which is dropped as a whole. -/
theorem late_answer_dropped :
    let both := [noneCounted 2 ++ noneCounted 3]
    ∃ fault, outcomes (counted both) (opened ((counted both).map Turn.transfers)) =
      [.ok ((counting 1 []).own 1), .error (.transport .timeout), .error (.framing fault),
          .ok ((counting 4 []).own 4)] := by
  intro both
  have hsplit : (counting 3 both).transfers = both ++ [] := rfl
  have hcontainers : (counting 2 []).containers ++ (counting 3 both).containers =
      [.response 0x2001 2 [0], .response 0x2001 3 [0]] ++ [] := rfl
  have hflatten : both.flatten = noneCounted 2 ++ noneCounted 3 := rfl
  obtain ⟨fault, later, hrun, hlater, -⟩ :=
    late_answer (belated_counted hflatten (by decide)) hsplit hcontainers rfl (by decide)
  rw [hlater rfl] at hrun
  exact ⟨fault, hrun⟩

/-- Every answer comes in a transfer of its own.  The call after the failed one reads the answer to that one and
fails. -/
theorem late_answer_left_over :
    let each := [noneCounted 2, noneCounted 3]
    Belated (opened ((counted each).map Turn.transfers)) [counting 1 [noneCounted 1]] 2 (counting 2 [])
        (counting 3 each) [counting 4 [noneCounted 4]] ∧
      outcomes (counted each) (opened ((counted each).map Turn.transfers)) =
        [.ok ((counting 1 []).own 1), .error (.transport .timeout),
         .error (.framing (.foreignTransaction .getNumObjects 3 2 .response)),
         .error (.framing (.foreignTransaction .getNumObjects 4 3 .response))] :=
  ⟨belated_counted rfl (by decide), by decide +kernel⟩

end Engine

end Tether
