import Tether.Engine.Operations
import Tether.Engine.Session
import Tether.Proofs.Action
import Tether.Proofs.Exchange.Transactions

/-!
# Tether.Proofs.Exchange.Sessions — commands go out in a session

The session is opened and closed and calls are made in any order, and between them anything may happen to the
link.  Only an opening records a session, and it does so exactly when the camera means that one is open; only a
closing forgets it, and it does so whatever the camera answers.

Each step is put down with what it sent and the session that was recorded meanwhile: a call does not touch the
session, an opening records it after its exchange, and a closing forgets it after its own.
-/

namespace Tether

open Ptp Tether.Action
open Calendar (Instant)

variable {τ : Type} [Transport τ]

/-! ## Opening and closing -/

namespace Engine

section Session

variable {e : Engine τ}

/-- The camera answers the command that opens the session, and means that it is open. -/
def Welcomed (e : Engine τ) : Prop :=
  ∃ response, (execute .openSession [sessionId] none e).1 = .ok response ∧
    (response.code = .ok ∨ response.code = .sessionAlreadyOpen)

theorem opensSession_iff {code : ResponseCode} :
    opensSession code = true ↔ code = .ok ∨ code = .sessionAlreadyOpen := by
  unfold opensSession
  rw [Bool.or_eq_true, decide_eq_true_iff, decide_eq_true_iff]

theorem openSession_of_open (h : e.session ≠ none) : openSession e = (.ok (), e) := by
  have hopen : e.isSessionOpen = true := Option.isSome_iff_ne_none.mpr h
  unfold openSession
  rw [bind_apply]
  show (if e.isSessionOpen = true then _ else _ : Action (Engine τ) PtpError Unit) e = _
  rw [if_pos hopen]
  rfl

/-- Without a session an opening is one call, and records the session when that is welcomed. -/
theorem leaves_openSession (h : e.session = none) :
    openSession.Leaves e
      (fun _ e' => e.Welcomed ∧
        e' = { (execute .openSession [sessionId] none e).2 with session := some sessionId })
      fun _ e' => ¬ e.Welcomed ∧ e' = (execute .openSession [sessionId] none e).2 := by
  have hclosed : ¬ e.isSessionOpen = true := by
    unfold isSessionOpen
    rw [h]
    exact Bool.false_ne_true
  unfold openSession
  refine leaves_bind (leaves_read ?_)
  rw [if_neg hclosed]
  refine leaves_bind ⟨fun response e' hx => ?_, fun error e' hx => ?_⟩
  · dsimp only
    split
    · rename_i hr
      refine leaves_change ⟨⟨response, congrArg Prod.fst hx, opensSession_iff.mp hr⟩, ?_⟩
      rw [hx]
    · rename_i hr
      refine leaves_fail ⟨?_, (congrArg Prod.snd hx).symm⟩
      rintro ⟨response', hx', hr'⟩
      rw [hx] at hx'
      cases hx'
      exact hr (opensSession_iff.mpr hr')
  · refine ⟨?_, (congrArg Prod.snd hx).symm⟩
    rintro ⟨response, hx', -⟩
    rw [hx] at hx'
    cases hx'

/-- An opening ends well exactly when a session was recorded or the camera means that one is open. -/
theorem openSession_ok_iff : (openSession e).1 = .ok () ↔ e.session ≠ none ∨ e.Welcomed := by
  by_cases h : e.session = none
  · have hleaves := leaves_openSession h
    cases hx : openSession e with
    | mk r e' =>
      cases r with
      | ok _ => exact ⟨fun _ => .inr (hleaves.1 () e' hx).1, fun _ => rfl⟩
      | error error =>
        refine ⟨fun hr => (by cases hr), fun hr => ?_⟩
        rcases hr with hopen | hwelcomed
        · exact absurd h hopen
        · exact absurd hwelcomed (hleaves.2 error e' hx).1
  · rw [openSession_of_open h]
    exact ⟨fun _ => .inl h, fun _ => rfl⟩

theorem session_openSession_of_error {error : PtpError} (hx : (openSession e).1 = .error error) :
    (openSession e).2.session = e.session := by
  by_cases h : e.session = none
  · have he := ((leaves_openSession h).2 error _ (Prod.ext hx rfl)).2
    exact (congrArg Engine.session he).trans (session_execute ..)
  · rw [openSession_of_open h]

theorem closeSession_of_closed (h : e.session = none) : closeSession e = e := by
  unfold closeSession isSessionOpen
  rw [h]
  rfl

theorem closeSession_of_open (h : e.session ≠ none) :
    closeSession e = { (execute .closeSession [] none e).2 with session := none } :=
  if_pos (Option.isSome_iff_ne_none.mpr h)

theorem session_closeSession (e : Engine τ) : (closeSession e).session = none := by
  by_cases h : e.session = none
  · rw [closeSession_of_closed h]
    exact h
  · rw [closeSession_of_open h]

/-! ## Asking without a session -/

variable {operation : Operation}

theorem leaves_execute_of_closed (h : e.session = none) (hop : operation ≠ .openSession) (parameters : List UInt32)
    (payload : Option Bytes) :
    (execute operation parameters payload).Leaves e (fun _ _ => False) fun _ e' => e' = e := by
  cases hcheck : checkCall operation parameters payload e with
  | error error => exact leaves_of_eq_error (execute_of_refused hcheck) rfl
  | ok _ => exact absurd (.inr (.inr ⟨hop, h⟩)) (checkCall_eq_ok_iff.mp hcheck)

theorem leaves_askDataset_of_closed {α : Type} (h : e.session = none) (hop : operation ≠ .openSession)
    (parameters : List UInt32) (parse : Bytes → Except PtpError α) :
    (askDataset operation parameters parse).Leaves e (fun _ _ => False) fun _ e' => e' = e := by
  refine leaves_bind (leaves_bind ?_)
  exact (leaves_execute_of_closed h hop parameters none).mono (fun _ _ hf => hf.elim) fun _ _ he => he

end Session

end Engine

/-! ## Runs -/

/-- What a host does with the session, and what may happen to the link. -/
inductive SessionStep (τ : Type) where
  | openSession
  | closeSession
  | call (operation : Operation) (parameters : List UInt32) (payload : Option Bytes)
  /-- Anything that happens to the link between calls. -/
  | relink (link : τ)

/-- What was sent while a session, or none, was recorded. -/
structure Traffic where
  session : Option UInt32
  sends : List Bytes

namespace Traffic

open Engine

/-- What was sent is a request as far as it went out, and one that opens a session unless the session was
recorded. -/
def InSession (t : Traffic) : Prop :=
  t.sends = [] ∨ ∃ operation transaction parameters payload,
    t.sends <+: outgoing operation transaction parameters payload ∧
    unframe (outgoing operation transaction parameters payload).flatten =
      ⟨request operation transaction parameters payload, none, []⟩ ∧
    (operation ≠ .openSession → t.session = some 1)

end Traffic

namespace SessionStep

open Engine

def run : SessionStep τ → Engine (Recorded τ) → Engine (Recorded τ)
  | .openSession, e => (Engine.openSession e).2
  | .closeSession, e => Engine.closeSession e
  | .call operation parameters payload, e => (execute operation parameters payload e).2
  | .relink link, e => { e with link := { e.link with link } }

def runAll (steps : List (SessionStep τ)) (e : Engine (Recorded τ)) : Engine (Recorded τ) :=
  steps.foldl (fun e step => step.run e) e

/-- What a step sends, and the session that is recorded when it begins. -/
def traffic (step : SessionStep τ) (e : Engine (Recorded τ)) : Traffic where
  session := e.session
  sends := (step.run e).link.sends.drop e.link.sends.length

/-- The traffic of some steps, one after the other. -/
def log : List (SessionStep τ) → Engine (Recorded τ) → List Traffic
  | [], _ => []
  | step :: steps, e => step.traffic e :: log steps (step.run e)

/-- The recorded session is the one that there may be. -/
def OneSession (e : Engine (Recorded τ)) : Prop :=
  e.session = none ∨ e.session = some 1

variable {e e' : Engine (Recorded τ)}

omit [Transport τ] in
theorem OneSession.eq_some (h : OneSession e) (hs : e.session ≠ none) : e.session = some 1 :=
  h.resolve_left hs

/-- A call sends its request as far as it goes out, and none without a session but one that opens it. -/
theorem inSession_execute (h : OneSession e) (operation : Operation) (parameters : List UInt32)
    (payload : Option Bytes) (hlink : e'.link = (execute operation parameters payload e).2.link) :
    ∃ sent, e'.link.sends = e.link.sends ++ sent ∧ Traffic.InSession ⟨e.session, sent⟩ := by
  rw [hlink]
  cases hr : refused (execute operation parameters payload e).1 with
  | true =>
    refine ⟨[], ?_, .inl rfl⟩
    rw [EngineStep.unchanged_of_refused hr, List.append_nil]
  | false =>
    obtain ⟨⟨sent, -, hsent, hsends⟩, hrequest⟩ := EngineStep.request_of_accepted hr
    refine ⟨sent, hsends, .inr ⟨operation, e.nextTransaction, parameters, payload, hsent, hrequest, fun hop => ?_⟩⟩
    refine h.eq_some fun hnone => ?_
    rw [refused_execute_iff.mpr (.inr (.inr ⟨hop, hnone⟩))] at hr
    cases hr

omit [Transport τ] in
theorem inSession_of_same (hlink : e'.link.sends = e.link.sends) :
    ∃ sent, e'.link.sends = e.link.sends ++ sent ∧ Traffic.InSession ⟨e.session, sent⟩ :=
  ⟨[], by rw [hlink, List.append_nil], .inl rfl⟩

theorem oneSession_run (h : OneSession e) (step : SessionStep τ) : OneSession (step.run e) := by
  cases step with
  | openSession =>
    show OneSession (Engine.openSession e).2
    by_cases hs : e.session = none
    · refine ((leaves_openSession hs).mono (fun _ e' h' => ?_) fun _ e' h' => ?_).state
      · rw [h'.2]
        exact .inr rfl
      · rw [h'.2]
        exact .inl ((session_execute ..).trans hs)
    · rw [openSession_of_open hs]
      exact h
  | closeSession => exact .inl (session_closeSession e)
  | call operation parameters payload =>
    show OneSession (execute operation parameters payload e).2
    unfold OneSession
    rw [session_execute]
    exact h
  | relink link => exact h

/-- What a step sends comes behind what was sent before, in the session that is recorded when it begins. -/
theorem inSession_run (h : OneSession e) (step : SessionStep τ) :
    ∃ sent, (step.run e).link.sends = e.link.sends ++ sent ∧ Traffic.InSession ⟨e.session, sent⟩ := by
  cases step with
  | openSession =>
    show ∃ sent, (Engine.openSession e).2.link.sends = _ ∧ _
    by_cases hs : e.session = none
    · have hlink := (leaves_openSession hs).mono (fun _ _ he => congrArg Engine.link he.2) fun _ _ he =>
        congrArg Engine.link he.2
      exact inSession_execute h .openSession [sessionId] none hlink.state
    · rw [openSession_of_open hs]
      exact inSession_of_same rfl
  | closeSession =>
    show ∃ sent, (Engine.closeSession e).link.sends = _ ∧ _
    by_cases hs : e.session = none
    · rw [closeSession_of_closed hs]
      exact inSession_of_same rfl
    · rw [closeSession_of_open hs]
      exact inSession_execute h .closeSession [] none rfl
  | call operation parameters payload => exact inSession_execute h operation parameters payload rfl
  | relink link => exact inSession_of_same rfl

theorem oneSession_runAll (steps : List (SessionStep τ)) : ∀ {e}, OneSession e → OneSession (runAll steps e) := by
  induction steps with
  | nil => exact fun h => h
  | cons step steps ih => exact fun h => ih (oneSession_run h step)

/-- The log holds all that was sent, in order, and all of it went out in a session. -/
theorem inSession_log (steps : List (SessionStep τ)) : ∀ {e}, OneSession e →
    (runAll steps e).link.sends = e.link.sends ++ (log steps e).flatMap Traffic.sends ∧
      ∀ t ∈ log steps e, t.InSession := by
  induction steps with
  | nil => exact fun _ => ⟨(List.append_nil _).symm, fun t ht => (by cases ht)⟩
  | cons step steps ih =>
    intro e h
    obtain ⟨sent, hsends, hsession⟩ := inSession_run h step
    obtain ⟨hall, hlog⟩ := ih (oneSession_run h step)
    have htraffic : step.traffic e = ⟨e.session, sent⟩ := by
      unfold traffic
      rw [hsends, List.drop_left]
    unfold log
    rw [htraffic]
    refine ⟨?_, List.forall_mem_cons.mpr ⟨hsession, hlog⟩⟩
    show (runAll steps (step.run e)).link.sends = _
    rw [hall, hsends, List.flatMap_cons, List.append_assoc]

end SessionStep

open Engine SessionStep in
/-- After any run from an engine that has not been used, the recorded session is none or the one there is.  An
opening that fails leaves it, and one that ends well has recorded it, which it does exactly when a session was
recorded already or the camera means that one is open.  A closing leaves none.  An opening in a session and a
closing without one change nothing, so they send nothing and use no id.  All that was sent in the run is
requests, and each went out while the session was recorded, unless it opens one. -/
theorem Engine.session_discipline (link : τ) (clock : Instant) (maxPacket : Nat) (steps : List (SessionStep τ)) :
    let start := unused link clock maxPacket
    let e := runAll steps start
    (e.session = none ∨ e.session = some 1) ∧
    (∀ error, (openSession e).1 = .error error → (openSession e).2.session = e.session) ∧
    ((openSession e).1 = .ok () → (openSession e).2.session = some 1) ∧
    ((openSession e).1 = .ok () ↔ e.session ≠ none ∨
      ∃ response, (execute .openSession [1] none e).1 = .ok response ∧
        (response.code = .ok ∨ response.code = .sessionAlreadyOpen)) ∧
    (closeSession e).session = none ∧
    (e.session ≠ none → (openSession e).2 = e) ∧
    (e.session = none → closeSession e = e) ∧
    (log steps start).flatMap Traffic.sends = e.link.sends ∧
    ∀ t ∈ log steps start, t.InSession := by
  intro start e
  have hstart : OneSession start := .inl rfl
  have hone := oneSession_runAll steps hstart
  obtain ⟨hsends, hlog⟩ := inSession_log steps hstart
  refine ⟨hone, fun error => session_openSession_of_error, fun hok => ?_, openSession_ok_iff,
    session_closeSession e,
    fun hs => congrArg Prod.snd (openSession_of_open hs), closeSession_of_closed, hsends.symm, hlog⟩
  by_cases hs : e.session = none
  · have he := ((leaves_openSession hs).1 () _ (Prod.ext hok rfl)).2
    exact congrArg Engine.session he
  · rw [openSession_of_open hs]
    exact hone.eq_some hs

/-- A camera that still holds the session of an earlier host. -/
def Engine.stillHeld : Camera :=
  { idle.link.camera with sessionOpen := true }

open Engine SessionStep in
theorem Engine.session_discipline_still_held :
    let e := unused stillHeld idle.clock 512
    closeSession e = e ∧ (openSession e).1 = .ok () ∧ (openSession e).2.session = some 1 := by
  intro e
  have hr : (execute .openSession [1] none e).1 =
      .ok { operation := .openSession, transaction := 1, code := .sessionAlreadyOpen, parameters := [],
            data := none } := by
    decide +kernel
  obtain ⟨-, -, hrecorded, hopens, -, -, hunopened, -, -⟩ := session_discipline stillHeld idle.clock 512 []
  have hok := hopens.mpr (.inr ⟨_, hr, .inr rfl⟩)
  exact ⟨hunopened rfl, hok, hrecorded hok⟩

end Tether
