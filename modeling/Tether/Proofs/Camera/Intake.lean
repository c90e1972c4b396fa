import Mathlib.Data.List.Basic
import Tether.Proofs.Camera.Answering
import Tether.Proofs.Exchange.Transactions

/-!
# Tether.Proofs.Camera.Intake — host and camera agree on the bytes of a command

A camera counts transfers and keeps the bytes of a container that is not complete; nothing that it makes of a
container depends on either (`accept_taking`).  So wherever a stream of containers was cut, the camera takes in
these containers, in order, as if they had come one by one (`sendAll_of_wire`).

What a host sends of a call is such a stream, in two or three transfers: the command, and the data in a header of
their own and a content.
-/

namespace Tether

open Ptp

/-! ## Steps that do not see a change -/

namespace Action

variable {σ ε α β : Type} {f : σ → σ} {x : Action σ ε α}

/-- The step answers the same before and behind a change of the state, and the change may as well come after it. -/
def Blind (f : σ → σ) (x : Action σ ε α) : Prop :=
  ∀ s, x (f s) = ((x s).1, f (x s).2)

theorem blind_pure (a : α) : (pure a : Action σ ε α).Blind f :=
  fun _ => rfl

theorem blind_fail (e : ε) : (fail e : Action σ ε α).Blind f :=
  fun _ => rfl

theorem blind_change {g : σ → σ} (h : ∀ s, g (f s) = f (g s)) : (change g : Action σ ε Unit).Blind f :=
  fun s => Prod.ext rfl (h s)

theorem blind_bind {g : α → Action σ ε β} (hx : x.Blind f) (hg : ∀ a, (g a).Blind f) : (x >>= g).Blind f := by
  intro s
  rw [bind_apply, bind_apply, hx s]
  cases x s with
  | mk r s' =>
    cases r with
    | ok a => exact hg a s'
    | error e => rfl

theorem blind_ofOption (e : ε) (o : Option α) : (ofOption e o : Action σ ε α).Blind f := by
  cases o with
  | none => exact blind_fail e
  | some a => exact blind_pure a

/-- What is read off the state is the same before and behind the change. -/
theorem blind_state {g : σ → Action σ ε β} (h : ∀ s, g (f s) = g s) (hg : ∀ s, (g s).Blind f) :
    (state >>= g : Action σ ε β).Blind f := by
  intro s
  show g (f s) (f s) = ((g s s).1, f (g s s).2)
  rw [h s]
  exact hg s s

theorem blind_ite {p : Prop} [Decidable p] {y : Action σ ε α} (hx : x.Blind f) (hy : y.Blind f) :
    (if p then x else y).Blind f := by
  split
  · exact hx
  · exact hy

end Action

namespace Camera

open Tether.Action

variable {c : Camera}

/-- The camera with another count of transfers and other bytes of a container that is not complete. -/
def taking (sends : Nat) (outbound : Bytes) (c : Camera) : Camera :=
  { c with sends, outbound }

section Blind

variable (n : Nat) (bytes : Bytes)

theorem blind_checkStorage (id : UInt32) : (checkStorage id).Blind (taking n bytes) := by
  intro c
  unfold checkStorage taking
  dsimp only
  split <;> rfl

theorem blind_checkWritable (id : UInt32) : (checkWritable id).Blind (taking n bytes) := by
  intro c
  unfold checkWritable taking
  dsimp only
  split
  · split <;> rfl
  · rfl

theorem blind_findObject (handle : UInt32) : (findObject handle).Blind (taking n bytes) := by
  intro c
  unfold findObject taking
  dsimp only
  split <;> rfl

theorem blind_openSession (id : UInt32) : (openSession id).Blind (taking n bytes) := by
  intro c
  unfold openSession taking
  dsimp only
  split
  · rfl
  · split <;> rfl

theorem blind_countObjects (storage format : UInt32) : (countObjects storage format).Blind (taking n bytes) :=
  blind_bind (blind_checkStorage n bytes storage) fun _ => blind_state (fun _ => rfl) fun _ => blind_pure _

theorem blind_listHandles (storage parent : UInt32) : (listHandles storage parent).Blind (taking n bytes) := by
  refine blind_bind (blind_checkStorage n bytes storage) fun _ => blind_state (fun _ => rfl) fun c => ?_
  exact blind_ite (blind_fail _) (blind_pure _)

theorem blind_describe (handle : UInt32) : (describe handle).Blind (taking n bytes) :=
  blind_bind (blind_findObject n bytes handle) fun _ => blind_pure _

theorem blind_readPart (handle offset length : UInt32) : (readPart handle offset length).Blind (taking n bytes) :=
  blind_bind (blind_findObject n bytes handle) fun _ => blind_pure _

theorem blind_delete (handle : UInt32) : (delete handle).Blind (taking n bytes) := by
  refine blind_bind (blind_findObject n bytes handle) fun o => blind_ite (blind_fail _) ?_
  refine blind_bind (blind_checkWritable n bytes _) fun _ => ?_
  exact blind_bind (blind_change fun c => rfl) fun _ => blind_pure _

theorem taking_ite {p : Prop} [Decidable p] {c c' d d' : Camera} (h : d = c.taking n bytes)
    (h' : d' = c'.taking n bytes) :
    (if p then d else d') = (if p then c else c').taking n bytes := by
  split
  · exact h
  · exact h'

theorem blind_beginUpload (storage parent : UInt32) (data : Option Bytes) :
    (beginUpload storage parent data).Blind (taking n bytes) := by
  refine blind_bind (blind_ofOption _ _) fun payload => ?_
  dsimp only
  split
  · refine blind_bind (blind_pure _) fun info => ?_
    refine blind_bind (blind_checkStorage n bytes _) fun _ =>
      blind_bind (blind_checkWritable n bytes _) fun _ => ?_
    refine blind_state (fun _ => rfl) fun c => blind_ite (blind_fail _) (blind_ite (blind_fail _) ?_)
    exact blind_bind (blind_change fun c' => taking_ite n bytes rfl rfl) fun _ => blind_pure _
  · exact fun c => rfl

theorem blind_finishUpload (data : Option Bytes) : (finishUpload data).Blind (taking n bytes) := by
  intro c
  unfold finishUpload taking
  dsimp only
  split <;> rfl

theorem blind_format (storage : UInt32) : (format storage).Blind (taking n bytes) := by
  refine blind_bind (blind_checkStorage n bytes _) fun _ => blind_bind (blind_checkWritable n bytes _) fun _ => ?_
  exact blind_bind (blind_change fun c => rfl) fun _ => blind_pure _

theorem blind_performInSession (operation : Operation) (parameters : List UInt32) (data : Option Bytes) :
    (performInSession operation parameters data).Blind (taking n bytes) := by
  cases operation with
  | closeSession => exact fun c => rfl
  | getStorageIds => exact fun c => rfl
  | getStorageInfo =>
    intro c
    unfold performInSession
    dsimp only
    rw [show (c.taking n bytes).storages = c.storages from rfl]
    cases c.storages.get? (parameter parameters 0) <;> rfl
  | getNumObjects => exact blind_countObjects n bytes _ _
  | getObjectHandles => exact blind_listHandles n bytes _ _
  | getObjectInfo => exact blind_describe n bytes _
  | getObject => exact blind_bind (blind_findObject n bytes _) fun _ => blind_pure _
  | getPartialObject => exact blind_readPart n bytes _ _ _
  | deleteObject => exact blind_delete n bytes _
  | sendObjectInfo => exact blind_beginUpload n bytes _ _ data
  | sendObject => exact blind_finishUpload n bytes data
  | formatStore => exact blind_format n bytes _
  | _ => exact blind_fail _

theorem blind_perform (operation : Operation) (parameters : List UInt32) (data : Option Bytes) :
    (perform operation parameters data).Blind (taking n bytes) := by
  have hsession : Action.Blind (taking n bytes) (fun c : Camera =>
      if c.sessionOpen then performInSession operation parameters data c
      else (.error .sessionNotOpen, c) : Step Reply) := by
    intro c
    dsimp only
    rw [show (c.taking n bytes).sessionOpen = c.sessionOpen from rfl]
    split
    · exact blind_performInSession n bytes operation parameters data c
    · rfl
  cases operation with
  | getDeviceInfo => exact fun c => rfl
  | openSession => exact blind_openSession n bytes _
  | _ => exact hsession

end Blind

/-! ## Taking in containers -/

section Taking

variable (n : Nat) (bytes : Bytes) (c : Camera)

theorem push_taking (container : Container) :
    (c.taking n bytes).push container = (c.push container).taking n bytes := by
  unfold push
  split <;> rfl

theorem answer_taking (operation : Operation) (command : Container) (data : Option Bytes) :
    (c.taking n bytes).answer operation command data = (c.answer operation command data).taking n bytes := by
  unfold answer
  rw [blind_perform n bytes operation command.parameters data c]
  cases perform operation command.parameters data c with
  | mk r c' =>
    cases r with
    | error code => exact push_taking n bytes c' _
    | ok reply =>
      dsimp only
      cases reply.data with
      | none => exact push_taking n bytes c' _
      | some payload =>
        dsimp only
        rw [push_taking]
        exact push_taking n bytes _ _

theorem dispatch_taking (operation : Operation) (command : Container) (data : Option Bytes) :
    (c.taking n bytes).dispatch operation command data = (c.dispatch operation command data).taking n bytes := by
  unfold dispatch
  rw [show (c.taking n bytes).faults = c.faults from rfl]
  cases takeFault operation c.faults with
  | mk fault faults =>
    cases fault with
    | none => exact answer_taking n bytes { c with faults } operation command data
    | some fault =>
      cases fault with
      | respond code => exact push_taking n bytes { c with faults } _
      | mismatch => exact push_taking n bytes { c with faults } _
      | malformed => exact push_taking n bytes { c with faults } _
      | noResponse => rfl
      | disconnect => rfl

/-- What a camera makes of a container does not depend on how it came. -/
theorem accept_taking (m : Container) : (c.taking n bytes).accept m = (c.accept m).taking n bytes := by
  unfold accept
  cases m.kind with
  | command =>
    dsimp only
    split
    · rfl
    · exact dispatch_taking n bytes { c with commands := c.commands ++ [(.ofCode m.code, m.transaction)] } _ m none
  | data =>
    dsimp only
    rw [show (c.taking n bytes).awaitingData = c.awaitingData from rfl]
    cases c.awaitingData with
    | none => rfl
    | some command =>
      dsimp only
      split
      · exact push_taking n bytes { c with awaitingData := none } _
      · exact dispatch_taking n bytes { c with awaitingData := none } _ command _
  | response => rfl
  | event => rfl
  | other code => rfl

theorem foldl_accept_taking (cs : List Container) :
    cs.foldl accept (c.taking n bytes) = (cs.foldl accept c).taking n bytes := by
  induction cs generalizing c with
  | nil => rfl
  | cons m cs ih =>
    rw [List.foldl_cons, List.foldl_cons, accept_taking]
    exact ih (c.accept m)

end Taking

/-- The link holds, and no fault is armed that breaks it. -/
structure Steady (c : Camera) : Prop where
  connected : c.connected = true
  faults : ∀ f ∈ c.faults, f.2 ≠ .disconnect

theorem Steady.push (h : c.Steady) (container : Container) : (c.push container).Steady := by
  unfold Camera.push
  split
  · exact ⟨h.connected, h.faults⟩
  · exact h

theorem Steady.answer (h : c.Steady) (operation : Operation) (command : Container) (data : Option Bytes) :
    (c.answer operation command data).Steady := by
  have hw := keeps_perform c.wires operation command.parameters data c rfl
  unfold Camera.answer
  cases hp : perform operation command.parameters data c with
  | mk r c' =>
    rw [hp] at hw
    have hc' : c'.Steady := by
      simp only [wires, Prod.mk.injEq] at hw
      exact ⟨hw.1.trans h.connected, hw.2.2.2.2 ▸ h.faults⟩
    cases r with
    | error code => exact hc'.push _
    | ok reply =>
      dsimp only
      cases reply.data with
      | none => exact hc'.push _
      | some payload => exact (hc'.push _).push _

theorem Steady.dispatch (h : c.Steady) (operation : Operation) (command : Container) (data : Option Bytes) :
    (c.dispatch operation command data).Steady := by
  obtain ⟨hfound, hleft⟩ := takeFault_mem operation c.faults
  unfold Camera.dispatch
  cases ht : takeFault operation c.faults with
  | mk fault faults =>
    rw [ht] at hfound hleft
    dsimp only
    have hc' : ({ c with faults } : Camera).Steady := ⟨h.connected, fun f hf => h.faults f (hleft f hf)⟩
    cases fault with
    | none => exact hc'.answer operation command data
    | some fault =>
      cases fault with
      | respond code => exact hc'.push _
      | mismatch => exact hc'.push _
      | malformed => exact hc'.push _
      | noResponse => exact hc'
      -- no fault that breaks the link is armed
      | disconnect => exact absurd rfl (h.faults _ (hfound _ rfl))

/-- Taking in a container leaves the link as it is. -/
theorem Steady.accept (h : c.Steady) (m : Container) : (c.accept m).Steady := by
  unfold Camera.accept
  cases m.kind with
  | command =>
    have hc' : ({ c with commands := c.commands ++ [(.ofCode m.code, m.transaction)] } : Camera).Steady :=
      ⟨h.connected, h.faults⟩
    dsimp only
    split
    · exact ⟨h.connected, h.faults⟩
    · exact hc'.dispatch _ m none
  | data =>
    dsimp only
    cases c.awaitingData with
    | none => exact h
    | some command =>
      have hc' : ({ c with awaitingData := none } : Camera).Steady := ⟨h.connected, h.faults⟩
      dsimp only
      split
      · exact hc'.push _
      · exact hc'.dispatch _ command _
  | response => exact h
  | event => exact h
  | other code => exact h

theorem Steady.foldl_accept (h : c.Steady) (cs : List Container) : (cs.foldl Camera.accept c).Steady := by
  induction cs generalizing c with
  | nil => exact h
  | cons m cs ih => exact ih (h.accept m)

/-! ## Taking in a stream -/

/-- Of the front of a stream of containers those that are complete are taken, and what is left begins the next
one.  By induction on the containers. -/
theorem unframe_of_wire :
    ∀ {cs : List Container} {stream more : Bytes}, (∀ m ∈ cs, m.Recognised) → stream ++ more = wire cs →
      ∃ whole later rest, cs = whole ++ later ∧ unframe stream = ⟨whole, none, rest⟩ ∧ rest ++ more = wire later ∧
        (later = [] ∨ more ≠ [])
  | [], stream, more, _, h => by
    obtain ⟨rfl, rfl⟩ := List.append_eq_nil_iff.mp h
    exact ⟨[], [], [], rfl, unframe_nil, rfl, .inl rfl⟩
  | m :: cs, stream, more, hcs, h => by
    obtain ⟨hm, hcs⟩ := List.forall_mem_cons.mp hcs
    obtain ⟨frame, hframe, hdecode, hwire⟩ := hm.exists_frame
    have hwhole : ∀ behind : Bytes, behind ++ more = wire cs →
        ∃ whole later rest, m :: cs = whole ++ later ∧ unframe (frame ++ behind) = ⟨whole, none, rest⟩ ∧
          rest ++ more = wire later ∧ (later = [] ∨ more ≠ []) := by
      intro behind hbehind
      obtain ⟨whole, later, rest, rfl, hu, hrest, hend⟩ := unframe_of_wire hcs hbehind
      exact ⟨m :: whole, later, rest, rfl, unframe_of_frame hframe hdecode hu, hrest, hend⟩
    rw [hwire] at h
    rcases List.append_eq_append_iff.mp h with ⟨missing, rfl, hmore⟩ | ⟨behind, rfl, hbehind⟩
    · by_cases hmissing : missing = []
      · subst hmissing
        have hbehind := hwhole [] (by simpa using hmore)
        rwa [List.append_nil, List.append_nil] at hbehind
      · have hne : more ≠ [] := by
          rw [hmore]
          exact fun hn => hmissing (List.append_eq_nil_iff.mp hn).1
        refine ⟨[], m :: cs, stream, rfl, unframe_of_part hframe hmissing, ?_, .inr hne⟩
        rw [hwire, hmore, List.append_assoc]
    · exact hwhole behind hbehind.symm

/-- One transfer of a stream of containers is taken in: the containers that it completes. -/
theorem Steady.send_of_wire (h : c.Steady) {cs : List Container} {bytes more : Bytes}
    (hcs : ∀ m ∈ cs, m.Recognised) (hwire : c.outbound ++ bytes ++ more = wire cs) :
    ∃ whole later rest, cs = whole ++ later ∧ rest ++ more = wire later ∧ (later = [] ∨ more ≠ []) ∧
      Transport.send bytes c = (.ok (), (whole.foldl Camera.accept c).taking (c.sends + 1) rest) := by
  obtain ⟨whole, later, rest, hsplit, hu, hrest, hend⟩ := unframe_of_wire hcs hwire
  refine ⟨whole, later, rest, hsplit, hrest, hend, ?_⟩
  rw [send_of_unframe h.connected hu]
  exact Prod.ext rfl (foldl_accept_taking (c.sends + 1) rest c whole)

/-- Whatever cut a stream of containers is sent in, each transfer is taken and in the end all containers are, in
order.  By induction on the transfers; what is kept is the front of a container that is not complete. -/
theorem Steady.sendAll_of_wire :
    ∀ {transfers : List Bytes} {c : Camera} {cs : List Container}, c.Steady → (∀ m ∈ cs, m.Recognised) →
      c.outbound ++ transfers.flatten = wire cs → (cs = [] ∨ transfers.flatten ≠ []) →
      Transport.sendAll transfers c = (.ok (), (cs.foldl Camera.accept c).taking (c.sends + transfers.length) [])
  | [], c, cs, _, _, hwire, hend => by
    obtain rfl : cs = [] := hend.resolve_right fun hn => hn rfl
    have ho : c.outbound = [] := by simpa [wire] using hwire
    refine Prod.ext rfl ?_
    show c = c.taking c.sends []
    rw [← ho]
    rfl
  | bytes :: transfers, c, cs, h, hcs, hwire, hend => by
    rw [List.flatten_cons, ← List.append_assoc] at hwire
    obtain ⟨whole, later, rest, rfl, hrest, hend', hsend⟩ := h.send_of_wire hcs hwire
    let c₁ : Camera := (whole.foldl Camera.accept c).taking (c.sends + 1) rest
    have hsteady : c₁.Steady := ⟨(h.foldl_accept whole).connected, (h.foldl_accept whole).faults⟩
    have hlater := hsteady.sendAll_of_wire (fun m hm => hcs m (List.mem_append_right whole hm)) hrest hend'
    rw [Transport.sendAll_of_ok hsend, hlater, List.foldl_append, foldl_accept_taking]
    refine Prod.ext rfl ?_
    show Camera.taking _ _ (Camera.taking _ _ _) = _
    rw [List.length_cons, Nat.add_comm transfers.length, ← Nat.add_assoc]
    rfl

end Camera

/-! ## What a call sends -/

/-- A link and every transfer that was sent over it, with what came of it. -/
structure Logged (τ : Type) where
  link : τ
  log : List (Bytes × Except TransportError Unit) := []

namespace Logged

variable {τ : Type} [Transport τ]

instance : Transport (Logged τ) where
  send bytes l :=
    ((Transport.send bytes l.link).1,
      { link := (Transport.send bytes l.link).2, log := l.log ++ [(bytes, (Transport.send bytes l.link).1)] })
  receive limit l := ((Transport.receive limit l.link).1, { l with link := (Transport.receive limit l.link).2 })
  backlog l := Transport.backlog l.link
  backlog_receive_lt := by
    intro limit l l' bytes hl h
    obtain ⟨hr, rfl⟩ := Prod.mk.inj h
    exact Transport.backlog_receive_lt hl (Prod.ext hr rfl)

variable {l l' : Logged τ} {limit : Nat}

theorem log_send {bytes : Bytes} {r : Except TransportError Unit} (h : Transport.send bytes l = (r, l')) :
    l'.log = l.log ++ [(bytes, r)] := by
  obtain ⟨rfl, rfl⟩ := Prod.mk.inj h
  rfl

theorem log_receive {r : Except TransportError Bytes} (h : Transport.receive limit l = (r, l')) :
    l'.log = l.log := by
  obtain ⟨-, rfl⟩ := Prod.mk.inj h
  rfl

/-- Where no transfer fails, all of them are sent. -/
theorem log_sendAll {r : Except TransportError Unit} : ∀ {transfers : List Bytes} {l l' : Logged τ},
    Transport.sendAll transfers l = (r, l') →
      ∃ sends, l'.log = l.log ++ sends ∧ ((∀ s ∈ sends, s.2 = .ok ()) → sends.map Prod.fst = transfers)
  | [], l, l', h => by
    obtain ⟨-, rfl⟩ := Prod.mk.inj h
    exact ⟨[], (List.append_nil _).symm, fun _ => rfl⟩
  | bytes :: rest, l, l', h => by
    cases hs : Transport.send bytes l with
    | mk r₁ l₁ =>
      have hl := log_send hs
      cases r₁ with
      | ok _ =>
        rw [Transport.sendAll_of_ok hs] at h
        obtain ⟨sends, hsends, hall⟩ := log_sendAll h
        refine ⟨(bytes, .ok ()) :: sends, ?_, fun hok => ?_⟩
        · rw [hsends, hl, List.append_assoc, List.singleton_append]
        · rw [List.map_cons, hall fun s hm => hok s (List.mem_cons_of_mem _ hm)]
      | error error =>
        rw [Transport.sendAll_of_error hs] at h
        obtain ⟨-, rfl⟩ := Prod.mk.inj h
        exact ⟨[(bytes, .error error)], hl, fun hok => by cases hok _ List.mem_cons_self⟩

end Logged

namespace Engine

variable {τ : Type} [Transport τ] {operation : Operation} {parameters : List UInt32} {payload : Option Bytes}

/-- A call that is not refused sends its transfers, unless one of them fails, and nothing else. -/
theorem log_execute {e : Engine (Logged τ)} (hc : checkCall operation parameters payload e = .ok ()) :
    ∃ sends, (execute operation parameters payload e).2.link.log = e.link.log ++ sends ∧
      ((∀ s ∈ sends, s.2 = .ok ()) → sends.map Prod.fst =
        outgoing operation e.nextTransaction parameters payload) := by
  cases hs : Transport.sendAll (outgoing operation e.nextTransaction parameters payload) e.link with
  | mk r link =>
    obtain ⟨sends, hsends, hall⟩ := Logged.log_sendAll hs
    refine ⟨sends, ?_, hall⟩
    cases r with
    | ok _ =>
      have hl := listened_collect operation e.nextTransaction none (sent e link)
      rw [execute_of_sent hc hs, link_settle, hl.same Logged.log_receive]
      exact hsends
    | error error =>
      rw [execute_of_unsent hc hs]
      exact hsends

/-- What a call sends is the stream of its containers. -/
theorem flatten_outgoing (hn : parameters.length ≤ maxParameters)
    (hp : ∀ p, payload = some p → headerLength + p.length ≤ maxWord) (operation : Operation)
    (transaction : UInt32) :
    (∀ m ∈ request operation transaction parameters payload, m.Recognised) ∧
      (outgoing operation transaction parameters payload).flatten =
        wire (request operation transaction parameters payload) := by
  have hcommand := encode_command hn operation transaction
  have hrecognised := (Container.canonical_command operation.code transaction parameters).recognised hcommand
  cases payload with
  | none =>
    refine ⟨fun m hm => ?_, ?_⟩
    · rw [List.mem_singleton.mp hm]
      exact hrecognised
    · simp [outgoing, request, wire, hcommand, Except.toOption]
  | some p =>
    have hdata := encode_data (hp p rfl) operation transaction
    refine ⟨fun m hm => ?_, ?_⟩
    · rcases List.mem_cons.mp hm with rfl | hm
      · exact hrecognised
      · rw [List.mem_singleton.mp hm]
        exact (Container.canonical_data operation.code transaction p).recognised hdata
    · simp [outgoing, request, wire, hcommand, hdata, Except.toOption, flatten_dataTransfers]

end Engine

/-- An engine with a session at a camera with two empty cards, whose transfers are logged. -/
def Engine.logged : Engine (Logged Link) :=
  { link := { link := idle.link }, clock := idle.clock, session := some 1, maxPacket := idle.maxPacket }

/-- The command and the data of an upload. -/
def Ptp.uploadStream : List Container :=
  [.command 0x100D 7 [], .data 0x100D 7 [1, 2, 3]]

end Tether
