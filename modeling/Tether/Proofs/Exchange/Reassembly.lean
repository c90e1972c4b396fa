import Mathlib.Data.List.Basic
import Tether.Proofs.Exchange.Outcome
import Tether.Proofs.Ptp.Frame

/-!
# Tether.Proofs.Exchange.Reassembly — containers come out whole however they were cut

A link hands transfers out one after the other, and the containers in them may begin and end anywhere.  What is
ahead of an engine is a stream: the bytes it has received and, behind them, the transfers that the link hands out
(`Ahead`).  Reading a container takes one frame off the front of that stream and leaves the rest, which may be in
part received already (`nextContainer_of_ahead`).

So the containers of a stream are read one by one, in order, wherever the stream was cut.  Only a row of empty
transfers, longer than those that are passed over, ends a reading early, and a reading does not go on receiving
beyond such a row.
-/

namespace Tether

open Ptp

variable {τ : Type} [Transport τ]

/-! ## What a link hands out -/

/-- Receives with these outcomes, one after the other, lead from one state of the link to another. -/
inductive Receives (limit : Nat) : τ → List (Except TransportError Bytes) → τ → Prop
  | none (link : τ) : Receives limit link [] link
  | next {link link₁ link' : τ} {r : Except TransportError Bytes} {rs : List (Except TransportError Bytes)} :
      Transport.receive limit link = (r, link₁) → Receives limit link₁ rs link' →
      Receives limit link (r :: rs) link'

/-- The link hands these transfers out next. -/
def Delivers (limit : Nat) (link : τ) (transfers : List Bytes) (link' : τ) : Prop :=
  Receives limit link (transfers.map .ok) link'

/-- There are never five empty transfers in a row. -/
def Flowing (transfers : List Bytes) : Prop :=
  ¬ List.replicate 5 [] <:+: transfers

instance (transfers : List Bytes) : Decidable (Flowing transfers) :=
  inferInstanceAs (Decidable (¬ List.replicate 5 [] <:+: transfers))

/-- The bytes of some containers, one behind the other. -/
def Ptp.wire (cs : List Container) : Bytes :=
  cs.flatMap fun c => c.encode.toOption.getD []

/-- The container can be written, and is read back from what was written. -/
def Ptp.Container.Recognised (c : Container) : Prop :=
  ∃ frame, c.encode = .ok frame ∧ decode frame = .ok c

theorem Delivers.nil {limit : Nat} (link : τ) : Delivers limit link [] link :=
  .none link

theorem receives_cons {limit : Nat} {link link' : τ} {r : Except TransportError Bytes}
    {rs : List (Except TransportError Bytes)} :
    Receives limit link (r :: rs) link' ↔
      ∃ link₁, Transport.receive limit link = (r, link₁) ∧ Receives limit link₁ rs link' := by
  constructor
  · intro h
    cases h with
    | next hr h => exact ⟨_, hr, h⟩
  · rintro ⟨link₁, hr, h⟩
    exact .next hr h

theorem delivers_cons {limit : Nat} {link link' : τ} {bytes : Bytes} {rest : List Bytes} :
    Delivers limit link (bytes :: rest) link' ↔
      ∃ link₁, Transport.receive limit link = (.ok bytes, link₁) ∧ Delivers limit link₁ rest link' :=
  receives_cons

theorem Receives.uncons {limit : Nat} {link link₁ link' : τ} {r r' : Except TransportError Bytes}
    {rs : List (Except TransportError Bytes)} (h : Receives limit link (r :: rs) link')
    (hr : Transport.receive limit link = (r', link₁)) : r = r' ∧ Receives limit link₁ rs link' := by
  obtain ⟨link₂, hr', hmore⟩ := receives_cons.mp h
  rw [hr] at hr'
  obtain ⟨rfl, rfl⟩ := Prod.mk.inj hr'
  exact ⟨rfl, hmore⟩

theorem Delivers.uncons {limit : Nat} {link link₁ link' : τ} {r : Except TransportError Bytes} {bytes : Bytes}
    {rest : List Bytes} (h : Delivers limit link (bytes :: rest) link')
    (hr : Transport.receive limit link = (r, link₁)) : .ok bytes = r ∧ Delivers limit link₁ rest link' :=
  Receives.uncons h hr

/-- Transfers that are short enough come as they are. -/
theorem Camera.delivers_of_le (inbound : List Bytes) :
    ∀ {c : Camera} {limit : Nat}, c.connected = true → c.inbound = inbound →
      (∀ bytes ∈ inbound, bytes.length ≤ min limit c.maxChunk) →
      Delivers limit c inbound { c with inbound := [] } := by
  induction inbound with
  | nil =>
    intro c limit _ hq _
    have hsame : { c with inbound := [] } = c := by rw [← hq]
    rw [hsame]
    exact .nil c
  | cons bytes more ih =>
    intro c limit hc hq hle
    obtain ⟨hbytes, hmore⟩ := List.forall_mem_cons.mp hle
    have hr : Camera.receive limit c = (.ok bytes, { c with inbound := more }) := by
      unfold Camera.receive
      rw [if_neg (fun hn => hn hc), hq]
      exact if_neg (Nat.not_lt.mpr hbytes)
    exact .next hr (ih (c := { c with inbound := more }) hc rfl hmore)

section Flowing

variable {transfers more : List Bytes}

theorem Flowing.of_infix (h : Flowing transfers) (hm : more <:+: transfers) : Flowing more :=
  fun hr => h (hr.trans hm)

theorem Flowing.of_suffix (h : Flowing transfers) (hm : more <:+ transfers) : Flowing more :=
  h.of_infix hm.isInfix

/-- Not too many empty transfers stand at the front. -/
theorem Flowing.lt_of_empties {n : Nat} (h : Flowing (List.replicate n [] ++ [] :: transfers)) :
    n < 4 := by
  by_contra hn
  refine h ⟨List.replicate (n - 4) [], transfers, ?_⟩
  have hsplit : n + 1 = n - 4 + 5 := by omega
  rw [← List.replicate_add, ← hsplit, List.replicate_succ', List.append_assoc, List.singleton_append]

/-- A run within two lists with something between them that is not part of it lies within one of them. -/
theorem infix_or_infix {α : Type} {run before after : List α} {a : α} (ha : a ∉ run)
    (h : run <:+: before ++ a :: after) :
    run <:+: before ∨ run <:+: after := by
  obtain ⟨left, right, h⟩ := h
  rcases List.append_eq_append_iff.mp h with ⟨more, rfl, -⟩ | ⟨more, hrun, hafter⟩
  · exact .inl ⟨left, more, rfl⟩
  · cases more with
    | nil =>
      rw [List.append_nil] at hrun
      exact .inl ⟨left, [], by rw [List.append_nil, hrun]⟩
    | cons b more =>
      obtain ⟨rfl, rfl⟩ := List.cons.inj hafter
      rcases List.append_eq_append_iff.mp hrun with ⟨x, rfl, rfl⟩ | ⟨x, rfl, hx⟩
      · exact absurd (List.mem_append_right x List.mem_cons_self) ha
      · cases x with
        | nil =>
          rw [List.nil_append] at hx
          exact absurd (hx ▸ List.mem_cons_self) ha
        | cons c x =>
          obtain ⟨rfl, rfl⟩ := List.cons.inj hx
          exact .inr ⟨x, right, rfl⟩

theorem flowing_append_cons {before after : List Bytes} {bytes : Bytes} (h : bytes ≠ []) :
    Flowing (before ++ bytes :: after) ↔ Flowing before ∧ Flowing after := by
  refine ⟨fun hf => ⟨hf.of_infix ⟨[], _, rfl⟩, hf.of_infix ⟨before ++ [bytes], [], by simp⟩⟩,
    fun ⟨hb, ha⟩ hr => ?_⟩
  have hne : bytes ∉ List.replicate 5 [] := fun hm => h (List.eq_of_mem_replicate hm)
  rcases infix_or_infix hne hr with hr | hr
  · exact hb hr
  · exact ha hr

theorem flowing_of_length_le (h : transfers.length ≤ 4) : Flowing transfers := by
  intro hr
  have := hr.length_le
  rw [List.length_replicate] at this
  omega

theorem flowing_of_forall_ne_nil (h : ∀ bytes ∈ transfers, bytes ≠ []) : Flowing transfers := by
  intro hr
  exact h [] (hr.mem (List.mem_replicate.mpr ⟨by decide, rfl⟩)) rfl

end Flowing

namespace Ptp

theorem wire_append (cs ds : List Container) : wire (cs ++ ds) = wire cs ++ wire ds :=
  List.flatMap_append

theorem Container.Recognised.exists_frame {c : Container} (h : c.Recognised) :
    ∃ frame, IsFrame frame ∧ decode frame = .ok c ∧ ∀ rest, wire (c :: rest) = frame ++ wire rest := by
  obtain ⟨frame, he, hd⟩ := h
  refine ⟨frame, isFrame_of_encode he, hd, fun rest => ?_⟩
  unfold wire
  rw [List.flatMap_cons, he]
  rfl

theorem Container.Canonical.recognised {c : Container} {frame : Bytes} (h : c.Canonical)
    (he : c.encode = .ok frame) :
    c.Recognised :=
  ⟨frame, he, decode_of_encode h he⟩

end Ptp

namespace Engine

/-! ## The front of a stream -/

theorem replicate_append_cons {α : Type} (n : Nat) (a : α) (l : List α) :
    List.replicate n a ++ a :: l = List.replicate (n + 1) a ++ l := by
  rw [List.replicate_succ', List.append_assoc, List.singleton_append]

theorem front_of_frame {frame : Bytes} (h : IsFrame frame) (rest : Bytes) :
    front (frame ++ rest) = .whole frame rest := by
  unfold front
  rw [declaredLength?_append h.declared]
  have hle : ¬ (frame ++ rest).length < frame.length := by
    rw [List.length_append]
    omega
  simp only [if_neg (Nat.not_lt.mpr h.le_length), if_neg hle, List.take_left, List.drop_left]

theorem front_of_part {bytes more : Bytes} (h : IsFrame (bytes ++ more)) (hm : more ≠ []) :
    front bytes = .incomplete := by
  have hlt : bytes.length < (bytes ++ more).length := by
    have := List.length_pos_iff.mpr hm
    rw [List.length_append]
    omega
  unfold front
  rcases h.declared_of_part with hd | hd
  · rw [hd]
  · rw [hd]
    simp only [if_neg (Nat.not_lt.mpr h.le_length), if_pos hlt]

/-- When nothing is known of a stream yet, nothing was known before. -/
theorem front_of_incomplete {bytes more : Bytes} (h : front (bytes ++ more) = .incomplete) :
    front bytes = .incomplete := by
  unfold front at h ⊢
  cases hd : declaredLength? bytes with
  | none => rfl
  | some n =>
    rw [declaredLength?_append hd] at h
    simp only at h ⊢
    split at h
    · cases h
    · rename_i hn
      rw [if_neg hn]
      split at h
      · rename_i hlt
        refine if_pos (Nat.lt_of_le_of_lt ?_ hlt)
        rw [List.length_append]
        exact Nat.le_add_right _ _
      · cases h

/-! ## One container -/

/-- The bytes received and the transfers that the link hands out next, up to its state `link'`, are this stream. -/
structure Ahead (e : Engine τ) (transfers : List Bytes) (stream : Bytes) (link' : τ) : Prop where
  delivers : Delivers e.packetLimit e.link transfers link'
  stream_eq : e.received ++ transfers.flatten = stream

namespace Ahead

variable {e : Engine τ} {transfers : List Bytes} {frame rest : Bytes} {link' : τ}

/-- The bytes received hold all of the frame that comes next, or only the first part of it, with more to come. -/
theorem front_cases (hf : IsFrame frame) (h : Ahead e transfers (frame ++ rest) link') :
    (∃ behind, front e.received = .whole frame behind ∧ Ahead { e with received := behind } transfers rest link') ∨
      front e.received = .incomplete ∧ e.received.length < frame.length ∧
        ∃ bytes more link₁, transfers = bytes :: more ∧
          Transport.receive e.packetLimit e.link = (.ok bytes, link₁) ∧
          Ahead { e with link := link₁, received := e.received ++ bytes } more (frame ++ rest) link' := by
  obtain ⟨hd, hs⟩ := h
  rcases List.append_eq_append_iff.mp hs with ⟨missing, hframe, hcoming⟩ | ⟨behind, hreceived, rfl⟩
  · by_cases hm : missing = []
    · subst hm
      rw [List.append_nil] at hframe
      refine .inl ⟨[], ?_, hd, hcoming⟩
      have hw := front_of_frame hf []
      rw [← hframe]
      rwa [List.append_nil] at hw
    · have hpos := List.length_pos_iff.mpr hm
      rw [hframe] at hf
      refine .inr ⟨front_of_part hf hm, by rw [hframe, List.length_append]; omega, ?_⟩
      cases transfers with
      | nil => exact absurd (List.append_eq_nil_iff.mp hcoming.symm).1 hm
      | cons bytes more =>
        obtain ⟨link₁, hr, hmore⟩ := delivers_cons.mp hd
        refine ⟨bytes, more, link₁, rfl, hr, hmore, ?_⟩
        rw [List.append_assoc]
        exact hs
  · exact .inl ⟨behind, hreceived ▸ front_of_frame hf behind, hd, rfl⟩

theorem not_broken (hf : IsFrame frame) (h : Ahead e transfers (frame ++ rest) link') (declared : Nat) :
    front e.received ≠ .broken declared := by
  intro hb
  rcases h.front_cases hf with ⟨behind, hw, -⟩ | ⟨hi, -⟩
  · rw [hb] at hw
    cases hw
  · rw [hb] at hi
    cases hi

theorem of_whole {frame' behind : Bytes} (hf : IsFrame frame) (h : Ahead e transfers (frame ++ rest) link')
    (hw : front e.received = .whole frame' behind) :
    frame' = frame ∧ Ahead { e with received := behind } transfers rest link' := by
  rcases h.front_cases hf with ⟨behind', hw', ha⟩ | ⟨hi, -⟩
  · rw [hw] at hw'
    cases hw'
    exact ⟨rfl, ha⟩
  · rw [hw] at hi
    cases hi

theorem of_incomplete (hf : IsFrame frame) (h : Ahead e transfers (frame ++ rest) link')
    (hi : front e.received = .incomplete) {r : Except TransportError Bytes} {link₁ : τ}
    (hr : Transport.receive e.packetLimit e.link = (r, link₁)) :
    e.received.length < frame.length ∧ ∃ bytes more, r = .ok bytes ∧ transfers = bytes :: more ∧
      Ahead { e with link := link₁, received := e.received ++ bytes } more (frame ++ rest) link' := by
  rcases h.front_cases hf with ⟨behind, hw, -⟩ | ⟨-, hlt, bytes, more, link₂, rfl, hr', ha⟩
  · rw [hi] at hw
    cases hw
  · rw [hr] at hr'
    cases hr'
    exact ⟨hlt, bytes, more, rfl, rfl, ha⟩

end Ahead

/-- `e'` is `e` after it has received these transfers, some bytes of which may be used. -/
def Advanced (e : Engine τ) (used : List Bytes) (e' : Engine τ) : Prop :=
  Delivers e.packetLimit e.link used e'.link ∧ e' = { e with link := e'.link, received := e'.received }

omit [Transport τ] in
theorem length_dropLast_cons_lt {received bytes : Bytes} {used : List Bytes} {n : Nat} (h : received.length < n)
    (hu : used ≠ [] → (received ++ bytes ++ used.dropLast.flatten).length < n) :
    (received ++ (bytes :: used).dropLast.flatten).length < n := by
  cases used with
  | nil => rwa [show [bytes].dropLast = [] from rfl, List.flatten_nil, List.append_nil]
  | cons first more =>
    rw [List.dropLast_cons_of_ne_nil (List.cons_ne_nil first more), List.flatten_cons, ← List.append_assoc]
    exact hu (List.cons_ne_nil first more)

/-- Takes the frame off the front of the stream ahead, and receives no more transfers than that takes. -/
theorem awaitContainer_of_ahead {frame rest : Bytes} {link' : τ} (hf : IsFrame frame) (empties : Nat)
    (e : Engine τ) :
    ∀ {transfers : List Bytes}, Ahead e transfers (frame ++ rest) link' →
      Flowing (List.replicate empties [] ++ transfers) →
      ∃ used left e', awaitContainer empties e = (Container.decode frame, e') ∧ used ++ left = transfers ∧
        Advanced e used e' ∧ Ahead e' left rest link' ∧
        (used ≠ [] → (e.received ++ used.dropLast.flatten).length < frame.length) := by
  fun_induction awaitContainer empties e with
  | case1 empties e declared hfront =>
    intro transfers ha _
    exact absurd hfront (ha.not_broken hf declared)
  | case2 empties e frame' behind hfront =>
    intro transfers ha _
    obtain ⟨rfl, ha'⟩ := ha.of_whole hf hfront
    exact ⟨[], transfers, _, rfl, rfl, ⟨.nil _, rfl⟩, ha', fun hne => absurd rfl hne⟩
  | case3 empties e hfront error link hr =>
    intro transfers ha _
    obtain ⟨-, bytes, more, hok, -⟩ := ha.of_incomplete hf hfront hr
    cases hok
  | case4 empties e hfront link hr hn =>
    intro transfers ha hflow
    obtain ⟨-, bytes, more, hok, rfl, -⟩ := ha.of_incomplete hf hfront hr
    cases hok
    exact absurd hflow.lt_of_empties (Nat.not_lt.mpr hn)
  | case5 empties e hfront link hr hn ih =>
    intro transfers ha hflow
    obtain ⟨hlt, bytes, more, hok, rfl, ha'⟩ := ha.of_incomplete hf hfront hr
    cases hok
    rw [List.append_nil] at ha'
    rw [replicate_append_cons] at hflow
    obtain ⟨used, left, e', heq, hsplit, ⟨hd, hu⟩, hleft, hmin⟩ := ih ha' hflow
    refine ⟨[] :: used, left, e', heq, congrArg ([] :: ·) hsplit, ⟨.next hr hd, hu⟩, hleft, fun _ => ?_⟩
    exact length_dropLast_cons_lt hlt (by rwa [List.append_nil])
  | case6 empties e hfront b bs link hr ih =>
    intro transfers ha hflow
    obtain ⟨hlt, bytes, more, hok, rfl, ha'⟩ := ha.of_incomplete hf hfront hr
    cases hok
    have hmore : Flowing (List.replicate 0 [] ++ more) :=
      hflow.of_suffix ⟨List.replicate empties [] ++ [b :: bs], by simp⟩
    obtain ⟨used, left, e', heq, hsplit, ⟨hd, hu⟩, hleft, hmin⟩ := ih ha' hmore
    refine ⟨(b :: bs) :: used, left, e', heq, congrArg ((b :: bs) :: ·) hsplit, ⟨.next hr hd, hu⟩, hleft,
      fun _ => ?_⟩
    exact length_dropLast_cons_lt hlt hmin

theorem nextContainer_of_ahead {e : Engine τ} {transfers : List Bytes} {frame rest : Bytes} {link' : τ}
    (hf : IsFrame frame) (ha : Ahead e transfers (frame ++ rest) link') (hflow : Flowing transfers) :
    ∃ used left e', nextContainer e = (Container.decode frame, e') ∧ used ++ left = transfers ∧
      Advanced e used e' ∧
      Ahead e' left rest link' ∧ (used ≠ [] → (e.received ++ used.dropLast.flatten).length < frame.length) :=
  awaitContainer_of_ahead hf 0 e ha hflow

theorem Advanced.packetLimit {e e' : Engine τ} {used : List Bytes} (h : Advanced e used e') :
    e'.packetLimit = e.packetLimit := by
  rw [h.2]
  rfl

/-! ## A row of empty transfers -/

/-- The first empty transfer too many ends a reading that is not complete. -/
theorem awaitContainer_of_stall {link' : τ} (empties : Nat) (e : Engine τ) :
    ∀ {before : List Bytes}, Delivers e.packetLimit e.link (before ++ [[]]) link' →
      front (e.received ++ before.flatten) = .incomplete → Flowing (List.replicate empties [] ++ before) →
      ¬ Flowing (List.replicate empties [] ++ (before ++ [[]])) →
      awaitContainer empties e =
        (.error (.framing .onlyEmptyTransfers),
          { e with link := link', received := e.received ++ before.flatten }) := by
  fun_induction awaitContainer empties e with
  | case1 empties e declared hfront =>
    intro before _ hi _ _
    rw [front_of_incomplete hi] at hfront
    cases hfront
  | case2 empties e frame behind hfront =>
    intro before _ hi _ _
    rw [front_of_incomplete hi] at hfront
    cases hfront
  | case3 empties e hfront error link hr =>
    intro before hd _ _ _
    cases before <;> cases (hd.uncons hr).1
  | case4 empties e hfront link hr hn =>
    intro before hd _ hflow _
    cases before with
    | nil =>
      cases (hd.uncons hr).2
      rw [List.flatten_nil, List.append_nil]
    | cons bytes more =>
      cases (hd.uncons hr).1
      exact absurd hflow.lt_of_empties (Nat.not_lt.mpr hn)
  | case5 empties e hfront link hr hn ih =>
    intro before hd hi hflow hstall
    cases before with
    | nil =>
      have hfew : empties < 4 := Nat.lt_of_not_le hn
      refine absurd (flowing_of_length_le ?_) hstall
      simp only [List.nil_append, List.length_append, List.length_replicate, List.length_singleton]
      omega
    | cons bytes more =>
      obtain ⟨hok, hmore⟩ := hd.uncons hr
      cases hok
      rw [replicate_append_cons] at hflow
      rw [List.cons_append, replicate_append_cons] at hstall
      exact @ih more hmore hi hflow hstall
  | case6 empties e hfront b bs link hr ih =>
    intro before hd hi hflow hstall
    cases before with
    | nil => cases (hd.uncons hr).1
    | cons bytes more =>
      obtain ⟨hok, hmore⟩ := hd.uncons hr
      cases hok
      -- the count starts again behind a transfer with something in it
      have hne : b :: bs ≠ [] := List.cons_ne_nil b bs
      obtain ⟨hbefore, hafter⟩ := (flowing_append_cons hne).mp hflow
      have hstall' : ¬ Flowing (more ++ [[]]) := fun h => hstall ((flowing_append_cons hne).mpr ⟨hbefore, h⟩)
      rw [List.flatten_cons, ← List.append_assoc] at hi ⊢
      exact ih hmore hi hafter hstall'

/-- When nothing but empty transfers and failures come behind the first `n` receives, a reading ends before they
are more than are passed over. -/
theorem receives_awaitContainer {link' : τ} (empties : Nat) (e : Engine τ) :
    ∀ {n : Nat} {rs : List (Except TransportError Bytes)}, Receives e.packetLimit e.link rs link' →
      (∀ r ∈ rs.drop n, r = .ok [] ∨ ∃ error, r = .error error) →
      n + 5 ≤ rs.length + (if n = 0 then empties else 0) → empties ≤ 4 →
      ∃ used, used <+: rs ∧ Receives e.packetLimit e.link used (awaitContainer empties e).2.link := by
  fun_induction awaitContainer empties e with
  | case1 => exact fun _ _ _ _ => ⟨[], List.nil_prefix, .none _⟩
  | case2 => exact fun _ _ _ _ => ⟨[], List.nil_prefix, .none _⟩
  | case3 empties e hfront error link hr =>
    intro n rs hrs _ hn he
    cases rs with
    | nil => split at hn <;> simp only [List.length_nil] at hn <;> omega
    | cons r more =>
      cases (hrs.uncons hr).1
      exact ⟨[.error error], ⟨more, rfl⟩, .next hr (.none _)⟩
  | case4 empties e hfront link hr hlimit =>
    intro n rs hrs _ hn he
    cases rs with
    | nil => split at hn <;> simp only [List.length_nil] at hn <;> omega
    | cons r more =>
      cases (hrs.uncons hr).1
      exact ⟨[.ok []], ⟨more, rfl⟩, .next hr (.none _)⟩
  | case5 empties e hfront link hr hlimit ih =>
    intro n rs hrs htail hn he
    have hfew : empties < 4 := Nat.lt_of_not_le hlimit
    cases rs with
    | nil => split at hn <;> simp only [List.length_nil] at hn <;> omega
    | cons r more =>
      obtain ⟨rfl, hmore⟩ := hrs.uncons hr
      have hrest : ∃ used, used <+: more ∧
          Receives e.packetLimit link used (awaitContainer (empties + 1) { e with link }).2.link := by
        cases n with
        | zero =>
          rw [if_pos rfl, List.length_cons] at hn
          refine @ih 0 more hmore (fun r hr => htail r (List.mem_cons_of_mem _ hr)) ?_ (by omega)
          rw [if_pos rfl]
          omega
        | succ n =>
          rw [if_neg (Nat.succ_ne_zero n), List.length_cons] at hn
          exact @ih n more hmore htail (by omega) (by omega)
      obtain ⟨used, ⟨left, rfl⟩, hused⟩ := hrest
      exact ⟨.ok [] :: used, ⟨left, rfl⟩, .next hr hused⟩
  | case6 empties e hfront b bs link hr ih =>
    intro n rs hrs htail hn he
    cases rs with
    | nil => split at hn <;> simp only [List.length_nil] at hn <;> omega
    | cons r more =>
      obtain ⟨rfl, hmore⟩ := hrs.uncons hr
      cases n with
      | zero =>
        -- a transfer with something in it is neither empty nor a failure
        rcases htail _ List.mem_cons_self with h | ⟨error, h⟩ <;> cases h
      | succ n =>
        rw [if_neg (Nat.succ_ne_zero n), List.length_cons] at hn
        obtain ⟨used, ⟨left, rfl⟩, hused⟩ := @ih n more hmore htail (by omega) (Nat.zero_le _)
        exact ⟨.ok (b :: bs) :: used, ⟨left, rfl⟩, .next hr hused⟩

/-! ## All containers of a stream -/

/-- So many containers, one after the other. -/
def nextContainers : Nat → Action (Engine τ) PtpError (List Container)
  | 0 => pure []
  | n + 1 => do
    let c ← nextContainer
    let cs ← nextContainers n
    return c :: cs

theorem nextContainers_of_ahead {link' : τ} (k : Nat) :
    ∀ {cs : List Container} {e : Engine τ} {transfers : List Bytes}, (∀ c ∈ cs, c.Recognised) → k ≤ cs.length →
      Ahead e transfers (wire cs) link' → Flowing transfers →
      ∃ e' left, nextContainers k e = (.ok (cs.take k), e') ∧ left <:+ transfers ∧ e'.packetLimit = e.packetLimit ∧
        Ahead e' left (wire (cs.drop k)) link' := by
  induction k with
  | zero => exact fun _ _ ha _ => ⟨_, _, rfl, List.suffix_refl _, rfl, ha⟩
  | succ k ih =>
    intro cs e transfers hcs hk ha hflow
    cases cs with
    | nil => exact absurd hk (Nat.not_succ_le_zero k)
    | cons c cs =>
      obtain ⟨hc, hcs⟩ := List.forall_mem_cons.mp hcs
      obtain ⟨frame, hf, hdecode, hwire⟩ := hc.exists_frame
      rw [hwire] at ha
      obtain ⟨used, left, e₁, heq, rfl, hadv, ha₁, -⟩ := nextContainer_of_ahead hf ha hflow
      have hleft : left <:+ used ++ left := List.suffix_append used left
      obtain ⟨e', left', heq', hsuffix, hlimit, ha'⟩ :=
        ih hcs (Nat.le_of_succ_le_succ hk) ha₁ (hflow.of_suffix hleft)
      refine ⟨e', left', ?_, hsuffix.trans hleft, hlimit.trans hadv.packetLimit, ha'⟩
      rw [nextContainers, Action.bind_apply, heq, hdecode]
      dsimp only
      rw [Action.bind_apply, heq']
      rfl

/-- From an engine that has received nothing yet, the containers of a stream are read in order, wherever it was
cut into transfers, and what was received and the transfers still to come are the containers not read yet.  A
container is given up with the first empty transfer beyond those that are passed over.  So a reading ends when
nothing but empty transfers and failures come any more. -/
theorem nextContainers_reassemble (e : Engine τ) :
    (e.received = [] → ∀ {cs : List Container} {transfers : List Bytes} {link' : τ}, (∀ c ∈ cs, c.Recognised) →
      Delivers e.packetLimit e.link transfers link' → transfers.flatten = wire cs → Flowing transfers →
      ∀ k ≤ cs.length, ∃ e' left, nextContainers k e = (.ok (cs.take k), e') ∧ left <:+ transfers ∧
        Delivers e.packetLimit e'.link left link' ∧ e'.received ++ left.flatten = wire (cs.drop k)) ∧
    (∀ {before : List Bytes} {link' : τ}, Delivers e.packetLimit e.link (before ++ [[]]) link' →
      front (e.received ++ before.flatten) = .incomplete → Flowing before → ¬ Flowing (before ++ [[]]) →
      nextContainer e =
        (.error (.framing .onlyEmptyTransfers),
          { e with link := link', received := e.received ++ before.flatten })) ∧
    (∀ {n : Nat} {rs : List (Except TransportError Bytes)} {link' : τ}, Receives e.packetLimit e.link rs link' →
      (∀ r ∈ rs.drop n, r = .ok [] ∨ ∃ error, r = .error error) → n + 5 ≤ rs.length →
      ∃ used, used <+: rs ∧ Receives e.packetLimit e.link used (nextContainer e).2.link) := by
  refine ⟨fun he cs transfers link' hcs hd hcut hflow k hk => ?_, fun hd hi hflow hstall => ?_,
    fun hrs htail hn => ?_⟩
  · have ha : Ahead e transfers (wire cs) link' := ⟨hd, by rw [he, hcut, List.nil_append]⟩
    obtain ⟨e', left, heq, hsuffix, hlimit, hd', hs'⟩ := nextContainers_of_ahead k hcs hk ha hflow
    exact ⟨e', left, heq, hsuffix, hlimit ▸ hd', hs'⟩
  · exact awaitContainer_of_stall 0 e hd hi hflow hstall
  · exact receives_awaitContainer 0 e hrs htail (by split <;> omega) (Nat.zero_le _)

/-- An engine at a camera that has these transfers for it. -/
def overhearing (inbound : List Bytes) : Engine Camera :=
  { link := { Camera.bare idle.clock with inbound }, clock := idle.clock, maxPacket := 16 }

/-- Data and a response, cut inside both headers, with four empty transfers in the first. -/
def scattered : List Bytes :=
  [[15, 0, 0], [], [], [], [], [0, 2, 0, 1, 16, 7, 0, 0, 0, 1, 2], [3, 16, 0, 0, 0, 3],
    [0, 1, 32, 7, 0, 0, 0, 5, 0, 0, 0]]

/-- The beginning of a header and five empty transfers. -/
def stalled : List Bytes :=
  [[15, 0, 0], [], [], [], [], []]

theorem nextContainers_reassemble_scattered :
    (∃ (e' : Engine Camera) (left : List Bytes),
      nextContainers 2 (overhearing scattered) = (.ok [.data 0x1001 7 [1, 2, 3], .response 0x2001 7 [5]], e') ∧
        e'.received ++ left.flatten = []) ∧
    (nextContainer (overhearing stalled)).1 = .error (.framing .onlyEmptyTransfers) ∧
    ∃ used, used <+: stalled.map .ok ∧
      Receives 16 (overhearing stalled).link used (nextContainer (overhearing stalled)).2.link := by
  have hcs : ∀ c ∈ [Container.data 0x1001 7 [1, 2, 3], .response 0x2001 7 [5]], c.Recognised := by
    intro c hc
    rcases List.mem_pair.mp hc with rfl | rfl
    · exact ⟨_, rfl, by decide +kernel⟩
    · exact ⟨_, rfl, by decide +kernel⟩
  have hscattered : Delivers 16 (overhearing scattered).link scattered _ :=
    Camera.delivers_of_le scattered rfl rfl (by decide)
  have hstalled : Delivers 16 (overhearing stalled).link (stalled.dropLast ++ [[]]) _ :=
    Camera.delivers_of_le stalled rfl rfl (by decide)
  obtain ⟨e', left, heq, -, -, hrest⟩ :=
    (nextContainers_reassemble (overhearing scattered)).1 rfl hcs hscattered (by decide +kernel)
      (by decide) 2 (by decide)
  refine ⟨⟨e', left, heq, hrest⟩, ?_, ?_⟩
  · exact congrArg Prod.fst ((nextContainers_reassemble (overhearing stalled)).2.1 hstalled
      (by decide +kernel) (by decide)
      (by decide))
  · exact (nextContainers_reassemble (overhearing stalled)).2.2 (n := 1) hstalled (by simp [stalled]) (by decide)

end Engine

end Tether
