import Mathlib.Data.List.Basic
import Tether.Proofs.Exchange.Outcome
import Tether.Proofs.Exchange.Reassembly

/-!
# Tether.Proofs.Exchange.Answered — an answer is taken off the front of a stream

When data of a transaction are ahead of an engine, an exchange gathers them and goes on (`collect_of_datas`).
The frame of something else behind them is as far as it reads (`collect_of_ahead`).  When nothing but a few empty
transfers come, it ends with the failure behind them (`collect_of_silence`).
-/

namespace Tether

open Ptp

variable {τ : Type} [Transport τ]

theorem Delivers.append {limit : Nat} {link link₁ link' : τ} {before after : List Bytes}
    (h : Delivers limit link before link₁) (h' : Delivers limit link₁ after link') :
    Delivers limit link (before ++ after) link' := by
  induction before generalizing link with
  | nil =>
    cases h
    exact h'
  | cons bytes before ih =>
    obtain ⟨link₂, hr, hmore⟩ := delivers_cons.mp h
    exact .next hr (ih hmore)

namespace Engine

theorem Advanced.trans {e e₁ e' : Engine τ} {before after : List Bytes} (h : Advanced e before e₁)
    (h' : Advanced e₁ after e') : Advanced e (before ++ after) e' := by
  have hlimit := h.packetLimit
  obtain ⟨hd, he⟩ := h
  obtain ⟨hd', he'⟩ := h'
  rw [hlimit] at hd'
  refine ⟨hd.append hd', ?_⟩
  rw [he', he]

/-! ## One container -/

variable {operation : Operation} {transaction : UInt32} {data : Option Bytes} {e e' : Engine τ}

theorem collect_of_error {error : PtpError} (h : nextContainer e = (.error error, e')) :
    collect operation transaction data e = (.error error, e') := by
  rw [collect]
  split
  · rename_i h'
    rw [h] at h'
    cases h'
    rfl
  · rename_i h'
    rw [h] at h'
    cases h'

/-- Data of the transaction are put behind those before them. -/
theorem collect_of_carries {c : Container} (h : nextContainer e = (.ok c, e')) (hc : c.Carries transaction) :
    collect operation transaction data e = collect operation transaction (extendData data c.payload) e' := by
  obtain ⟨hkind, htransaction⟩ := hc
  rw [collect]
  split
  · rename_i h'
    rw [h] at h'
    cases h'
  · rename_i h'
    rw [h] at h'
    cases h'
    rw [if_neg (fun hne => hne htransaction), hkind]

/-- Anything else ends the exchange. -/
theorem collect_of_not_carries {c : Container} (h : nextContainer e = (.ok c, e')) (hc : ¬ c.Carries transaction) :
    collect operation transaction data e = (verdict operation transaction data c, e') := by
  rw [collect]
  split
  · rename_i h'
    rw [h] at h'
    cases h'
  · rename_i h'
    rw [h] at h'
    cases h'
    unfold verdict
    split
    · rfl
    · rename_i ht
      have hdata : c.kind ≠ .data := fun hk => hc ⟨hk, by simpa using ht⟩
      cases hk : c.kind <;> simp_all

/-! ## The whole answer -/

/-- Data of the transaction are gathered, and the exchange goes on with what is behind them. -/
theorem collect_of_datas {rest : Bytes} {link' : τ} (operation : Operation) {datas : List Container} :
    ∀ (data : Option Bytes) {e : Engine τ} {transfers : List Bytes},
      (∀ d ∈ datas, d.Recognised ∧ d.Carries transaction) → Ahead e transfers (wire datas ++ rest) link' →
      Flowing transfers →
      ∃ used left e', collect operation transaction data e = collect operation transaction (gather data datas) e' ∧
        used ++ left = transfers ∧ Advanced e used e' ∧ Ahead e' left rest link' := by
  induction datas with
  | nil => exact fun data e transfers _ ha _ => ⟨[], transfers, e, rfl, rfl, ⟨.nil _, rfl⟩, ha⟩
  | cons d datas ih =>
    -- the data so far are general: each container is put behind them before the rest is gathered
    intro data e transfers hdatas ha hflow
    obtain ⟨⟨hd, hcarries⟩, hdatas⟩ := List.forall_mem_cons.mp hdatas
    obtain ⟨frame, hf, hdecode, hwire⟩ := hd.exists_frame
    rw [hwire, List.append_assoc] at ha
    obtain ⟨used₁, left₁, e₁, heq, rfl, hadv, ha₁, -⟩ := nextContainer_of_ahead hf ha hflow
    rw [hdecode] at heq
    have hleft : Flowing left₁ := hflow.of_suffix (List.suffix_append used₁ left₁)
    obtain ⟨used, left, e', heq', rfl, hadv', ha'⟩ := ih (extendData data d.payload) hdatas ha₁ hleft
    refine ⟨used₁ ++ used, left, e', ?_, List.append_assoc _ _ _, hadv.trans hadv', ha'⟩
    rw [collect_of_carries heq hcarries]
    exact heq'

section Frame

variable {frame rest : Bytes} {link' : τ} {transfers : List Bytes} (hf : IsFrame frame)
  (hc : ∀ c, Container.decode frame = .ok c → ¬ c.Carries transaction)
include hf hc

/-- The frame of something else is as far as an exchange reads. -/
theorem collect_of_frame (operation : Operation) (data : Option Bytes)
    (ha : Ahead e transfers (frame ++ rest) link') (hflow : Flowing transfers) :
    ∃ used left e', collect operation transaction data e =
        (Container.decode frame >>= verdict operation transaction data, e') ∧
      used ++ left = transfers ∧ Advanced e used e' ∧ Ahead e' left rest link' ∧
      (used ≠ [] → (e.received ++ used.dropLast.flatten).length < frame.length) := by
  obtain ⟨used, left, e', heq, hrest⟩ := nextContainer_of_ahead hf ha hflow
  refine ⟨used, left, e', ?_, hrest⟩
  cases hd : Container.decode frame with
  | error error =>
    rw [hd] at heq
    exact collect_of_error heq
  | ok c =>
    rw [hd] at heq
    exact collect_of_not_carries heq (hc c hd)

/-- Data of the transaction, and behind them the frame of something else. -/
theorem collect_of_ahead (operation : Operation) {datas : List Container} (data : Option Bytes)
    (hdatas : ∀ d ∈ datas, d.Recognised ∧ d.Carries transaction)
    (ha : Ahead e transfers (wire datas ++ (frame ++ rest)) link') (hflow : Flowing transfers) :
    ∃ used left e', collect operation transaction data e =
        (Container.decode frame >>= verdict operation transaction (gather data datas), e') ∧
      used ++ left = transfers ∧ Advanced e used e' ∧ Ahead e' left rest link' := by
  obtain ⟨used₁, left₁, e₁, heq₁, rfl, hadv₁, ha₁⟩ := collect_of_datas operation data hdatas ha hflow
  have hflow₁ : Flowing left₁ := hflow.of_suffix (List.suffix_append used₁ left₁)
  obtain ⟨used, left, e', heq, rfl, hadv, ha', -⟩ :=
    collect_of_frame hf hc operation (gather data datas) ha₁ hflow₁
  exact ⟨used₁ ++ used, left, e', heq₁.trans heq, List.append_assoc _ _ _, hadv₁.trans hadv, ha'⟩

end Frame

/-- With nothing received before, all that an engine takes off the front of a stream comes from the transfers it
uses. -/
theorem Ahead.length_le_used {transfers used left : List Bytes} {taken rest : Bytes} {link' : τ}
    (ha : Ahead e transfers (taken ++ rest) link') (he : e.received = []) (hsplit : used ++ left = transfers)
    (ha' : Ahead e' left rest link') :
    taken.length ≤ used.flatten.length := by
  have h := congrArg List.length ha.stream_eq
  have h' := congrArg List.length ha'.stream_eq
  rw [he, ← hsplit, List.flatten_append] at h
  simp only [List.length_append, List.length_nil] at h h'
  omega

/-! ## No answer -/

/-- Empty transfers, not too many, are passed over; the failure behind them is that of the reading. -/
theorem awaitContainer_of_silence {link₁ link' : τ} {error : TransportError} (empties : Nat) (e : Engine τ) :
    ∀ {n : Nat}, front e.received = .incomplete → Delivers e.packetLimit e.link (List.replicate n []) link₁ →
      Transport.receive e.packetLimit link₁ = (.error error, link') → empties + n ≤ 4 →
      awaitContainer empties e = (.error (.transport error), { e with link := link' }) := by
  fun_induction awaitContainer empties e with
  | case1 empties e declared hfront =>
    intro n hi
    rw [hfront] at hi
    cases hi
  | case2 empties e frame rest hfront =>
    intro n hi
    rw [hfront] at hi
    cases hi
  | case3 empties e hfront error' link hr =>
    intro n _ hd hr' _
    cases n with
    | zero =>
      cases hd
      rw [hr] at hr'
      cases hr'
      rfl
    | succ n => cases (hd.uncons hr).1
  | case4 empties e hfront link hr hn =>
    intro n _ hd hr' hle
    have hn : 4 ≤ empties := hn
    -- four were passed over already, so none is left
    have hzero : n = 0 := by omega
    subst hzero
    cases hd
    rw [hr] at hr'
    cases hr'
  | case5 empties e hfront link hr hn ih =>
    intro n hi hd hr' hle
    cases n with
    | zero =>
      cases hd
      rw [hr] at hr'
      cases hr'
    | succ n =>
      obtain ⟨-, hmore⟩ := hd.uncons hr
      have hle' : empties + 1 + n ≤ 4 := by omega
      exact @ih n hi hmore hr' hle'
  | case6 empties e hfront b bs link hr ih =>
    intro n _ hd hr' _
    cases n with
    | zero =>
      cases hd
      rw [hr] at hr'
      cases hr'
    | succ n => cases (hd.uncons hr).1

theorem collect_of_silence (operation : Operation) (transaction : UInt32) (data : Option Bytes) {link₁ link' : τ}
    {error : TransportError} {transfers : List Bytes} (he : e.received = [])
    (hd : Delivers e.packetLimit e.link transfers link₁) (hempty : transfers.flatten = [])
    (hflow : Flowing transfers) (hr : Transport.receive e.packetLimit link₁ = (.error error, link')) :
    collect operation transaction data e = (.error (.transport error), { e with link := link' }) := by
  obtain ⟨n, rfl⟩ : ∃ n, transfers = List.replicate n [] :=
    ⟨_, List.eq_replicate_of_mem (List.flatten_eq_nil_iff.mp hempty)⟩
  have hn : n ≤ 4 := by
    cases n with
    | zero => exact Nat.zero_le 4
    | succ n =>
      rw [List.replicate_succ'] at hflow
      exact hflow.lt_of_empties
  have hi : front e.received = .incomplete := by
    rw [he]
    rfl
  exact collect_of_error (awaitContainer_of_silence 0 e hi hd hr (by omega))

end Engine

end Tether
