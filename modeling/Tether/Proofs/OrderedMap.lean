import Mathlib.Data.List.Nodup
import Mathlib.Data.Prod.Basic
import Tether.OrderedMap

/-!
# Tether.Proofs.OrderedMap — entries, keys and values of ordered maps

A map is determined by `get?`: its entries are the pairs that `get?` tells (`mem_entries_iff`), each once.  So
maps that tell the same but at one key have the same other entries (`entries_perm`), and maps that are inverse to
each other have the keys of one as the values of the other (`values_perm_keys`).
-/

namespace Tether.OrderedMap

variable {κ α : Type} [Ranked κ]

open Ranked (rank)

/-! ## Entries -/

/-- A pair is an entry exactly when `get?` tells its value at its key. -/
theorem mem_entries_iff {m : OrderedMap κ α} {k : κ} {a : α} : (k, a) ∈ m.entries ↔ m.get? k = some a := by
  obtain ⟨es, hs⟩ := m
  unfold get?
  constructor
  · intro h
    induction es with
    | nil => simp at h
    | cons e es ih =>
      obtain ⟨he, hes⟩ := List.pairwise_cons.mp hs
      rcases List.mem_cons.mp h with rfl | h
      · simp
      · have hlt : rank e.1 < rank k := he _ h
        rw [List.find?_cons_of_neg (by simpa using Nat.ne_of_lt hlt)]
        exact ih hes h
  · intro h
    obtain ⟨⟨k', a'⟩, hf, rfl⟩ := Option.map_eq_some_iff.mp h
    have hk : k' = k := Ranked.eq_of_rank_eq (by simpa using List.find?_some hf)
    subst hk
    exact List.mem_of_find?_eq_some hf

theorem nodup_entries (m : OrderedMap κ α) : m.entries.Nodup :=
  m.sorted.imp fun {a b} h hab => by
    subst hab
    exact Nat.lt_irrefl _ h

theorem nodup_keys (m : OrderedMap κ α) : m.keys.Nodup :=
  List.pairwise_map.mpr (m.sorted.imp fun {a b} h hab => by
    rw [hab] at h
    exact Nat.lt_irrefl _ h)

theorem mem_keys_iff {m : OrderedMap κ α} {k : κ} : k ∈ m.keys ↔ ∃ a, m.get? k = some a := by
  unfold keys
  constructor
  · intro h
    obtain ⟨⟨k', a⟩, he, rfl⟩ := List.mem_map.mp h
    exact ⟨a, mem_entries_iff.mp he⟩
  · rintro ⟨a, h⟩
    exact List.mem_map.mpr ⟨(k, a), mem_entries_iff.mpr h, rfl⟩

theorem mem_values_iff {m : OrderedMap κ α} {a : α} : a ∈ m.values ↔ ∃ k, m.get? k = some a := by
  unfold values
  constructor
  · intro h
    obtain ⟨⟨k, a'⟩, he, rfl⟩ := List.mem_map.mp h
    exact ⟨k, mem_entries_iff.mp he⟩
  · rintro ⟨k, h⟩
    exact List.mem_map.mpr ⟨(k, a), mem_entries_iff.mpr h, rfl⟩

theorem contains_iff {m : OrderedMap κ α} {k : κ} : m.contains k = true ↔ ∃ a, m.get? k = some a := by
  rw [contains_eq_isSome, Option.isSome_iff_exists]

theorem contains_eq_false_iff {m : OrderedMap κ α} {k : κ} : m.contains k = false ↔ m.get? k = none := by
  rw [contains_eq_isSome, Option.isSome_eq_false_iff, Option.isNone_iff_eq_none]

theorem get?_erase [DecidableEq κ] (m : OrderedMap κ α) (k k' : κ) :
    (m.erase k).get? k' = if k' = k then none else m.get? k' := by
  split
  · rename_i h
    rw [h, get?_erase_self]
  · rename_i h
    exact get?_erase_of_ne m (Ne.symm h)

theorem get?_insert [DecidableEq κ] (m : OrderedMap κ α) (k k' : κ) (a : α) :
    (m.insert k a).get? k' = if k' = k then some a else m.get? k' := by
  split
  · rename_i h
    rw [h, get?_insert_self]
  · rename_i h
    exact get?_insert_of_ne m a (Ne.symm h)

theorem get?_filter (m : OrderedMap κ α) (p : κ → α → Bool) (k : κ) :
    (m.filter p).get? k = (m.get? k).filter (p k) := by
  refine Option.ext fun a => ?_
  rw [← mem_entries_iff, Option.filter_eq_some_iff, ← mem_entries_iff]
  exact List.mem_filter

theorem get?_adjust [DecidableEq κ] (m : OrderedMap κ α) (k k' : κ) (f : α → α) :
    (m.adjust k f).get? k' = if k' = k then (m.get? k').map f else m.get? k' := by
  split
  · rename_i h
    rw [h, get?_adjust_self]
  · rename_i h
    exact get?_adjust_of_ne m f (Ne.symm h)

/-- Maps that tell the same are equal. -/
theorem eq_of_get? {m m' : OrderedMap κ α} (h : ∀ k, m'.get? k = m.get? k) : m' = m := by
  have hperm : m'.entries.Perm m.entries := by
    refine (List.perm_ext_iff_of_nodup m'.nodup_entries m.nodup_entries).mpr fun ⟨k, a⟩ => ?_
    rw [mem_entries_iff, mem_entries_iff, h]
  -- two entries that are each before the other there cannot be
  refine OrderedMap.ext (hperm.eq_of_pairwise (fun a b _ _ hab hba => ?_) m'.sorted m.sorted)
  exact absurd (Nat.lt_trans hab hba) (Nat.lt_irrefl _)

/-! ## Maps that differ at one key -/

/-- A map that tells at `k` the value `a`, and elsewhere what `m` tells, has the entry `(k, a)` and those of `m`
at other keys. -/
theorem entries_perm {m m' : OrderedMap κ α} {k : κ} {a : α} (hk : m'.get? k = some a)
    (hne : ∀ k', k' ≠ k → m'.get? k' = m.get? k') : m'.entries.Perm ((k, a) :: (m.erase k).entries) := by
  have hnot : (k, a) ∉ (m.erase k).entries := by
    rw [mem_entries_iff, get?_erase_self]
    simp
  refine (List.perm_ext_iff_of_nodup m'.nodup_entries
    (List.nodup_cons.mpr ⟨hnot, (m.erase k).nodup_entries⟩)).mpr fun ⟨k', a'⟩ => ?_
  rw [mem_entries_iff, List.mem_cons, mem_entries_iff]
  by_cases h : k' = k
  · subst h
    rw [hk, get?_erase_self]
    simp [eq_comm]
  · rw [hne k' h, get?_erase_of_ne m (Ne.symm h)]
    simp [h]

/-- Maps that tell values at the same keys but `k` have the same other keys. -/
theorem erase_keys_perm {m m' : OrderedMap κ α} {k : κ}
    (h : ∀ k', k' ≠ k → ((m'.get? k').isSome ↔ (m.get? k').isSome)) :
    (m'.erase k).keys.Perm (m.erase k).keys := by
  refine (List.perm_ext_iff_of_nodup (nodup_keys _) (nodup_keys _)).mpr fun k' => ?_
  rw [mem_keys_iff, mem_keys_iff, ← Option.isSome_iff_exists, ← Option.isSome_iff_exists]
  by_cases hk : k' = k
  · subst hk
    rw [get?_erase_self, get?_erase_self]
  · rw [get?_erase_of_ne _ (Ne.symm hk), get?_erase_of_ne _ (Ne.symm hk)]
    exact h k' hk

theorem keys_perm {m : OrderedMap κ α} {k : κ} {a : α} (hk : m.get? k = some a) :
    m.keys.Perm (k :: (m.erase k).keys) :=
  (entries_perm hk fun _ _ => rfl).map Prod.fst

/-- Nothing is erased where nothing is. -/
theorem erase_of_get?_eq_none {m : OrderedMap κ α} {k : κ} (h : m.get? k = none) : m.erase k = m := by
  refine OrderedMap.ext ?_
  unfold erase filter
  refine List.filter_eq_self.mpr fun ⟨k', a⟩ he => ?_
  have hne : k' ≠ k := by
    rintro rfl
    rw [mem_entries_iff.mp he] at h
    cases h
  simpa using rank_ne hne

/-! ## Maps that are inverse to each other -/

section Inverse

variable {β : Type} [Ranked β] {m : OrderedMap κ β} {m' : OrderedMap β κ}

theorem swap_entries_perm (h : ∀ k b, m.get? k = some b ↔ m'.get? b = some k) :
    (m.entries.map Prod.swap).Perm m'.entries := by
  refine (List.perm_ext_iff_of_nodup (m.nodup_entries.map Prod.swap_injective) m'.nodup_entries).mpr ?_
  rintro ⟨b, k⟩
  rw [mem_entries_iff, ← h k b, ← mem_entries_iff, List.mem_map]
  constructor
  · rintro ⟨⟨k', b'⟩, he, hs⟩
    cases hs
    exact he
  · intro he
    exact ⟨(k, b), he, rfl⟩

theorem values_perm_keys (h : ∀ k b, m.get? k = some b ↔ m'.get? b = some k) : m.values.Perm m'.keys := by
  have hp := (swap_entries_perm h).map Prod.fst
  rwa [List.map_map] at hp

theorem size_eq_of_inverse (h : ∀ k b, m.get? k = some b ↔ m'.get? b = some k) : m.size = m'.size := by
  have hp := (swap_entries_perm h).length_eq
  rwa [List.length_map] at hp

end Inverse

/-! ## The last entry -/

theorem insertEntry_of_lt {k : κ} (a : α) : ∀ {es : List (κ × α)}, (∀ e ∈ es, rank e.1 < rank k) →
    insertEntry k a es = es ++ [(k, a)]
  | [], _ => rfl
  | e :: es, h => by
    have he := h e List.mem_cons_self
    have hrest := insertEntry_of_lt a fun e' hmem => h e' (List.mem_cons_of_mem e hmem)
    rw [insertEntry, if_neg (Nat.lt_asymm he), if_pos he, hrest, List.cons_append]

/-- A value under a key behind all others comes last. -/
theorem values_insert_of_lt {m : OrderedMap κ α} {k : κ}
    (h : ∀ {k' a'}, m.get? k' = some a' → rank k' < rank k) (a : α) :
    (m.insert k a).values = m.values ++ [a] := by
  have hentries : (m.insert k a).entries = m.entries ++ [(k, a)] :=
    insertEntry_of_lt a fun e hmem => h (mem_entries_iff.mp hmem)
  unfold values
  rw [hentries, List.map_append, List.map_singleton]

end Tether.OrderedMap
