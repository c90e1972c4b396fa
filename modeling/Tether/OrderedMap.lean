/-!
# Tether.OrderedMap — finite maps in the order of their keys

A map is the list of its entries in strictly ascending order of their keys, so it can be walked in that order and
two maps with the same entries are equal.  Keys are ordered by a rank, a number that tells any two of them apart.
-/

namespace Tether

/-- Keys with a rank, a natural number that no two keys share. -/
class Ranked (κ : Type) where
  /-- The place of a key in the order. -/
  rank : κ → Nat
  /-- Keys of one rank are equal. -/
  eq_of_rank_eq : ∀ {a b : κ}, rank a = rank b → a = b

instance : Ranked Nat where
  rank n := n
  eq_of_rank_eq h := h

instance : Ranked UInt32 where
  rank := UInt32.toNat
  eq_of_rank_eq h := UInt32.toNat_inj.mp h

open Ranked (rank)

/-- A finite map: its entries in strictly ascending order of their keys. -/
structure OrderedMap (κ α : Type) [Ranked κ] where
  /-- The entries, in order. -/
  entries : List (κ × α)
  /-- Keys ascend strictly. -/
  sorted : entries.Pairwise fun a b => rank a.1 < rank b.1

namespace OrderedMap

variable {κ α : Type} [Ranked κ]

/-- The map without entries. -/
def empty : OrderedMap κ α :=
  ⟨[], .nil⟩

instance : Inhabited (OrderedMap κ α) := ⟨empty⟩

/-- The value at `k`, if there is one. -/
def get? (m : OrderedMap κ α) (k : κ) : Option α :=
  (m.entries.find? fun e => rank e.1 = rank k).map Prod.snd

/-- Whether `k` has a value. -/
def contains (m : OrderedMap κ α) (k : κ) : Bool :=
  m.entries.any fun e => rank e.1 = rank k

/-- Number of entries. -/
def size (m : OrderedMap κ α) : Nat :=
  m.entries.length

/-- The keys, ascending. -/
def keys (m : OrderedMap κ α) : List κ :=
  m.entries.map Prod.fst

/-- The values, in the order of their keys. -/
def values (m : OrderedMap κ α) : List α :=
  m.entries.map Prod.snd

/-- Puts `(k, a)` at its place in a sorted list of entries, in the place of an entry with the same key. -/
def insertEntry (k : κ) (a : α) : List (κ × α) → List (κ × α)
  | [] => [(k, a)]
  | e :: es =>
    if rank k < rank e.1 then (k, a) :: e :: es
    else if rank e.1 < rank k then e :: insertEntry k a es
    else (k, a) :: es

theorem mem_insertEntry {k : κ} {a : α} {x : κ × α} :
    ∀ {es : List (κ × α)}, x ∈ insertEntry k a es → x = (k, a) ∨ x ∈ es
  | [], h => by simpa [insertEntry] using h
  | e :: es, h => by
    unfold insertEntry at h
    split at h
    · simpa using h
    · split at h
      · rcases List.mem_cons.mp h with rfl | h
        · exact .inr List.mem_cons_self
        · rcases mem_insertEntry h with h | h
          · exact .inl h
          · exact .inr (List.mem_cons_of_mem _ h)
      · rcases List.mem_cons.mp h with rfl | h
        · exact .inl rfl
        · exact .inr (List.mem_cons_of_mem _ h)

theorem pairwise_insertEntry (k : κ) (a : α) :
    ∀ {es : List (κ × α)}, (es.Pairwise fun a b => rank a.1 < rank b.1) →
      (insertEntry k a es).Pairwise fun a b => rank a.1 < rank b.1
  | [], _ => by simp [insertEntry]
  | e :: es, h => by
    obtain ⟨he, hes⟩ := List.pairwise_cons.mp h
    unfold insertEntry
    split
    · rename_i hk
      refine List.pairwise_cons.mpr ⟨fun x hx => ?_, h⟩
      rcases List.mem_cons.mp hx with rfl | hx
      · exact hk
      · exact Nat.lt_trans hk (he x hx)
    · split
      · rename_i hk
        refine List.pairwise_cons.mpr ⟨fun x hx => ?_, pairwise_insertEntry k a hes⟩
        rcases mem_insertEntry hx with rfl | hx
        · exact hk
        · exact he x hx
      · rename_i h₁ h₂
        have hk : rank e.1 = rank k := Nat.le_antisymm (Nat.le_of_not_lt h₁) (Nat.le_of_not_lt h₂)
        exact List.pairwise_cons.mpr ⟨fun x hx => hk ▸ he x hx, hes⟩

/-- Gives `k` the value `a`, in the place of the one it had. -/
def insert (m : OrderedMap κ α) (k : κ) (a : α) : OrderedMap κ α :=
  ⟨insertEntry k a m.entries, pairwise_insertEntry k a m.sorted⟩

/-- Keeps the entries for which `p` holds. -/
def filter (m : OrderedMap κ α) (p : κ → α → Bool) : OrderedMap κ α :=
  ⟨m.entries.filter fun e => p e.1 e.2, m.sorted.filter _⟩

/-- Takes the entry at `k` out. -/
def erase (m : OrderedMap κ α) (k : κ) : OrderedMap κ α :=
  m.filter fun k' _ => rank k' ≠ rank k

/-- Changes the value at `k` by `f`, if there is one. -/
def adjust (m : OrderedMap κ α) (k : κ) (f : α → α) : OrderedMap κ α where
  entries := m.entries.map fun e => if rank e.1 = rank k then (e.1, f e.2) else e
  sorted := by
    refine List.pairwise_map.mpr (m.sorted.imp fun {a b} h => ?_)
    by_cases ha : rank a.1 = rank k <;> by_cases hb : rank b.1 = rank k <;> simp_all

theorem rank_ne {a b : κ} (h : a ≠ b) : rank a ≠ rank b :=
  fun hr => h (Ranked.eq_of_rank_eq hr)

/-- A key has a value exactly when it is contained. -/
theorem contains_eq_isSome (m : OrderedMap κ α) (k : κ) : m.contains k = (m.get? k).isSome := by
  unfold contains get?
  generalize m.entries = es
  induction es with
  | nil => rfl
  | cons e es ih => by_cases h : rank e.1 = rank k <;> simp_all

theorem find?_insertEntry_self (k : κ) (a : α) (es : List (κ × α)) :
    (insertEntry k a es).find? (fun e => rank e.1 = rank k) = some (k, a) := by
  induction es with
  | nil => simp [insertEntry]
  | cons e es ih =>
    unfold insertEntry
    split
    · simp
    · split
      · rename_i h
        rw [List.find?_cons_of_neg, ih]
        simpa using Nat.ne_of_lt h
      · simp

theorem find?_insertEntry_of_ne {k k' : κ} (a : α) (h : rank k ≠ rank k') (es : List (κ × α)) :
    (insertEntry k a es).find? (fun e => rank e.1 = rank k') = es.find? fun e => rank e.1 = rank k' := by
  induction es with
  | nil => simp [insertEntry, h]
  | cons e es ih =>
    unfold insertEntry
    split
    · rw [List.find?_cons_of_neg]
      simpa using h
    · split
      · by_cases he : rank e.1 = rank k' <;> simp [he, ih]
      · rename_i h₁ h₂
        have hk : rank e.1 = rank k := Nat.le_antisymm (Nat.le_of_not_lt h₁) (Nat.le_of_not_lt h₂)
        rw [List.find?_cons_of_neg, List.find?_cons_of_neg]
        · simpa [hk] using h
        · simpa using h

/-- An inserted value is found under its key. -/
@[simp] theorem get?_insert_self (m : OrderedMap κ α) (k : κ) (a : α) : (m.insert k a).get? k = some a := by
  simp [get?, insert, find?_insertEntry_self]

/-- An insertion leaves the other keys as they are. -/
theorem get?_insert_of_ne (m : OrderedMap κ α) {k k' : κ} (a : α) (h : k ≠ k') :
    (m.insert k a).get? k' = m.get? k' := by
  simp [get?, insert, find?_insertEntry_of_ne a (rank_ne h)]

/-- After an erasure the key has no value. -/
@[simp] theorem get?_erase_self (m : OrderedMap κ α) (k : κ) : (m.erase k).get? k = none := by
  simp only [get?, erase, filter, Option.map_eq_none_iff, List.find?_eq_none, List.mem_filter, decide_eq_true_eq]
  rintro e ⟨-, he⟩
  simpa using he

/-- An erasure leaves the other keys as they are. -/
theorem get?_erase_of_ne (m : OrderedMap κ α) {k k' : κ} (h : k ≠ k') : (m.erase k).get? k' = m.get? k' := by
  have hr := rank_ne h
  unfold get? erase filter
  rw [List.find?_filter]
  congr 2
  funext e
  by_cases he : rank e.1 = rank k' <;> simp [he, hr.symm]

/-- A change reaches the value under its key. -/
theorem get?_adjust_self (m : OrderedMap κ α) (k : κ) (f : α → α) : (m.adjust k f).get? k = (m.get? k).map f := by
  simp only [get?, adjust]
  generalize m.entries = es
  induction es with
  | nil => rfl
  | cons e es ih => by_cases h : rank e.1 = rank k <;> simp_all

/-- A change leaves the other keys as they are. -/
theorem get?_adjust_of_ne (m : OrderedMap κ α) {k k' : κ} (f : α → α) (h : k ≠ k') :
    (m.adjust k f).get? k' = m.get? k' := by
  have hr := rank_ne h
  simp only [get?, adjust]
  generalize m.entries = es
  induction es with
  | nil => rfl
  | cons e es ih =>
    by_cases he : rank e.1 = rank k
    · simp_all
    · by_cases he' : rank e.1 = rank k' <;> simp_all

/-- Maps with the same entries are equal. -/
@[ext] theorem ext {m m' : OrderedMap κ α} (h : m.entries = m'.entries) : m = m' := by
  cases m; cases m'; cases h; rfl

@[simp] theorem entries_empty : (empty : OrderedMap κ α).entries = [] := rfl

@[simp] theorem get?_empty (k : κ) : (empty : OrderedMap κ α).get? k = none := rfl

end OrderedMap

end Tether
