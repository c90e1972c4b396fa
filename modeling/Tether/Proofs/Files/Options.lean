import Mathlib.Data.Bool.AllAny
import Mathlib.Data.List.Induction
import Tether.Files.Options
import Tether.Proofs.Text.Digits

/-!
# Tether.Proofs.Files.Options — what written options mean

Written options are read item by item, so the items of two texts with a comma between them are those of the first
and then those of the second (`items_append`).  What an item is about can be told from its text (`subject`), and
an item leaves alone what it is not about.  Therefore a text behind another one decides what it mentions and
nothing else, and options that are written are read as themselves (`MountOptions.written_and_joined`).
-/

namespace Tether

open Text

namespace Text

/-- A text without separators is one piece. -/
theorem pieces_of_not_mem {sep : Char} {cs : List Char} (h : sep ∉ cs) : pieces sep cs = [cs] := by
  induction cs with
  | nil => rfl
  | cons c cs ih =>
    have hne : c ≠ sep := fun he => h (he ▸ List.mem_cons_self)
    rw [pieces, if_neg hne, ih fun hmem => h (List.mem_cons_of_mem c hmem), List.modifyHead_cons]

/-- A text is cut at the separator behind a front that has none. -/
theorem cutAt_append_cons {sep : Char} {cs : List Char} (h : sep ∉ cs) (ds : List Char) :
    cutAt sep (cs ++ sep :: ds) = some (cs, ds) := by
  induction cs with
  | nil => simp [cutAt]
  | cons c cs ih =>
    have hne : c ≠ sep := fun he => h (he ▸ List.mem_cons_self)
    rw [List.cons_append, cutAt, if_neg hne, ih fun hmem => h (List.mem_cons_of_mem c hmem), Option.map_some]

end Text

/-! ## Items -/

namespace MountOption

/-- What an item is about: the text before the equals sign, or all of it. -/
def subject (item : List Char) : String :=
  match cutAt '=' item with
  | some (key, _) => String.ofList (trim key)
  | none => String.ofList item

/-- The word that an item begins with. -/
def word : MountOption → String
  | slot _ => "slot"
  | readOnly => "ro"
  | readWrite => "rw"
  | cacheSize _ => "cache_size"

/-- A key, an equals sign and a number. -/
def numbered (key : String) (n : UInt64) : List Char :=
  key.toList ++ '=' :: (natural n.toNat).toList

/-- An item as it is written. -/
def written : MountOption → List Char
  | slot n => numbered "slot" n
  | readOnly => "ro".toList
  | readWrite => "rw".toList
  | cacheSize bytes => numbered "cache_size" bytes

/-- What is read of an item with a number is made of the number. -/
theorem exists_of_readNumber {item value : List Char} {f : UInt64 → MountOption} {e : MountOption}
    (h : (readNumber item value).map f = .ok e) : ∃ n, f n = e := by
  cases hn : readNumber item value with
  | ok n =>
    rw [hn] at h
    exact ⟨n, Except.ok.inj h⟩
  | error fault =>
    rw [hn] at h
    cases h

/-- An item is about the word of what is read. -/
theorem subject_of_ofItem {item : List Char} {e : MountOption} (h : ofItem item = .ok e) :
    subject item = e.word := by
  unfold ofItem at h
  unfold subject
  cases hcut : cutAt '=' item with
  | some parts =>
    obtain ⟨key, value⟩ := parts
    rw [hcut, Option.map_some] at h
    dsimp only at h ⊢
    split at h
    · rename_i hkey
      obtain ⟨n, rfl⟩ := exists_of_readNumber h
      exact (Prod.mk.inj (Option.some.inj hkey)).1
    · rename_i hkey
      obtain ⟨n, rfl⟩ := exists_of_readNumber h
      exact (Prod.mk.inj (Option.some.inj hkey)).1
    · rename_i hnone
      cases hnone
    · cases h
  | none =>
    rw [hcut, Option.map_none] at h
    dsimp only at h ⊢
    split at h
    · rename_i hword
      cases h
      exact hword
    · rename_i hword
      cases h
      exact hword
    · cases h

/-- A character of a written item is neither a blank nor a comma. -/
theorem plain_of_mem_written {e : MountOption} {c : Char} (h : c ∈ e.written) : isBlank c = false ∧ c ≠ ',' := by
  have hnumbered : ∀ {key : String} {n : UInt64}, (∀ c ∈ key.toList, isBlank c = false ∧ c ≠ ',') →
      c ∈ numbered key n → isBlank c = false ∧ c ≠ ',' := by
    intro key n hkey hc
    rcases List.mem_append.mp hc with hc | hc
    · exact hkey c hc
    rcases List.mem_cons.mp hc with rfl | hc
    · decide
    · have hdigit := isDigit_of_mem_natural hc
      refine ⟨isBlank_of_isDigit hdigit, ?_⟩
      rintro rfl
      exact absurd hdigit (by decide)
  -- each key is looked through character by character
  cases e with
  | slot n => exact hnumbered (List.all_iff_forall_prop.mp (by decide)) h
  | cacheSize bytes => exact hnumbered (List.all_iff_forall_prop.mp (by decide)) h
  | readOnly =>
    have hword : ∀ c ∈ "ro".toList, isBlank c = false ∧ c ≠ ',' := List.all_iff_forall_prop.mp (by decide)
    exact hword c h
  | readWrite =>
    have hword : ∀ c ∈ "rw".toList, isBlank c = false ∧ c ≠ ',' := List.all_iff_forall_prop.mp (by decide)
    exact hword c h

/-- The key and the number of an item are read off it. -/
theorem cutAt_numbered {key : String} (hkey : ∀ c ∈ key.toList, c ≠ '=' ∧ isBlank c = false) (n : UInt64) :
    (cutAt '=' (numbered key n)).map (fun (key, value) => (String.ofList (trim key), trim value)) =
      some (key, (natural n.toNat).toList) := by
  have hequals : '=' ∉ key.toList := fun hmem => (hkey '=' hmem).1 rfl
  have hkeyTrim : trim key.toList = key.toList := trim_of_forall fun c hc => (hkey c hc).2
  have hnumberTrim : trim (natural n.toNat).toList = (natural n.toNat).toList :=
    trim_of_forall fun c hc => isBlank_of_isDigit (isDigit_of_mem_natural hc)
  rw [numbered, cutAt_append_cons hequals, Option.map_some]
  dsimp only
  rw [hkeyTrim, hnumberTrim, String.ofList_toList]

theorem readNumber_natural (item : List Char) (n : UInt64) : readNumber item (natural n.toNat).toList = .ok n := by
  have hlimit : n.toNat < limit64 := n.toNat_lt
  rw [readNumber, readNatural_natural hlimit]
  exact congrArg Except.ok UInt64.ofNat_toNat

/-- A written item is read as itself. -/
theorem ofItem_written (e : MountOption) : ofItem e.written = .ok e := by
  cases e with
  | slot n =>
    show ofItem (numbered "slot" n) = _
    rw [ofItem, cutAt_numbered (List.all_iff_forall_prop.mp (by decide))]
    exact congrArg (Except.map slot) (readNumber_natural _ n)
  | cacheSize bytes =>
    show ofItem (numbered "cache_size" bytes) = _
    rw [ofItem, cutAt_numbered (List.all_iff_forall_prop.mp (by decide))]
    exact congrArg (Except.map cacheSize) (readNumber_natural _ bytes)
  | readOnly => rfl
  | readWrite => rfl

/-! ### What an item leaves alone -/

section Field

variable {α : Type} {field : MountOptions → α} {words : List String}
  (hset : ∀ e : MountOption, e.word ∈ words → ∀ o p, field (apply o e) = field (apply p e))
  (hleft : ∀ e : MountOption, e.word ∉ words → ∀ o, field (apply o e) = field o)
include hset hleft

/-- A field that some words decide is what the last item about it says, and what it was without such an item. -/
theorem field_foldl_apply (o : MountOptions) (es : List MountOption) :
    field (es.foldl apply o) = if ∃ e ∈ es, e.word ∈ words then field (es.foldl apply {}) else field o := by
  induction es using List.reverseRecOn with
  | nil => simp
  | append_singleton es e ih =>
    rw [List.foldl_append, List.foldl_append]
    show field (apply (es.foldl apply o) e) = if _ then field (apply (es.foldl apply {}) e) else _
    by_cases he : e.word ∈ words
    · rw [if_pos ⟨e, by simp, he⟩]
      exact hset e he _ _
    · have hsame : (∃ e' ∈ es ++ [e], e'.word ∈ words) ↔ ∃ e' ∈ es, e'.word ∈ words := by simp [he]
      rw [hleft e he, hleft e he, ih]
      simp only [hsame]

end Field

end MountOption

namespace MountOptions

open MountOption (subject word written)

/-! ## Texts -/

/-- The text has an item about one of these words. -/
def Mentions (text : String) (words : List String) : Prop :=
  ∃ item ∈ items text.toList, subject item ∈ words

instance (text : String) (words : List String) : Decidable (Mentions text words) :=
  inferInstanceAs (Decidable (∃ item ∈ items text.toList, subject item ∈ words))

/-- What `text` mentions is as in `p`, and the rest as in `o`. -/
def overridden (text : String) (o p : MountOptions) : MountOptions where
  slot := if Mentions text ["slot"] then p.slot else o.slot
  readOnly := if Mentions text ["ro", "rw"] then p.readOnly else o.readOnly
  cacheSize := if Mentions text ["cache_size"] then p.cacheSize else o.cacheSize

/-- A text and another one behind a comma have the items of both. -/
theorem items_append (cs ds : List Char) : items (cs ++ ',' :: ds) = items cs ++ items ds := by
  unfold items
  rw [pieces_append_cons, List.map_append, List.filter_append]

/-- A text that reads as some items mentions what these are about. -/
theorem mentions_iff {text : String} {es : List MountOption}
    (h : (items text.toList).mapM MountOption.ofItem = .ok es) (words : List String) :
    Mentions text words ↔ ∃ e ∈ es, e.word ∈ words := by
  unfold Mentions
  generalize items text.toList = given at h
  induction given generalizing es with
  | nil =>
    rw [List.mapM_nil] at h
    cases h
    simp
  | cons item given ih =>
    rw [List.mapM_cons] at h
    cases hitem : MountOption.ofItem item with
    | error fault =>
      rw [hitem] at h
      cases h
    | ok e =>
      rw [hitem] at h
      cases hrest : given.mapM MountOption.ofItem with
      | error fault =>
        rw [hrest] at h
        cases h
      | ok rest =>
        rw [hrest] at h
        cases h
        simp only [List.mem_cons, exists_eq_or_imp, MountOption.subject_of_ofItem hitem, ih hrest]

/-- Later items decide the options that they are about, and earlier ones the others. -/
theorem foldl_apply_eq_overridden {text : String} {es : List MountOption}
    (h : (items text.toList).mapM MountOption.ofItem = .ok es) (o : MountOptions) :
    es.foldl MountOption.apply o = overridden text o (es.foldl MountOption.apply {}) := by
  have hfield : ∀ {α : Type} (field : MountOptions → α) (words : List String),
      (∀ e : MountOption, e.word ∈ words → ∀ o p, field (e.apply o) = field (e.apply p)) →
      (∀ e : MountOption, e.word ∉ words → ∀ o, field (e.apply o) = field o) →
      field (es.foldl MountOption.apply o) =
        if Mentions text words then field (es.foldl MountOption.apply {}) else field o := by
    intro α field words hset hleft
    rw [MountOption.field_foldl_apply hset hleft]
    simp only [mentions_iff h]
  have hslot := hfield slot ["slot"] (by intro e; cases e <;> simp [word, MountOption.apply])
    (by intro e; cases e <;> simp [word, MountOption.apply])
  have hreadOnly := hfield readOnly ["ro", "rw"] (by intro e; cases e <;> simp [word, MountOption.apply])
    (by intro e; cases e <;> simp [word, MountOption.apply])
  have hcacheSize := hfield cacheSize ["cache_size"] (by intro e; cases e <;> simp [word, MountOption.apply])
    (by intro e; cases e <;> simp [word, MountOption.apply])
  calc es.foldl MountOption.apply o
    _ = ⟨(es.foldl MountOption.apply o).slot, (es.foldl MountOption.apply o).readOnly,
          (es.foldl MountOption.apply o).cacheSize⟩ := rfl
    _ = overridden text o (es.foldl MountOption.apply {}) := by rw [hslot, hreadOnly, hcacheSize, overridden]

/-! ## Written options -/

/-- The items that options are written as. -/
def itemsOf (o : MountOptions) : List MountOption :=
  .slot o.slot :: ((if o.readOnly then [.readOnly] else []) ++ o.cacheSize.toList.map .cacheSize)

theorem foldl_itemsOf (o : MountOptions) : (itemsOf o).foldl MountOption.apply {} = o := by
  obtain ⟨slot, readOnly, cacheSize⟩ := o
  cases readOnly <;> cases cacheSize <;> rfl

/-- A comma stands before every item but the first. -/
theorem toList_render (o : MountOptions) :
    o.render.toList = (MountOption.slot o.slot).written ++ (itemsOf o).tail.flatMap fun e => ',' :: e.written := by
  obtain ⟨slot, readOnly, cacheSize⟩ := o
  cases readOnly <;> cases cacheSize <;> simp [render, itemsOf, written, MountOption.numbered]

/-- Items that are written one behind the other are the items of the text. -/
theorem items_written (e : MountOption) (es : List MountOption) :
    items (e.written ++ es.flatMap fun e => ',' :: e.written) = (e :: es).map written := by
  have hone : ∀ e : MountOption, items e.written = [e.written] := by
    intro e
    have hcomma : ',' ∉ e.written := fun hmem => (MountOption.plain_of_mem_written hmem).2 rfl
    have htrim : trim e.written = e.written := trim_of_forall fun c hc => (MountOption.plain_of_mem_written hc).1
    have hne : e.written ≠ [] := by
      cases e <;> simp [written, MountOption.numbered]
    unfold items
    rw [pieces_of_not_mem hcomma]
    simp [htrim, hne]
  induction es generalizing e with
  | nil => simpa using hone e
  | cons e' es ih =>
    rw [List.flatMap_cons, List.cons_append, items_append, hone, ih]
    rfl

/-- Options that are written are read as themselves. -/
theorem parse_render (o : MountOptions) : parse o.render = .ok o := by
  have hread : ∀ es : List MountOption, (es.map written).mapM MountOption.ofItem = .ok es := by
    intro es
    induction es with
    | nil => rfl
    | cons e es ih =>
      rw [List.map_cons, List.mapM_cons, MountOption.ofItem_written, ih]
      rfl
  unfold parse
  rw [toList_render, items_written]
  show ((itemsOf o).map written).mapM MountOption.ofItem >>= _ = _
  rw [hread]
  exact congrArg Except.ok (foldl_itemsOf o)

/-- Options that are written are read as themselves.  Of two texts with a comma between them the first one that
is refused is the refusal; otherwise what the second one mentions is as it says, and the rest as the first one
says. -/
theorem written_and_joined :
    (∀ o : MountOptions, parse o.render = .ok o) ∧
      ∀ s t : String, parse (s ++ "," ++ t) =
        match parse s, parse t with
        | .error fault, _ => .error fault
        | .ok _, .error fault => .error fault
        | .ok o, .ok p => .ok (overridden t o p) := by
  refine ⟨parse_render, fun s t => ?_⟩
  have hcomma : (s ++ "," ++ t).toList = s.toList ++ ',' :: t.toList := by simp
  unfold parse
  rw [hcomma, items_append, List.mapM_append]
  cases hs : (items s.toList).mapM MountOption.ofItem with
  | error fault => rfl
  | ok es =>
    cases ht : (items t.toList).mapM MountOption.ofItem with
    | error fault => rfl
    | ok es' =>
      show Except.ok ((es ++ es').foldl MountOption.apply {}) = _
      rw [List.foldl_append, foldl_apply_eq_overridden ht]
      rfl

end MountOptions

end Tether
