import Mathlib.Data.List.Perm.Subperm
import Tether.Camera.Operation
import Tether.Proofs.OrderedMap

/-!
# Tether.Proofs.Camera.Tree — an object and what lies below it

A deletion takes an object out with everything below it, and nothing else (`pruned_removeTree`).  The object
itself goes in any case; what lies below it goes as deep as the search does.  Where no object lies below itself,
the search is as deep as one without a bound (`removes_removeTree`), and so deep enough for everything
(`felled_removeTree`).
-/

namespace Tether.Camera

variable {objects objects' objects'' : Objects} {top handle : UInt32} {tops : List UInt32}

/-- The handle is `top`, or stands for an object in a folder that is below `top`. -/
inductive Below (objects : Objects) (top : UInt32) : UInt32 → Prop
  | top : Below objects top top
  | inside {handle : UInt32} {o : CameraObject} : objects.get? handle = some o → Below objects top o.info.parent →
      Below objects top handle

theorem Below.trans {below : UInt32} (h : Below objects handle below) (h' : Below objects top handle) :
    Below objects top below := by
  induction h with
  | top => exact h'
  | inside ho _ ih => exact .inside ho ih

/-- Below an object in which nothing lies there is only itself. -/
theorem Below.eq_of_empty (h : Below objects top handle)
    (hempty : ∀ {k o}, objects.get? k = some o → o.info.parent ≠ top) : handle = top := by
  induction h with
  | top => rfl
  | inside ho _ ih => exact absurd ih (hempty ho)

/-- What is below a handle that was given out, was given out. -/
theorem Below.lt {next : UInt32} (h : Below objects top handle) (htop : top < next)
    (hobjects : ∀ {k o}, objects.get? k = some o → k < next) : handle < next := by
  cases h with
  | top => exact htop
  | inside ho _ => exact hobjects ho

/-- Where there are more objects, no less is below a handle. -/
theorem Below.mono (h : Below objects' top handle)
    (hsub : ∀ {k o}, objects'.get? k = some o → objects.get? k = some o) : Below objects top handle := by
  induction h with
  | top => exact .top
  | inside ho _ ih => exact .inside (hsub ho) ih

/-- Nothing comes below a handle with a new object, unless the object's folder was below it. -/
theorem Below.of_insert {new : UInt32} {added : CameraObject} (h : Below (objects.insert new added) top handle) :
    Below objects top handle ∨ Below objects top added.info.parent := by
  induction h with
  | top => exact .inl .top
  | @inside handle o ho _ ih =>
    rcases ih with hparent | hadded
    · rw [OrderedMap.get?_insert] at ho
      split at ho
      · cases ho
        exact .inr hparent
      · exact .inl (.inside ho hparent)
    · exact .inr hadded

/-- From `objects` to `objects'` nothing went but what is below `top`. -/
structure Pruned (objects : Objects) (top : UInt32) (objects' : Objects) : Prop where
  sub : ∀ {k o}, objects'.get? k = some o → objects.get? k = some o
  kept : ∀ {k}, ¬ Below objects top k → objects'.get? k = objects.get? k

theorem Pruned.refl (objects : Objects) (top : UInt32) : Pruned objects top objects :=
  ⟨fun h => h, fun _ => rfl⟩

/-- After something below `top` also goes what is below that. -/
theorem Pruned.trans (h : Pruned objects top objects') (hbelow : Below objects top handle)
    (h' : Pruned objects' handle objects'') : Pruned objects top objects'' := by
  refine ⟨fun ho => h.sub (h'.sub ho), fun {k} hk => ?_⟩
  rw [h'.kept, h.kept hk]
  exact fun hb => hk ((hb.mono h.sub).trans hbelow)

theorem pruned_erase (objects : Objects) (top : UInt32) : Pruned objects top (objects.erase top) := by
  constructor
  · intro k o h
    rw [OrderedMap.get?_erase] at h
    split at h
    · cases h
    · exact h
  · intro k hk
    have hne : top ≠ k := by
      rintro rfl
      exact hk .top
    exact OrderedMap.get?_erase_of_ne _ hne

theorem below_of_mem_children {child : UInt32} (h : child ∈ children objects handle) :
    Below objects handle child := by
  obtain ⟨o, ho⟩ := OrderedMap.mem_keys_iff.mp h
  rw [OrderedMap.get?_filter, Option.filter_eq_some_iff] at ho
  obtain ⟨ho, hparent⟩ := ho
  refine .inside ho ?_
  rw [of_decide_eq_true hparent]
  exact .top

/-- One after the other, everything below some handles that are below `top`. -/
theorem Pruned.foldl {depth : Nat}
    (ih : ∀ child objects, Pruned objects child (removeBelow depth child objects).2) :
    ∀ (handles : List UInt32) (freed : Nat) {objects' : Objects}, Pruned objects top objects' →
      (∀ child ∈ handles, Below objects top child) →
        Pruned objects top (handles.foldl (fun (freed, objects) child =>
          let (more, objects) := removeBelow depth child objects
          (freed + more, objects)) (freed, objects')).2
  | [], _, _, h, _ => h
  | child :: rest, _, objects', h, hbelow =>
    Pruned.foldl ih rest _ (h.trans (hbelow child List.mem_cons_self) (ih child objects'))
      fun child' hc => hbelow child' (List.mem_cons_of_mem _ hc)

theorem pruned_removeBelow (depth : Nat) (handle : UInt32) (objects : Objects) :
    Pruned objects handle (removeBelow depth handle objects).2 := by
  induction depth generalizing handle objects with
  | zero => exact .refl objects handle
  | succ depth ih =>
    have hchildren := Pruned.foldl (fun child objects => ih child objects) (children objects handle) 0
      (.refl objects handle) fun child hc => below_of_mem_children hc
    unfold removeBelow
    dsimp only
    split
    · exact hchildren.trans .top (pruned_erase _ handle)
    · exact hchildren

theorem pruned_removeTree (handle : UInt32) (objects : Objects) :
    Pruned objects handle (removeTree handle objects).2 :=
  pruned_removeBelow _ handle objects

/-- The object itself goes. -/
theorem get?_removeTree_self (handle : UInt32) (objects : Objects) :
    (removeTree handle objects).2.get? handle = none := by
  unfold removeTree removeBelow
  dsimp only
  split
  · exact OrderedMap.get?_erase_self _ handle
  · rename_i h
    exact h

/-! ## Removals without a bound -/

/-- Bytes of content under a handle. -/
def bytesAt (objects : Objects) (handle : UInt32) : Nat :=
  (objects.get? handle).elim 0 fun o => o.data.length

/-- What it comes to when some handles are removed one after the other, each of them after the objects in it: the
bytes of content removed, and the objects that stay. -/
inductive Removes : List UInt32 → Objects → Nat → Objects → Prop
  | nil (objects : Objects) : Removes [] objects 0 objects
  | cons {handle : UInt32} {rest : List UInt32} {objects objects' objects'' : Objects} {freed more : Nat} :
      Removes (children objects handle) objects freed objects' →
      Removes rest (objects'.erase handle) more objects'' →
        Removes (handle :: rest) objects (freed + bytesAt objects' handle + more) objects''

variable {handles : List UInt32} {freed freed' : Nat}

/-- Removals come to one thing only. -/
theorem Removes.unique (h : Removes handles objects freed objects')
    (h' : Removes handles objects freed' objects'') :
    freed = freed' ∧ objects' = objects'' := by
  induction h generalizing freed' objects'' with
  | nil => cases h' with
    | nil => exact ⟨rfl, rfl⟩
  | cons _ _ ihbelow ihrest => cases h' with
    | cons hbelow hrest =>
      obtain ⟨rfl, rfl⟩ := ihbelow hbelow
      obtain ⟨rfl, rfl⟩ := ihrest hrest
      exact ⟨rfl, rfl⟩

/-- One handle, and then some more. -/
theorem Removes.cons_of_single (h : Removes [handle] objects freed objects') {more : Nat}
    (hrest : Removes handles objects' more objects'') :
    Removes (handle :: handles) objects (freed + more) objects'' := by
  cases h with
  | cons hbelow hnil =>
    cases hnil with
    | nil => exact .cons hbelow hrest

/-! ## Everything below an object goes -/

/-- From `objects` to `objects'` went what is below any of some handles, and nothing else. -/
structure Felled (objects : Objects) (tops : List UInt32) (objects' : Objects) : Prop where
  gone : ∀ {top k}, top ∈ tops → Below objects top k → objects'.get? k = none
  kept : ∀ {k}, (∀ top ∈ tops, ¬ Below objects top k) → objects'.get? k = objects.get? k

theorem Felled.refl (objects : Objects) : Felled objects [] objects :=
  ⟨fun h => absurd h List.not_mem_nil, fun _ => rfl⟩

theorem Felled.sub (hf : Felled objects tops objects') {k : UInt32} {o : CameraObject}
    (ho : objects'.get? k = some o) :
    objects.get? k = some o := by
  rw [← hf.kept fun top ht hb => ?_]
  · exact ho
  · rw [hf.gone ht hb] at ho
    cases ho

/-- What was below a handle and stayed still is, since all the folders around it stayed. -/
theorem Felled.below (hf : Felled objects tops objects') {k : UInt32} (hb : Below objects handle k)
    (hk : ∀ top ∈ tops, ¬ Below objects top k) : Below objects' handle k := by
  induction hb with
  | top => exact .top
  | inside ho _ ih =>
    refine .inside ((hf.kept hk).trans ho) (ih fun top ht hb => hk top ht (.inside ho hb))

/-- Some handles more. -/
theorem Felled.append {tops' : List UInt32} (hf : Felled objects tops objects')
    (h : Felled objects' tops' objects'') :
    Felled objects (tops ++ tops') objects'' := by
  have hstays : ∀ {k}, objects'.get? k = none → objects''.get? k = none := by
    intro k hk
    refine Option.eq_none_iff_forall_ne_some.mpr fun o ho => ?_
    rw [h.sub ho] at hk
    cases hk
  constructor
  · intro top k ht hb
    rcases List.mem_append.mp ht with ht | ht
    · exact hstays (hf.gone ht hb)
    · by_cases hk : ∀ top ∈ tops, ¬ Below objects top k
      · exact h.gone ht (hf.below hb hk)
      · simp only [not_forall, not_not] at hk
        obtain ⟨top', ht', hb'⟩ := hk
        exact hstays (hf.gone ht' hb')
  · intro k hk
    rw [h.kept, hf.kept]
    · exact fun top ht => hk top (List.mem_append_left _ ht)
    · exact fun top ht hb => hk top (List.mem_append_right _ ht) (hb.mono hf.sub)

/-- Below a handle is the handle, and what is below the objects in it. -/
theorem Below.eq_or_child (h : Below objects top handle) :
    handle = top ∨ ∃ child ∈ children objects top, Below objects child handle := by
  induction h with
  | top => exact .inl rfl
  | @inside handle o ho _ ih =>
    rcases ih with hparent | ⟨child, hc, hb⟩
    · refine .inr ⟨handle, ?_, .top⟩
      refine OrderedMap.mem_keys_iff.mpr ⟨o, ?_⟩
      rw [OrderedMap.get?_filter, ho]
      simp [hparent]
    · exact .inr ⟨child, hc, .inside ho hb⟩

/-- With the objects in a folder went all that is below it, but for the folder. -/
theorem Felled.erase (hf : Felled objects (children objects top) objects') :
    Felled objects [top] (objects'.erase top) := by
  constructor
  · intro top' k ht hb
    obtain rfl := List.mem_singleton.mp ht
    rw [OrderedMap.get?_erase]
    split
    · rfl
    · rename_i hne
      obtain ⟨child, hc, hb⟩ := hb.eq_or_child.resolve_left hne
      exact hf.gone hc hb
  · intro k hk
    have hself : ¬ Below objects top k := hk top List.mem_cons_self
    have hne : k ≠ top := by
      rintro rfl
      exact hself .top
    rw [OrderedMap.get?_erase, if_neg hne]
    exact hf.kept fun child hc hb => hself (hb.trans (below_of_mem_children hc))

/-- Removals without a bound take everything out that is below the handles. -/
theorem Removes.felled (h : Removes handles objects freed objects') : Felled objects handles objects' := by
  induction h with
  | nil objects => exact .refl objects
  | cons _ _ ihbelow ihrest => exact ihbelow.erase.append ihrest

/-! ## The depth of a search -/

/-- No object lies below itself. -/
def Acyclic (objects : Objects) : Prop :=
  ∀ {k o}, objects.get? k = some o → ¬ Below objects k o.info.parent

/-- Every object has a greater handle than its folder. -/
def Rising (objects : Objects) : Prop :=
  ∀ {k o}, objects.get? k = some o → o.info.parent < k

theorem Acyclic.of_sub (ha : Acyclic objects) (hsub : ∀ {k o}, objects'.get? k = some o →
    objects.get? k = some o) :
    Acyclic objects' :=
  fun ho hb => ha (hsub ho) (hb.mono hsub)

theorem Below.le (h : Below objects top handle) (hr : Rising objects) : top ≤ handle := by
  induction h with
  | top => exact UInt32.le_refl top
  | inside ho _ ih => exact UInt32.le_of_lt (UInt32.lt_of_le_of_lt ih (hr ho))

theorem Rising.acyclic (hr : Rising objects) : Acyclic objects :=
  fun ho hb => UInt32.not_le.mpr (hr ho) (hb.le hr)

open Classical in
/-- The handles of the objects below `top`, without `top`. -/
noncomputable def beneath (objects : Objects) (top : UInt32) : List UInt32 :=
  objects.keys.filter fun k => k ≠ top ∧ Below objects top k

theorem mem_beneath_iff {k : UInt32} :
    k ∈ beneath objects top ↔ (∃ o, objects.get? k = some o) ∧ k ≠ top ∧ Below objects top k := by
  unfold beneath
  simp only [List.mem_filter, OrderedMap.mem_keys_iff, decide_eq_true_eq]

theorem nodup_beneath (objects : Objects) (top : UInt32) : (beneath objects top).Nodup :=
  objects.nodup_keys.filter _

theorem length_beneath_le (hsub : ∀ {k o}, objects'.get? k = some o → objects.get? k = some o) (top : UInt32) :
    (beneath objects' top).length ≤ (beneath objects top).length := by
  refine (List.subperm_of_subset (nodup_beneath objects' top) fun k hk => ?_).length_le
  obtain ⟨⟨o, ho⟩, hne, hb⟩ := mem_beneath_iff.mp hk
  exact mem_beneath_iff.mpr ⟨⟨o, hsub ho⟩, hne, hb.mono hsub⟩

/-- There are fewer objects beneath an object in a folder than beneath the folder: not the object itself. -/
theorem length_beneath_lt (ha : Acyclic objects) {child : UInt32} (hc : child ∈ children objects top) :
    (beneath objects child).length < (beneath objects top).length := by
  have hchild := below_of_mem_children hc
  obtain ⟨o, ho⟩ := OrderedMap.mem_keys_iff.mp hc
  rw [OrderedMap.get?_filter, Option.filter_eq_some_iff] at ho
  obtain ⟨ho, hparent⟩ := ho
  have hnot : ¬ Below objects child top := of_decide_eq_true hparent ▸ ha ho
  have hnodup : (child :: beneath objects child).Nodup :=
    List.nodup_cons.mpr ⟨fun h => (mem_beneath_iff.mp h).2.1 rfl, nodup_beneath objects child⟩
  refine (List.subperm_of_subset hnodup fun k hk => ?_).length_le
  rcases List.mem_cons.mp hk with rfl | hk
  · refine mem_beneath_iff.mpr ⟨⟨o, ho⟩, ?_, hchild⟩
    rintro rfl
    exact hnot .top
  · obtain ⟨hobject, -, hb⟩ := mem_beneath_iff.mp hk
    refine mem_beneath_iff.mpr ⟨hobject, ?_, hb.trans hchild⟩
    rintro rfl
    exact hnot hb

/-- One after the other, as deep as is needed for each. -/
theorem removes_foldl {depth : Nat}
    (ih : ∀ child {objects}, Acyclic objects → (beneath objects child).length < depth →
      Removes [child] objects (removeBelow depth child objects).1 (removeBelow depth child objects).2) :
    ∀ (handles : List UInt32) (freed : Nat) {objects : Objects}, Acyclic objects →
      (∀ child ∈ handles, (beneath objects child).length < depth) →
        ∃ more remaining, Removes handles objects more remaining ∧
          handles.foldl (fun (freed, objects) child =>
            let (more, objects) := removeBelow depth child objects
            (freed + more, objects)) (freed, objects) = (freed + more, remaining)
  | [], freed, objects, _, _ => ⟨0, objects, .nil objects, rfl⟩
  | child :: rest, freed, objects, ha, hdepth => by
    have hfirst := ih child ha (hdepth child List.mem_cons_self)
    have hsub : ∀ {k o}, (removeBelow depth child objects).2.get? k = some o → objects.get? k = some o :=
      hfirst.felled.sub
    obtain ⟨more, remaining, hrest, hfold⟩ := removes_foldl ih rest (freed + (removeBelow depth child objects).1)
      (ha.of_sub hsub) fun child' hc =>
        Nat.lt_of_le_of_lt (length_beneath_le hsub child') (hdepth child' (List.mem_cons_of_mem _ hc))
    refine ⟨_, remaining, hfirst.cons_of_single hrest, ?_⟩
    rw [List.foldl_cons, ← Nat.add_assoc]
    exact hfold

/-- By induction on the depth: an object in a folder has fewer objects beneath it. -/
theorem removes_removeBelow (depth : Nat) (top : UInt32) {objects : Objects} (ha : Acyclic objects)
    (hdepth : (beneath objects top).length < depth) :
    Removes [top] objects (removeBelow depth top objects).1 (removeBelow depth top objects).2 := by
  induction depth generalizing top objects with
  | zero => exact absurd hdepth (Nat.not_lt_zero _)
  | succ depth ih =>
    obtain ⟨freed, remaining, hbelow, hfold⟩ :=
      removes_foldl (fun child {_} ha => ih child ha) (children objects top) 0 ha
      fun child hc => Nat.lt_of_lt_of_le (length_beneath_lt ha hc) (Nat.le_of_lt_succ hdepth)
    have hself := Removes.cons hbelow (.nil (remaining.erase top))
    unfold removeBelow
    rw [hfold, Nat.zero_add]
    dsimp only
    cases ho : remaining.get? top with
    | some o =>
      have hbytes : bytesAt remaining top = o.data.length := by
        unfold bytesAt
        rw [ho]
        rfl
      rwa [hbytes] at hself
    | none =>
      have hbytes : bytesAt remaining top = 0 := by
        unfold bytesAt
        rw [ho]
        rfl
      rwa [hbytes, OrderedMap.erase_of_get?_eq_none ho] at hself

/-- A removal comes to what it would come to without a bound, where no object lies below itself. -/
theorem removes_removeTree (ha : Acyclic objects) (top : UInt32) :
    Removes [top] objects (removeTree top objects).1 (removeTree top objects).2 := by
  refine removes_removeBelow _ top ha (Nat.lt_succ_of_le ?_)
  calc (beneath objects top).length
    _ ≤ objects.keys.length := List.length_filter_le _ _
    _ = objects.size := List.length_map _

/-- A deletion then takes out everything below the object. -/
theorem felled_removeTree (ha : Acyclic objects) (top : UInt32) :
    Felled objects [top] (removeTree top objects).2 :=
  (removes_removeTree ha top).felled

end Tether.Camera
