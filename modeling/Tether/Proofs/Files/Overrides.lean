import Tether.Proofs.Cache.Runs
import Tether.Proofs.Files.Calls

/-!
# Tether.Proofs.Files.Overrides — the budget in force

The budget of a cache is overridden by the host and by file systems that are mounted with a size for the cache;
overrides are released in any order and as often as one likes, that of a file system when its mount ends.  A run
writes down, newest first, which overrides were made and which tokens were released.  What a plan holds are the
overrides made and not released since, and the index has the budget of the youngest of them (`Accords`).  Every
call keeps that so, since only these calls touch the plan or set the budget, and wherever a run comes the history
alone tells the budget (`Budgeted.budget_in_force`).
-/

namespace Tether

open Tether.Action
open Index (Linked Sound)

/-! ## What is written down -/

/-- What happens to the overrides of a budget. -/
inductive BudgetEvent where
  | made (token : OverrideToken) (bytes : Nat)
  | released (token : OverrideToken)
deriving DecidableEq

namespace BudgetEvent

/-- The overrides of a history, newest event first, that were released neither later in it nor among `released`;
youngest first. -/
def outstanding (released : List OverrideToken) : List BudgetEvent → List (OverrideToken × Nat)
  | [] => []
  | .released token :: before => outstanding (token :: released) before
  | .made token bytes :: before =>
    if token ∈ released then outstanding released before else (token, bytes) :: outstanding released before

/-- The bytes of the youngest override that was not released, or the default. -/
def inForce (default : Nat) (history : List BudgetEvent) : Nat :=
  ((outstanding [] history).head?.map Prod.snd).getD default

/-- The token that was given out, if one was. -/
def token? : BudgetEvent → Option OverrideToken
  | .made token _ => some token
  | .released _ => none

/-- What was released before does not matter for what is released since. -/
theorem outstanding_eq_filter (released : List OverrideToken) (history : List BudgetEvent) :
    outstanding released history = (outstanding [] history).filter fun o => o.1 ∉ released := by
  induction history generalizing released with
  | nil => rfl
  | cons event before ih =>
    cases event with
    | released token =>
      show outstanding (token :: released) before = (outstanding [token] before).filter _
      rw [ih (token :: released), ih [token], List.filter_filter]
      refine List.filter_congr fun o _ => ?_
      simp only [List.mem_cons, List.not_mem_nil, or_false, not_or]
      rw [Bool.and_comm, ← Bool.decide_and]
    | made token bytes =>
      show (if token ∈ released then outstanding released before
        else (token, bytes) :: outstanding released before) =
        ((token, bytes) :: outstanding [] before).filter _
      rw [List.filter_cons, ih released]
      by_cases hmem : token ∈ released
      · simp [hmem]
      · simp [hmem]

end BudgetEvent

open BudgetEvent (outstanding inForce token? outstanding_eq_filter)

/-! ## What a plan holds -/

/-- The plan and the budget are what the history says; no token was given out twice. -/
structure Accords (default : Nat) (history : List BudgetEvent) (s : Store) : Prop where
  default_eq : s.plan.default = default
  overrides : s.plan.overrides = (outstanding [] history).reverse
  budget : s.index.budget = s.plan.current
  le_lastToken : ∀ token ∈ history.filterMap token?, token ≤ s.plan.lastToken
  nodup : (history.filterMap token?).Nodup

theorem Index.Linked.budget_setBudget {x : Index} (hx : Linked x) (budget : Nat) :
    (x.setBudget budget).2.budget = budget :=
  ((Index.sameBooks_budget x budget).linked hx).budget_evictFrom _

theorem Index.budget_touch (x : Index) (handle : UInt32) : (x.touch handle).budget = x.budget := by
  unfold touch
  split
  · exact budget_pushTick x handle
  · rfl

/-- Content that is put in sets no budget. -/
theorem Index.Linked.budget_insertCached {x : Index} (hx : Linked x) (handle : UInt32) (payload : Bytes) :
    (x.insertCached handle payload).2.budget = x.budget := by
  cases hf : x.find? handle with
  | none => rw [Index.insertCached_of_find?_none hf]
  | some ref =>
    rw [Index.insertCached_of_find? hf]
    exact ((hx.place payload hf).budget_evictFrom _).trans (Index.budget_place payload)

namespace Accords

variable {default : Nat} {history : List BudgetEvent} {s s' : Store} (ha : Accords default history s)
include ha

theorem current_eq : s.plan.current = inForce default history := by
  rw [BudgetPlan.current, ha.overrides, List.getLast?_reverse, ha.default_eq]
  rfl

theorem budget_eq : s.index.budget = inForce default history :=
  ha.budget.trans ha.current_eq

/-- Calls that touch neither the plan nor the budget. -/
theorem of_same (hplan : s'.plan = s.plan) (hbudget : s'.index.budget = s.index.budget) :
    Accords default history s' := by
  obtain ⟨hdefault, hoverrides, hcurrent, hle, hnodup⟩ := ha
  rw [← hplan] at hdefault hoverrides hcurrent hle
  exact ⟨hdefault, hoverrides, hbudget.trans hcurrent, hle, hnodup⟩

theorem reset (hx : Linked s.index) : Accords default history s.resetBudget :=
  ha.of_same rfl ((hx.budget_setBudget _).trans ha.budget.symm)

/-- The newest override is in force. -/
theorem override (hx : Linked s.index) (bytes : Nat) :
    Accords default (.made (s.overrideBudget bytes).1 bytes :: history) (s.overrideBudget bytes).2 where
  default_eq := ha.default_eq
  overrides := by
    show s.plan.overrides ++ [(s.plan.lastToken + 1, bytes)] =
      ((s.plan.lastToken + 1, bytes) :: outstanding [] history).reverse
    rw [List.reverse_cons, ha.overrides]
  budget := by
    refine (hx.budget_setBudget bytes).trans ?_
    show bytes =
      (((s.plan.overrides ++ [(s.plan.lastToken + 1, bytes)]).getLast?.map Prod.snd).getD s.plan.default)
    rw [List.getLast?_concat]
    rfl
  le_lastToken := by
    show ∀ token ∈ (s.plan.lastToken + 1) :: history.filterMap token?, token ≤ s.plan.lastToken + 1
    rw [List.forall_mem_cons]
    exact ⟨Nat.le_refl _, fun token hmem => Nat.le_succ_of_le (ha.le_lastToken token hmem)⟩
  nodup := by
    show ((s.plan.lastToken + 1) :: history.filterMap token?).Nodup
    exact List.nodup_cons.mpr ⟨fun hmem => absurd (ha.le_lastToken _ hmem) (Nat.not_succ_le_self _), ha.nodup⟩

/-- What is released goes from wherever it stands; a token that is not live releases nothing. -/
theorem release (hx : Linked s.index) (token : OverrideToken) :
    Accords default (.released token :: history) (s.releaseBudget token) := by
  have hfilter : s.plan.overrides.filter (fun o => o.1 ≠ token) =
      (outstanding [] (.released token :: history)).reverse := by
    show _ = (outstanding [token] history).reverse
    rw [outstanding_eq_filter [token], ← List.filter_reverse, ← ha.overrides]
    exact List.filter_congr fun o _ => by simp
  unfold Store.releaseBudget
  split
  · exact {
      default_eq := ha.default_eq
      overrides := hfilter
      budget := hx.budget_setBudget _
      le_lastToken := ha.le_lastToken
      nodup := ha.nodup }
  · rename_i hdead
    have hall : s.plan.overrides.filter (fun o => o.1 ≠ token) = s.plan.overrides := by
      refine List.filter_eq_self.mpr fun o hmem => decide_eq_true fun htoken => hdead ?_
      exact List.any_eq_true.mpr ⟨o, hmem, decide_eq_true htoken⟩
    exact {
      default_eq := ha.default_eq
      overrides := hall.symm.trans hfilter
      budget := ha.budget
      le_lastToken := ha.le_lastToken
      nodup := ha.nodup }

end Accords

theorem accords_create (budget staleness : Nat) : Accords budget [] (.create budget staleness) :=
  ⟨rfl, rfl, rfl, List.forall_mem_nil _, List.nodup_nil⟩

/-! ## Calls that do not set the budget -/

namespace Store

variable (s : Store)

theorem plan_learn (handle : UInt32) (metadata : ObjectMetadata) : (s.learn handle metadata).2.plan = s.plan := by
  unfold learn
  split <;> rfl

theorem plan_follow (change : VolumeChange) : (s.follow change).plan = s.plan := by
  cases change with
  | unmounted slot => rfl
  | formatted slot =>
    unfold follow
    dsimp only
    generalize s.handlesOn slot false = handles
    induction handles generalizing s with
    | nil => rfl
    | cons handle rest ih => exact ih (s.forget handle).2

theorem plan_followAll (changes : List VolumeChange) : (changes.foldl follow s).plan = s.plan := by
  induction changes generalizing s with
  | nil => rfl
  | cons change rest ih => exact (ih (s.follow change)).trans (s.plan_follow change)

theorem plan_cleanup (now : Calendar.Instant) : (((s.cleanup now).map Prod.snd).getD s).plan = s.plan := by
  unfold cleanup
  split <;> rfl

theorem plan_handleEvent (event : Ptp.DeviceEvent) : (s.handleEvent event).plan = s.plan := by
  cases event <;> rfl

end Store

variable {τ : Type} [Transport τ]

namespace StoreCall

variable {h : Host τ}

theorem plan_run (c : StoreCall τ) (hc : c.KeepsBudget) : (c.run h).store.plan = h.store.plan := by
  cases c with
  | lookup handle => rfl
  | fetch handle =>
    refine (Host.serves_fetch handle h).store (P := fun s => s.plan = h.store.plan) rfl ?_
    rintro _ ⟨metadata, rfl⟩
    exact h.store.plan_learn handle metadata
  | readRange ref length offset =>
    refine (Host.serves_readRange ref length offset h).store (P := fun s => s.plan = h.store.plan) rfl ?_
    rintro _ (rfl | rfl) <;> rfl
  | cache ref =>
    refine (Host.serves_cache ref h).store (P := fun s => s.plan = h.store.plan) rfl ?_
    rintro _ (rfl | rfl | ⟨_, _, rfl⟩) <;> rfl
  | writeNew name content parent =>
    refine (Host.serves_writeNew name content parent h).store (P := fun s => s.plan = h.store.plan) rfl ?_
    rintro _ ⟨handle, metadata, rfl⟩
    rfl
  | delete ref =>
    refine (Host.serves_delete ref h).store (P := fun s => s.plan = h.store.plan) rfl ?_
    rintro _ rfl
    rfl
  | cleanup now => exact h.store.plan_cleanup now
  | setBudget _ | overrideBudget _ | releaseBudget _ | resetBudget => exact hc.elim
  | follow change => exact h.store.plan_follow change
  | report event => exact h.store.plan_handleEvent event
  | bay f => exact h.store.plan_followAll _
  | _ => rfl

/-- What neither caches nor sets the budget leaves it as it is. -/
theorem steady_budget (budget : Nat) : Steady True fun x => Linked x ∧ x.budget = budget where
  books hx h hb := ⟨h.linked hx.1, hb.trans hx.2⟩
  insert hx ho _ := ⟨hx.1.insert ho, hx.2⟩
  touch handle hx := ⟨hx.1.touch handle, (Index.budget_touch _ handle).trans hx.2⟩
  uncache handle hx := ⟨hx.1.uncache handle, (hx.1.budget_uncache handle).trans hx.2⟩
  remove handle hx := ⟨hx.1.remove handle, (hx.1.budget_uncache handle).trans hx.2⟩
  clear hx := ⟨hx.1.clear, (hx.1.budget_uncacheAll _).trans hx.2⟩

theorem budget_run (c : StoreCall τ) (hc : c.KeepsBudget) (hx : Linked h.store.index) :
    (c.run h).store.index.budget = h.store.index.budget := by
  have hsteady := steady_budget h.store.index.budget
  by_cases hcache : ∃ ref, c = .cache ref
  · obtain ⟨ref, rfl⟩ := hcache
    refine (Host.serves_cache ref h).store (P := fun s => s.index.budget = h.store.index.budget) rfl ?_
    rintro _ (rfl | rfl | ⟨payload, _, rfl⟩)
    · rfl
    · exact (hsteady.touch _ ⟨hx, rfl⟩).2
    · exact hx.budget_insertCached _ payload
  · exact (hsteady.run c hc (fun ref heq => hcache ⟨ref, heq⟩) ⟨hx, rfl⟩ (.inl trivial)).2

end StoreCall

/-! ## Mounts -/

/-- The budget is overridden last, for a host of which `P` is true, and just when the cache is given a size. -/
def Mount.OverridesLast (P : Host τ → Prop) (options : MountOptions) (m : Mount) (h : Host τ) : Prop :=
  match options.cacheSize with
  | none => m.budget = none ∧ P h
  | some bytes => ∃ g, P g ∧ m.budget = some (g.store.overrideBudget bytes.toNat).1 ∧
      h = (StoreCall.overrideBudget bytes.toNat).run g

/-- What is done to the slots when a file system is mounted is done before the budget is overridden. -/
theorem Mount.leaves_ofOptions_budget {P : Host τ → Prop} (hP : ∀ (f : Bay τ → Bay τ) {h}, P h → P (h.updateBay f))
    (options : MountOptions) (blockSize : UInt32) {h : Host τ} (hp : P h) :
    (ofOptions options blockSize).Leaves h (OverridesLast P options) fun _ h' => P h' := by
  -- a step of the bay is a change of the bay, whether it fails or not
  have hthen : ∀ {α : Type} (x : Action (Bay τ) StorageError α)
      {f : α → Action (Host τ) StorageError Mount} {h : Host τ},
      P h → (∀ a h', P h' → (f a).Leaves h' (OverridesLast P options) fun _ h' => P h') →
      (Host.onBay x >>= f).Leaves h (OverridesLast P options) fun _ h' => P h' := by
    intro α x f h hp hf
    have hstate : P (Host.onBay x h).2 := hP (fun b => (x b).2) hp
    exact leaves_bind ((leaves_of_state hstate).mono hf fun _ _ hp' => hp')
  unfold ofOptions
  generalize (if blockSize = 0 then 1 else blockSize) = size
  refine hthen _ hp fun v h₁ hp₁ => ?_
  dsimp only
  split
  on_goal 2 => split
  -- a slot without a card is refused; any other is made active, and then the budget is overridden
  on_goal 2 => exact leaves_bind (leaves_fail hp₁)
  on_goal 1 => refine hthen _ hp₁ fun _ h₂ hp₂ => ?_
  all_goals
    refine hthen _ (by assumption) fun _ g hg => ?_
    unfold OverridesLast
    cases options.cacheSize with
    | none => exact leaves_bind (leaves_pure (leaves_pure ⟨rfl, hg⟩))
    | some bytes =>
      refine leaves_bind (leaves_ofFunction ?_)
      exact leaves_bind (leaves_pure (leaves_pure ⟨g, hg, rfl, rfl⟩))

/-! ## Runs -/

/-- What a run is made of. -/
inductive BudgetCall (τ : Type) where
  | override (bytes : Nat)
  | release (token : OverrideToken)
  | reset
  | mount (options : MountOptions) (blockSize : UInt32)
  | drop (m : Mount)
  /-- Any other call, if it does not set the budget. -/
  | other (c : StoreCall τ)

namespace BudgetCall

/-- The host after a call. -/
def run : BudgetCall τ → Host τ → Host τ
  | .override bytes, h => (StoreCall.overrideBudget bytes).run h
  | .release token, h => (StoreCall.releaseBudget token).run h
  | .reset, h => StoreCall.resetBudget.run h
  | .mount options blockSize, h => (Mount.ofOptions options blockSize h).2
  | .drop m, h => m.release h
  | .other c, h => c.run h

/-- A mount that succeeds overrides the budget if the cache is given a size, and the token goes with the mount. -/
def mountEvents (size : Option UInt64) : Except StorageError Mount → List BudgetEvent
  | .ok m => (size.map fun bytes => .made (m.budget.getD 0) bytes.toNat).toList
  | .error _ => []

/-- What a call writes down. -/
def events : BudgetCall τ → Host τ → List BudgetEvent
  | .override bytes, h => [.made (h.store.overrideBudget bytes).1 bytes]
  | .release token, _ => [.released token]
  | .mount options blockSize, h => mountEvents options.cacheSize (Mount.ofOptions options blockSize h).1
  | .drop m, _ => (m.budget.map .released).toList
  | _, _ => []

/-- Of the other calls none sets the budget; unless handles may be reused, uploads are given new ones. -/
def Allowed (reuse : Prop) (h : Host τ) : BudgetCall τ → Prop
  | .other c => c.KeepsBudget ∧ (reuse ∨ c.Fresh h)
  | _ => True

end BudgetCall

/-- The hosts that runs reach from a new store, with what was written down. -/
inductive Budgeted (reuse : Prop) (budget : Nat) : List BudgetEvent → Host τ → Prop
  | new (bay : Bay τ) (notices : List VolumeChange) (staleness : Nat) : bay.changes = [] →
      Budgeted reuse budget [] { bay, store := .create budget staleness, notices }
  | call {history : List BudgetEvent} {h : Host τ} (c : BudgetCall τ) : Budgeted reuse budget history h →
      c.Allowed reuse h → Budgeted reuse budget (c.events h ++ history) (c.run h)

namespace Budgeted

variable {reuse : Prop} {budget : Nat} {history : List BudgetEvent} {h : Host τ}

/-- A run reaches the host, and its store is what the history says. -/
structure Settled (reuse : Prop) (budget : Nat) (history : List BudgetEvent) (h : Host τ) : Prop where
  reached : Reached reuse h
  accords : Accords budget history h.store

theorem Settled.other (hs : Settled reuse budget history h) (c : StoreCall τ) (hc : c.KeepsBudget)
    (hf : reuse ∨ c.Fresh h) :
    Settled reuse budget history (c.run h) where
  reached := .call c hs.reached hf
  accords := hs.accords.of_same (c.plan_run hc) (c.budget_run hc hs.reached.linked)

theorem Settled.override (hs : Settled reuse budget history h) (bytes : Nat) :
    Settled reuse budget (.made (h.store.overrideBudget bytes).1 bytes :: history)
      ((StoreCall.overrideBudget bytes).run h) where
  reached := .call (.overrideBudget bytes) hs.reached (.inr trivial)
  accords := hs.accords.override hs.reached.linked bytes

theorem Settled.release (hs : Settled reuse budget history h) (token : OverrideToken) :
    Settled reuse budget (.released token :: history) ((StoreCall.releaseBudget token).run h) where
  reached := .call (.releaseBudget token) hs.reached (.inr trivial)
  accords := hs.accords.release hs.reached.linked token

theorem Settled.mount (hs : Settled reuse budget history h) (options : MountOptions) (blockSize : UInt32) :
    Settled reuse budget ((BudgetCall.mount options blockSize).events h ++ history)
      (Mount.ofOptions options blockSize h).2 := by
  obtain ⟨hok, herr⟩ := Mount.leaves_ofOptions_budget (P := Settled reuse budget history)
    (fun f {_} hs => hs.other (.bay f) trivial (.inr trivial)) options blockSize hs
  show Settled reuse budget (BudgetCall.mountEvents options.cacheSize
    (Mount.ofOptions options blockSize h).1 ++ history) _
  cases hm : Mount.ofOptions options blockSize h with
  | mk r h' =>
    cases r with
    | error error => exact herr error h' hm
    | ok m =>
      have hlast := hok m h' hm
      unfold Mount.OverridesLast at hlast
      show Settled reuse budget ((options.cacheSize.map fun bytes =>
        .made (m.budget.getD 0) bytes.toNat).toList ++ history) h'
      cases hsize : options.cacheSize with
      | none =>
        rw [hsize] at hlast
        exact hlast.2
      | some bytes =>
        rw [hsize] at hlast
        obtain ⟨g, hg, htoken, rfl⟩ := hlast
        rw [htoken]
        exact hg.override bytes.toNat

theorem settled (hr : Budgeted reuse budget history h) : Settled reuse budget history h := by
  induction hr with
  | new bay notices staleness hnil =>
      exact ⟨.new bay notices budget staleness hnil, accords_create budget staleness⟩
  | @call history h c _ hallowed ih =>
    cases c with
    | override bytes => exact ih.override bytes
    | release token => exact ih.release token
    | reset =>
      exact ⟨.call .resetBudget ih.reached (.inr trivial), ih.accords.reset ih.reached.linked⟩
    | mount options blockSize => exact ih.mount options blockSize
    | drop m =>
      show Settled reuse budget ((m.budget.map .released).toList ++ history) (m.release h)
      unfold Mount.release
      cases m.budget with
      | none => exact ih
      | some token => exact ih.release token
    | other c => exact ih.other c hallowed.1 hallowed.2

/-- Wherever a run comes, the budget is that of the youngest override that was not released, or the one that the
store was created with; every override was given a token of its own; and as long as uploads are given new handles
the cached bytes are within the budget. -/
theorem budget_in_force (hr : Budgeted reuse budget history h) :
    h.store.index.budget = inForce budget history ∧ (history.filterMap token?).Nodup ∧
      (¬ reuse → h.store.index.cachedBytes ≤ h.store.index.budget) := by
  obtain ⟨hreached, haccords⟩ := hr.settled
  refine ⟨haccords.budget_eq, haccords.nodup, fun hfresh => ?_⟩
  have hsound : Reached False h := by
    rwa [eq_false hfresh] at hreached
  exact hsound.sound.within

theorem bay (f : Bay τ → Bay τ) (hr : Budgeted reuse budget history h) :
    Budgeted reuse budget history (h.updateBay f) :=
  .call (.other (.bay f)) hr ⟨trivial, .inr trivial⟩

end Budgeted

/-- A file system on the first card, mounted with 30 bytes for the cache. -/
def Mount.small : Mount where
  options := { cacheSize := some 30 }
  blockSize := 512
  budget := some 1

/-- The budget is overridden by 50 bytes while it is mounted. -/
def Host.overridden : Host Link :=
  (StoreCall.overrideBudget 50).run (Mount.ofOptions Mount.small.options 512 Host.ready).2

/-- The override of the mount is the older one; when the mount ends, and its token is released once more, the
younger stays in force. -/
theorem Budgeted.budget_in_force_overridden :
    Budgeted False 100 [.released 1, .released 1, .made 2 50, .made 1 30]
        ((StoreCall.releaseBudget 1).run (Mount.small.release Host.overridden)) ∧
      ((StoreCall.releaseBudget 1).run (Mount.small.release Host.overridden)).store.index.budget = 50 := by
  have hready : Budgeted False 100 [] Host.ready := by
    have hnew : Budgeted False 100 [] Host.unboxed := .new _ [] 300 rfl
    exact ((hnew.bay _).bay _).bay _
  have hmade : (Mount.ofOptions Mount.small.options 512 Host.ready).1 = .ok Mount.small := by decide +kernel
  have hmount : Budgeted False 100 [.made 1 30] (Mount.ofOptions Mount.small.options 512 Host.ready).2 := by
    have hcall := hready.call (.mount Mount.small.options 512) trivial
    rwa [BudgetCall.events, hmade] at hcall
  have htoken : ((Mount.ofOptions Mount.small.options 512 Host.ready).2.store.overrideBudget 50).1 = 2 := by
    decide +kernel
  have hoverride : Budgeted False 100 [.made 2 50, .made 1 30] Host.overridden := by
    have hcall := hmount.call (.override 50) trivial
    rwa [BudgetCall.events, htoken] at hcall
  have hdrop := hoverride.call (.drop Mount.small) trivial
  have hagain := hdrop.call (.release 1) trivial
  exact ⟨hagain, hagain.budget_in_force.1⟩

end Tether
