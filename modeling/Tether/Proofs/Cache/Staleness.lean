import Tether.Proofs.Cache.LeastRecent
import Tether.Store.Basic

/-!
# Tether.Proofs.Cache.Staleness — clean-up drops what was changed before the window and nothing else

A window of fresh content reaches back from some moment (`Stamp.back`).  Clocks show the years from -262143 to
262142.  No window that is longer than `longestWindow` starts within them, so nothing that a clock showed is
stale then; a shorter one can still reach back before the first day, and there is no moment to compare with
(`Cutoff.back_eq`).

The stale handles are taken from the order of use as it stands before the first of them goes.  Dropping one
concerns no other, so what `uncacheAll` leaves is the order of use without them, and their contents go in that
order.
-/

namespace Tether.Calendar

/-! ## Windows -/

namespace Instant

/-- The last day that clocks are able to show: 31 December of the year 262142. -/
def lastDay : Date :=
  ⟨262142, 12, 31, by decide⟩

/-- A clock is able to show the instant. -/
def Shown (t : Instant) : Prop :=
  firstDay.ordinal ≤ t.date.ordinal ∧ t.date.ordinal ≤ lastDay.ordinal

instance (t : Instant) : Decidable t.Shown :=
  inferInstanceAs (Decidable (_ ∧ _))

/-- The first full second that clocks are able to show. -/
def firstSecond : Int :=
  firstDay.ordinal * 86400

end Instant

/-- The moment `seconds` before another.  Going back from within a leap second leaves it. -/
def Stamp.back (s : Stamp) (seconds : Nat) : Stamp :=
  if 1000000000 ≤ s.nanoseconds ∧ 0 < seconds then ⟨s.seconds + 1 - seconds, s.nanoseconds - 1000000000⟩
  else ⟨s.seconds - seconds, s.nanoseconds⟩

theorem Stamp.seconds_back_le (s : Stamp) (seconds : Nat) :
    (s.back seconds).seconds ≤ s.seconds + 1 - seconds := by
  unfold Stamp.back
  split
  · exact Int.le_refl _
  · exact Int.sub_le_sub_right (Int.le_add_one (Int.le_refl _)) _

theorem Cutoff.back_eq (now : Instant) (seconds : Nat) :
    Cutoff.back now seconds =
      if longestWindow < seconds then .unbounded
      else if (now.stamp.back seconds).seconds < Instant.firstSecond then .beforeCalendar
      else .opens (now.stamp.back seconds) := rfl

/-- All that clocks are able to show lies within less than a longest window. -/
theorem Instant.Shown.not_before_back {t now : Instant} {seconds : Nat} (ht : t.Shown) (hnow : now.Shown)
    (hlong : longestWindow < seconds) : t.stamp.before (now.stamp.back seconds) = false := by
  have hfirst : firstDay.ordinal = -95746129 := by decide
  have hlast : lastDay.ordinal = 95745399 := by decide
  have hstart := now.stamp.seconds_back_le seconds
  have hsecond : (now.stamp.back seconds).seconds < t.stamp.seconds := by
    refine Int.lt_of_le_of_lt hstart ?_
    obtain ⟨ht, -⟩ := ht
    obtain ⟨-, hnow⟩ := hnow
    rw [hfirst] at ht
    rw [hlast] at hnow
    simp only [stamp, longestWindow] at hlong ⊢
    omega
  unfold Stamp.before
  simp only [Bool.or_eq_false_iff, decide_eq_false_iff_not, Int.not_lt, Bool.and_eq_false_imp, beq_iff_eq]
  exact ⟨Int.le_of_lt hsecond, fun heq => absurd heq (Int.ne_of_gt hsecond)⟩

end Tether.Calendar

namespace Tether.Index

variable {x : Index}

/-! ## Dropping several contents -/

theorem cachedCount_eq (x : Index) : x.cachedCount = x.cachedHandles.length :=
  (List.length_map _).symm

/-- The order of use without the handles whose contents were dropped. -/
theorem Linked.cachedHandles_uncacheAll :
    ∀ {x : Index}, Linked x → ∀ hs : List UInt32,
      (x.uncacheAll hs).2.cachedHandles = x.cachedHandles.filter (· ∉ hs)
  | x, _, [] => by simp [Index.uncacheAll]
  | x, hx, handle :: rest => by
    show ((x.uncache handle).2.uncacheAll rest).2.cachedHandles = _
    rw [(hx.uncache handle).cachedHandles_uncacheAll rest, hx.cachedHandles_uncache, List.filter_filter]
    refine List.filter_congr fun h _ => ?_
    simp [Bool.and_comm]

theorem Linked.payloadAt_uncacheAll (hx : Linked x) (hs : List UInt32) (h : UInt32) :
    (x.uncacheAll hs).2.payloadAt h = if h ∈ hs then none else x.payloadAt h := by
  unfold payloadAt
  rw [hx.lookup?_uncacheAll]
  split
  · cases x.lookup? h <;> rfl
  · rfl

theorem sameEntries_uncacheAll (x : Index) (hs : List UInt32) : SameEntries x (x.uncacheAll hs).2 :=
  uncacheAll_induction (P := SameEntries x) (fun _ handle h => h.trans (sameEntries_uncache _ handle)) hs x
    (sameEntries_of_objects rfl rfl)

theorem Accounted.uncacheAll (hx : Accounted x) (hs : List UInt32) : Accounted (x.uncacheAll hs).2 :=
  uncacheAll_induction (fun _ _ h => h.uncache _) hs x hx

/-- What is answered are the contents of the handles, each of which had one.  By induction on the handles, of
which no later one is the first again. -/
theorem Accounted.uncacheAll_fst :
    ∀ {x : Index}, Accounted x → ∀ {hs : List UInt32}, hs.Nodup → hs ⊆ x.cachedHandles →
      (x.uncacheAll hs).1.map some = hs.map x.payloadAt
  | _, _, [], _, _ => rfl
  | x, hx, handle :: rest, hnodup, hcached => by
    obtain ⟨hfirst, hrest⟩ := List.nodup_cons.mp hnodup
    obtain ⟨payload, hp⟩ := hx.payloadAt_of_cached (hcached List.mem_cons_self)
    have hne : ∀ h ∈ rest, h ≠ handle := by
      rintro h hm rfl
      exact hfirst hm
    have hlater : rest ⊆ (x.uncache handle).2.cachedHandles := by
      intro h hm
      rw [hx.cachedHandles_uncache]
      exact List.mem_filter.mpr ⟨hcached (List.mem_cons_of_mem _ hm), decide_eq_true (hne h hm)⟩
    have hsame : rest.map (x.uncache handle).2.payloadAt = rest.map x.payloadAt :=
      List.map_congr_left fun h hm => by rw [hx.payloadAt_uncache, if_neg (hne h hm)]
    show ((x.uncache handle).1.toList ++ ((x.uncache handle).2.uncacheAll rest).1).map some = _
    rw [hx.uncache_fst, hp, List.map_append, (hx.uncache handle).uncacheAll_fst hrest hlater, hsame,
      List.map_cons, hp]
    rfl

end Tether.Index

namespace Tether

/-! ## Clean-up -/

/-- An object has no time of change or was changed no earlier than `start`. -/
def RemoteObject.FreshFrom (start : Calendar.Stamp) (o : RemoteObject) : Prop :=
  o.metadata.modified = none ∨
    ∃ modified, o.metadata.modified = some modified ∧ modified.stamp.before start = false

namespace Store

open Calendar (Instant Stamp Cutoff longestWindow)
open Index (Accounted SameEntries)

variable {s : Store} {start : Stamp} {handle : UInt32} {o : RemoteObject}

/-- Clocks are able to show every time of change. -/
def TimesShown (s : Store) : Prop :=
  ∀ {handle o modified}, s.index.lookup? handle = some o → o.metadata.modified = some modified → modified.Shown

/-- What a clean-up leaves of the contents: those of the objects that are fresh from `start` on. -/
structure CleanedTo (start : Stamp) (s : Store) (dropped : Nat) (s' : Store) : Prop where
  /-- A cached object stays cached exactly if it is fresh. -/
  cached : ∀ {handle o}, s.index.lookup? handle = some o → o.isCached = true →
    (handle ∈ s'.index.cachedHandles ↔ o.FreshFrom start)
  /-- What stays is used in the same order. -/
  order : s'.index.cachedHandles.Sublist s.index.cachedHandles
  /-- What stays has the same content. -/
  contents : ∀ handle,
    s'.index.payloadAt handle = if handle ∈ s'.index.cachedHandles then s.index.payloadAt handle else none
  /-- What goes is counted. -/
  counted : dropped + s'.index.cachedCount = s.index.cachedCount
  /-- Every handle has the same object as before, but for the content. -/
  entries : SameEntries s.index s'.index
  /-- Nothing but the index changes. -/
  rest : s' = { s with index := s'.index }
  accounted : Accounted s'.index

/-- Where every object is fresh, nothing goes. -/
theorem cleanedTo_self (hx : Accounted s.index)
    (hfresh : ∀ {handle o}, s.index.lookup? handle = some o → o.FreshFrom start) : CleanedTo start s 0 s where
  cached ho hc := iff_of_true (hx.mem_cachedHandles_iff.mpr ⟨_, ho, hc⟩) (hfresh ho)
  order := List.Sublist.refl _
  contents handle := by
    split
    · rfl
    · rename_i hn
      exact hx.payloadAt_of_not_cached hn
  counted := Nat.zero_add _
  entries := Index.sameEntries_of_objects rfl rfl
  rest := rfl
  accounted := hx

theorem mem_staleHandles_iff (ho : s.index.lookup? handle = some o) :
    handle ∈ s.staleHandles start ↔ handle ∈ s.index.cachedHandles ∧ ¬ o.FreshFrom start := by
  unfold staleHandles RemoteObject.FreshFrom
  rw [List.mem_filter, ho, Option.bind_some]
  cases o.metadata.modified <;> simp

/-- The stale handles and the others make up the order of use. -/
theorem length_staleHandles (s : Store) (start : Stamp) :
    (s.staleHandles start).length + (s.index.cachedHandles.filter (· ∉ s.staleHandles start)).length =
      s.index.cachedHandles.length := by
  have hstale : s.index.cachedHandles.filter (· ∈ s.staleHandles start) = s.staleHandles start := by
    refine List.filter_congr fun handle hm => ?_
    unfold staleHandles
    simp only [List.mem_filter, hm, true_and, Bool.decide_eq_true]
  have hlength := List.length_eq_length_filter_add (l := s.index.cachedHandles) (· ∈ s.staleHandles start)
  rw [hstale] at hlength
  simpa using hlength.symm

theorem cleanedTo_uncacheAll (hx : Accounted s.index) (start : Stamp) :
    CleanedTo start s (s.index.uncacheAll (s.staleHandles start)).1.length
      { s with index := (s.index.uncacheAll (s.staleHandles start)).2 } := by
  have hkept := hx.cachedHandles_uncacheAll (s.staleHandles start)
  refine ⟨fun {handle o} ho hc => ?_, ?_, fun handle => ?_, ?_, Index.sameEntries_uncacheAll _ _, rfl,
    hx.uncacheAll _⟩
  · have hmem : handle ∈ s.index.cachedHandles := hx.mem_cachedHandles_iff.mpr ⟨o, ho, hc⟩
    rw [hkept, List.mem_filter, decide_eq_true_iff, mem_staleHandles_iff ho, not_and_not_right]
    exact ⟨fun h => h.2 hmem, fun h => ⟨hmem, fun _ => h⟩⟩
  · rw [hkept]
    exact List.filter_sublist
  · rw [hx.payloadAt_uncacheAll, hkept]
    by_cases hm : handle ∈ s.index.cachedHandles
    · by_cases hs : handle ∈ s.staleHandles start <;> simp [hm, hs]
    · rw [if_neg fun hk => hm (List.mem_filter.mp hk).1, hx.payloadAt_of_not_cached hm, ite_self]
  · have hsub : s.staleHandles start ⊆ s.index.cachedHandles := fun h hm => (List.mem_filter.mp hm).1
    have hnodup : (s.staleHandles start).Nodup := hx.toOrdered.nodup_cachedHandles.filter _
    -- as many contents go as there are stale handles, each of which has one
    have hlength := congrArg List.length (hx.uncacheAll_fst hnodup hsub)
    rw [List.length_map, List.length_map] at hlength
    rw [hlength, Index.cachedCount_eq, Index.cachedCount_eq, hkept]
    exact length_staleHandles s start

/-- What a clean-up does, by where its window starts. -/
theorem cleanup_cases (hx : Accounted s.index) {now : Instant} (hnow : now.Shown) (htimes : s.TimesShown) :
    (s.staleness ≤ longestWindow ∧ (now.stamp.back s.staleness).seconds < Instant.firstSecond ∧
      s.cleanup now = none) ∨
    ((longestWindow < s.staleness ∨ Instant.firstSecond ≤ (now.stamp.back s.staleness).seconds) ∧
      ∃ dropped s', s.cleanup now = some (dropped, s') ∧ CleanedTo (now.stamp.back s.staleness) s dropped s') := by
  unfold cleanup
  rw [Cutoff.back_eq]
  by_cases hlong : longestWindow < s.staleness
  · rw [if_pos hlong]
    refine .inr ⟨.inl hlong, 0, s, rfl, cleanedTo_self hx fun {handle o} ho => ?_⟩
    unfold RemoteObject.FreshFrom
    cases hm : o.metadata.modified with
    | none => exact .inl rfl
    | some modified => exact .inr ⟨modified, rfl, (htimes ho hm).not_before_back hnow hlong⟩
  · rw [if_neg hlong]
    by_cases hearly : (now.stamp.back s.staleness).seconds < Instant.firstSecond
    · rw [if_pos hearly]
      exact .inl ⟨Nat.not_lt.mp hlong, hearly, rfl⟩
    · rw [if_neg hearly]
      exact .inr ⟨.inr (Int.not_lt.mp hearly), _, _, rfl, cleanedTo_uncacheAll hx _⟩

/-- Clean-up drops exactly the stale contents, as long as its window does not reach back before the first day
that clocks are able to show, or is too long to be taken off any moment.  In between it has no answer. -/
theorem stale_contents_dropped (hx : Accounted s.index) {now : Instant} (hnow : now.Shown)
    (htimes : s.TimesShown) :
    ((s.cleanup now).isSome = true ↔
      longestWindow < s.staleness ∨ Instant.firstSecond ≤ (now.stamp.back s.staleness).seconds) ∧
    ∀ {dropped s'}, s.cleanup now = some (dropped, s') → CleanedTo (now.stamp.back s.staleness) s dropped s' := by
  rcases cleanup_cases hx hnow htimes with ⟨hshort, hearly, hnone⟩ | ⟨hwindow, dropped, s', hsome, hcleaned⟩
  · rw [hnone]
    refine ⟨⟨nofun, fun h => ?_⟩, nofun⟩
    rcases h with h | h
    · exact absurd hshort (Nat.not_le.mpr h)
    · exact absurd hearly (Int.not_lt.mpr h)
  · rw [hsome]
    refine ⟨iff_of_true rfl hwindow, fun h => ?_⟩
    cases h
    exact hcleaned

/-! ## A clean-up at one o'clock -/

/-- Noon of 15 March 2024. -/
def noon : Instant where
  date := ⟨2024, 3, 15, by decide⟩
  minute := ⟨720, by decide⟩
  second := 0
  nanosecond := Instant.noFraction

/-- So many minutes later. -/
def pastNoon (minutes : Nat) : Instant :=
  noon.minusMinutes (-minutes)

/-- Three cached contents, used in this order: changed at noon, with no time of change and changed at half past
twelve. -/
def datedContents (staleness : Nat) : Store where
  index :=
    let described : Index := [(1, some (pastNoon 0)), (2, none), (3, some (pastNoon 30))].foldl
      (fun x d => (x.insert { handle := d.1, metadata := { modified := d.2 } }).2) { budget := 25 }
    [(1, [1, 1]), (2, []), (3, [3])].foldl (fun x c => (x.insertCached c.1 c.2).2) described
  plan := { default := 25 }
  staleness := staleness

theorem sound_datedContents (staleness : Nat) : Index.Sound (datedContents staleness).index := by
  have h₁ :=
    (Index.sound_new 25).insert (o := { handle := 1, metadata := { modified := some (pastNoon 0) } }) rfl rfl
  have h₂ := h₁.insert (o := { handle := 2, metadata := {} }) rfl (by decide)
  have h₃ := h₂.insert (o := { handle := 3, metadata := { modified := some (pastNoon 30) } }) rfl (by decide)
  exact ((h₃.insertCached 1 (by decide)).insertCached 2 (by decide)).insertCached 3 (by decide)

theorem timesShown_datedContents (staleness : Nat) : (datedContents staleness).TimesShown := by
  intro handle o modified ho hm
  have hall : ∀ o ∈ (datedContents 0).index.tree.values.map (datedContents 0).index.object,
      ∀ t ∈ o.metadata.modified, t.Shown := by decide +kernel
  obtain ⟨ref, hf, rfl⟩ := Option.map_eq_some_iff.mp ho
  exact hall _ (List.mem_map.mpr ⟨ref, OrderedMap.mem_values_iff.mpr ⟨handle, hf⟩, rfl⟩) modified hm

/-- With a window of 45 minutes the content that was changed an hour before goes. -/
theorem stale_contents_dropped_dated :
    Accounted (datedContents 2700).index ∧ (pastNoon 60).Shown ∧ (datedContents 2700).TimesShown ∧
      ∃ dropped s', (datedContents 2700).cleanup (pastNoon 60) = some (dropped, s') ∧
        CleanedTo ((pastNoon 60).stamp.back 2700) (datedContents 2700) dropped s' ∧
        dropped = 1 ∧ s'.index.cachedHandles = [2, 3] := by
  have hx := (sound_datedContents 2700).toAccounted
  have hnow : (pastNoon 60).Shown := by decide +kernel
  have hcleaned := stale_contents_dropped hx hnow (timesShown_datedContents 2700)
  obtain ⟨⟨dropped, s'⟩, hc⟩ := Option.isSome_iff_exists.mp (hcleaned.1.mpr (by decide +kernel))
  have hresult : ((datedContents 2700).cleanup (pastNoon 60)).map
      (fun r => (r.1, r.2.index.cachedHandles)) = some (1, [2, 3]) := by decide +kernel
  simp only [hc, Option.map_some, Option.some.injEq, Prod.mk.injEq] at hresult
  exact ⟨hx, hnow, timesShown_datedContents 2700, dropped, s', hc, hcleaned.2 hc, hresult⟩

/-- A window of 10^13 seconds is no longer than the longest one and reaches back before the first day: the
clean-up of an accounted store ends without an answer. -/
theorem cleanup_before_first_day :
    Accounted (datedContents 10000000000000).index ∧ (pastNoon 60).Shown ∧ 10000000000000 ≤ longestWindow ∧
      (datedContents 10000000000000).cleanup (pastNoon 60) = none :=
  ⟨(sound_datedContents _).toAccounted, by decide +kernel, by decide, by decide +kernel⟩

end Store

end Tether
