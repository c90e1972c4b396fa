import Tether.Proofs.Cache.Contents
import Tether.Proofs.Host.Described

/-!
# Tether.Proofs.Host.Cached — what is cached is what the camera has

Contents come into the cache by downloads alone.  A download brings what the camera has under the handle, or
nothing: an armed fault may answer that all is well without data, and content that is too long for a container is
not sent.  As long as the camera has handles left, no other content comes under a handle, so whatever is cached
later on is empty or what the camera has there, if it has anything (`Operated.held`).
-/

namespace Tether

open Ptp Tether.Action
open Camera (Change Spares Bears)
open Engine (Calm HasHandle)
open Index (Held)

/-- A camera sends all of an object. -/
theorem Camera.leaves_sendObject (handle : UInt32) (c : Camera) :
    (performInSession .getObject [handle] none).Leaves c
    (fun reply _ => ∃ o, c.objects.get? handle = some o ∧ reply.data = some o.data)
    fun _ _ => c.objects.get? handle = none := by
  refine leaves_bind ((leaves_findObject handle c).mono ?_ fun _ _ he => he)
  rintro o c' ⟨-, ho⟩
  exact leaves_pure ⟨o, ho, rfl⟩

/-- A download brings what the camera has, or nothing. -/
theorem Engine.leaves_download {e : Engine Camera} (h : Calm e) (handle : UInt32) : (download handle).Leaves e
    (fun data e' => e.link.Alike e'.link ∧
      (data = [] ∨ ∃ o, e'.link.objects.get? handle = some o ∧ data = o.data))
    fun _ e' => e.link.Alike e'.link := by
  refine leaves_bind ((leaves_executeOk h (by decide) _).mono ?_ fun _ _ he => he.2)
  rintro response e' ⟨-, hobeyed⟩
  refine leaves_pure ?_
  generalize e'.link = c' at hobeyed
  cases hobeyed with
  | pretended hparameters hdata halike => exact ⟨halike, .inl (by rw [hdata]; rfl)⟩
  | @performed c₁ c₂ _ reply halike hperform halike' =>
    have hperform' : Camera.perform .getObject [handle] none c₁ = (.ok reply, c₂) := hperform
    rw [Camera.perform_eq (by decide) (by decide)] at hperform'
    split at hperform'
    · have hasks : Camera.Asks .getObject := trivial
      have hsame := (Camera.watching_performInSession hasks [handle] none c₁).1
      rw [hperform'] at hsame
      obtain rfl : c₂ = c₁ := hsame
      obtain ⟨o, ho, hdata⟩ := (Camera.leaves_sendObject handle c₂).1 reply c₂ hperform'
      refine ⟨halike.trans halike', ?_⟩
      rw [Response.data_ofAnswer, hdata, fitting_eq_getD]
      unfold fitting
      split
      · exact .inr ⟨o, halike'.objects ▸ ho, rfl⟩
      · exact .inl rfl
    · cases hperform'

/-- A content that may be cached for a handle: an empty one, or the one that the camera has. -/
def Camera.Fills (c : Camera) (handle : UInt32) (payload : Bytes) : Prop :=
  payload = [] ∨ c.Bears handle payload

theorem Camera.Change.fills {c c' : Camera} (h : Change c c') (hspare : Spares c c') {handle : UInt32}
    {payload : Bytes} (hf : c.Fills handle payload) : c'.Fills handle payload :=
  hf.imp_right fun hb => h.bears hb hspare

/-- That the camera has what an index holds lasts, as long as it has handles left. -/
theorem Engine.lasting_held (x : Index) : Lasting HasHandle fun e => Calm e ∧ Held e.link.Fills x :=
  lasting_of_change (P := fun c => Held c.Fills x) fun hchange hspare hx => hx.mono fun hf =>
    hchange.fills hspare hf

/-- What is cached is what the camera has. -/
theorem Host.held_cache {h : Host Camera} (hcalm : Calm h.bay.engine) (hroot : Index.Rooted h.store.index)
    (hnumbered : h.bay.engine.link.Numbered) (hx : Held h.bay.engine.link.Fills h.store.index) (ref : ObjectRef) :
    Held (cache ref h).2.bay.engine.link.Fills (cache ref h).2.store.index := by
  have hheld : ∀ {e : Engine Camera}, h.bay.engine.link.Alike e.link → Held e.link.Fills h.store.index :=
    fun halike => hx.mono fun hf => halike.change.fills halike.spares hf
  refine Leaves.state (P := fun h' : Host Camera => Held h'.bay.engine.link.Fills h'.store.index) ?_
  unfold cache
  refine leaves_bind (leaves_state ?_)
  dsimp only
  split
  · exact leaves_bind (leaves_change (leaves_pure ((Index.drained_held _).touch _ hx)))
  · split
    · exact leaves_pure hx
    · refine leaves_bind (leaves_call_of ((Engine.leaves_download hcalm _).mono ?_ fun _ _ halike => hheld halike))
      rintro payload e ⟨halike, hdata⟩
      refine leaves_bind (leaves_change ?_)
      split
      · exact leaves_pure (hheld halike)
      · refine leaves_ofFunction ((hheld halike).insertCached hroot ?_)
        rcases hdata with hempty | ⟨o, ho, rfl⟩
        · exact .inl hempty
        · exact .inr ((halike.change.numbered hnumbered halike.spares).bears ho)

/-- Whatever is done to hosts and cameras, contents that are cached or that are left behind are empty or what the
camera has, as long as it has a handle left for each that is used up. -/
theorem Operated.held {h : Host Camera} (hr : Operated HasHandle h) :
    Held h.bay.engine.link.Fills h.store.index := by
  have hdrained : ∀ {c : Camera}, Drained True (Held c.Fills) := fun {c} => Index.drained_held c.Fills
  have hupdate : ∀ {h : Host Camera} (f : Bay Camera → Bay Camera),
      Held (f h.bay).engine.link.Fills h.store.index →
      Held (h.updateBay f).bay.engine.link.Fills (h.updateBay f).store.index :=
    fun f hx => hdrained.followAll _ hx
  induction hr with
  | new budget staleness _ _ => exact hdrained.new budget
  | @store c h hr hplain hmay ih =>
    have hlasts := (c.lasts_run (Engine.lasting_held h.store.index) hplain ⟨hr.calm, ih⟩ hmay).2
    by_cases hcache : ∃ ref, c = .cache ref
    · obtain ⟨ref, rfl⟩ := hcache
      exact Host.held_cache hr.calm hr.reached.linked.toRooted hr.matches_camera.numbered ih ref
    · exact hdrained.run c (fun ref heq => hcache ⟨ref, heq⟩) hlasts (.inl trivial)
  | @bay c h hr hplain ih =>
    exact hupdate _ (c.lasts_run (Engine.lasting_held h.store.index) hplain ⟨hr.calm, ih⟩).2
  | @request r h hr hmay ih =>
    exact hupdate _ ((Engine.lasting_held h.store.index).request r ⟨hr.calm, ih⟩ hmay).2
  | @idle f h hr hf ih => exact hupdate _ ((hf h.bay.engine).1 ▸ ih)
  | @camera s h hr hmay ih =>
    exact hupdate _ (ih.mono fun hf => (s.change h.bay.engine.link).fills (s.spares hmay) hf)

end Tether
