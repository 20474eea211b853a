import Portrayal.Proofs.Loading

/-!
What a loaded scene is like. Loading is a sequence of steps that each go through or stop, and a sequence
goes through exactly if its steps do, one after another. So a scene that loads can be taken apart: its
fill images have bitmaps, each of its sublayers was loaded from some state, and so was its highlight.
The highlight comes last and reads nothing of the rest but the sublayers, which are the same whatever
the highlight section says.
-/

namespace Portrayal

namespace Loading

variable {α β : Type} {s t : LoadState} {step : Loading α} {next : α → Loading β} {a a' : α} {b : β}

/-- From a state, the step goes through with a result and leaves a state. -/
def Goes (s : LoadState) (step : Loading α) (a : α) (t : LoadState) : Prop :=
  step.run.run s = (.ok a, t)

/-- What a step ensures holds of whatever it goes through with. -/
theorem Goes.holds {post : α → LoadState → Prop} (h : Goes s step a t) (hpost : Ensures s step post) :
    post a t := by
  obtain ⟨a', t', hrun, hpost⟩ := hpost
  obtain ⟨hresult, hstate⟩ := Prod.mk.inj (h.symm.trans hrun)
  rw [Except.ok.inj hresult, hstate]
  exact hpost

theorem Goes.ensures (h : Goes s step a t) : Ensures s step fun _ _ => True := ⟨a, t, h, trivial⟩

theorem goes_pure : Goes s (pure a) a' t ↔ a' = a ∧ t = s := by
  constructor
  · intro h
    obtain ⟨hresult, hstate⟩ := Prod.mk.inj h
    exact ⟨(Except.ok.inj hresult).symm, hstate.symm⟩
  · rintro ⟨rfl, rfl⟩
    rfl

theorem not_goes_throw {fault : LoadFault} : ¬ Goes s (throw fault) a t := by
  intro h
  exact absurd (Prod.mk.inj h).1 (by simp)

/-- What is checked outside of loading goes through as it is and leaves the state alone. -/
theorem goes_lift {result : Except LoadFault α} :
    Goes s (liftM result) a t ↔ result = .ok a ∧ t = s := by
  cases result with
  | error fault =>
    constructor
    · intro h
      exact absurd h not_goes_throw
    · intro h
      exact absurd h.1 (by simp)
  | ok a' =>
    rw [Except.ok.injEq, eq_comm (a := a')]
    exact goes_pure

/-- Two steps go through one after the other exactly if the first one does and then the second. -/
theorem goes_bind :
    Goes s (step >>= next) b t ↔ ∃ a s', Goes s step a s' ∧ Goes s' (next a) b t := by
  constructor
  · intro h
    rcases hrun : step.run.run s with ⟨fault | a, s'⟩
    · rw [Goes, run_bind_of_error hrun] at h
      exact absurd (Prod.mk.inj h).1 (by simp)
    · rw [Goes, run_bind_of_ok hrun] at h
      exact ⟨a, s', hrun, h⟩
  · rintro ⟨a, s', hstep, hnext⟩
    exact (run_bind_of_ok hstep).trans hnext

theorem run_within (place : LoadFault → LoadFault) (step : Loading α) (s : LoadState) :
    (within place step).run.run s =
      ((step.run.run s).1.mapError place, (step.run.run s).2) := by
  rcases hrun : step.run.run s with ⟨fault | a, s'⟩
  all_goals
    have hstep : StateT.run step s = _ := hrun
    simp only [within, tryCatch, tryCatchThe, MonadExceptOf.tryCatch, ExceptT.tryCatch,
      ExceptT.run_mk, StateT.run_bind, hstep]
    rfl

/-- Telling the place of a fault makes no difference to a step that goes through. -/
theorem goes_within {place : LoadFault → LoadFault} :
    Goes s (within place step) a t ↔ Goes s step a t := by
  rw [Goes, Goes, run_within]
  rcases step.run.run s with ⟨fault | a', s'⟩
  · constructor
    · intro h
      exact absurd (Prod.mk.inj h).1 (by simp [Except.mapError])
    · intro h
      exact absurd (Prod.mk.inj h).1 (by simp)
  · exact Iff.rfl

/-- A step for the first item of a list, and then the ones for the others. -/
theorem goes_mapM_cons {f : α → Loading β} {items : List α} {results : List β} :
    Goes s ((a :: items).mapM f) results t ↔ ∃ b s' rest, Goes s (f a) b s' ∧
      Goes s' (items.mapM f) rest t ∧ results = b :: rest := by
  rw [List.mapM_cons]
  constructor
  · intro h
    obtain ⟨b, s', hfirst, h⟩ := goes_bind.mp h
    obtain ⟨rest, s'', hrest, h⟩ := goes_bind.mp h
    obtain ⟨rfl, rfl⟩ := goes_pure.mp h
    exact ⟨b, s', rest, hfirst, hrest, rfl⟩
  · rintro ⟨b, s', rest, hfirst, hrest, rfl⟩
    exact goes_bind.mpr ⟨b, s', hfirst, goes_bind.mpr ⟨rest, t, hrest, goes_pure.mpr ⟨rfl, rfl⟩⟩⟩

/-- Steps for the items of a list that all go through do so one by one. -/
theorem goes_mapM {f : α → Loading β} : ∀ {items : List α} {results : List β} {s t : LoadState},
    Goes s (items.mapM f) results t →
      List.Forall₂ (fun a b => ∃ s s', Goes s (f a) b s') items results
  | [], results, s, t, h => by
    rw [List.mapM_nil, goes_pure] at h
    rw [h.1]
    exact .nil
  | a :: items, results, s, t, h => by
    obtain ⟨b, s', rest, hfirst, hrest, rfl⟩ := goes_mapM_cons.mp h
    exact .cons ⟨s, s', hfirst⟩ (goes_mapM hrest)

end Loading

open Loading

namespace SublayerSpec

variable {spec : SublayerSpec} {zoom : Float} {u : Sublayer} {s t : LoadState}

/-- A sublayer that loads without bindings for each feature has one binding for all of them. -/
theorem goes_load_shared (h : Goes s (spec.load zoom) u t) (hshape : spec.perFeature = false) :
    ∃ source surfaces, u = spec.holding
      ⟨spec.features, [.make (escapeLayerName spec.name) .sublayer source surfaces]⟩ := by
  obtain ⟨source, s', hsource, -⟩ := goes_bind.mp h
  obtain ⟨source, surfaces, -, hu⟩ := h.holds (load_shared spec hshape hsource.ensures zoom)
  exact ⟨source, surfaces, hu⟩

/-- A sublayer that loads is live and carries what its spec says. -/
theorem goes_load (h : Goes s (spec.load zoom) u t) : ∃ c, u = spec.holding c := by
  cases hshape : spec.perFeature with
  | false =>
    obtain ⟨source, surfaces, hu⟩ := goes_load_shared h hshape
    exact ⟨_, hu⟩
  | true =>
    obtain ⟨source, s', hsource, -⟩ := goes_bind.mp h
    obtain ⟨source, bindings, -, hu, -⟩ := h.holds (load_own spec hshape hsource.ensures zoom)
    exact ⟨_, hu⟩

end SublayerSpec

namespace Scene

variable {scene : Scene} {loaded : LoadedScene}

/-- The highlight of a scene with these sublayers; none if it has no section for it. -/
def lighting (scene : Scene) (sublayers : List Sublayer) : Loading Highlight :=
  match scene.highlight with
  | some spec => spec.load sublayers
  | none => pure .empty

theorem loading_eq (scene : Scene) : scene.loading = (do
    let images ← scene.loadFillImages
    let sublayers ← scene.sublayers.mapM fun spec =>
      within (.inSublayer spec.name) (spec.load scene.zoom)
    let highlight ← scene.lighting sublayers
    return ⟨⟨scene.layerUrl, images, highlight⟩, sublayers⟩) := by
  obtain ⟨url, zoom, highlight, images, sublayers⟩ := scene
  cases highlight <;> rfl

/-- The part of a scene before its highlight loads: bitmaps and sublayers, and the state that it
leaves. -/
def Stages (scene : Scene) (images : FillImages) (sublayers : List Sublayer) (s : LoadState) : Prop :=
  scene.loadFillImages = .ok images ∧
    Goes .initial (scene.sublayers.mapM fun spec =>
      within (.inSublayer spec.name) (spec.load scene.zoom)) sublayers s

/-- A scene loads exactly if it stages and then its highlight loads, with the notices that came up. -/
theorem load_eq_ok_iff {notices : List Notice} : scene.load = ⟨.ok loaded, notices⟩ ↔
    ∃ images sublayers s highlight t, scene.Stages images sublayers s ∧
      Goes s (scene.lighting sublayers) highlight t ∧ t.notices = notices ∧
      loaded = ⟨⟨scene.layerUrl, images, highlight⟩, sublayers⟩ := by
  have hrun : scene.load = ⟨.ok loaded, notices⟩ ↔
      ∃ t, Goes .initial scene.loading loaded t ∧ t.notices = notices := by
    constructor
    · intro h
      exact ⟨_, Prod.ext (congrArg Noted.value h) rfl, congrArg Noted.notices h⟩
    · rintro ⟨t, h, rfl⟩
      rw [load, show (scene.loading.run).run .initial = _ from h]
  rw [hrun, loading_eq]
  constructor
  · rintro ⟨t, h, hnotices⟩
    obtain ⟨images, s₀, hlift, h⟩ := goes_bind.mp h
    obtain ⟨himages, rfl⟩ := goes_lift.mp hlift
    obtain ⟨sublayers, s, hsublayers, h⟩ := goes_bind.mp h
    obtain ⟨highlight, t', hhighlight, h⟩ := goes_bind.mp h
    obtain ⟨rfl, rfl⟩ := goes_pure.mp h
    exact ⟨images, sublayers, s, highlight, t, ⟨himages, hsublayers⟩, hhighlight, hnotices, rfl⟩
  · rintro ⟨images, sublayers, s, highlight, t, ⟨himages, hsublayers⟩, hhighlight, hnotices, rfl⟩
    refine ⟨t, goes_bind.mpr ⟨images, .initial, goes_lift.mpr ⟨himages, rfl⟩, ?_⟩, hnotices⟩
    refine goes_bind.mpr ⟨sublayers, s, hsublayers, ?_⟩
    exact goes_bind.mpr ⟨highlight, t, hhighlight, goes_pure.mpr ⟨rfl, rfl⟩⟩

/-- The sublayers of a scene that stages were loaded one by one. -/
theorem Stages.sublayers {images : FillImages} {sublayers : List Sublayer} {s : LoadState}
    (h : scene.Stages images sublayers s) :
    List.Forall₂ (fun spec u => ∃ s t, Goes s (spec.load scene.zoom) u t)
      scene.sublayers sublayers := by
  refine (goes_mapM h.2).imp ?_
  rintro spec u ⟨s, t, h⟩
  exact ⟨s, t, goes_within.mp h⟩

/-- Every sublayer of a scene that stages is identified by its escaped name. -/
theorem Stages.id_eq {images : FillImages} {sublayers : List Sublayer} {s : LoadState}
    (h : scene.Stages images sublayers s) : ∀ u ∈ sublayers, u.id = escapeLayerName u.layerName := by
  replace h := h.sublayers
  generalize scene.sublayers = specs at h
  induction h with
  | nil => simp
  | @cons spec u specs sublayers hu _ ih =>
    obtain ⟨s, t, hu⟩ := hu
    obtain ⟨c, rfl⟩ := SublayerSpec.goes_load hu
    exact List.forall_mem_cons.mpr ⟨rfl, ih⟩

end Scene

end Portrayal
