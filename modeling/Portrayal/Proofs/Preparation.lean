import Portrayal.Proofs.Drafts
import Portrayal.Proofs.Drawing
import Portrayal.Proofs.Loading

/-!
Styles resolved ahead of time. A sublayer under rules can be loaded in two shapes: with one binding for
all its features, which resolves their styles when it draws them, or with a binding for each, whose
styles are resolved while the scene is loaded. The former sees the zoom level of the view and the
identity of a feature, the latter the zoom level of the scene and nothing but the attributes. The two
shapes draw the same exactly if this makes no difference to any of the features.
-/

namespace Portrayal

open Loading

/-! ### What a rule sees -/

namespace RuleSpec

variable {spec : RuleSpec}

/-- Whether a rule finds in the attributes of a feature what it finds once the identity of the feature
is among them. -/
def Blind (spec : RuleSpec) (f : Feature) : Prop :=
  spec.attributeName = some "featureID" → f.attributes.get? "featureID" = some (.integer f.id)

/-- A rule that is blind to the identity of a feature has the same value with and without it, at zoom
levels that its bounds do not tell apart, however often it is loaded. -/
theorem Gives.evaluate {q r : Rule} (hq : spec.Gives q) (hr : spec.Gives r) {f : Feature}
    (hblind : spec.Blind f) {zoom zoom' : Float} (hzoom : spec.admits zoom = spec.admits zoom')
    (filter : Option Bool) :
    q.evaluate ⟨f.exposed, zoom', filter⟩ = r.evaluate ⟨f.attributes, zoom, filter⟩ := by
  have hqr := (hq.unique hr).2
  obtain ⟨-, e, he, hr⟩ := hr
  have hinner : e ⟨f.exposed, zoom', filter⟩ = e ⟨f.attributes, zoom, filter⟩ := by
    -- a constant looks at nothing, and an attribute can differ only if it is the identity
    rcases he with ⟨-, -, -⟩ | @⟨name, -, hname⟩
    · rfl
    · have hget : f.exposed.get? name = f.attributes.get? name := by
        rw [Feature.exposed, Attributes.get?_insert]
        by_cases hid : name = Feature.idAttribute
        · rw [if_pos hid, hid]
          exact (hblind (hname.trans (congrArg some hid))).symm
        · rw [if_neg hid]
      exact congrArg (fun v => v.bind Value.ofJson?) hget
  simp only [Rule.evaluate, hqr, hr, hzoom, hinner]

end RuleSpec

/-! ### What the two shapes draw -/

/-- A draw wherever it happened. -/
def Draw.unplaced (d : Draw) : Draw := { d with surfaces := none }

/-- The draw of a feature in a style while nothing is highlighted, wherever it happens. -/
def Feature.sketch (f : Feature) (order : UInt32) (style : Style) : Draw :=
  { feature := f.id
    kind := f.kind
    highlighted := false
    layerIndex := some order
    surfaces := none
    style }

theorem Feature.sketch_inj {f : Feature} {order : UInt32} {style style' : Style} :
    f.sketch order style = f.sketch order style' ↔ style = style' :=
  ⟨fun h => congrArg Draw.style h, fun h => by rw [h]⟩

/-- Drawing a sublayer without a highlight goes through and adds some draws, up to their surfaces. -/
def Sublayer.Sketches (t : Sublayer) (pass : Pass) (list : DisplayList) (sketches : List Draw) :
    Prop :=
  (t.redraw pass.unlit list).fault = none ∧ ∃ ds,
    (t.redraw pass.unlit list).state.2.draws = list.draws ++ ds ∧ ds.map Draw.unplaced = sketches

namespace SublayerSpec

variable {spec : SublayerSpec} {shader : Shader}

/-- The paint order of a sublayer in a scene. -/
def order (spec : SublayerSpec) : UInt32 := (OriginIndex.ofOption spec.options.originIndex).paintOrder

/-- The draws of the features of a sublayer in styles of theirs; none if it is hidden. -/
def sketches (spec : SublayerSpec) (style : Feature → Style) : List Draw :=
  if spec.options.visible then spec.features.map fun f => f.sketch spec.order (style f) else []

/-- A sublayer whose bindings go through draws what they draw, unless it is hidden. -/
theorem sketches_holding {c : Contents} {pass : Pass} {style : Feature → Style}
    (hok : ∀ b ∈ c.bindings, (b.course pass.unlit spec.order c.features).fault = none)
    (hdraws : (c.bindings.flatMap fun b => b.draws pass.unlit spec.order c.features).map
      Draw.unplaced = spec.features.map fun f => f.sketch spec.order (style f))
    (list : DisplayList) : (spec.holding c).Sketches pass list (spec.sketches style) := by
  obtain ⟨hfault, hadded⟩ := Sublayer.redraw_of_courses (s := spec.holding c) rfl hok list
  refine ⟨hfault, _, hadded, ?_⟩
  change (if spec.options.visible then _ else []).map Draw.unplaced = _
  rw [sketches]
  cases spec.options.visible with
  | false => rfl
  | true => exact hdraws

/-- One binding for all features draws them in the styles that the rules give them in the view. -/
theorem sketches_shared (spec : SublayerSpec) (surfaces : Surfaces) (pass : Pass)
    (list : DisplayList) :
    (spec.holding ⟨spec.features, [.make (escapeLayerName spec.name) .sublayer
      (some (.rules shader)) surfaces]⟩).Sketches pass list (spec.sketches fun f =>
        (Style.baseOfRules f.kind f.exposed pass.zoom shader.rules).value) := by
  have hstrokes : (Binding.make (escapeLayerName spec.name) .sublayer (some (.rules shader))
      surfaces).strokes pass.unlit spec.order surfaces spec.features =
        ⟨spec.features.map fun f => f.record none spec.order surfaces
          (Style.baseOfRules f.kind f.exposed pass.zoom shader.rules).value, none⟩ :=
    Course.along_of_ok fun _ _ => rfl
  refine sketches_holding ?_ ?_ list
  · intro b hb
    rw [List.mem_singleton.mp hb, Binding.course_of_ready rfl rfl, hstrokes]
    rfl
  · rw [List.flatMap_singleton, Binding.draws_of_ready rfl rfl, hstrokes, List.map_map]
    rfl

/-- A binding of a prepared feature draws it in the style that it carries. -/
theorem strokes_prepared (shader : Shader) (name : String) (zoom : Float) (f : Feature)
    (surfaces : Surfaces) (pass : Pass) (order : UInt32) (features : List Feature) :
    (Binding.make name (.feature (prepared zoom (some (.rules shader)) f)) (some (.rules shader))
      surfaces).strokes pass.unlit order surfaces features =
        ⟨[f.record none order surfaces
          (Style.baseOfRules f.kind f.attributes zoom shader.rules).value], none⟩ := by
  have hstyle : ((prepared zoom (some (.rules shader)) f).ownStyle pass.unlit
      (some (.rules shader)) none).value =
        .ok (Style.baseOfRules f.kind f.attributes zoom shader.rules).value := rfl
  rw [Binding.strokes_own_of_ok rfl hstyle]
  rfl

/-- Bindings of prepared features all go through and draw them in the styles that they carry. -/
theorem draws_prepared (name : String) (zoom : Float) (pass : Pass) (order : UInt32)
    (others : List Feature) {features : List Feature} {bindings : List Binding}
    (h : List.Forall₂ (fun f b => ∃ surfaces, b = .make name
      (.feature (prepared zoom (some (.rules shader)) f)) (some (.rules shader)) surfaces)
        features bindings) :
    (∀ b ∈ bindings, (b.course pass.unlit order others).fault = none) ∧
      (bindings.flatMap fun b => b.draws pass.unlit order others).map Draw.unplaced =
        features.map fun f => f.sketch order
          (Style.baseOfRules f.kind f.attributes zoom shader.rules).value := by
  induction h with
  | nil => simp
  | @cons f b features bindings hb _ ih =>
    obtain ⟨surfaces, rfl⟩ := hb
    have hstrokes := strokes_prepared shader name zoom f surfaces pass order others
    refine ⟨?_, ?_⟩
    · intro b hb
      rcases List.mem_cons.mp hb with rfl | hb
      · rw [Binding.course_of_ready rfl rfl, hstrokes]
        rfl
      · exact ih.1 b hb
    · rw [List.flatMap_cons, List.map_append, ih.2, Binding.draws_of_ready rfl rfl, hstrokes]
      rfl

/-- Bindings for each of the features draw them in the styles that the rules give their attributes at
the zoom level of the scene. -/
theorem sketches_own (spec : SublayerSpec) (zoom : Float) {bindings : List Binding}
    (hbindings : List.Forall₂ (fun f b => ∃ surfaces, b = .make (escapeLayerName spec.name)
      (.feature (prepared zoom (some (.rules shader)) f)) (some (.rules shader)) surfaces)
        spec.features bindings) (pass : Pass) (list : DisplayList) :
    (spec.holding ⟨[], bindings⟩).Sketches pass list (spec.sketches fun f =>
      (Style.baseOfRules f.kind f.attributes zoom shader.rules).value) := by
  obtain ⟨hok, hdraws⟩ := draws_prepared (escapeLayerName spec.name) zoom pass spec.order [] hbindings
  refine sketches_holding ?_ ?_ list
  · exact hok
  · exact hdraws

theorem sketches_eq_iff (spec : SublayerSpec) (style style' : Feature → Style) :
    spec.sketches style = spec.sketches style' ↔
      (spec.options.visible = true → ∀ f ∈ spec.features, style f = style' f) := by
  rw [sketches, sketches]
  cases spec.options.visible with
  | false => simp
  | true =>
    rw [if_pos rfl, if_pos rfl, List.map_inj_left]
    simp only [Feature.sketch_inj, forall_const]

/-- Without a highlight, a sublayer under rules loads in both shapes or stops with the same fault in
both. If it loads, either shape draws all its features: one in the styles that the rules give them in
the view, with their identities, the other in those that the rules give them in the scene, without.
The two draw alike exactly if these are the same styles, and they are if no rule has zoom bounds that
tell the two zoom levels apart and none sees an identity that its feature does not hold itself. -/
theorem sketches_shared_eq_own (spec : SublayerSpec) {rules : List RuleSpec}
    (hservice : spec.serviceStyle = none) (hrules : spec.rules = some rules) (zoom : Float)
    (pass : Pass) (s s' : LoadState) (list list' : DisplayList) :
    let shared : Loading Sublayer := load zoom { spec with perFeature := false }
    let own : Loading Sublayer := load zoom { spec with perFeature := true }
    (∃ fault, StopsWith s shared fault ∧ StopsWith s' own fault) ∨
      ∃ loaded, List.Forall₂ RuleSpec.Gives rules loaded ∧
        let seen := fun f : Feature =>
          let attributes := f.attributes.insert "featureID" (.integer f.id)
          (Style.baseOfRules f.kind attributes pass.zoom loaded).value
        let kept := fun f : Feature => (Style.baseOfRules f.kind f.attributes zoom loaded).value
        (Ensures s shared fun t _ => t.Sketches pass list (spec.sketches seen)) ∧
          (Ensures s' own fun u _ => u.Sketches pass list' (spec.sketches kept)) ∧
          (spec.sketches seen = spec.sketches kept ↔
            (spec.options.visible = true → ∀ f ∈ spec.features, seen f = kept f)) ∧
          ((∀ r ∈ rules, r.admits zoom = r.admits pass.zoom ∧ ∀ f ∈ spec.features, r.Blind f) →
            spec.sketches seen = spec.sketches kept) := by
  intro shared own
  rcases loadSource_ruled hservice hrules with hsource | ⟨fault, hfault⟩
  · obtain ⟨t, _, hrun, source, surfaces, ⟨shader, rfl, hshader⟩, rfl⟩ :=
      load_shared { spec with perFeature := false } rfl (hsource s) zoom
    obtain ⟨u, _, hrun', source, bindings, ⟨shader', rfl, hshader'⟩, rfl, hbindings⟩ :=
      load_own { spec with perFeature := true } rfl (hsource s') zoom
    -- the rules of the second load may have other records than those of the first one
    have hsame : ∀ f : Feature, (Style.baseOfRules f.kind f.attributes zoom shader'.rules).value =
        (Style.baseOfRules f.kind f.attributes zoom shader.rules).value := fun f =>
      Style.baseOfRules_congr (RuleSpec.forall₂_of_gives hshader' hshader fun _ _ q r hq hr =>
        ⟨(hq.unique hr).1, congrFun (hq.unique hr).2 _⟩)
    have hown := sketches_own spec zoom hbindings pass list'
    simp only [hsame] at hown
    refine .inr ⟨shader.rules, hshader, ⟨_, _, hrun, sketches_shared spec surfaces pass list⟩,
      ⟨_, _, hrun', hown⟩, sketches_eq_iff spec _ _, fun h => (sketches_eq_iff spec _ _).mpr ?_⟩
    intro _ f hf
    exact Style.baseOfRules_congr (RuleSpec.forall₂_of_gives hshader hshader fun r hr _ _ hq hq' =>
      ⟨(hq.unique hq').1, hq.evaluate hq' ((h r hr).2 f hf) (h r hr).1 _⟩)
  · exact .inl ⟨fault, (hfault s).bind _, (hfault s').bind _⟩

/-- Roads whose cap a rule reads from the attribute that holds their identity. -/
def numbered : SublayerSpec :=
  { name := "roads"
    options := {}
    serviceStyle := none
    rules := some [⟨"line-cap", none, some Feature.idAttribute, none, none⟩]
    perFeature := false
    features := [{ id := 7, geometry := { kind := .line, coordinates := [(0, 0), (8, 8)] } }] }

/-- The rule finds the identity of the road in the view and not while the scene is loaded, so the two
shapes draw the road differently. -/
theorem sketches_numbered : numbered.serviceStyle = none ∧ ∃ ds es,
    (Ensures .initial (load 3 { numbered with perFeature := false }) fun t _ =>
      t.Sketches ⟨.ofUrl "", 3⟩ .empty ds) ∧
    (Ensures .initial (load 3 { numbered with perFeature := true }) fun u _ =>
      u.Sketches ⟨.ofUrl "", 3⟩ .empty es) ∧ ds ≠ es := by
  refine ⟨rfl, ?_⟩
  rcases sketches_shared_eq_own numbered rfl rfl 3 ⟨.ofUrl "", 3⟩ .initial .initial .empty .empty with
    ⟨fault, ⟨_, hstops⟩, -⟩ | ⟨loaded, hloaded, hshared, hown, hiff, -⟩
  · have hloads : ((load 3 { numbered with perFeature := false }).run.run .initial).1.isOk = true :=
      rfl
    rw [hstops] at hloads
    exact absurd hloads (by simp [Except.isOk, Except.toBool])
  · refine ⟨_, _, hshared, hown, fun h => ?_⟩
    obtain _ | @⟨_, r, _, _, ⟨hproperty, e, he, hevaluator⟩, hnone⟩ := hloaded
    obtain ⟨property, evaluator, record⟩ := r
    cases hnone
    obtain rfl : property = "line-cap" := hproperty
    obtain rfl : Evaluator.ofAttribute Feature.idAttribute = e :=
      Except.ok.inj (RuleSpec.evaluator?_eq_ok_iff.mpr he)
    obtain rfl : evaluator = _ := hevaluator
    have hroad := hiff.mp h rfl _ List.mem_cons_self
    have hcap : none = some "butt" := congrArg (fun style => style.text? .lineCap) hroad
    exact absurd hcap (by simp)

end SublayerSpec

end Portrayal
