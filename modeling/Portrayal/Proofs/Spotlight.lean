import Portrayal.Proofs.LoadedHighlight

/-!
What a highlight makes of a scene. A scene with a highlight section loads only if it also does without
it, and then its sublayers are the same. A sublayer whose features share a binding is drawn feature by
feature in both scenes: a draw is marked exactly if the section reaches the sublayer, and its style is
the one of the scene without the section, with the rules of the section written over it if they are for
the feature:

```
                       section covers the feature     it does not
  section reaches      marked, base with rules        marked, base
  it does not          not marked, base               not marked, base
```

How often and in which order the section lists sublayers and features makes no difference to any redraw.
-/

namespace Portrayal

open Loading

/-! ### Passes with the same shaders -/

section Congruence

variable {pass pass' : Pass} {order : UInt32}

/-- Drawing features under a shader does not look for another one. -/
theorem Binding.drawFeatures_unlit (pass : Pass) (source : Option StyleSource)
    (shader : Option Shader) (order : UInt32) : ∀ (features : List Feature) (list : DisplayList),
      drawFeatures pass source shader order features list =
        drawFeatures pass.unlit source shader order features list
  | [], _ => rfl
  | f :: rest, list => by
    simp only [drawFeatures, drawFeatures_unlit pass source shader order rest]
    rfl

theorem Binding.drawOwn_unlit (pass : Pass) (source : Option StyleSource) (shader : Option Shader)
    (order : UInt32) (f : Feature) (list : DisplayList) :
    drawOwn pass source shader order f list = drawOwn pass.unlit source shader order f list := rfl

/-- Of the highlight of a layer, a binding sees the shader that applies to its sublayer. -/
theorem Binding.render_congr (hlayer : pass.unlit = pass'.unlit) {b : Binding}
    (hshader : b.shader pass = b.shader pass') (order : UInt32) (features : List Feature)
    (list : DisplayList) : b.render pass order features list = b.render pass' order features list := by
  rcases b.ready_or_not with hready | ⟨surfaces, hstage, hsurfaces⟩
  · rw [render_of_not_ready hready, render_of_not_ready hready]
  · cases hscope : b.scope with
    | sublayer =>
      rw [render_shared hstage hsurfaces hscope, render_shared hstage hsurfaces hscope, hshader,
        drawFeatures_unlit pass, drawFeatures_unlit pass', hlayer]
    | feature f =>
      rw [render_own hstage hsurfaces hscope, render_own hstage hsurfaces hscope, hshader,
        drawOwn_unlit pass, drawOwn_unlit pass', hlayer]

theorem Sublayer.drawBindings_congr (hlayer : pass.unlit = pass'.unlit)
    (hshader : ∀ id, pass.layer.highlight.shaderFor id = pass'.layer.highlight.shaderFor id)
    (order : UInt32) : ∀ (bindings : List Binding) (features : List Feature) (list : DisplayList),
      drawBindings pass order bindings features list = drawBindings pass' order bindings features list
  | [], _, _ => rfl
  | b :: rest, features, list => by
    simp only [drawBindings, Binding.render_congr hlayer (hshader b.sublayerId),
      drawBindings_congr hlayer hshader order rest]

/-- Passes over layers that differ in nothing but the highlight draw a sublayer alike if the same
shaders apply. -/
theorem Sublayer.redraw_congr (hlayer : pass.unlit = pass'.unlit)
    (hshader : ∀ id, pass.layer.highlight.shaderFor id = pass'.layer.highlight.shaderFor id)
    (u : Sublayer) (list : DisplayList) : u.redraw pass list = u.redraw pass' list := by
  simp only [redraw, drawBindings_congr hlayer hshader]

end Congruence

/-! ### Base styles -/

/-- The draw of a feature with a base style, which the shader that applies, if any, is written over. -/
def Feature.recordOver (f : Feature) (pass : Pass) (shader : Option Shader) (order : UInt32)
    (surfaces : Surfaces) (base : Style) : Draw :=
  f.record shader order surfaces (shader.elim base fun shader => (f.highlight pass shader base).value)

namespace Binding

variable {b : Binding} {pass : Pass} {order : UInt32} {surfaces : Surfaces} {features : List Feature}

/-- A binding over a whole sublayer that goes through has a base style for each feature. -/
theorem exists_base_of_strokes (hscope : b.scope = .sublayer)
    (h : (b.strokes pass order surfaces features).fault = none) :
    ∃ base : Feature → Style, ∀ f ∈ features, (f.baseStyle pass b.source).value = .ok (base f) := by
  rw [strokes_shared hscope] at h
  have hbase : ∀ f ∈ features, ∃ style, (f.baseStyle pass b.source).value = .ok style := by
    intro f hf
    obtain ⟨d, hd⟩ := Course.exists_of_along_ok h hf
    rw [stroke, styleOf, hscope] at hd
    cases hstyle : (f.baseStyle pass b.source).value with
    | error fault =>
      simp only [Feature.sharedStyle_of_base_error hstyle] at hd
      exact absurd hd (by simp [Except.map])
    | ok style => exact ⟨style, rfl⟩
  choose! base hbase using hbase
  exact ⟨base, hbase⟩

/-- A binding over a whole sublayer draws features over their base styles if they have some. -/
theorem strokes_of_base (hscope : b.scope = .sublayer) {base : Feature → Style}
    (hbase : ∀ f ∈ features, (f.baseStyle pass b.source).value = .ok (base f)) (order : UInt32)
    (surfaces : Surfaces) :
    b.strokes pass order surfaces features =
      ⟨features.map fun f => f.recordOver pass (b.shader pass) order surfaces (base f), none⟩ := by
  rw [strokes_shared hscope]
  refine Course.along_of_ok fun f hf => ?_
  rw [stroke, styleOf, hscope, Feature.sharedStyle_of_base_ok (hbase f hf)]
  rfl

end Binding

namespace Sublayer

variable {u : Sublayer} {pass : Pass} {features : List Feature} {id : String}
  {source : Option StyleSource} {surfaces : Surfaces} {list : DisplayList}

/-- A shown sublayer with one binding for all its features draws them over their base styles if they have
some. -/
theorem redraw_of_base (hlive : u.contents = some ⟨features, [.make id .sublayer source surfaces]⟩)
    (hvisible : u.visible = true) (pass : Pass) {base : Feature → Style}
    (hbase : ∀ f ∈ features, (f.baseStyle pass source).value = .ok (base f)) (list : DisplayList) :
    (u.redraw pass list).fault = none ∧ (u.redraw pass list).state.2.draws = list.draws ++
      features.map fun f => f.recordOver pass (pass.layer.highlight.shaderFor id)
        u.origin.paintOrder surfaces (base f) := by
  have hstrokes := Binding.strokes_of_base (b := .make id .sublayer source surfaces) rfl hbase
    u.origin.paintOrder surfaces
  have hok : ∀ b ∈ [Binding.make id .sublayer source surfaces],
      (b.course pass u.origin.paintOrder features).fault = none := by
    intro b hb
    rw [List.mem_singleton.mp hb, Binding.course_of_ready rfl rfl, hstrokes]
    rfl
  obtain ⟨hfault, hdraws⟩ := redraw_of_courses hlive hok list
  refine ⟨hfault, ?_⟩
  rw [hdraws, if_pos hvisible, List.flatMap_singleton, Binding.draws_of_ready rfl rfl, hstrokes]
  rfl

/-- A shown sublayer with one binding for all its features that is drawn has base styles for them. -/
theorem exists_base_of_redraw
    (hlive : u.contents = some ⟨features, [.make id .sublayer source surfaces]⟩)
    (hvisible : u.visible = true) (h : (u.redraw pass list).fault = none) :
    ∃ base : Feature → Style, ∀ f ∈ features, (f.baseStyle pass source).value = .ok (base f) := by
  rw [(u.redraw_follows pass list).1, redrawCourse, hlive] at h
  simp only [hvisible, if_true, course, List.map_singleton, Course.chain_singleton,
    Binding.course_of_ready (b := .make id .sublayer source surfaces) rfl rfl,
    Option.map_eq_none_iff] at h
  exact Binding.exists_base_of_strokes (b := .make id .sublayer source surfaces) rfl h

end Sublayer

/-! ### Draws with and without the highlight -/

namespace HighlightSpec

variable {spec : HighlightSpec} {rules : List Rule} {shader : Shader}

/-- How a feature of a sublayer is drawn under a section with some rules, and how it is drawn without the
section. -/
structure Shows (spec : HighlightSpec) (rules : List Rule) (zoom : Float) (id : String) (f : Feature)
    (lit plain : Draw) : Prop where
  lit_feature : lit.feature = f.id
  plain_feature : plain.feature = f.id
  unmarked : plain.highlighted = false
  marked_iff : lit.highlighted = true ↔ spec.Reaches id
  covered : spec.Reaches id → spec.Covers f.id → ∃ a, f.Exposes a ∧ ∀ filter, lit.style =
    plain.style.overlay (Style.ofRules f.kind ⟨a, zoom, filter⟩ rules).value
  uncovered : ¬ (spec.Reaches id ∧ spec.Covers f.id) → lit.style = plain.style

theorem shows_record (h : spec.Shades rules shader) (pass : Pass) (id : String) (order : UInt32)
    (surfaces : Surfaces) (f : Feature) (base : Style) :
    spec.Shows rules pass.zoom id f
      (f.recordOver pass ((spec.lit shader).shaderFor id) order surfaces base)
      (f.recordOver pass.unlit none order surfaces base) := by
  by_cases hreaches : spec.Reaches id
  · rw [shaderFor_lit_of_reaches hreaches shader]
    exact
      { lit_feature := rfl
        plain_feature := rfl
        unmarked := rfl
        marked_iff := iff_of_true rfl hreaches
        covered := fun _ hcovers =>
          ⟨f.exposed, f.exposes_exposed, fun filter => h.covered f pass base filter hcovers⟩
        uncovered := fun hnot => h.uncovered f pass base fun hcovers => hnot ⟨hreaches, hcovers⟩ }
  · rw [shaderFor_lit_of_not_reaches hreaches shader]
    exact
      { lit_feature := rfl
        plain_feature := rfl
        unmarked := rfl
        marked_iff := iff_of_false Bool.false_ne_true hreaches
        covered := fun hreaches' => absurd hreaches' hreaches
        uncovered := fun _ => rfl }

/-- How a layer with the highlight of a section shows some features of a sublayer, as against a layer
without it: wherever the former draws the sublayer so does the latter, and either adds one draw for each
feature, in order. -/
def Presents (spec : HighlightSpec) (rules : List Rule) (lit plain : Layer) (features : List Feature)
    (u : Sublayer) : Prop :=
  ∀ (zoom : Float) (list : DisplayList), (u.redraw ⟨lit, zoom⟩ list).fault = none →
    (u.redraw ⟨plain, zoom⟩ list).fault = none ∧ ∃ pairs : List (Draw × Draw),
      (u.redraw ⟨lit, zoom⟩ list).state.2.draws = list.draws ++ pairs.map Prod.fst ∧
      (u.redraw ⟨plain, zoom⟩ list).state.2.draws = list.draws ++ pairs.map Prod.snd ∧
      List.Forall₂ (fun f pair => spec.Shows rules zoom u.id f pair.1 pair.2) features pairs

/-- A layer with the highlight of a section presents a shown sublayer with one binding for all its
features. -/
theorem presents_shared (h : spec.Shades rules shader) {u : Sublayer} {features : List Feature}
    {source : Option StyleSource} {surfaces : Surfaces}
    (hlive : u.contents = some ⟨features, [.make u.id .sublayer source surfaces]⟩)
    (hvisible : u.visible = true) (url : String) (images : FillImages) :
    spec.Presents rules ⟨url, images, spec.lit shader⟩ ⟨url, images, .empty⟩ features u := by
  intro zoom list hdrawn
  let pass : Pass := ⟨⟨url, images, spec.lit shader⟩, zoom⟩
  obtain ⟨base, hbase⟩ := Sublayer.exists_base_of_redraw hlive hvisible hdrawn
  obtain ⟨-, hdraws⟩ := Sublayer.redraw_of_base hlive hvisible pass hbase list
  -- base styles come from the source, the bitmaps and the zoom level, and not from the highlight
  obtain ⟨hplain, hdraws'⟩ := Sublayer.redraw_of_base hlive hvisible pass.unlit hbase list
  let order := u.origin.paintOrder
  refine ⟨hplain, features.map fun f =>
    (f.recordOver pass ((spec.lit shader).shaderFor u.id) order surfaces (base f),
      f.recordOver pass.unlit none order surfaces (base f)), ?_, ?_, ?_⟩
  · rw [hdraws, List.map_map]
    rfl
  · rw [List.map_map]
    exact hdraws'
  · rw [List.forall₂_map_right_iff, List.forall₂_same]
    intro f _
    exact shows_record h pass u.id order surfaces f (base f)

end HighlightSpec

namespace Scene

/-- A scene with a highlight section that loads does so without the section too, with the same sublayers,
and presents those whose features share a binding: marked exactly if the section reaches the sublayer,
with the rules of the section over the style that the scene without it gives to the features that the
section covers, and in that style itself for all others. A section that lists the same sublayers and
features in another way changes neither what loads nor what is drawn. -/
theorem highlight_presents {scene : Scene} {spec : HighlightSpec} (hspec : scene.highlight = some spec)
    {loaded : LoadedScene} (hload : scene.load.value = .ok loaded) :
    ∃ plain rules, ({ scene with highlight := none } : Scene).load.value = .ok plain ∧
      plain.sublayers = loaded.sublayers ∧ List.Forall₂ RuleSpec.Gives spec.rules rules ∧
      List.Forall₂ (fun sub u => sub.perFeature = false → u.visible = true →
          spec.Presents rules loaded.layer plain.layer sub.features u)
        scene.sublayers loaded.sublayers ∧
      ∀ spec' : HighlightSpec, spec'.Relists spec → ∃ again,
        ({ scene with highlight := some spec' } : Scene).load = ⟨.ok again, scene.load.notices⟩ ∧
        again.sublayers = loaded.sublayers ∧
        ∀ (u : Sublayer) (zoom : Float) (list : DisplayList),
          u.redraw ⟨again.layer, zoom⟩ list = u.redraw ⟨loaded.layer, zoom⟩ list := by
  obtain ⟨images, sublayers, s, highlight, t, hstages, hhighlight, hnotices, rfl⟩ :=
    load_eq_ok_iff.mp (congrArg (Noted.mk · scene.load.notices) hload)
  rw [lighting, hspec] at hhighlight
  obtain ⟨hnames, hknown, shader, hshader, rfl⟩ :=
    (HighlightSpec.goes_load hstages.id_eq).mp hhighlight
  obtain ⟨rules, hrules, hshades⟩ :=
    HighlightSpec.goes_loadShader (fun _ => HighlightSpec.mem_listed hnames) hshader
  have hplain : ({ scene with highlight := none } : Scene).load =
      ⟨.ok ⟨⟨scene.layerUrl, images, .empty⟩, sublayers⟩, s.notices⟩ :=
    load_eq_ok_iff.mpr ⟨images, sublayers, s, .empty, s, hstages, goes_pure.mpr ⟨rfl, rfl⟩, rfl, rfl⟩
  refine ⟨_, rules, congrArg Noted.value hplain, rfl, hrules, ?_, ?_⟩
  · refine hstages.sublayers.imp ?_
    rintro sub u ⟨s', t', hu⟩ hshape hvisible
    obtain ⟨source, surfaces, rfl⟩ := SublayerSpec.goes_load_shared hu hshape
    exact HighlightSpec.presents_shared hshades rfl hvisible scene.layerUrl images
  · intro spec' hrelists
    obtain ⟨highlight', hhighlight', hshader'⟩ := hrelists.goes_load hstages.id_eq hhighlight
    have hagain : ({ scene with highlight := some spec' } : Scene).load =
        ⟨.ok ⟨⟨scene.layerUrl, images, highlight'⟩, sublayers⟩, scene.load.notices⟩ :=
      load_eq_ok_iff.mpr ⟨images, sublayers, s, highlight', t, hstages, hhighlight', hnotices, rfl⟩
    refine ⟨_, hagain, rfl, fun u zoom list => Sublayer.redraw_congr ?_ hshader' u list⟩
    rfl

/-- A section that lists a sublayer and one feature. -/
def widenSecond : HighlightSpec :=
  { sublayers := ["roads@2"]
    rules := [⟨"line-width", some (.integer 5), none, none, none⟩]
    wholeLayer := false
    features := [2] }

/-- A scene with two roads and that section. -/
def widenedRoads : Scene :=
  { layerUrl := ""
    zoom := 3
    highlight := some widenSecond
    fillImages := []
    sublayers :=
      [{ name := "roads@2"
         options := {}
         serviceStyle := none
         rules := none
         perFeature := false
         features := [Sublayer.road 1, Sublayer.road 2] }] }

theorem widenedRoads_loads : ∃ loaded u, widenedRoads.load.value = .ok loaded ∧
    loaded.sublayers = [u] ∧ u.id = "roads__2" ∧ u.visible = true ∧
    (u.redraw ⟨loaded.layer, 3⟩ .empty).fault = none := ⟨_, _, rfl, rfl, rfl, rfl, rfl⟩

/-- Both roads are marked, and the second one is drawn wider than without the section; listing it and its
sublayer twice makes no difference. -/
theorem highlight_presents_roads : widenedRoads.highlight = some widenSecond ∧
    ∃ loaded plain rules u, widenedRoads.load.value = .ok loaded ∧
      ({ widenedRoads with highlight := none } : Scene).load.value = .ok plain ∧
      loaded.sublayers = [u] ∧ u.visible = true ∧
      (u.redraw ⟨loaded.layer, 3⟩ .empty).fault = none ∧
      (∃ lit₁ lit₂ plain₁ plain₂,
        (u.redraw ⟨loaded.layer, 3⟩ .empty).state.2.draws = [lit₁, lit₂] ∧
        (u.redraw ⟨plain.layer, 3⟩ .empty).state.2.draws = [plain₁, plain₂] ∧
        lit₁.highlighted = true ∧ lit₁.style = plain₁.style ∧
        lit₂.highlighted = true ∧ ∃ a, (Sublayer.road 2).Exposes a ∧
          lit₂.style = plain₂.style.overlay (Style.ofRules .line ⟨a, 3, none⟩ rules).value) ∧
      ∃ again, ({ widenedRoads with highlight := some { widenSecond with
          sublayers := ["roads@2", "roads@2"], features := [2, 2] } } : Scene).load.value = .ok again ∧
        u.redraw ⟨again.layer, 3⟩ .empty = u.redraw ⟨loaded.layer, 3⟩ .empty := by
  obtain ⟨loaded, u, hload, hsublayers, hid, hvisible, hdrawn⟩ := widenedRoads_loads
  obtain ⟨plain, rules, hplain, -, -, hpresents, hrelists⟩ := highlight_presents rfl hload
  rw [hsublayers] at hpresents
  obtain _ | ⟨hroads, -⟩ := hpresents
  obtain ⟨-, pairs, hlit, hunlit, hshows⟩ := hroads rfl hvisible 3 .empty hdrawn
  obtain _ | @⟨_, first, _, _, hfirst, _ | @⟨_, second, _, _, hsecond, _ | _⟩⟩ := hshows
  have hreaches : widenSecond.Reaches u.id := .inr ⟨"roads@2", List.mem_cons_self, hid⟩
  have hcovers : ¬ widenSecond.Covers 1 := by simp [HighlightSpec.Covers, widenSecond]
  obtain ⟨a, ha, hstyle⟩ := hsecond.covered hreaches (.inr List.mem_cons_self)
  refine ⟨rfl, loaded, plain, rules, u, hload, hplain, hsublayers, hvisible, hdrawn,
    ⟨_, _, _, _, hlit, hunlit, hfirst.marked_iff.mpr hreaches,
      hfirst.uncovered fun h => hcovers h.2, hsecond.marked_iff.mpr hreaches,
      a, ha, hstyle none⟩, ?_⟩
  obtain ⟨again, hagain, -, hsame⟩ := hrelists
    { widenSecond with sublayers := ["roads@2", "roads@2"], features := [2, 2] }
    ⟨by simp [widenSecond], by simp [widenSecond], rfl, rfl⟩
  exact ⟨again, congrArg Noted.value hagain, hsame u 3 .empty⟩

end Scene

end Portrayal
