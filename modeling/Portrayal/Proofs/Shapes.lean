import Portrayal.Proofs.Appearance
import Portrayal.Proofs.Preparation

/-!
Sublayers without rules. A sublayer under a service style, or under no source at all, can be loaded in
two shapes: with one binding for all its features or with a binding for each. No style is resolved
ahead of time then, and a feature that comes from a document carries none; so both shapes look for the
style of a feature when they draw it, and in the same place. Main statement: the two shapes draw the
same features in the same styles, and they stop at the same first feature that has none.
-/

namespace Portrayal

open Loading

/-! ### What a document leaves out -/

namespace Json

variable {α : Type} {read : Json → Option α} {a : α}

/-- What a reader makes of a list of documents it makes of one of them. -/
theorem mem_each? : ∀ {items : List Json} {results : List α},
    each? read items = some results → a ∈ results → ∃ item ∈ items, read item = some a
  | [], results, h, ha => by
    obtain rfl : [] = results := Option.some.inj h
    exact absurd ha (by simp)
  | item :: items, results, h, ha => by
    simp only [each?, Option.bind_eq_bind, Option.bind_eq_some_iff, Option.some.injEq] at h
    obtain ⟨first, hfirst, rest, hrest, rfl⟩ := h
    rcases List.mem_cons.mp ha with rfl | ha
    · exact ⟨item, List.mem_cons_self, hfirst⟩
    · obtain ⟨other, hother, hread⟩ := mem_each? hrest ha
      exact ⟨other, List.mem_cons_of_mem item hother, hread⟩

theorem mem_list? {json : Json} {results : List α} (h : list? read json = some results)
    (ha : a ∈ results) : ∃ item, read item = some a := by
  unfold list? at h
  split at h
  · obtain ⟨item, -, hread⟩ := mem_each? h ha
    exact ⟨item, hread⟩
  · exact absurd h (by simp)

/-- A field that may be left out has its fallback, or what its reader makes of a document. -/
theorem Fields.orElse?_cases {fields : Fields} {name : String} {fallback : α}
    (h : fields.orElse? name fallback read = some a) : a = fallback ∨ ∃ json, read json = some a := by
  rw [Fields.orElse?] at h
  split at h
  · rename_i json _
    exact .inr ⟨json, h⟩
  · exact .inl (Option.some.inj h).symm

end Json

/-- A feature that a document holds carries no style. -/
theorem Feature.style_of_ofJson? {json : Json} {f : Feature} (h : ofJson? json = some f) :
    f.style = none := by
  simp only [ofJson?, Option.bind_eq_bind, Option.bind_eq_some_iff, Option.some.injEq] at h
  obtain ⟨fields, -, id, -, geometry, -, attributes, -, rfl⟩ := h
  rfl

/-- The features of a sublayer that a document holds carry no styles. -/
theorem SublayerSpec.style_of_ofJson? {json : Json} {spec : SublayerSpec}
    (h : ofJson? json = some spec) : ∀ f ∈ spec.features, f.style = none := by
  simp only [ofJson?, Option.bind_eq_bind, Option.bind_eq_some_iff, Option.some.injEq] at h
  obtain ⟨fields, -, name, -, options, -, style, -, rules, -, perFeature, -, features, hfeatures,
    rfl⟩ := h
  intro f hf
  rcases Json.Fields.orElse?_cases hfeatures with rfl | ⟨items, hitems⟩
  · exact absurd hf (by simp)
  · obtain ⟨item, hitem⟩ := Json.mem_list? hitems hf
    exact Feature.style_of_ofJson? hitem

/-! ### Sketches of single features -/

/-- The draw of a feature while nothing is highlighted, wherever it happens, or the fault that stops
it. -/
def Feature.sketch? (f : Feature) (pass : Pass) (source : Option StyleSource) (order : UInt32) :
    Except Fault Draw :=
  match (f.baseStyle pass source).value with
  | .ok style => .ok (f.sketch order style)
  | .error cause => .error (.fill cause)

/-- A draw sketches a feature in the style that its source gives it. -/
def Feature.SketchedAs (pass : Pass) (source : Option StyleSource) (order : UInt32) (f : Feature)
    (d : Draw) : Prop :=
  ∃ style, f.Based pass source style ∧ d = f.sketch order style

namespace Feature

variable {pass : Pass} {source : Option StyleSource} {order : UInt32} {f : Feature}

theorem sketchedAs_of_sketch {d : Draw} (h : f.sketch? pass source order = .ok d) :
    f.SketchedAs pass source order d := by
  rw [sketch?] at h
  split at h
  · rename_i style hstyle
    exact ⟨style, based_iff.mpr hstyle, (Except.ok.inj h).symm⟩
  · exact absurd h (by simp)

theorem base_error_of_sketch {fault : Fault} (h : f.sketch? pass source order = .error fault) :
    ∃ cause, fault = .fill cause ∧ (f.baseStyle pass source).value = .error cause := by
  rw [sketch?] at h
  split at h
  · exact absurd h (by simp)
  · rename_i cause hcause
    exact ⟨cause, (Except.error.inj h).symm, hcause⟩

/-- Without rules and without a highlight, a feature that carries no style has the same style under a
binding of its own as under one that it shares. -/
theorem ownStyle_unlit (service : Option ServiceStyle) (hstyle : f.style = none) :
    (f.ownStyle pass.unlit (service.map .service) none).value =
      (f.baseStyle pass (service.map .service)).value := by
  cases service with
  | some style => rfl
  | none =>
    -- no rules at all complete nothing to the default style of the kind
    have hcarried : (f.ownStyle pass.unlit none none).value =
        .ok (f.style.getD (Style.empty.complete f.kind)) := rfl
    rw [Option.map_none, hcarried, hstyle]
    rfl

theorem sharedStyle_unlit (pass : Pass) (source : Option StyleSource) (f : Feature) :
    (f.sharedStyle pass.unlit source none).value = (f.baseStyle pass source).value := by
  have hunlit : f.baseStyle pass.unlit source = f.baseStyle pass source := rfl
  cases hbase : (f.baseStyle pass source).value with
  | error cause => exact sharedStyle_of_base_error (hunlit ▸ hbase) none
  | ok style => exact sharedStyle_of_base_ok (hunlit ▸ hbase) none

end Feature

/-! ### Sketches of bindings -/

/-- The sketches among the commands of a course. -/
def Course.sketches (c : Course Command Fault) : Course Draw Fault :=
  c.translate (fun command => command.draw?.map Draw.unplaced) id

namespace Binding

variable {b : Binding} {pass : Pass} {order : UInt32} {surfaces : Surfaces}
  {source : Option StyleSource} {f : Feature}

theorem sketches_of_ready (hstage : b.stage = .bound) (hsurfaces : b.surfaces = some surfaces)
    (pass : Pass) (order : UInt32) (features : List Feature) :
    (b.course pass order features).sketches =
      (b.strokes pass order surfaces features).translate (fun d => some d.unplaced) .fill := by
  rw [course_of_ready hstage hsurfaces, Course.sketches, Course.translate, Course.translate]
  dsimp only
  rw [List.filterMap_cons_none rfl, List.filterMap_map, Option.map_id]
  rfl

/-- A binding that finds the style of a feature where its source has it sketches it so. -/
theorem sketch_of_stroke (hstyle : b.styleOf pass.unlit f = (f.baseStyle pass source).value)
    (order : UInt32) (surfaces : Surfaces) :
    (Course.ofExcept (b.stroke pass.unlit order surfaces f)).translate
      (fun d => some d.unplaced) Fault.fill = .ofExcept (f.sketch? pass source order) := by
  rw [stroke, hstyle, Feature.sketch?]
  cases (f.baseStyle pass source).value <;> rfl

/-- One binding for all features sketches them one after another. -/
theorem sketches_make_sublayer (name : String) (source : Option StyleSource) (surfaces : Surfaces)
    (pass : Pass) (order : UInt32) (features : List Feature) :
    ((make name .sublayer source surfaces).course pass.unlit order features).sketches =
      .along (fun f => f.sketch? pass source order) features := by
  rw [sketches_of_ready rfl rfl]
  refine Course.translate_along features fun f => ?_
  have hstyle : (make name .sublayer source surfaces).styleOf pass.unlit f =
      (f.baseStyle pass source).value := Feature.sharedStyle_unlit pass source f
  exact sketch_of_stroke hstyle order surfaces

/-- A binding for one feature sketches that one. -/
theorem sketches_make_feature (name : String) (service : Option ServiceStyle)
    (hstyle : f.style = none) (surfaces : Surfaces) (pass : Pass) (order : UInt32)
    (features : List Feature) :
    ((make name (.feature f) (service.map .service) surfaces).course pass.unlit order
      features).sketches = .ofExcept (f.sketch? pass (service.map .service) order) := by
  have hown : (make name (.feature f) (service.map .service) surfaces).styleOf pass.unlit f =
      (f.baseStyle pass (service.map .service)).value := Feature.ownStyle_unlit service hstyle
  have hsubjects : (make name (.feature f) (service.map .service) surfaces).subjects features =
      [f] := rfl
  rw [sketches_of_ready rfl rfl, strokes, hsubjects, Course.along, List.map_singleton,
    Course.chain_singleton]
  exact sketch_of_stroke hown order surfaces

/-- Bindings for each of some features sketch them one after another. -/
theorem sketches_make_each (name : String) (service : Option ServiceStyle) (pass : Pass)
    (order : UInt32) (others : List Feature) {features : List Feature} {bindings : List Binding}
    (h : List.Forall₂ (fun f b => f.style = none ∧ ∃ surfaces,
      b = make name (.feature f) (service.map .service) surfaces) features bindings) :
    (Sublayer.course pass.unlit order bindings others).sketches =
      .along (fun f => f.sketch? pass (service.map .service) order) features := by
  rw [Sublayer.course, Course.sketches, Course.translate_chain, List.map_map, Course.along]
  congr 1
  induction h with
  | nil => rfl
  | @cons f b features bindings hb _ ih =>
    obtain ⟨hstyle, surfaces, rfl⟩ := hb
    rw [List.map_cons, List.map_cons, ih]
    congr 1
    exact sketches_make_feature name service hstyle surfaces pass order others

end Binding

/-! ### The two shapes of a sublayer -/

/-- A sublayer is drawn without a highlight as a course says, up to the surfaces of the draws. -/
def Sublayer.Follows (t : Sublayer) (pass : Pass) (list : DisplayList) (c : Course Draw Fault) :
    Prop :=
  (t.redraw pass.unlit list).fault = c.fault ∧ ∃ ds,
    (t.redraw pass.unlit list).state.2.draws = list.draws ++ ds ∧ ds.map Draw.unplaced = c.results

theorem Sublayer.follows_sketches (t : Sublayer) (pass : Pass) (list : DisplayList) :
    t.Follows pass list (t.redrawCourse pass.unlit).sketches := by
  obtain ⟨hfault, hcommands⟩ := t.redraw_follows pass.unlit list
  refine ⟨?_, _, DisplayList.draws_of_commands hcommands, ?_⟩
  · rw [Course.sketches, Course.translate, Option.map_id]
    exact hfault
  · rw [Course.sketches, Course.translate, List.map_filterMap]

namespace SublayerSpec

variable {spec : SublayerSpec} {pass : Pass}

/-- The style source of a sublayer that has no rules. -/
def plainSource (spec : SublayerSpec) : Option StyleSource := spec.serviceStyle.map .service

/-- How a sublayer without rules is drawn while nothing is highlighted: not at all if it is hidden, and
otherwise feature by feature, up to the first one that has no style. -/
inductive Outlined (spec : SublayerSpec) (pass : Pass) : Course Draw Fault → Prop where
  | hidden (hhidden : spec.options.visible = false) : Outlined spec pass ⟨[], none⟩
  | complete {draws : List Draw} (hvisible : spec.options.visible = true)
      (hdraws : List.Forall₂ (Feature.SketchedAs pass spec.plainSource spec.order) spec.features
        draws) :
      Outlined spec pass ⟨draws, none⟩
  | stopped {done rest : List Feature} {f : Feature} {draws : List Draw} {cause : FillFault}
      (hvisible : spec.options.visible = true) (hsplit : spec.features = done ++ f :: rest)
      (hdone : List.Forall₂ (Feature.SketchedAs pass spec.plainSource spec.order) done draws)
      (hf : f.Barred pass spec.plainSource cause) :
      Outlined spec pass ⟨draws, some (.fill cause)⟩

/-- The course of a sublayer without rules. -/
def outline (spec : SublayerSpec) (pass : Pass) : Course Draw Fault :=
  if spec.options.visible then
    .along (fun f => f.sketch? pass spec.plainSource spec.order) spec.features
  else .idle

theorem outlined_outline (spec : SublayerSpec) (pass : Pass) :
    spec.Outlined pass (spec.outline pass) := by
  rw [outline]
  cases hvisible : spec.options.visible with
  | false => exact .hidden hvisible
  | true =>
    rw [if_pos rfl]
    have hresults : ∀ {fs : List Feature} {ds : List Draw},
        List.Forall₂ (fun f d => f.sketch? pass spec.plainSource spec.order = .ok d) fs ds →
          List.Forall₂ (Feature.SketchedAs pass spec.plainSource spec.order) fs ds :=
      fun h => h.imp fun f d => Feature.sketchedAs_of_sketch
    generalize hc : Course.along (fun f => f.sketch? pass spec.plainSource spec.order)
      spec.features = c
    obtain ⟨draws, fault⟩ := c
    cases fault with
    | none =>
      have hdraws := Course.along_ok (congrArg Course.fault hc)
      rw [hc] at hdraws
      exact .complete hvisible (hresults hdraws)
    | some fault =>
      obtain ⟨done, f, rest, hsplit, hf, hdone⟩ := Course.along_fault (congrArg Course.fault hc)
      obtain ⟨cause, rfl, hcause⟩ := Feature.base_error_of_sketch hf
      rw [hc] at hdone
      exact .stopped hvisible hsplit (hresults hdone) (Feature.barred_iff.mpr hcause)

/-- A sublayer is sketched as its bindings are, unless it is hidden. -/
theorem follows_holding (spec : SublayerSpec) (c : Contents) {sketches : Course Draw Fault}
    (h : (Sublayer.course pass.unlit spec.order c.bindings c.features).sketches = sketches)
    (list : DisplayList) :
    (spec.holding c).Follows pass list (if spec.options.visible then sketches else .idle) := by
  have hcourse : (spec.holding c).redrawCourse pass.unlit = if spec.options.visible then
      Sublayer.course pass.unlit spec.order c.bindings c.features else .idle := rfl
  have hfollows := (spec.holding c).follows_sketches pass list
  rw [hcourse, apply_ite Course.sketches, h] at hfollows
  exact hfollows

/-- A sublayer without rules finds its source from whatever state. -/
theorem loadSource_plain (hrules : spec.rules = none) (s : LoadState) :
    Ensures s spec.loadSource fun source _ => source = spec.plainSource := by
  rw [loadSource, hrules, plainSource]
  cases spec.serviceStyle with
  | none => exact .pure rfl
  | some style => exact .pure rfl

/-- Without rules no feature is prepared in any way. -/
theorem prepared_plain (zoom : Float) (spec : SublayerSpec) (f : Feature) :
    prepared zoom spec.plainSource f = f := by
  rw [plainSource]
  cases spec.serviceStyle <;> rfl

/-- A sublayer without rules, as a document holds it, loads in both shapes, and without a highlight
both are drawn alike: they record the same draws, up to their surfaces, and go through or stop with the
same fault at the same feature. -/
theorem shapes_drawn_alike {json : Json} (hread : ofJson? json = some spec)
    (hrules : spec.rules = none) (zoom : Float) (pass : Pass) (s s' : LoadState)
    (list list' : DisplayList) :
    ∃ c : Course Draw Fault, spec.Outlined pass c ∧
      (Ensures s (load zoom { spec with perFeature := false }) fun t _ => t.Follows pass list c) ∧
      Ensures s' (load zoom { spec with perFeature := true }) fun u _ => u.Follows pass list' c := by
  have hsource := loadSource_plain hrules
  obtain ⟨t, _, hrun, source, surfaces, rfl, rfl⟩ :=
    load_shared { spec with perFeature := false } rfl (hsource s) zoom
  obtain ⟨u, _, hrun', source, bindings, rfl, rfl, hbindings⟩ :=
    load_own { spec with perFeature := true } rfl (hsource s') zoom
  refine ⟨spec.outline pass, outlined_outline spec pass, ⟨_, _, hrun, ?_⟩, ⟨_, _, hrun', ?_⟩⟩
  · refine follows_holding spec _ ?_ list
    have hsketches := Binding.sketches_make_sublayer (escapeLayerName spec.name) spec.plainSource
      surfaces pass spec.order spec.features
    rw [Sublayer.course, List.map_singleton, Course.chain_singleton]
    exact hsketches
  · refine follows_holding spec _ ?_ list'
    have hown : List.Forall₂ (fun f b => ∃ surfaces, b = Binding.make (escapeLayerName spec.name)
        (.feature f) spec.plainSource surfaces) spec.features bindings := by
      simpa only [prepared_plain] using hbindings
    exact Binding.sketches_make_each (escapeLayerName spec.name) spec.serviceStyle pass spec.order []
      ((List.forall₂_and_left _ _).mpr ⟨style_of_ofJson? hread, hown⟩)

/-- A place, its label, which has a label style of its own, a parcel and a road, under a service style
with a fill pattern. -/
def mixed : SublayerSpec :=
  { name := "places"
    options := {}
    serviceStyle := some { fillForeColor := some ⟨255, 0, 0⟩, fillSymbol := some 3 }
    rules := none
    perFeature := false
    features :=
      [{ id := 1, geometry := { kind := .point, coordinates := [] } },
        { id := 2, geometry := { kind := .text, coordinates := [], label := some { bold := true } } },
        { id := 3, geometry := { kind := .region, coordinates := [] } },
        { id := 4, geometry := { kind := .line, coordinates := [] } }] }

/-- The document that holds them. -/
def mixedDocument : Json :=
  let feature (id : Int) (kind : String) (more : List (String × Json)) : Json :=
    .object [("id", .integer id), ("geometry", .object (("type", .text kind) :: more))]
  .object
    [("name", .text "places"),
      ("serverStyle", .object
        [("fillForeColor", .object
          [("red", .integer 255), ("green", .integer 0), ("blue", .integer 0)]),
          ("fillSymbolID", .integer 3)]),
      ("features", .array
        [feature 1 "POINT" [], feature 2 "TEXT" [("textStyle", .object [("bold", .bool true)])],
          feature 3 "REGION" [], feature 4 "LINE" []])]

/-- Both shapes draw the place and the label, and stop at the parcel, whose fill pattern has no
bitmap. -/
theorem shapes_drawn_alike_mixed : ofJson? mixedDocument = some mixed ∧ mixed.rules = none ∧
    ∃ c : Course Draw Fault, mixed.Outlined ⟨.ofUrl "", 3⟩ c ∧
      c.fault = some (.fill (.missingImage 3)) ∧
      (Ensures .initial (load 3 { mixed with perFeature := false }) fun t _ =>
        t.Follows ⟨.ofUrl "", 3⟩ .empty c) ∧
      Ensures .initial (load 3 { mixed with perFeature := true }) fun u _ =>
        u.Follows ⟨.ofUrl "", 3⟩ .empty c := by
  have hread : ofJson? mixedDocument = some mixed := rfl
  obtain ⟨c, houtlined, hshared, hown⟩ := shapes_drawn_alike hread rfl 3 ⟨.ofUrl "", 3⟩ .initial
    .initial .empty .empty
  obtain ⟨t, s, hrun, hfollows⟩ := hshared
  -- loading and drawing the sublayer, by evaluation
  have hstops : ((load 3 { mixed with perFeature := false }).run.run .initial).1.toOption.bind
      (fun t => (t.redraw (Pass.unlit ⟨.ofUrl "", 3⟩) .empty).fault) =
        some (.fill (.missingImage 3)) := rfl
  rw [hrun] at hstops
  have hfault : c.fault = some (.fill (.missingImage 3)) := hfollows.1.symm.trans hstops
  exact ⟨hread, rfl, c, houtlined, hfault, ⟨t, s, hrun, hfollows⟩, hown⟩

end SublayerSpec

end Portrayal
