import Portrayal.Proofs.Appearance
import Portrayal.Proofs.Reachable

/-!
What a redraw records. Main statements: a redraw that goes through records, binding by binding and
feature by feature, exactly the draws that the styles of the features call for, and stamps what it
drew; a redraw that fails has done exactly that up to the first feature without a style, and nothing
from there on.
-/

namespace Portrayal

namespace Binding

/-- All that a binding records: its surfaces, and then one draw for each feature of the sublayer, in
order, or one for the feature of its own. -/
inductive Records (b : Binding) (pass : Pass) (shader : Option Shader) (order : UInt32)
    (features : List Feature) : List Command → Prop where
  | shared {surfaces : Surfaces} {draws : List Draw} (hsurfaces : b.surfaces = some surfaces)
      (hscope : b.scope = .sublayer)
      (hdraws : List.Forall₂ (Feature.DrawnAs pass b.source shader order surfaces) features draws) :
      Records b pass shader order features (.bind surfaces :: draws.map .draw)
  | own {surfaces : Surfaces} {f : Feature} {style : Style}
      (hsurfaces : b.surfaces = some surfaces) (hscope : b.scope = .feature f)
      (hstyle : f.ShownAlone pass b.source shader style) :
      Records b pass shader order features
        [.bind surfaces,
          .draw ⟨f.id, f.geometry.kind, shader.isSome, some order, some surfaces, style⟩]

/-- How a binding stops: the fault, what it recorded until then, and what it left of the features of
the sublayer. One that is not ready records nothing. One that is has made its surfaces active, and
when it covers the sublayer it has drawn and stamped the features before the first one that has no
style; that one and the ones after it are as they were. -/
inductive Stops (b : Binding) (pass : Pass) (shader : Option Shader) (order : UInt32) :
    List Feature → Fault → List Command → List Feature → Prop where
  | notReady (features : List Feature) (hstage : b.stage ≠ .bound) :
      Stops b pass shader order features
        (.illegalState (.bindingNotReady b.sublayerId b.stage)) [] features
  | shared {surfaces : Surfaces} {done rest : List Feature} {f : Feature} {draws : List Draw}
      {cause : FillFault} (hstage : b.stage = .bound) (hsurfaces : b.surfaces = some surfaces)
      (hscope : b.scope = .sublayer)
      (hdone : List.Forall₂ (Feature.DrawnAs pass b.source shader order surfaces) done draws)
      (hf : f.Barred pass b.source cause) :
      Stops b pass shader order (done ++ f :: rest) (.fill cause)
        (.bind surfaces :: draws.map .draw)
        (done.map (fun g => { g with
            renderClass := if shader.isSome then .highlight else .normal
            layerIndex := some order }) ++ f :: rest)
  | own (features : List Feature) {surfaces : Surfaces} {f : Feature} {cause : FillFault}
      (hstage : b.stage = .bound) (hsurfaces : b.surfaces = some surfaces)
      (hscope : b.scope = .feature f) (hshader : shader = none)
      (hf : f.Barred pass b.source cause) :
      Stops b pass shader order features (.fill cause) [.bind surfaces] features

variable {b : Binding} {pass : Pass} {order : UInt32} {surfaces : Surfaces}
  {features : List Feature} {list : DisplayList}

theorem drawnAs_of_stroke {f : Feature} {d : Draw} (hscope : b.scope = .sublayer)
    (h : b.stroke pass order surfaces f = .ok d) :
    f.DrawnAs pass b.source (b.shader pass) order surfaces d := by
  rw [stroke, styleOf, hscope] at h
  cases hstyle : (f.sharedStyle pass b.source (b.shader pass)).value with
  | error fault => simp [hstyle, Except.map] at h
  | ok style =>
    have hd : d = f.record (b.shader pass) order surfaces style := by
      simpa [hstyle, Except.map] using h.symm
    exact ⟨style, Feature.shown_iff.mpr hstyle, hd⟩

theorem style_error_of_stroke {f : Feature} {cause : FillFault}
    (h : b.stroke pass order surfaces f = .error cause) :
    b.styleOf pass f = .error cause := by
  rw [stroke] at h
  cases hstyle : b.styleOf pass f with
  | error fault => simpa [hstyle, Except.map] using h
  | ok style => simp [hstyle, Except.map] at h

/-- A course without a fault is all that the binding records. -/
theorem records_of_course_ok (h : (b.course pass order features).fault = none) :
    b.Records pass (b.shader pass) order features (b.course pass order features).results := by
  rcases b.ready_or_not with hready | ⟨surfaces, hstage, hsurfaces⟩
  · rw [course_of_not_ready hready] at h
    exact absurd h (by simp)
  · rw [course_of_ready hstage hsurfaces] at h ⊢
    have hstrokes := Option.map_eq_none_iff.mp h
    cases hscope : b.scope with
    | sublayer =>
      rw [strokes_shared hscope] at hstrokes ⊢
      exact .shared hsurfaces hscope
        ((Course.along_ok hstrokes).imp fun f d => drawnAs_of_stroke hscope)
    | feature f =>
      cases hstyle : (f.ownStyle pass b.source (b.shader pass)).value with
      | error fault =>
        rw [strokes_own_of_error hscope hstyle] at hstrokes
        exact absurd hstrokes (by simp)
      | ok style =>
        rw [strokes_own_of_ok hscope hstyle]
        exact .own hsurfaces hscope (Feature.shownAlone_iff.mpr hstyle)

/-- A binding that stops has left a course with that fault, and the features as said. -/
theorem stops_of_fault (hequipped : b.Equipped) {fault : Fault}
    (h : (b.render pass order features list).fault = some fault) :
    b.Stops pass (b.shader pass) order features fault (b.course pass order features).results
      (b.render pass order features list).state.2.1 := by
  by_cases hstage : b.stage = .bound
  · obtain ⟨surfaces, hsurfaces⟩ := hequipped hstage
    have hcourse := (b.render_follows pass order features list).1.symm.trans h
    rw [course_of_ready hstage hsurfaces] at hcourse ⊢
    obtain ⟨cause, hstrokes, rfl⟩ := Option.map_eq_some_iff.mp hcourse
    cases hscope : b.scope with
    | sublayer =>
      rw [features_render_shared hstage hsurfaces hscope]
      rw [strokes_shared hscope] at hstrokes ⊢
      obtain ⟨done, f, rest, rfl, hf, hdone⟩ := Course.along_fault hstrokes
      rw [← hdone.length_eq, List.take_left, List.drop_left]
      refine .shared hstage hsurfaces hscope (hdone.imp fun g d => drawnAs_of_stroke hscope) ?_
      have hstyle := style_error_of_stroke hf
      rw [styleOf, hscope] at hstyle
      exact Feature.barred_iff.mpr (Feature.base_error_of_shared hstyle)
    | feature f =>
      rw [features_render_own hscope]
      cases hstyle : (f.ownStyle pass b.source (b.shader pass)).value with
      | error fault =>
        rw [strokes_own_of_error hscope hstyle] at hstrokes ⊢
        obtain rfl : fault = cause := by simpa using hstrokes
        obtain ⟨hplain, hbarred⟩ := Feature.ownStyle_eq_error_iff.mp hstyle
        exact .own features hstage hsurfaces hscope hplain hbarred
      | ok style =>
        rw [strokes_own_of_ok hscope hstyle] at hstrokes
        exact absurd hstrokes (by simp)
  · have hready : b.stage = .bound → b.surfaces = none := fun hbound => absurd hbound hstage
    rw [render_of_not_ready hready] at h ⊢
    rw [course_of_not_ready hready]
    obtain rfl := Option.some.inj h
    exact .notReady features hstage

end Binding

namespace Sublayer

variable {s : Sublayer} {c : Contents}

/-- The bindings of a sublayer are under the shader that applies to it. -/
theorem shader_of_mem (hs : s.Sound) (hlive : s.contents = some c) (pass : Pass) :
    ∀ b ∈ c.bindings, b.shader pass = pass.layer.highlight.shaderFor s.id := by
  intro b hb
  rw [Binding.shader, hs.owned c hlive b hb]

/-- Bindings that all go through record all that there is to record, one after another. -/
theorem records_of_drawBindings_ok {pass : Pass} {shader : Option Shader} {order : UInt32}
    {bindings : List Binding} {features : List Feature} {list : DisplayList}
    (hshader : ∀ b ∈ bindings, b.shader pass = shader)
    (h : (drawBindings pass order bindings features list).fault = none) :
    ∃ parts : List (List Command),
      (drawBindings pass order bindings features list).state.2.2.commands.toList =
          list.commands.toList ++ parts.flatten ∧
        List.Forall₂ (fun b part => b.Records pass shader order features part) bindings parts := by
  obtain ⟨hfault, hcommands⟩ := drawBindings_follows pass order bindings features list
  rw [h] at hfault
  have hok := Course.ok_of_chain_ok hfault.symm
  refine ⟨bindings.map fun b => (b.course pass order features).results, ?_, ?_⟩
  · rw [hcommands, course, Course.chain_of_ok hok, List.flatMap_map, List.flatMap_def]
  · rw [List.forall₂_map_right_iff, List.forall₂_same]
    intro b hb
    have hrecords := Binding.records_of_course_ok
      (hok _ (List.mem_map_of_mem (f := fun b => b.course pass order features) hb))
    rwa [hshader b hb] at hrecords

/-- A redraw that goes through records, for each binding in order, its surfaces and its draws, and
nothing else. It leaves the features that bindings have of their own stamped, and all features of the
sublayer as soon as one binding covers it; everything else about the sublayer stays. -/
theorem redraw_records (hs : s.Reachable) (hlive : s.contents = some c)
    (hvisible : s.visible = true) (pass : Pass) (list : DisplayList)
    (hok : (s.redraw pass list).fault = none) :
    let shader := pass.layer.highlight.shaderFor s.id
    let order := match s.origin with | .assigned n => n | .unassigned => 999
    let renderClass := if shader.isSome then .highlight else .normal
    (∃ parts : List (List Command),
      (s.redraw pass list).state.2.commands.toList = list.commands.toList ++ parts.flatten ∧
        List.Forall₂ (fun b part => b.Records pass shader order c.features part)
          c.bindings parts) ∧
      ∃ features,
        (s.redraw pass list).state.1 = { s with
          contents := some ⟨features, c.bindings.map (·.stamped renderClass order)⟩ } ∧
        ((∃ b ∈ c.bindings, b.scope = .sublayer) → features =
          c.features.map fun f => { f with renderClass, layerIndex := some order }) ∧
        ((∀ b ∈ c.bindings, b.scope ≠ .sublayer) → features = c.features) := by
  intro shader order renderClass
  have hshader := shader_of_mem hs.sound hlive pass
  rw [redraw_of_visible hlive hvisible] at hok ⊢
  obtain ⟨hbindings, hcovered, huncovered⟩ := drawBindings_of_ok order hshader hok
  have hstamped : (drawBindings pass order c.bindings c.features list).state.1 =
      c.bindings.map (·.stamped renderClass order) := hbindings
  refine ⟨records_of_drawBindings_ok hshader hok, _, ?_, hcovered, huncovered⟩
  rw [← hstamped]
  rfl

/-- A road. -/
def road (id : Int) : Feature :=
  { id, geometry := { kind := .line, coordinates := [(0, 0), (8, 8)] } }

/-- A sublayer with some features and some bindings. -/
def stocked (name : String) (fs : List Feature) (bs : List Binding) : Sublayer :=
  (((make name none {}).perform (.addFeatures fs)).state.perform (.addBindings bs)).state

theorem reachable_stocked (name : String) (fs : List Feature) {bs : List Binding}
    (h : ∀ b ∈ bs, b.Reachable) : (stocked name fs bs).Reachable := by
  refine .step (.step (.make name none {}) (.addFeatures fs) ?_) (.addBindings bs) h
  intro b hb
  simp [Operation.bindings] at hb

/-- Two roads under a binding, and a third one that has a binding of its own. -/
def roads : Sublayer :=
  stocked "roads" [road 1, road 2]
    [.make (escapeLayerName "roads") .sublayer none ⟨1, 2⟩,
      .make (escapeLayerName "roads") (.feature (road 3)) none ⟨3, 4⟩]

theorem reachable_roads : roads.Reachable := by
  refine reachable_stocked _ _ fun b hb => ?_
  rw [List.mem_pair] at hb
  rcases hb with rfl | rfl <;> exact .make _ _ _ _

/-- A shader that widens the second road. -/
def widened : Shader :=
  ⟨[⟨"line-width", (Evaluator.constant (.number 5)).filtered, ⟨0⟩⟩], some (· == 2)⟩

/-- A pass that highlights the second road. -/
def roadsPass : Pass :=
  { layer := { Layer.ofUrl "http://localhost/map" with
      highlight := ⟨[⟨"roads", some 2⟩], some widened, none⟩ }
    zoom := 3 }

/-- Both bindings of the roads record all that there is to record under the highlight. -/
theorem redraw_records_roads : ∃ c, roads.contents = some c ∧ roads.visible = true ∧
    (roads.redraw roadsPass .empty).fault = none ∧
    ∃ parts : List (List Command),
      (roads.redraw roadsPass .empty).state.2.commands.toList = parts.flatten ∧
        List.Forall₂ (fun b part => b.Records roadsPass
          (roadsPass.layer.highlight.shaderFor "roads") 999 c.features part) c.bindings parts := by
  obtain ⟨⟨parts, hcommands, hparts⟩, -⟩ :=
    redraw_records reachable_roads rfl rfl roadsPass .empty rfl
  exact ⟨_, rfl, rfl, rfl, parts, hcommands, hparts⟩

/-- A redraw that fails has a first binding that stops. The bindings before it have recorded all that
there is to record, that one what it recorded until it stopped, and nothing follows; the bindings are
back in the stages that they were in. -/
theorem redraw_stops (hs : s.Reachable) (hlive : s.contents = some c)
    (hvisible : s.visible = true) (pass : Pass) (list : DisplayList) {fault : Fault}
    (hfault : (s.redraw pass list).fault = some fault) :
    let shader := pass.layer.highlight.shaderFor s.id
    let order := match s.origin with | .assigned n => n | .unassigned => 999
    ∃ before b after, c.bindings = before ++ b :: after ∧
      let early := drawBindings pass order before c.features list
      early.fault = none ∧
        ∃ (parts : List (List Command)) (part : List Command) (c' : Contents),
          List.Forall₂ (fun b part => b.Records pass shader order c.features part) before parts ∧
          b.Stops pass shader order early.state.2.1 fault part c'.features ∧
          (s.redraw pass list).state.2.commands.toList =
            list.commands.toList ++ parts.flatten ++ part ∧
          (s.redraw pass list).state.1 = { s with contents := some c' } ∧
          c'.bindings.map Binding.stage = c.bindings.map Binding.stage := by
  intro shader order
  have hshader := shader_of_mem hs.sound hlive pass
  rw [redraw_of_visible hlive hvisible] at hfault ⊢
  obtain ⟨before, b, after, hbindings, hearly, hlast, hstate⟩ := drawBindings_of_fault hfault
  have hmem : ∀ x ∈ before, x ∈ c.bindings := fun x hx => by
    rw [hbindings]
    exact List.mem_append_left _ hx
  have hb : b ∈ c.bindings := by
    rw [hbindings]
    exact List.mem_append_right _ List.mem_cons_self
  obtain ⟨parts, hcommands, hparts⟩ :=
    records_of_drawBindings_ok (fun x hx => hshader x (hmem x hx)) hearly
  -- the binding that stops draws the features as the ones before it have stamped them
  have hstops := Binding.stops_of_fault (hs.sound.equipped c hlive b hb) hlast
  have hrecorded := (b.render_follows pass s.origin.paintOrder
    (drawBindings pass s.origin.paintOrder before c.features list).state.2.1
    (drawBindings pass s.origin.paintOrder before c.features list).state.2.2).2
  rw [hshader b hb] at hstops
  rw [hcommands] at hrecorded
  have hstages := congrArg (List.map Binding.stage)
    (plain_drawBindings pass s.origin.paintOrder c.bindings c.features list)
  rw [List.map_map, List.map_map] at hstages
  refine ⟨before, b, after, hbindings, hearly, parts, _, ⟨_, _⟩, hparts, hstops, ?_, ?_, hstages⟩
  · rw [Outcome.state_map, hstate]
    exact hrecorded
  · rw [Outcome.state_map, hstate]

/-- A place with a parcel and another place, under a plain binding and under one whose fill pattern
has no bitmap. -/
def parcels : Sublayer :=
  stocked "parcels"
    [{ id := 1, geometry := { kind := .point, coordinates := [(0, 0)] } },
      { id := 2, geometry := { kind := .region, coordinates := [(0, 0), (8, 0), (8, 8)] } },
      { id := 3, geometry := { kind := .point, coordinates := [(4, 4)] } }]
    [.make (escapeLayerName "parcels") .sublayer none ⟨1, 2⟩,
      .make (escapeLayerName "parcels") .sublayer
        (some (.service { fillForeColor := some .black, fillSymbol := some 3 })) ⟨3, 4⟩]

theorem reachable_parcels : parcels.Reachable := by
  refine reachable_stocked _ _ fun b hb => ?_
  rw [List.mem_pair] at hb
  rcases hb with rfl | rfl <;> exact .make _ _ _ _

/-- The second binding of the parcels stops at the parcel, after the first one drew everything. -/
theorem redraw_stops_parcels : ∃ c, parcels.contents = some c ∧ parcels.visible = true ∧
    (parcels.redraw ⟨.ofUrl "", 3⟩ .empty).fault = some (.fill (.missingImage 3)) ∧
    ∃ before b after, c.bindings = before ++ b :: after ∧
      ∃ (parts : List (List Command)) (part : List Command) (features : List Feature),
        List.Forall₂ (fun b part => b.Records ⟨.ofUrl "", 3⟩ none 999 c.features part)
          before parts ∧
        b.Stops ⟨.ofUrl "", 3⟩ none 999
          (drawBindings ⟨.ofUrl "", 3⟩ 999 before c.features .empty).state.2.1
          (.fill (.missingImage 3)) part features ∧
        (parcels.redraw ⟨.ofUrl "", 3⟩ .empty).state.2.commands.toList = parts.flatten ++ part := by
  have hfault : (parcels.redraw ⟨.ofUrl "", 3⟩ .empty).fault = some (.fill (.missingImage 3)) := rfl
  obtain ⟨before, b, after, hbindings, -, parts, part, c', hparts, hstops, hcommands, -, -⟩ :=
    redraw_stops reachable_parcels rfl rfl ⟨.ofUrl "", 3⟩ .empty hfault
  exact ⟨_, rfl, rfl, rfl, before, b, after, hbindings, parts, part, c'.features, hparts, hstops,
    hcommands⟩

end Sublayer

end Portrayal
