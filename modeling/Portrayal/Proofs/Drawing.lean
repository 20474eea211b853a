import Portrayal.Proofs.Course
import Portrayal.Sublayer

/-!
What drawing does, as a course. The commands that a binding records and the fault that stops it
depend on the binding, the pass, the paint order and the features, and on nothing that an earlier pass
wrote on those features or recorded in the list. So the bindings of a sublayer form a chain, although
each of them draws features that the ones before it have stamped.
-/

namespace Portrayal

namespace Feature

/-- A feature as it was before any pass. -/
def plain (f : Feature) : Feature := { f with renderClass := .normal, layerIndex := none }

/-- The draw of a feature in a style, under a shader that applies to it, if any. -/
def record (f : Feature) (shader : Option Shader) (order : UInt32) (surfaces : Surfaces)
    (style : Style) : Draw :=
  { feature := f.id
    kind := f.kind
    highlighted := shader.isSome
    layerIndex := some order
    surfaces := some surfaces
    style }

end Feature

/-- Drawing a stamped feature adds its record. -/
theorem DisplayList.commands_draw_stamped {list : DisplayList} {surfaces : Surfaces}
    (h : list.active = some surfaces) (f : Feature) (shader : Option Shader) (order : UInt32)
    (style : Style) :
    (list.draw (f.stamped (.ofShader shader) order) style).commands.toList =
      list.commands.toList ++ [.draw (f.record shader order surfaces style)] := by
  rw [DisplayList.draw, Array.toList_push, h]
  cases shader <;> rfl

/-- The draw that a command is, if it is one. -/
def Command.draw? : Command → Option Draw
  | .draw d => some d
  | .bind _ => none

/-- A list with more commands has their draws besides its own. -/
theorem DisplayList.draws_of_commands {list list' : DisplayList} {commands : List Command}
    (h : list'.commands.toList = list.commands.toList ++ commands) :
    list'.draws = list.draws ++ commands.filterMap Command.draw? := by
  rw [draws, h, List.filterMap_append]
  rfl

/-- The same pass without any highlight. -/
def Pass.unlit (pass : Pass) : Pass := { pass with layer := { pass.layer with highlight := .empty } }

/-- A scope as it was before any pass. -/
def Scope.plain : Scope → Scope
  | .sublayer => .sublayer
  | .feature f => .feature f.plain

/-- A scope as a pass leaves it that drew everything. -/
def Scope.stamped (c : RenderClass) (order : UInt32) : Scope → Scope
  | .sublayer => .sublayer
  | .feature f => .feature { f with renderClass := c, layerIndex := some order }

namespace Binding

/-- A binding as it was before any pass. -/
def plain (b : Binding) : Binding := { b with scope := b.scope.plain }

/-- A binding as a pass leaves it that drew it. -/
def stamped (b : Binding) (c : RenderClass) (order : UInt32) : Binding :=
  { b with scope := b.scope.stamped c order }

@[simp]
theorem sublayerId_plain (b : Binding) : b.plain.sublayerId = b.sublayerId := rfl

@[simp]
theorem stage_plain (b : Binding) : b.plain.stage = b.stage := rfl

@[simp]
theorem surfaces_plain (b : Binding) : b.plain.surfaces = b.surfaces := rfl

/-- The features that a binding draws, among those of a sublayer. -/
def subjects (b : Binding) (features : List Feature) : List Feature :=
  match b.scope with
  | .sublayer => features
  | .feature f => [f]

/-- The shader that applies to the sublayer of a binding. -/
def shader (b : Binding) (pass : Pass) : Option Shader :=
  pass.layer.highlight.shaderFor b.sublayerId

/-- The style that a binding draws a feature in. -/
def styleOf (b : Binding) (pass : Pass) (f : Feature) : Except FillFault Style :=
  match b.scope with
  | .sublayer => (f.sharedStyle pass b.source (b.shader pass)).value
  | .feature _ => (f.ownStyle pass b.source (b.shader pass)).value

/-- The draw of one feature, or why there is none. -/
def stroke (b : Binding) (pass : Pass) (order : UInt32) (surfaces : Surfaces) (f : Feature) :
    Except FillFault Draw :=
  (b.styleOf pass f).map (f.record (b.shader pass) order surfaces)

/-- The draws of a binding that is ready. -/
def strokes (b : Binding) (pass : Pass) (order : UInt32) (surfaces : Surfaces)
    (features : List Feature) : Course Draw FillFault :=
  .along (b.stroke pass order surfaces) (b.subjects features)

/-- The commands of a binding. -/
def course (b : Binding) (pass : Pass) (order : UInt32) (features : List Feature) :
    Course Command Fault :=
  match b.stage, b.surfaces with
  | .bound, some surfaces =>
    let draws := b.strokes pass order surfaces features
    ⟨.bind surfaces :: draws.results.map .draw, draws.fault.map .fill⟩
  | stage, _ => ⟨[], some (.illegalState (.bindingNotReady b.sublayerId stage))⟩

/-- The draws among the commands of a binding. -/
def draws (b : Binding) (pass : Pass) (order : UInt32) (features : List Feature) : List Draw :=
  (b.course pass order features).results.filterMap Command.draw?

variable {b : Binding} {pass : Pass} {order : UInt32} {surfaces : Surfaces}
  {features : List Feature} {list : DisplayList}

@[simp]
theorem shader_unlit (b : Binding) (pass : Pass) : b.shader pass.unlit = none := rfl

theorem course_of_ready (hstage : b.stage = .bound) (hsurfaces : b.surfaces = some surfaces)
    (pass : Pass) (order : UInt32) (features : List Feature) :
    b.course pass order features =
      ⟨.bind surfaces :: (b.strokes pass order surfaces features).results.map .draw,
        (b.strokes pass order surfaces features).fault.map .fill⟩ := by
  simp only [course, hstage, hsurfaces]

/-- A binding is ready with its surfaces, or it is not. -/
theorem ready_or_not (b : Binding) : (b.stage = .bound → b.surfaces = none) ∨
    ∃ surfaces, b.stage = .bound ∧ b.surfaces = some surfaces := by
  by_cases h : b.stage = .bound → b.surfaces = none
  · exact .inl h
  · obtain ⟨hstage, hsurfaces⟩ := Classical.not_imp.mp h
    obtain ⟨surfaces, hsurfaces⟩ := Option.ne_none_iff_exists'.mp hsurfaces
    exact .inr ⟨surfaces, hstage, hsurfaces⟩

theorem course_of_not_ready (h : b.stage = .bound → b.surfaces = none) (pass : Pass)
    (order : UInt32) (features : List Feature) :
    b.course pass order features =
      ⟨[], some (.illegalState (.bindingNotReady b.sublayerId b.stage))⟩ := by
  rw [course]
  split
  · rename_i hstage hsurfaces
    rw [h hstage] at hsurfaces
    exact absurd hsurfaces (by simp)
  · rfl

theorem draws_of_ready (hstage : b.stage = .bound) (hsurfaces : b.surfaces = some surfaces)
    (pass : Pass) (order : UInt32) (features : List Feature) :
    b.draws pass order features = (b.strokes pass order surfaces features).results := by
  rw [draws, course_of_ready hstage hsurfaces, List.filterMap_cons_none rfl, List.filterMap_map]
  exact List.filterMap_some

theorem draws_of_not_ready (h : b.stage = .bound → b.surfaces = none) (pass : Pass)
    (order : UInt32) (features : List Feature) : b.draws pass order features = [] := by
  rw [draws, course_of_not_ready h]
  rfl

theorem strokes_congr {features' : List Feature}
    (h : features.map Feature.plain = features'.map Feature.plain) :
    b.strokes pass order surfaces features = b.strokes pass order surfaces features' := by
  have hplain : ∀ fs : List Feature, Course.along (b.stroke pass order surfaces) fs =
      Course.along (b.stroke pass order surfaces) (fs.map Feature.plain) := by
    intro fs
    simp only [Course.along, List.map_map]
    rfl
  rw [strokes, strokes, subjects, subjects]
  cases b.scope with
  | sublayer => rw [hplain features, h, ← hplain features']
  | feature f => rfl

theorem course_congr {features' : List Feature}
    (h : features.map Feature.plain = features'.map Feature.plain) :
    b.course pass order features = b.course pass order features' := by
  rcases b.ready_or_not with hready | ⟨surfaces, hstage, hsurfaces⟩
  · rw [course_of_not_ready hready, course_of_not_ready hready]
  · rw [course_of_ready hstage hsurfaces, course_of_ready hstage hsurfaces, strokes_congr h]

/-! ### What the drawing loops do -/

section Features

variable {source : Option StyleSource} {shader : Option Shader} {f : Feature}
  {rest : List Feature}

theorem drawFeatures_cons_of_error {fault : FillFault}
    (h : (f.sharedStyle pass source shader).value = .error fault) :
    drawFeatures pass source shader order (f :: rest) list =
      (Outcome.failed (f :: rest, list) (.fill fault)).after
        (f.sharedStyle pass source shader).notices := by
  simp only [drawFeatures, h]

theorem drawFeatures_cons_of_ok {style : Style}
    (h : (f.sharedStyle pass source shader).value = .ok style) :
    drawFeatures pass source shader order (f :: rest) list =
      ((drawFeatures pass source shader order rest
        (list.draw (f.stamped (.ofShader shader) order) style)).map
          fun (rest, list) => (f.stamped (.ofShader shader) order :: rest, list)).after
        (f.sharedStyle pass source shader).notices := by
  simp only [drawFeatures, h]

/-- Drawing features in order follows the course of their strokes: the list grows by the draws, and as
many features as were drawn are stamped. -/
theorem drawFeatures_follows (source : Option StyleSource) (shader : Option Shader)
    (step : Feature → Except FillFault Draw)
    (hstep : ∀ f, step f = (f.sharedStyle pass source shader).value.map
      (f.record shader order surfaces)) :
    ∀ {list : DisplayList}, list.active = some surfaces → ∀ features : List Feature,
      let o := drawFeatures pass source shader order features list
      let c := Course.along step features
      o.fault = c.fault.map .fill ∧
        o.state.2.commands.toList = list.commands.toList ++ c.results.map .draw ∧
        o.state.1 = (features.take c.results.length).map
          (fun f => f.stamped (.ofShader shader) order) ++ features.drop c.results.length
  | list, _, [] => by simp [drawFeatures, Course.along, Course.chain, Course.idle]
  | list, hactive, f :: rest => by
    intro o c
    cases hstyle : (f.sharedStyle pass source shader).value with
    | error fault =>
      have hc : c = ⟨[], some fault⟩ :=
        Course.along_cons_of_error (by rw [hstep, hstyle]; rfl) rest
      rw [hc, show o = _ from drawFeatures_cons_of_error hstyle]
      simp
    | ok style =>
      have hc : c = ⟨f.record shader order surfaces style :: (Course.along step rest).results,
          (Course.along step rest).fault⟩ :=
        Course.along_cons_of_ok (by rw [hstep, hstyle]; rfl) rest
      rw [hc, show o = _ from drawFeatures_cons_of_ok hstyle]
      have hdrawn : (list.draw (f.stamped (.ofShader shader) order) style).active =
          some surfaces := hactive
      obtain ⟨hfault, hcommands, hfeatures⟩ :=
        drawFeatures_follows source shader step hstep hdrawn rest
      rw [DisplayList.commands_draw_stamped hactive] at hcommands
      exact ⟨by simpa using hfault, by simpa using hcommands, by simpa using hfeatures⟩

end Features

theorem render_of_not_ready (h : b.stage = .bound → b.surfaces = none) (pass : Pass)
    (order : UInt32) (features : List Feature) (list : DisplayList) :
    b.render pass order features list =
      .failed (b, features, list) (.illegalState (.bindingNotReady b.sublayerId b.stage)) := by
  rw [render]
  split
  · rename_i hstage hsurfaces
    rw [h hstage] at hsurfaces
    exact absurd hsurfaces (by simp)
  · rfl

theorem render_shared (hstage : b.stage = .bound) (hsurfaces : b.surfaces = some surfaces)
    (hscope : b.scope = .sublayer) (pass : Pass) (order : UInt32) (features : List Feature)
    (list : DisplayList) :
    b.render pass order features list =
      (drawFeatures pass b.source (b.shader pass) order features (list.bind surfaces)).map
        fun (features, list) => (b, features, list) := by
  obtain ⟨id, scope, source, given, stage⟩ := b
  obtain rfl : stage = .bound := hstage
  obtain rfl : given = some surfaces := hsurfaces
  obtain rfl : scope = .sublayer := hscope
  rfl

theorem render_own (hstage : b.stage = .bound) (hsurfaces : b.surfaces = some surfaces)
    {f : Feature} (hscope : b.scope = .feature f) (pass : Pass) (order : UInt32)
    (features : List Feature) (list : DisplayList) :
    b.render pass order features list =
      (drawOwn pass b.source (b.shader pass) order f (list.bind surfaces)).map
        fun (f, list) => ({ b with scope := .feature f }, features, list) := by
  obtain ⟨id, scope, source, given, stage⟩ := b
  obtain rfl : stage = .bound := hstage
  obtain rfl : given = some surfaces := hsurfaces
  obtain rfl : scope = .feature f := hscope
  rfl

theorem drawOwn_of_error {source : Option StyleSource} {shader : Option Shader} {f : Feature}
    {cause : FillFault} (h : (f.ownStyle pass source shader).value = .error cause) (order : UInt32)
    (list : DisplayList) :
    drawOwn pass source shader order f list =
      (Outcome.failed ({ f with renderClass := .ofShader shader }, list) (.fill cause)).after
        (f.ownStyle pass source shader).notices := by
  simp only [drawOwn, h]

theorem drawOwn_of_ok {source : Option StyleSource} {shader : Option Shader} {f : Feature}
    {style : Style} (h : (f.ownStyle pass source shader).value = .ok style) (order : UInt32)
    (list : DisplayList) :
    drawOwn pass source shader order f list =
      (Outcome.ok (f.stamped (.ofShader shader) order,
        list.draw (f.stamped (.ofShader shader) order) style)).after
          (f.ownStyle pass source shader).notices := by
  simp only [drawOwn, h]

theorem strokes_shared (hscope : b.scope = .sublayer) (pass : Pass) (order : UInt32)
    (surfaces : Surfaces) (features : List Feature) :
    b.strokes pass order surfaces features =
      Course.along (b.stroke pass order surfaces) features := by
  rw [strokes, subjects, hscope]

theorem strokes_own_of_ok {f : Feature} (hscope : b.scope = .feature f) {style : Style}
    (h : (f.ownStyle pass b.source (b.shader pass)).value = .ok style) (order : UInt32)
    (surfaces : Surfaces) (features : List Feature) :
    b.strokes pass order surfaces features =
      ⟨[f.record (b.shader pass) order surfaces style], none⟩ := by
  have hstroke : b.stroke pass order surfaces f =
      .ok (f.record (b.shader pass) order surfaces style) := by
    rw [stroke, styleOf, hscope, h]
    rfl
  rw [strokes, subjects, hscope]
  exact Course.along_cons_of_ok hstroke []

theorem strokes_own_of_error {f : Feature} (hscope : b.scope = .feature f) {cause : FillFault}
    (h : (f.ownStyle pass b.source (b.shader pass)).value = .error cause) (order : UInt32)
    (surfaces : Surfaces) (features : List Feature) :
    b.strokes pass order surfaces features = ⟨[], some cause⟩ := by
  have hstroke : b.stroke pass order surfaces f = .error cause := by
    rw [stroke, styleOf, hscope, h]
    rfl
  rw [strokes, subjects, hscope]
  exact Course.along_cons_of_error hstroke []

/-- A binding over a whole sublayer stamps the features that it draws, and no others. -/
theorem features_render_shared (hstage : b.stage = .bound)
    (hsurfaces : b.surfaces = some surfaces) (hscope : b.scope = .sublayer) (pass : Pass)
    (order : UInt32) (features : List Feature) (list : DisplayList) :
    let n := (b.strokes pass order surfaces features).results.length
    (b.render pass order features list).state.2.1 =
      (features.take n).map (fun f => f.stamped (.ofShader (b.shader pass)) order) ++
        features.drop n := by
  rw [render_shared hstage hsurfaces hscope, strokes_shared hscope]
  exact (drawFeatures_follows b.source (b.shader pass) (b.stroke pass order surfaces)
    (fun f => by rw [stroke, styleOf, hscope]) (DisplayList.active_bind list surfaces)
    features).2.2

/-- A binding that does not cover the sublayer leaves the features of the sublayer alone. -/
theorem features_render_own {f : Feature} (hscope : b.scope = .feature f) (pass : Pass)
    (order : UInt32) (features : List Feature) (list : DisplayList) :
    (b.render pass order features list).state.2.1 = features := by
  rcases b.ready_or_not with hready | ⟨surfaces, hstage, hsurfaces⟩
  · rw [render_of_not_ready hready]
    rfl
  · rw [render_own hstage hsurfaces hscope]
    rfl

/-- Rendering a binding follows its course. -/
theorem render_follows (b : Binding) (pass : Pass) (order : UInt32) (features : List Feature)
    (list : DisplayList) :
    let o := b.render pass order features list
    let c := b.course pass order features
    o.fault = c.fault ∧ o.state.2.2.commands.toList = list.commands.toList ++ c.results := by
  intro o c
  rcases b.ready_or_not with hready | ⟨surfaces, hstage, hsurfaces⟩
  · rw [show o = _ from render_of_not_ready hready .., show c = _ from course_of_not_ready hready ..]
    simp
  · rw [show c = _ from course_of_ready hstage hsurfaces ..]
    cases hscope : b.scope with
    | sublayer =>
      rw [show o = _ from render_shared hstage hsurfaces hscope .., strokes_shared hscope]
      obtain ⟨hfault, hcommands, -⟩ := drawFeatures_follows b.source (b.shader pass)
        (b.stroke pass order surfaces) (fun f => by rw [stroke, styleOf, hscope])
        (DisplayList.active_bind list surfaces) features
      exact ⟨by simpa using hfault, by simpa using hcommands⟩
    | feature f =>
      rw [show o = _ from render_own hstage hsurfaces hscope ..]
      cases hstyle : (f.ownStyle pass b.source (b.shader pass)).value with
      | error fault =>
        rw [strokes_own_of_error hscope hstyle, drawOwn_of_error hstyle]
        simp
      | ok style =>
        rw [strokes_own_of_ok hscope hstyle, drawOwn_of_ok hstyle]
        have hcommands := DisplayList.commands_draw_stamped (DisplayList.active_bind list surfaces)
          f (b.shader pass) order style
        simp [hcommands]

/-- The draws of a binding are added to those in the list. -/
theorem draws_render (b : Binding) (pass : Pass) (order : UInt32) (features : List Feature)
    (list : DisplayList) :
    (b.render pass order features list).state.2.2.draws =
      list.draws ++ b.draws pass order features :=
  DisplayList.draws_of_commands (b.render_follows pass order features list).2

/-- Rendering changes nothing of a binding but what passes write on a feature of its own: in
particular it puts the binding back into the stage it was in, also when it stops. -/
theorem plain_render (b : Binding) (pass : Pass) (order : UInt32) (features : List Feature)
    (list : DisplayList) : (b.render pass order features list).state.1.plain = b.plain := by
  rcases b.ready_or_not with hready | ⟨surfaces, hstage, hsurfaces⟩
  · rw [render_of_not_ready hready]
    rfl
  · cases hscope : b.scope with
    | sublayer => rw [render_shared hstage hsurfaces hscope]; rfl
    | feature f =>
      rw [render_own hstage hsurfaces hscope, plain, plain, hscope]
      cases hstyle : (f.ownStyle pass b.source (b.shader pass)).value with
      | error fault => rw [drawOwn_of_error hstyle]; rfl
      | ok style => rw [drawOwn_of_ok hstyle]; rfl

/-- Rendering changes nothing of the features of a sublayer but what passes write on them. -/
theorem plain_features_render (b : Binding) (pass : Pass) (order : UInt32)
    (features : List Feature) (list : DisplayList) :
    (b.render pass order features list).state.2.1.map Feature.plain =
      features.map Feature.plain := by
  cases hscope : b.scope with
  | feature f => rw [features_render_own hscope]
  | sublayer =>
    rcases b.ready_or_not with hready | ⟨surfaces, hstage, hsurfaces⟩
    · rw [render_of_not_ready hready]
      rfl
    · have hplain : (Feature.plain ∘ fun f : Feature =>
          f.stamped (.ofShader (b.shader pass)) order) = Feature.plain := rfl
      rw [features_render_shared hstage hsurfaces hscope, List.map_append, List.map_map, hplain,
        ← List.map_append, List.take_append_drop]

/-- A binding that goes through is left stamped; if it covers the sublayer, so are all features. -/
theorem render_of_ok (h : (b.render pass order features list).fault = none) :
    (b.render pass order features list).state.1 =
        b.stamped (.ofShader (b.shader pass)) order ∧
      (b.scope = .sublayer → (b.render pass order features list).state.2.1 =
        features.map fun f => f.stamped (.ofShader (b.shader pass)) order) := by
  have hcourse := (b.render_follows pass order features list).1.symm.trans h
  rcases b.ready_or_not with hready | ⟨surfaces, hstage, hsurfaces⟩
  · rw [course_of_not_ready hready] at hcourse
    exact absurd hcourse (by simp)
  · rw [course_of_ready hstage hsurfaces] at hcourse
    have hstrokes := Option.map_eq_none_iff.mp hcourse
    cases hscope : b.scope with
    | sublayer =>
      refine ⟨?_, fun _ => ?_⟩
      · rw [render_shared hstage hsurfaces hscope, stamped, hscope, Scope.stamped, ← hscope]
        rfl
      · rw [features_render_shared hstage hsurfaces hscope]
        rw [strokes_shared hscope] at hstrokes ⊢
        rw [← (Course.along_ok hstrokes).length_eq, List.take_length, List.drop_length,
          List.append_nil]
    | feature f =>
      refine ⟨?_, fun hshared => absurd hshared (by simp)⟩
      rw [render_own hstage hsurfaces hscope] at h ⊢
      rw [stamped, hscope, Scope.stamped]
      cases hstyle : (f.ownStyle pass b.source (b.shader pass)).value with
      | error fault => simp [drawOwn_of_error hstyle] at h
      | ok style => simp [drawOwn_of_ok hstyle, Feature.stamped]

end Binding

namespace Sublayer

variable {pass : Pass} {order : UInt32}

/-- The commands of bindings drawn in order: a chain of theirs. -/
def course (pass : Pass) (order : UInt32) (bindings : List Binding) (features : List Feature) :
    Course Command Fault :=
  .chain (bindings.map fun b => b.course pass order features)

theorem course_congr {bindings : List Binding} {features features' : List Feature}
    (h : features.map Feature.plain = features'.map Feature.plain) :
    course pass order bindings features = course pass order bindings features' := by
  rw [course, course, List.map_congr_left fun b _ => Binding.course_congr h]

theorem drawBindings_cons_of_fault {b : Binding} {features : List Feature} {list : DisplayList}
    {fault : Fault} (h : (b.render pass order features list).fault = some fault)
    (rest : List Binding) :
    drawBindings pass order (b :: rest) features list =
      (b.render pass order features list).map
        fun (b, features, list) => (b :: rest, features, list) := by
  simp only [drawBindings, h]
  rfl

theorem drawBindings_cons_of_ok {b : Binding} {features : List Feature} {list : DisplayList}
    (h : (b.render pass order features list).fault = none) (rest : List Binding) :
    drawBindings pass order (b :: rest) features list =
      ((drawBindings pass order rest (b.render pass order features list).state.2.1
        (b.render pass order features list).state.2.2).map
          fun (bs, fs, l) => ((b.render pass order features list).state.1 :: bs, fs, l)).after
        (b.render pass order features list).notices := by
  simp only [drawBindings, h]

/-- Drawing bindings in order follows their course, whatever stamps the features carry. -/
theorem drawBindings_follows (pass : Pass) (order : UInt32) :
    ∀ (bindings : List Binding) (features : List Feature) (list : DisplayList),
      let o := drawBindings pass order bindings features list
      let c := course pass order bindings features
      o.fault = c.fault ∧ o.state.2.2.commands.toList = list.commands.toList ++ c.results
  | [], _, _ => by simp [drawBindings, course, Course.chain, Course.idle]
  | b :: rest, features, list => by
    intro o c
    obtain ⟨hfault, hcommands⟩ := b.render_follows pass order features list
    cases hb : (b.render pass order features list).fault with
    | some fault =>
      rw [show o = _ from drawBindings_cons_of_fault hb rest,
        show c = _ from Course.chain_cons_of_fault (hfault ▸ hb) _]
      exact ⟨hfault, hcommands⟩
    | none =>
      rw [show o = _ from drawBindings_cons_of_ok hb rest,
        show c = _ from Course.chain_cons_of_ok (hfault ▸ hb) _]
      -- the rest draws features that are stamped by now, which changes none of its courses
      have hsame : course pass order rest (b.render pass order features list).state.2.1 =
          course pass order rest features :=
        course_congr (b.plain_features_render pass order features list)
      obtain ⟨hrestFault, hrestCommands⟩ := drawBindings_follows pass order rest
        (b.render pass order features list).state.2.1 (b.render pass order features list).state.2.2
      rw [hsame] at hrestFault hrestCommands
      refine ⟨hrestFault, ?_⟩
      show (drawBindings pass order rest _ _).state.2.2.commands.toList = _
      rw [hrestCommands, hcommands, List.append_assoc]
      rfl

/-- Bindings that do not all go through have a first one that stops: the ones before it went through,
it was rendered over what they left behind, and the ones after it were not touched. -/
theorem drawBindings_of_fault {fault : Fault} : ∀ {bindings : List Binding}
    {features : List Feature} {list : DisplayList},
    (drawBindings pass order bindings features list).fault = some fault →
      ∃ before b after, bindings = before ++ b :: after ∧
        let early := drawBindings pass order before features list
        let last := b.render pass order early.state.2.1 early.state.2.2
        early.fault = none ∧ last.fault = some fault ∧
          (drawBindings pass order bindings features list).state =
            (early.state.1 ++ last.state.1 :: after, last.state.2)
  | [], _, _, h => by simp [drawBindings] at h
  | b :: rest, features, list, h => by
    cases hb : (b.render pass order features list).fault with
    | some fault' =>
      rw [drawBindings_cons_of_fault hb] at h ⊢
      exact ⟨[], b, rest, rfl, rfl, h, rfl⟩
    | none =>
      rw [drawBindings_cons_of_ok hb] at h ⊢
      obtain ⟨before, c, after, rfl, hearly, hlast, hstate⟩ := drawBindings_of_fault h
      refine ⟨b :: before, c, after, rfl, ?_⟩
      rw [drawBindings_cons_of_ok hb]
      refine ⟨hearly, hlast, ?_⟩
      simp only [Outcome.state_after, Outcome.state_map, hstate, List.cons_append]

/-- Drawing changes nothing of the bindings but what passes write on features of their own. -/
theorem plain_drawBindings (pass : Pass) (order : UInt32) : ∀ (bindings : List Binding)
    (features : List Feature) (list : DisplayList),
    (drawBindings pass order bindings features list).state.1.map Binding.plain =
      bindings.map Binding.plain
  | [], _, _ => rfl
  | b :: rest, features, list => by
    have hb := b.plain_render pass order features list
    cases hfault : (b.render pass order features list).fault with
    | some fault =>
      rw [drawBindings_cons_of_fault hfault]
      simpa using hb
    | none =>
      rw [drawBindings_cons_of_ok hfault]
      simpa [hb] using plain_drawBindings pass order rest _ _

/-- Drawing changes nothing of the features of a sublayer but what passes write on them. -/
theorem plain_features_drawBindings (pass : Pass) (order : UInt32) : ∀ (bindings : List Binding)
    (features : List Feature) (list : DisplayList),
    (drawBindings pass order bindings features list).state.2.1.map Feature.plain =
      features.map Feature.plain
  | [], _, _ => rfl
  | b :: rest, features, list => by
    have hb := b.plain_features_render pass order features list
    cases hfault : (b.render pass order features list).fault with
    | some fault =>
      rw [drawBindings_cons_of_fault hfault]
      exact hb
    | none =>
      rw [drawBindings_cons_of_ok hfault]
      exact (plain_features_drawBindings pass order rest _ _).trans hb

/-- Bindings that all go through are left stamped, and so are the features of the sublayer as soon as
one of them covers it. -/
theorem drawBindings_of_ok {pass : Pass} {shader : Option Shader} (order : UInt32) :
    ∀ {bindings : List Binding} {features : List Feature} {list : DisplayList},
      (∀ b ∈ bindings, b.shader pass = shader) →
      (drawBindings pass order bindings features list).fault = none →
      let o := drawBindings pass order bindings features list
      o.state.1 = bindings.map (·.stamped (.ofShader shader) order) ∧
        ((∃ b ∈ bindings, b.scope = .sublayer) →
          o.state.2.1 = features.map fun f => f.stamped (.ofShader shader) order) ∧
        ((∀ b ∈ bindings, b.scope ≠ .sublayer) → o.state.2.1 = features)
  | [], features, list, _, _ => by simp [drawBindings]
  | b :: rest, features, list, hshader, h => by
    intro o
    cases hb : (b.render pass order features list).fault with
    | some fault =>
      rw [drawBindings_cons_of_fault hb] at h
      exact absurd (hb.symm.trans h) (by simp)
    | none =>
      rw [drawBindings_cons_of_ok hb] at h
      obtain ⟨hown, hshared⟩ := Binding.render_of_ok hb
      obtain ⟨hbindings, hcovered, huncovered⟩ := drawBindings_of_ok order
        (fun x hx => hshader x (List.mem_cons_of_mem b hx)) h
      rw [hshader b List.mem_cons_self] at hown hshared
      rw [show o = _ from drawBindings_cons_of_ok hb rest]
      -- the features after the first binding: stamping them again gives what stamping them once does
      have hagain : (b.render pass order features list).state.2.1.map
          (fun f => f.stamped (.ofShader shader) order) =
            features.map fun f => f.stamped (.ofShader shader) order := by
        cases hscope : b.scope with
        | sublayer => rw [hshared hscope, List.map_map]; rfl
        | feature f => rw [Binding.features_render_own hscope]
      refine ⟨?_, ?_, ?_⟩
      · simp [hown, hbindings]
      · rintro ⟨x, hx, hscope⟩
        by_cases hrest : ∃ y ∈ rest, y.scope = .sublayer
        · exact (hcovered hrest).trans hagain
        · rcases List.mem_cons.mp hx with rfl | hx
          · exact (huncovered fun y hy he => hrest ⟨y, hy, he⟩).trans (hshared hscope)
          · exact absurd ⟨x, hx, hscope⟩ hrest
      · intro hnone
        have hb' := hnone b List.mem_cons_self
        cases hscope : b.scope with
        | sublayer => exact absurd hscope hb'
        | feature f =>
          refine (huncovered fun y hy => hnone y (List.mem_cons_of_mem b hy)).trans ?_
          exact Binding.features_render_own hscope pass order features list

theorem redraw_of_visible {s : Sublayer} {c : Contents} (hlive : s.contents = some c)
    (hvisible : s.visible = true) (pass : Pass) (list : DisplayList) :
    s.redraw pass list =
      (drawBindings pass s.origin.paintOrder c.bindings c.features list).map
        fun (bindings, features, list) =>
          ({ s with contents := some ⟨features, bindings⟩ }, list) := by
  simp only [redraw, hlive, hvisible, if_true]

/-- A sublayer is drawn, or it is gone or hidden. -/
theorem drawn_or_idle (s : Sublayer) :
    (s.contents = none ∨ s.visible = false) ∨ ∃ c, s.contents = some c ∧ s.visible = true := by
  cases hlive : s.contents with
  | none => exact .inl (.inl rfl)
  | some c =>
    cases hvisible : s.visible with
    | false => exact .inl (.inr rfl)
    | true => exact .inr ⟨c, rfl, rfl⟩

theorem redraw_of_idle {s : Sublayer} (h : s.contents = none ∨ s.visible = false) (pass : Pass)
    (list : DisplayList) :
    (s.redraw pass list).state = (s, list) ∧ (s.redraw pass list).notices = [] := by
  cases hlive : s.contents with
  | none => simp [redraw, hlive]
  | some c =>
    have hhidden : s.visible = false := h.resolve_left (by simp [hlive])
    simp [redraw, hlive, hhidden]

/-- The course of a sublayer that is drawn: that of its bindings, unless it is hidden or gone. -/
def redrawCourse (s : Sublayer) (pass : Pass) : Course Command Fault :=
  match s.contents with
  | some c => if s.visible then course pass s.origin.paintOrder c.bindings c.features else .idle
  | none => ⟨[], some s.destroyedFault⟩

/-- Drawing a sublayer follows its course, whatever the display list holds. -/
theorem redraw_follows (s : Sublayer) (pass : Pass) (list : DisplayList) :
    (s.redraw pass list).fault = (s.redrawCourse pass).fault ∧
      (s.redraw pass list).state.2.commands.toList =
        list.commands.toList ++ (s.redrawCourse pass).results := by
  cases hlive : s.contents with
  | none => simp [redraw, redrawCourse, hlive]
  | some c =>
    cases hvisible : s.visible with
    | false => simp [redraw, redrawCourse, hlive, hvisible, Course.idle]
    | true =>
      have hcourse : s.redrawCourse pass =
          course pass s.origin.paintOrder c.bindings c.features := by
        simp only [redrawCourse, hlive, hvisible, if_true]
      rw [redraw_of_visible hlive hvisible, hcourse]
      exact drawBindings_follows pass s.origin.paintOrder c.bindings c.features list

/-- Bindings that all go through add their draws, one binding after another, unless the sublayer is
hidden. -/
theorem redraw_of_courses {s : Sublayer} {c : Contents} (hlive : s.contents = some c) {pass : Pass}
    (hok : ∀ b ∈ c.bindings, (b.course pass s.origin.paintOrder c.features).fault = none)
    (list : DisplayList) :
    (s.redraw pass list).fault = none ∧
      (s.redraw pass list).state.2.draws = list.draws ++ if s.visible then
        c.bindings.flatMap fun b => b.draws pass s.origin.paintOrder c.features else [] := by
  obtain ⟨hfault, hcommands⟩ := s.redraw_follows pass list
  have hall : ∀ d ∈ c.bindings.map fun b => b.course pass s.origin.paintOrder c.features,
      d.fault = none := by
    simpa using hok
  rw [redrawCourse, hlive] at hfault hcommands
  rw [DisplayList.draws_of_commands hcommands]
  cases hvisible : s.visible with
  | false =>
    simp only [hvisible] at hfault
    exact ⟨hfault, rfl⟩
  | true =>
    simp only [hvisible, if_true, course, Course.chain_of_ok hall] at hfault ⊢
    rw [List.flatMap_map, List.filterMap_flatMap]
    exact ⟨hfault, rfl⟩

end Sublayer

end Portrayal
