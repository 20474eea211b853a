import Portrayal.Proofs.Frame

/-!
Features of a binding's own. Every rendering of such a binding writes on its feature how it is
classified, and one that goes through also writes the paint order. The class is written first, before
there is a style, so it is written by a rendering that fails as well:

    rendering                            class        layer index
                                         normal       -
    highlighted, paint order 4           highlight    4
    plain, paint order 6, no bitmap      normal       4             fails

Only a plain rendering can fail, so what a failing one writes is that the feature is normal. Main
statement: a failing rendering leaves the binding as it was exactly if the feature was normal before,
that is if the rendering before it was plain, or if there was none and the feature was given as normal.
-/

namespace Portrayal

/-- What a binding is rendered with. -/
structure Rendering where
  pass : Pass
  order : UInt32
  /-- The features of the sublayer. -/
  features : List Feature
  list : DisplayList

namespace Binding

/-- Carry out a rendering. -/
def renderWith (b : Binding) (r : Rendering) : Outcome (Binding × List Feature × DisplayList) :=
  b.render r.pass r.order r.features r.list

/-- A binding after renderings in order, whether they went through or not. -/
def rendered (b : Binding) (rs : List Rendering) : Binding :=
  rs.foldl (fun b r => (b.renderWith r).state.1) b

/-- The class that a rendering writes on a feature of the binding's own. -/
def writtenClass (b : Binding) (r : Rendering) : RenderClass :=
  if (b.shader r.pass).isSome then .highlight else .normal

/-- The paint order that a rendering writes on a feature of the binding's own, if it goes through. -/
def writtenOrder? (b : Binding) (r : Rendering) : Option UInt32 :=
  if (b.renderWith r).succeeded then some r.order else none

/-- A feature of the binding's own as renderings leave it: classified by the last one, and in the paint
order of the last one that went through. -/
def ownAfter (b : Binding) (rs : List Rendering) (f : Feature) : Feature :=
  { f with
    renderClass := (rs.getLast?.map b.writtenClass).getD f.renderClass
    layerIndex := (rs.reverse.findSome? b.writtenOrder?).or f.layerIndex }

variable {b : Binding} {f : Feature} {r : Rendering}

/-- A binding with a feature of its own is ready, since a destroyed one has given its feature up. -/
theorem Reachable.bound_of_own (h : b.Reachable) : ∀ {f}, b.scope = .feature f → b.stage = .bound := by
  induction h with
  | make => exact fun _ => rfl
  | @render b _ pass order features list ih =>
    intro f hscope
    have hplain := b.plain_render pass order features list
    have hstage : (b.render pass order features list).state.1.stage = b.stage := by
      simpa using congrArg Binding.stage hplain
    have hplainscope := congrArg Binding.scope hplain
    rw [plain, plain, hscope] at hplainscope
    cases hb : b.scope with
    | sublayer => simp [hb, Scope.plain] at hplainscope
    | feature g => exact hstage.trans (ih hb)
  | @destroy b _ ih =>
    intro f hscope
    by_cases hstage : b.stage = .destroyed
    · rw [Binding.destroy, if_pos hstage] at hscope ⊢
      exact ih hscope
    · rw [Binding.destroy, if_neg hstage] at hscope
      exact absurd hscope (by simp)

/-! ### One rendering -/

/-- A rendering stops exactly where the feature has no style. -/
theorem fault_renderWith_own (hb : b.Reachable) (hscope : b.scope = .feature f) {fault : Fault} :
    (b.renderWith r).fault = some fault ↔ ∃ cause, fault = .fill cause ∧
      (f.ownStyle r.pass b.source (b.shader r.pass)).value = .error cause := by
  have hstage := hb.bound_of_own hscope
  obtain ⟨surfaces, hsurfaces⟩ := hb.settled.equipped hstage
  rw [renderWith, render_own hstage hsurfaces hscope, Outcome.fault_map]
  cases hstyle : (f.ownStyle r.pass b.source (b.shader r.pass)).value with
  | error cause => simp [drawOwn_of_error hstyle, eq_comm]
  | ok style => simp [drawOwn_of_ok hstyle]

theorem ownAfter_singleton (b : Binding) (r : Rendering) (f : Feature) : b.ownAfter [r] f =
    { f with
      renderClass := b.writtenClass r
      layerIndex := (b.writtenOrder? r).or f.layerIndex } := by
  rw [ownAfter, List.reverse_singleton, List.findSome?_singleton]
  rfl

/-- What one rendering makes of the binding, whether it goes through or not. -/
theorem state_renderWith_own (hb : b.Reachable) (hscope : b.scope = .feature f) :
    (b.renderWith r).state.1 = { b with scope := .feature (b.ownAfter [r] f) } := by
  have hstage := hb.bound_of_own hscope
  obtain ⟨surfaces, hsurfaces⟩ := hb.settled.equipped hstage
  have hrender := render_own hstage hsurfaces hscope r.pass r.order r.features r.list
  cases hstyle : (f.ownStyle r.pass b.source (b.shader r.pass)).value with
  | error cause =>
    have hfault : (b.renderWith r).fault = some (.fill cause) :=
      (fault_renderWith_own hb hscope).mpr ⟨cause, rfl, hstyle⟩
    have horder : b.writtenOrder? r = none := by simp [writtenOrder?, Outcome.succeeded, hfault]
    rw [renderWith, hrender, drawOwn_of_error hstyle, ownAfter_singleton, horder]
    rfl
  | ok style =>
    have hfault : (b.renderWith r).fault = none := by
      rw [Option.eq_none_iff_forall_ne_some]
      intro fault hfault
      obtain ⟨cause, -, herror⟩ := (fault_renderWith_own hb hscope).mp hfault
      rw [hstyle] at herror
      exact nomatch herror
    have horder : b.writtenOrder? r = some r.order := by
      simp [writtenOrder?, Outcome.succeeded, hfault]
    rw [renderWith, hrender, drawOwn_of_ok hstyle, ownAfter_singleton, horder]
    rfl

/-! ### Renderings in order -/

/-- What renderings write does not depend on what is written on the feature already. -/
theorem ownAfter_alike {b' : Binding} (h : b.plain = b'.plain) (rs : List Rendering) (f : Feature) :
    b.ownAfter rs f = b'.ownAfter rs f := by
  have hid : b.sublayerId = b'.sublayerId := by simpa using congrArg Binding.sublayerId h
  have hclass : b.writtenClass = b'.writtenClass := by
    funext r
    rw [writtenClass, writtenClass, shader, shader, hid]
  have horder : b.writtenOrder? = b'.writtenOrder? := by
    funext r
    have hfault : (b.renderWith r).fault = (b'.renderWith r).fault := fault_render_alike h rfl
    rw [writtenOrder?, writtenOrder?, Outcome.succeeded, Outcome.succeeded, hfault]
  rw [ownAfter, ownAfter, hclass, horder]

theorem ownAfter_cons (b : Binding) (r : Rendering) (rs : List Rendering) (f : Feature) :
    b.ownAfter (r :: rs) f = b.ownAfter rs (b.ownAfter [r] f) := by
  have hclass : ((r :: rs).getLast?.map b.writtenClass).getD f.renderClass =
      (rs.getLast?.map b.writtenClass).getD (b.writtenClass r) := by
    rw [List.getLast?_cons]
    cases rs.getLast? <;> rfl
  have horder : ((r :: rs).reverse.findSome? b.writtenOrder?).or f.layerIndex =
      (rs.reverse.findSome? b.writtenOrder?).or ((b.writtenOrder? r).or f.layerIndex) := by
    rw [List.reverse_cons, List.findSome?_append, List.findSome?_singleton, Option.or_assoc]
  rw [ownAfter_singleton, ownAfter, ownAfter, hclass, horder]

/-- What renderings in order make of a binding with a feature of its own. -/
theorem rendered_own : ∀ (rs : List Rendering) {b : Binding} {f : Feature}, b.Reachable →
    b.scope = .feature f → b.rendered rs = { b with scope := .feature (b.ownAfter rs f) }
  | [], b, f, _, hscope => by
    obtain ⟨id, scope, source, surfaces, stage⟩ := b
    obtain rfl : scope = .feature f := hscope
    rfl
  | r :: rs, b, f, hb, hscope => by
    have hplain : (b.renderWith r).state.1.plain = b.plain := b.plain_render ..
    have hstep := state_renderWith_own (r := r) hb hscope
    have hrest : (b.renderWith r).state.1.rendered rs = _ :=
      rendered_own rs (hb.render r.pass r.order r.features r.list) (congrArg Binding.scope hstep)
    calc b.rendered (r :: rs)
        = (b.renderWith r).state.1.rendered rs := rfl
      _ = { (b.renderWith r).state.1 with
            scope := .feature ((b.renderWith r).state.1.ownAfter rs (b.ownAfter [r] f)) } := hrest
      _ = { b with scope := .feature (b.ownAfter (r :: rs) f) } := by
        rw [ownAfter_alike hplain, ← ownAfter_cons, hstep]

/-! ### Renderings that fail -/

theorem Reachable.rendered : ∀ {b : Binding}, b.Reachable → ∀ rs : List Rendering,
    (b.rendered rs).Reachable
  | _, hb, [] => hb
  | _, hb, r :: rs => (hb.render r.pass r.order r.features r.list).rendered rs

/-- A binding with a feature of its own is rendered any number of times, and then a rendering fails. It was
one without a highlight, and it leaves everything as it was, except that the feature is classified as
normal. So it leaves the binding as it was exactly if the rendering before it was without a highlight too,
or there was none before it and the feature was given as normal. -/
theorem render_own_fails (hb : b.Reachable) (hown : b.own? = some f) (rs : List Rendering)
    (r : Rendering) (hfault : ((b.rendered rs).renderWith r).fault ≠ none) :
    let before := b.rendered rs
    let after := before.renderWith r
    before = { b with scope := .feature (b.ownAfter rs f) } ∧ b.shader r.pass = none ∧
      after.state.1 =
        { before with scope := .feature { b.ownAfter rs f with renderClass := .normal } } ∧
      after.state.2.1 = r.features ∧
      (after.state.1 = before ↔
        (rs.getLast?.map b.writtenClass).getD f.renderClass = .normal) := by
  intro before after
  have hbefore : before = { b with scope := .feature (b.ownAfter rs f) } :=
    rendered_own rs hb (own?_eq_some_iff.mp hown)
  have hreachable : before.Reachable := hb.rendered rs
  have hscope : before.scope = .feature (b.ownAfter rs f) := congrArg Binding.scope hbefore
  have hshader : before.shader r.pass = b.shader r.pass := by rw [hbefore]; rfl
  obtain ⟨fault, hfault⟩ := Option.ne_none_iff_exists'.mp hfault
  obtain ⟨cause, -, hstyle⟩ := (fault_renderWith_own hreachable hscope).mp hfault
  have hplain : before.shader r.pass = none := (Feature.ownStyle_eq_error_iff.mp hstyle).1
  have hunwritten : before.writtenOrder? r = none := by
    simp [writtenOrder?, Outcome.succeeded, show (before.renderWith r).fault = _ from hfault]
  have hafter : after.state.1 =
      { before with scope := .feature { b.ownAfter rs f with renderClass := .normal } } := by
    rw [show after.state.1 = _ from state_renderWith_own hreachable hscope, ownAfter_singleton,
      hunwritten, writtenClass, hplain]
    rfl
  refine ⟨hbefore, hshader.symm.trans hplain, hafter, features_render_own hscope .., ?_⟩
  rw [hafter]
  constructor
  · intro hsame
    have hfeature := congrArg Binding.scope hsame
    rw [hscope] at hfeature
    exact (congrArg Feature.renderClass (Scope.feature.inj hfeature)).symm
  · intro hclass
    have hsame : { b.ownAfter rs f with renderClass := .normal } = b.ownAfter rs f := by
      rw [← hclass]
      rfl
    rw [hsame, ← hscope]

/-- A binding with a lot of its own, whose fill pattern has no bitmap. -/
def lot : Binding :=
  .make (escapeLayerName "lots")
    (.feature { id := 1, geometry := { kind := .region, coordinates := [(0, 0), (8, 0), (8, 8)] } })
    (some (.service { fillForeColor := some .black, fillSymbol := some 3 })) ⟨1, 2⟩

/-- A rendering of the lot, with or without a highlight of the whole layer. -/
def lotRendering (lit : Bool) (order : UInt32) : Rendering where
  pass :=
    { layer := { Layer.ofUrl "" with highlight := ⟨[], none, if lit then some (.ofRules []) else none⟩ }
      zoom := 3 }
  order
  features := []
  list := .empty

/-- The lot is highlighted, drawn fourth, and then cannot be drawn without the highlight: it keeps its
place in the paint order, but not the class that it was drawn in. -/
theorem render_own_fails_lot :
    let before := lot.rendered [lotRendering true 4]
    let after := before.renderWith (lotRendering false 6)
    lot.Reachable ∧ after.fault = some (.fill (.missingImage 3)) ∧ after.state.1 ≠ before ∧
      (before.own?.map fun f => (f.renderClass, f.layerIndex)) = some (.highlight, some 4) ∧
      (after.state.1.own?.map fun f => (f.renderClass, f.layerIndex)) = some (.normal, some 4) := by
  intro before after
  have hreachable : lot.Reachable := .make "lots" _ _ _
  have hfault : after.fault = some (.fill (.missingImage 3)) := rfl
  obtain ⟨-, -, -, -, hsame⟩ := render_own_fails hreachable (f := _) rfl [lotRendering true 4]
    (lotRendering false 6) (fun h => nomatch hfault.symm.trans h)
  refine ⟨hreachable, hfault, fun h => ?_, rfl, rfl⟩
  exact nomatch hsame.mp h

end Binding

end Portrayal
