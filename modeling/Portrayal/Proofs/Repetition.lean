import Portrayal.Proofs.Journal
import Portrayal.Proofs.Redraw

/-!
Drawing again. What a pass records, says and returns depends on nothing that earlier passes have
written on the features, and what it writes on them overwrites what was there. So a redraw that is
repeated does the same and changes nothing more, whether it goes through or stops somewhere.

    features of the sublayer        a     b     c     d
    first binding, stops at b       a₁    b     c     d
      or goes through               a₁    b₁    c₁    d₁
    second binding, stops at d      a₂    b₂    c₂    d₁
    the same two again              a₂    b₂    c₂    d₁

Each binding writes one mark on the features before the one it stops at and leaves the others alone,
and where it stops depends on what is not marked. Marks that are written a second time change nothing.
-/

namespace Portrayal

namespace Feature

/-- What a pass writes on a feature that it draws. -/
structure Mark where
  renderClass : RenderClass
  order : UInt32

/-- A feature with a mark written on it, if there is one to write. -/
def mark (f : Feature) : Option Mark → Feature
  | some m => f.stamped m.renderClass m.order
  | none => f

/-- Features with a mark written on each position that there is one for. -/
def markAll (marks : Nat → Option Mark) (features : List Feature) : List Feature :=
  features.mapIdx fun i f => f.mark (marks i)

/-- The marks of a pass that draws the first few features. -/
def marksUpTo (n : Nat) (m : Mark) : Nat → Option Mark := fun i => if i < n then some m else none

theorem mark_mark (f : Feature) (m m' : Option Mark) : (f.mark m).mark m' = f.mark (m'.or m) := by
  cases m' with
  | none => rfl
  | some m' => cases m <;> rfl

/-- Later marks overwrite earlier ones. -/
theorem markAll_markAll (marks marks' : Nat → Option Mark) (features : List Feature) :
    markAll marks' (markAll marks features) = markAll (fun i => (marks' i).or (marks i)) features := by
  simp only [markAll, List.mapIdx_mapIdx]
  congr 1
  funext i f
  exact mark_mark f (marks i) (marks' i)

/-- Marks that are written a second time change nothing. -/
theorem markAll_again (marks : Nat → Option Mark) (features : List Feature) :
    markAll marks (markAll marks features) = markAll marks features := by
  rw [markAll_markAll]
  simp only [Option.or_self]

theorem markAll_none (features : List Feature) : markAll (fun _ => none) features = features := by
  apply List.ext_getElem
  · simp [markAll]
  · intro i _ _
    simp [markAll, mark]

theorem stamped_upTo (n : Nat) (c : RenderClass) (order : UInt32) (features : List Feature) :
    (features.take n).map (fun f => f.stamped c order) ++ features.drop n =
      markAll (marksUpTo n ⟨c, order⟩) features := by
  induction features generalizing n with
  | nil => simp [markAll]
  | cons f rest ih =>
    cases n with
    | zero => exact (markAll_none (f :: rest)).symm
    | succ n =>
      have hshift : (fun i => marksUpTo (n + 1) ⟨c, order⟩ (i + 1)) = marksUpTo n ⟨c, order⟩ := by
        funext i
        simp [marksUpTo]
      have hrest : markAll (marksUpTo (n + 1) ⟨c, order⟩) (f :: rest) =
          f.stamped c order :: markAll (marksUpTo n ⟨c, order⟩) rest := by
        rw [← hshift, markAll, List.mapIdx_cons]
        rfl
      rw [hrest, ← ih n]
      rfl

/-! ### What is not marked -/

variable {pass : Pass} {source : Option StyleSource} {shader : Option Shader} {f g : Feature}

theorem sharedStyle_alike (h : f.plain = g.plain) :
    f.sharedStyle pass source shader = g.sharedStyle pass source shader :=
  show f.plain.sharedStyle pass source shader = g.plain.sharedStyle pass source shader by rw [h]

theorem ownStyle_alike (h : f.plain = g.plain) :
    f.ownStyle pass source shader = g.ownStyle pass source shader :=
  show f.plain.ownStyle pass source shader = g.plain.ownStyle pass source shader by rw [h]

end Feature

namespace Binding

variable {b b' : Binding} {pass : Pass} {order : UInt32} {features features' : List Feature}
  {list list' : DisplayList}

theorem course_plain (b : Binding) (pass : Pass) (order : UInt32) (features : List Feature) :
    b.plain.course pass order features = b.course pass order features := by
  obtain ⟨id, scope, source, surfaces, stage⟩ := b
  cases scope <;> rfl

/-- Bindings that differ in marks only are the same, or each of them has a feature of its own and the
features differ in marks only. -/
theorem alike_cases (h : b.plain = b'.plain) :
    (b.scope = .sublayer ∧ b' = b) ∨
      ∃ f g, b.scope = .feature f ∧ b' = { b with scope := .feature g } ∧ f.plain = g.plain := by
  obtain ⟨id, scope, source, surfaces, stage⟩ := b
  obtain ⟨id', scope', source', surfaces', stage'⟩ := b'
  obtain ⟨rfl, hscope, rfl, rfl, rfl⟩ := Binding.mk.injEq .. ▸ h
  cases scope with
  | sublayer =>
    cases scope' with
    | sublayer => exact .inl ⟨rfl, rfl⟩
    | feature g => simp [Scope.plain] at hscope
  | feature f =>
    cases scope' with
    | sublayer => simp [Scope.plain] at hscope
    | feature g => exact .inr ⟨f, g, rfl, rfl, Scope.feature.inj hscope⟩

/-- Marks do not show in what a binding records. -/
theorem course_alike (hb : b.plain = b'.plain)
    (hfeatures : features.map Feature.plain = features'.map Feature.plain) :
    b.course pass order features = b'.course pass order features' := by
  calc b.course pass order features
      = b.plain.course pass order features := (b.course_plain pass order features).symm
    _ = b'.plain.course pass order features := by rw [hb]
    _ = b'.course pass order features := b'.course_plain pass order features
    _ = b'.course pass order features' := course_congr hfeatures

/-- Marks do not show in how a binding ends. -/
theorem fault_render_alike (hb : b.plain = b'.plain)
    (hfeatures : features.map Feature.plain = features'.map Feature.plain) :
    (b.render pass order features list).fault = (b'.render pass order features' list').fault := by
  rw [(b.render_follows pass order features list).1,
    (b'.render_follows pass order features' list').1, course_alike hb hfeatures]

/-- Marks do not show in what is said of features that are drawn in order. -/
theorem notices_drawFeatures_alike (pass : Pass) (source : Option StyleSource)
    (shader : Option Shader) (order : UInt32) : ∀ {features features' : List Feature}
    (list list' : DisplayList), features.map Feature.plain = features'.map Feature.plain →
      (drawFeatures pass source shader order features list).notices =
        (drawFeatures pass source shader order features' list').notices
  | [], [], _, _, _ => rfl
  | [], g :: gs, _, _, h => by simp at h
  | f :: fs, [], _, _, h => by simp at h
  | f :: fs, g :: gs, list, list', h => by
    obtain ⟨hhead, hrest⟩ := List.cons_eq_cons.mp h
    have hstyle : f.sharedStyle pass source shader = g.sharedStyle pass source shader :=
      Feature.sharedStyle_alike hhead
    cases hvalue : (f.sharedStyle pass source shader).value with
    | error fault =>
      rw [drawFeatures_cons_of_error hvalue, drawFeatures_cons_of_error (hstyle ▸ hvalue), hstyle]
      rfl
    | ok style =>
      have hdrawn := notices_drawFeatures_alike pass source shader order
        (list.draw (f.stamped (.ofShader shader) order) style)
        (list'.draw (g.stamped (.ofShader shader) order) style) hrest
      rw [drawFeatures_cons_of_ok hvalue, drawFeatures_cons_of_ok (hstyle ▸ hvalue), hstyle]
      exact congrArg ((g.sharedStyle pass source shader).notices ++ ·) hdrawn

theorem notices_drawOwn (pass : Pass) (source : Option StyleSource) (shader : Option Shader)
    (order : UInt32) (f : Feature) (list : DisplayList) :
    (drawOwn pass source shader order f list).notices =
      (f.ownStyle pass source shader).notices := by
  cases hstyle : (f.ownStyle pass source shader).value with
  | error cause => rw [drawOwn_of_error hstyle]; simp
  | ok style => rw [drawOwn_of_ok hstyle]; simp

/-- Marks do not show in what is said of a binding. -/
theorem notices_render_alike (hb : b.plain = b'.plain)
    (hfeatures : features.map Feature.plain = features'.map Feature.plain) :
    (b.render pass order features list).notices =
      (b'.render pass order features' list').notices := by
  rcases b.ready_or_not with hready | ⟨surfaces, hstage, hsurfaces⟩
  · have hready' : b'.stage = .bound → b'.surfaces = none := by
      rw [← stage_plain b', ← surfaces_plain b', ← hb]
      exact hready
    rw [render_of_not_ready hready, render_of_not_ready hready']
    rfl
  · rcases alike_cases hb with ⟨hscope, rfl⟩ | ⟨f, g, hscope, rfl, hfeature⟩
    · rw [render_shared hstage hsurfaces hscope, render_shared hstage hsurfaces hscope]
      exact notices_drawFeatures_alike pass _ _ order _ _ hfeatures
    · rw [render_own hstage hsurfaces hscope,
        render_own (b := { b with scope := .feature g }) hstage hsurfaces rfl,
        Outcome.notices_map, Outcome.notices_map, notices_drawOwn, notices_drawOwn]
      exact congrArg Noted.notices (Feature.ownStyle_alike hfeature)

/-- A feature of a binding's own that is drawn a second time is left as the first time left it, also
when it has no style. -/
theorem drawOwn_again (pass : Pass) (source : Option StyleSource) (shader : Option Shader)
    (order : UInt32) (f : Feature) (list list' : DisplayList) :
    let drawn := (drawOwn pass source shader order f list).state.1
    (drawOwn pass source shader order drawn list').state.1 = drawn := by
  intro drawn
  cases hvalue : (f.ownStyle pass source shader).value with
  | error fault =>
    have hdrawn : drawn = { f with renderClass := .ofShader shader } := by
      simp [drawn, drawOwn_of_error hvalue]
    have hstyle : (drawn.ownStyle pass source shader).value = .error fault := by
      rw [Feature.ownStyle_alike (show drawn.plain = f.plain by rw [hdrawn]; rfl), hvalue]
    rw [drawOwn_of_error hstyle, hdrawn]
    rfl
  | ok style =>
    have hdrawn : drawn = f.stamped (.ofShader shader) order := by
      simp [drawn, drawOwn_of_ok hvalue]
    have hstyle : (drawn.ownStyle pass source shader).value = .ok style := by
      rw [Feature.ownStyle_alike (show drawn.plain = f.plain by rw [hdrawn]; rfl), hvalue]
    rw [drawOwn_of_ok hstyle, hdrawn]
    rfl

/-- A binding that is drawn a second time, over whatever features, is left as the first time left it,
also when it stops. -/
theorem render_again (b : Binding) (pass : Pass) (order : UInt32) (features features' : List Feature)
    (list list' : DisplayList) :
    let drawn := (b.render pass order features list).state.1
    (drawn.render pass order features' list').state.1 = drawn := by
  intro drawn
  rcases b.ready_or_not with hready | ⟨surfaces, hstage, hsurfaces⟩
  · have hdrawn : drawn = b := by
      show (b.render pass order features list).state.1 = b
      rw [render_of_not_ready hready]
      rfl
    rw [hdrawn, render_of_not_ready hready]
    rfl
  · cases hscope : b.scope with
    | sublayer =>
      have hdrawn : drawn = b := by
        show (b.render pass order features list).state.1 = b
        rw [render_shared hstage hsurfaces hscope]
        rfl
      rw [hdrawn, render_shared hstage hsurfaces hscope]
      rfl
    | feature f =>
      let own := (drawOwn pass b.source (b.shader pass) order f (list.bind surfaces)).state.1
      have hdrawn : drawn = { b with scope := .feature own } := by
        show (b.render pass order features list).state.1 = _
        rw [render_own hstage hsurfaces hscope]
        rfl
      have hagain : (drawOwn pass b.source (b.shader pass) order own (list'.bind surfaces)).state.1 =
          own := drawOwn_again pass b.source (b.shader pass) order f (list.bind surfaces) _
      rw [hdrawn, render_own (b := { b with scope := .feature own }) hstage hsurfaces rfl]
      show ({ b with scope := .feature (drawOwn pass b.source (b.shader pass) order own
        (list'.bind surfaces)).state.1 } : Binding) = _
      rw [hagain]

/-- A binding writes the same marks on the features of a sublayer, whatever marks there are. -/
theorem exists_marks_render (b : Binding) (pass : Pass) (order : UInt32) (features : List Feature) :
    ∃ marks, ∀ (b' : Binding) (features' : List Feature) (list : DisplayList),
      b.plain = b'.plain → features.map Feature.plain = features'.map Feature.plain →
        (b'.render pass order features' list).state.2.1 = Feature.markAll marks features' := by
  cases hscope : b.scope with
  | feature f =>
    refine ⟨fun _ => none, fun b' features' list hb _ => ?_⟩
    rcases alike_cases hb with ⟨hshared, -⟩ | ⟨-, g, -, rfl, -⟩
    · rw [hscope] at hshared
      exact absurd hshared (by simp)
    · rw [features_render_own rfl, Feature.markAll_none]
  | sublayer =>
    -- a binding that covers the sublayer carries no marks itself
    have hsame : ∀ b' : Binding, b.plain = b'.plain → b' = b := by
      intro b' hb
      rcases alike_cases hb with ⟨-, rfl⟩ | ⟨f, -, hown, -⟩
      · rfl
      · rw [hscope] at hown
        exact absurd hown (by simp)
    rcases b.ready_or_not with hready | ⟨surfaces, hstage, hsurfaces⟩
    · refine ⟨fun _ => none, fun b' features' list hb _ => ?_⟩
      rw [hsame b' hb, render_of_not_ready hready, Feature.markAll_none]
      rfl
    · refine ⟨Feature.marksUpTo (b.strokes pass order surfaces features).results.length
        ⟨.ofShader (b.shader pass), order⟩, fun b' features' list hb hfeatures => ?_⟩
      rw [hsame b' hb, features_render_shared hstage hsurfaces hscope, strokes_congr hfeatures]
      exact Feature.stamped_upTo _ _ _ features'

end Binding

namespace Sublayer

variable {pass : Pass} {order : UInt32}

/-! ### Bindings in order -/

/-- Marks do not show in what bindings record that are drawn in order. -/
theorem course_alike {bindings bindings' : List Binding} {features features' : List Feature}
    (hbindings : bindings.map Binding.plain = bindings'.map Binding.plain)
    (hfeatures : features.map Feature.plain = features'.map Feature.plain) :
    course pass order bindings features = course pass order bindings' features' := by
  have hplain : ∀ bs : List Binding, course pass order bs features =
      course pass order (bs.map Binding.plain) features := by
    intro bs
    simp only [course, List.map_map, Function.comp_def, Binding.course_plain]
  calc course pass order bindings features
      = course pass order (bindings.map Binding.plain) features := hplain bindings
    _ = course pass order (bindings'.map Binding.plain) features := by rw [hbindings]
    _ = course pass order bindings' features := (hplain bindings').symm
    _ = course pass order bindings' features' := course_congr hfeatures

/-- Marks do not show in what is said of bindings that are drawn in order. -/
theorem notices_drawBindings_alike (pass : Pass) (order : UInt32) :
    ∀ {bindings bindings' : List Binding} {features features' : List Feature}
    {list list' : DisplayList},
    bindings.map Binding.plain = bindings'.map Binding.plain →
      features.map Feature.plain = features'.map Feature.plain →
        (drawBindings pass order bindings features list).notices =
          (drawBindings pass order bindings' features' list').notices
  | [], [], _, _, _, _, _, _ => rfl
  | [], d :: ds, _, _, _, _, h, _ => by simp at h
  | b :: bs, [], _, _, _, _, h, _ => by simp at h
  | b :: bs, d :: ds, features, features', list, list', h, hfeatures => by
    obtain ⟨hhead, hrest⟩ := List.cons_eq_cons.mp h
    have hfault : (b.render pass order features list).fault =
        (d.render pass order features' list').fault := Binding.fault_render_alike hhead hfeatures
    have hnotices : (b.render pass order features list).notices =
        (d.render pass order features' list').notices :=
      Binding.notices_render_alike hhead hfeatures
    cases hb : (b.render pass order features list).fault with
    | some fault =>
      rw [drawBindings_cons_of_fault hb, drawBindings_cons_of_fault (hfault ▸ hb)]
      exact hnotices
    | none =>
      have hleft : (b.render pass order features list).state.2.1.map Feature.plain =
          (d.render pass order features' list').state.2.1.map Feature.plain := by
        rw [b.plain_features_render, d.plain_features_render, hfeatures]
      rw [drawBindings_cons_of_ok hb, drawBindings_cons_of_ok (hfault ▸ hb),
        Outcome.notices_after, Outcome.notices_after, hnotices]
      exact congrArg ((d.render pass order features' list').notices ++ ·)
        (notices_drawBindings_alike pass order hrest hleft)

/-- Bindings in order write the same marks on the features, whatever marks there are. -/
theorem exists_marks_drawBindings (pass : Pass) (order : UInt32) : ∀ (bindings : List Binding)
    (features : List Feature), ∃ marks, ∀ (bindings' : List Binding) (features' : List Feature)
      (list : DisplayList), bindings.map Binding.plain = bindings'.map Binding.plain →
        features.map Feature.plain = features'.map Feature.plain →
          (drawBindings pass order bindings' features' list).state.2.1 =
            Feature.markAll marks features'
  | [], _ => by
    refine ⟨fun _ => none, fun bindings' features' list h _ => ?_⟩
    obtain rfl : bindings' = [] := by simpa using h.symm
    exact (Feature.markAll_none features').symm
  | b :: bs, features => by
    obtain ⟨first, hfirst⟩ := b.exists_marks_render pass order features
    obtain ⟨later, hlater⟩ := exists_marks_drawBindings pass order bs features
    cases hcourse : (b.course pass order features).fault with
    | some fault =>
      refine ⟨first, fun bindings' features' list h hfeatures => ?_⟩
      obtain ⟨d, ds, rfl, hd, -⟩ := List.map_eq_cons_iff.mp h.symm
      have hfault : (d.render pass order features' list).fault = some fault := by
        rw [(d.render_follows pass order features' list).1,
          Binding.course_alike hd hfeatures.symm, hcourse]
      rw [drawBindings_cons_of_fault hfault]
      exact hfirst d features' list hd.symm hfeatures
    | none =>
      refine ⟨fun i => (later i).or (first i), fun bindings' features' list h hfeatures => ?_⟩
      obtain ⟨d, ds, rfl, hd, hds⟩ := List.map_eq_cons_iff.mp h.symm
      have hfault : (d.render pass order features' list).fault = none := by
        rw [(d.render_follows pass order features' list).1,
          Binding.course_alike hd hfeatures.symm, hcourse]
      have hleft : features.map Feature.plain =
          (d.render pass order features' list).state.2.1.map Feature.plain := by
        rw [d.plain_features_render, hfeatures]
      rw [drawBindings_cons_of_ok hfault]
      refine (hlater ds _ _ hds.symm hleft).trans ?_
      rw [hfirst d features' list hd.symm hfeatures]
      exact Feature.markAll_markAll first later features'

/-- Bindings that are drawn a second time, over whatever marks, are left as the first time left
them. -/
theorem drawBindings_again (pass : Pass) (order : UInt32) : ∀ (bindings : List Binding)
    {features features' : List Feature} (list list' : DisplayList),
    features.map Feature.plain = features'.map Feature.plain →
      let drawn := (drawBindings pass order bindings features list).state.1
      (drawBindings pass order drawn features' list').state.1 = drawn
  | [], _, _, _, _, _ => rfl
  | b :: bs, features, features', list, list', hfeatures => by
    intro drawn
    let b' := (b.render pass order features list).state.1
    have hfault : (b'.render pass order features' list').fault =
        (b.render pass order features list).fault :=
      Binding.fault_render_alike (b.plain_render pass order features list) hfeatures.symm
    have hb' : (b'.render pass order features' list').state.1 = b' :=
      b.render_again pass order features features' list list'
    cases hb : (b.render pass order features list).fault with
    | some fault =>
      have hdrawn : drawn = b' :: bs := by
        show (drawBindings pass order (b :: bs) features list).state.1 = _
        rw [drawBindings_cons_of_fault hb]
        rfl
      rw [hdrawn, drawBindings_cons_of_fault (hfault.trans hb)]
      show (b'.render pass order features' list').state.1 :: bs = b' :: bs
      rw [hb']
    | none =>
      let rest := drawBindings pass order bs (b.render pass order features list).state.2.1
        (b.render pass order features list).state.2.2
      have hdrawn : drawn = b' :: rest.state.1 := by
        show (drawBindings pass order (b :: bs) features list).state.1 = _
        rw [drawBindings_cons_of_ok hb]
        rfl
      have hleft : (b.render pass order features list).state.2.1.map Feature.plain =
          (b'.render pass order features' list').state.2.1.map Feature.plain := by
        rw [b.plain_features_render, b'.plain_features_render, hfeatures]
      have hrest := drawBindings_again pass order bs (b.render pass order features list).state.2.2
        (b'.render pass order features' list').state.2.2 hleft
      rw [hdrawn, drawBindings_cons_of_ok (hfault.trans hb)]
      exact congr (congrArg List.cons hb') hrest

/-- Features that bindings draw a second time are left as the first time left them. -/
theorem features_drawBindings_again (pass : Pass) (order : UInt32) (bindings : List Binding)
    (features : List Feature) (list list' : DisplayList) :
    let drawn := (drawBindings pass order bindings features list).state
    (drawBindings pass order drawn.1 drawn.2.1 list').state.2.1 = drawn.2.1 := by
  intro drawn
  obtain ⟨marks, hmarks⟩ := exists_marks_drawBindings pass order bindings features
  have hfirst : drawn.2.1 = Feature.markAll marks features :=
    hmarks bindings features list rfl rfl
  have hsecond : (drawBindings pass order drawn.1 drawn.2.1 list').state.2.1 =
      Feature.markAll marks drawn.2.1 :=
    hmarks drawn.1 drawn.2.1 list' (plain_drawBindings pass order bindings features list).symm
      (plain_features_drawBindings pass order bindings features list).symm
  rw [hsecond, hfirst, Feature.markAll_again]

/-! ### Sublayers -/

end Sublayer

/-- What a sublayer holds, without the marks that passes have left. -/
def Contents.plain (c : Contents) : Contents :=
  ⟨c.features.map Feature.plain, c.bindings.map Binding.plain⟩

namespace Sublayer

/-- A sublayer without the marks that passes have left on its features and on those that its bindings
have of their own. -/
def plain (s : Sublayer) : Sublayer := { s with contents := s.contents.map Contents.plain }

variable {s t : Sublayer}

/-- Sublayers that differ in marks only are the same and gone, or both alive with contents that differ
in marks only. -/
theorem alike_cases (h : t.plain = s.plain) :
    (s.contents = none ∧ t = s) ∨
      ∃ c d, s.contents = some c ∧ t = { s with contents := some d } ∧
        c.features.map Feature.plain = d.features.map Feature.plain ∧
        c.bindings.map Binding.plain = d.bindings.map Binding.plain := by
  obtain ⟨name, id, cssClass, index, origin, tile, type, visible, contents⟩ := s
  obtain ⟨name', id', cssClass', index', origin', tile', type', visible', contents'⟩ := t
  obtain ⟨rfl, rfl, rfl, rfl, rfl, rfl, rfl, rfl, hcontents⟩ := Sublayer.mk.injEq .. ▸ h
  cases contents with
  | none =>
    obtain rfl : contents' = none := Option.map_eq_none_iff.mp hcontents
    exact .inl ⟨rfl, rfl⟩
  | some c =>
    obtain ⟨d, rfl, hd⟩ := Option.map_eq_some_iff.mp hcontents
    obtain ⟨hfeatures, hbindings⟩ := Contents.mk.injEq .. ▸ hd
    exact .inr ⟨c, d, rfl, rfl, hfeatures.symm, hbindings.symm⟩

/-- A redraw writes nothing but marks. -/
theorem plain_redraw (s : Sublayer) (pass : Pass) (list : DisplayList) :
    (s.redraw pass list).state.1.plain = s.plain := by
  rcases s.drawn_or_idle with hidle | ⟨c, hlive, hvisible⟩
  · rw [(redraw_of_idle hidle pass list).1]
  · have hfeatures := plain_features_drawBindings pass s.origin.paintOrder c.bindings c.features list
    have hbindings := plain_drawBindings pass s.origin.paintOrder c.bindings c.features list
    rw [redraw_of_visible hlive hvisible]
    simp [plain, Contents.plain, hlive, hfeatures, hbindings]

/-- Marks do not show in what a sublayer records. -/
theorem redrawCourse_alike (h : t.plain = s.plain) (pass : Pass) :
    t.redrawCourse pass = s.redrawCourse pass := by
  rcases alike_cases h with ⟨-, rfl⟩ | ⟨c, d, hlive, rfl, hfeatures, hbindings⟩
  · rfl
  · rw [redrawCourse, redrawCourse, hlive]
    show (if s.visible then course pass s.origin.paintOrder d.bindings d.features else .idle) =
      if s.visible then course pass s.origin.paintOrder c.bindings c.features else .idle
    rw [course_alike hbindings hfeatures]

/-- Marks do not show in what is said of a sublayer. -/
theorem notices_redraw_alike (h : t.plain = s.plain) (pass : Pass) (list list' : DisplayList) :
    (t.redraw pass list').notices = (s.redraw pass list).notices := by
  rcases alike_cases h with ⟨hgone, rfl⟩ | ⟨c, d, hlive, ht, hfeatures, hbindings⟩
  · rw [(redraw_of_idle (.inl hgone) pass list).2, (redraw_of_idle (.inl hgone) pass list').2]
  · have hliveT : t.contents = some d := by rw [ht]
    have hshown : t.visible = s.visible := by rw [ht]
    have horder : t.origin.paintOrder = s.origin.paintOrder := by rw [ht]
    cases hvisible : s.visible with
    | false =>
      rw [(redraw_of_idle (.inr hvisible) pass list).2,
        (redraw_of_idle (.inr (hshown.trans hvisible)) pass list').2]
    | true =>
      rw [redraw_of_visible hlive hvisible, redraw_of_visible hliveT (hshown.trans hvisible), horder]
      exact (notices_drawBindings_alike pass s.origin.paintOrder hbindings hfeatures).symm

/-- A sublayer that is drawn a second time is left as the first time left it. -/
theorem redraw_settles (s : Sublayer) (pass : Pass) (list list' : DisplayList) :
    let drawn := (s.redraw pass list).state.1
    (drawn.redraw pass list').state.1 = drawn := by
  intro drawn
  rcases s.drawn_or_idle with hidle | ⟨c, hlive, hvisible⟩
  · have hdrawn : drawn = s := congrArg Prod.fst (redraw_of_idle hidle pass list).1
    rw [hdrawn, (redraw_of_idle hidle pass list').1]
  · let order := s.origin.paintOrder
    let first := (drawBindings pass order c.bindings c.features list).state
    have hdrawn : drawn = { s with contents := some ⟨first.2.1, first.1⟩ } := by
      show (s.redraw pass list).state.1 = _
      rw [redraw_of_visible hlive hvisible]
      rfl
    have hfeatures : (drawBindings pass order first.1 first.2.1 list').state.2.1 = first.2.1 :=
      features_drawBindings_again pass order c.bindings c.features list list'
    have hbindings : (drawBindings pass order first.1 first.2.1 list').state.1 = first.1 :=
      drawBindings_again pass order c.bindings list list'
        (plain_features_drawBindings pass order c.bindings c.features list).symm
    rw [hdrawn, redraw_of_visible
      (s := { s with contents := some ⟨first.2.1, first.1⟩ }) rfl hvisible]
    exact congrArg₂ (fun features bindings =>
      ({ s with contents := some ⟨features, bindings⟩ } : Sublayer)) hfeatures hbindings

/-- A redraw that is repeated at once ends as it did, adds the commands that it added, leaves the
sublayer as it is by now and says nothing that has not been said; and so does, but for what it leaves,
the redraw of any sublayer that differs in marks only. -/
theorem redraw_repeats (s : Sublayer) (pass : Pass) (list : DisplayList) :
    let first := s.redraw pass list
    let second := first.state.1.redraw pass first.state.2
    ∃ added : List Command,
      first.state.2.commands.toList = list.commands.toList ++ added ∧
      (second.fault = first.fault ∧
        second.state.2.commands.toList = first.state.2.commands.toList ++ added ∧
        second.state.1 = first.state.1 ∧
        ∀ j : Journal, (j.enterAll first.notices).enterAll second.notices =
          j.enterAll first.notices) ∧
      ∀ (t : Sublayer) (list' : DisplayList), t.plain = s.plain →
        (t.redraw pass list').fault = first.fault ∧
          (t.redraw pass list').state.2.commands.toList = list'.commands.toList ++ added := by
  intro first second
  obtain ⟨hfault, hcommands⟩ := s.redraw_follows pass list
  have halike : ∀ (t : Sublayer) (list' : DisplayList), t.plain = s.plain →
      (t.redraw pass list').fault = first.fault ∧
        (t.redraw pass list').state.2.commands.toList =
          list'.commands.toList ++ (s.redrawCourse pass).results := by
    intro t list' ht
    obtain ⟨htFault, htCommands⟩ := t.redraw_follows pass list'
    rw [redrawCourse_alike ht] at htFault htCommands
    exact ⟨htFault.trans hfault.symm, htCommands⟩
  have hplain : first.state.1.plain = s.plain := s.plain_redraw pass list
  have hnotices : second.notices = first.notices := notices_redraw_alike hplain pass list _
  obtain ⟨hagain, hadded⟩ := halike first.state.1 first.state.2 hplain
  refine ⟨(s.redrawCourse pass).results, hcommands, ⟨hagain, hadded, ?_, ?_⟩, halike⟩
  · exact s.redraw_settles pass list first.state.2
  · intro j
    rw [hnotices]
    exact j.enterAll_again first.notices

/-- The parcels, whose second binding stops half way, stop there again and are left as they are; and
they stop there too when an earlier pass has marked them. -/
theorem redraw_repeats_parcels :
    let first := parcels.redraw ⟨.ofUrl "", 3⟩ .empty
    let marked := (parcels.redraw roadsPass .empty).state.1
    first.fault = some (.fill (.missingImage 3)) ∧
      (first.state.1.redraw ⟨.ofUrl "", 3⟩ first.state.2).fault = some (.fill (.missingImage 3)) ∧
      (first.state.1.redraw ⟨.ofUrl "", 3⟩ first.state.2).state.1 = first.state.1 ∧
      marked.plain = parcels.plain ∧
      (marked.redraw ⟨.ofUrl "", 3⟩ .empty).state.2.commands.toList =
        first.state.2.commands.toList := by
  intro first marked
  have hfault : first.fault = some (.fill (.missingImage 3)) := rfl
  have hmarked : marked.plain = parcels.plain := parcels.plain_redraw roadsPass .empty
  obtain ⟨added, hcommands, ⟨hagain, -, hsettled, -⟩, halike⟩ :=
    redraw_repeats parcels ⟨.ofUrl "", 3⟩ .empty
  obtain ⟨-, hmarkedCommands⟩ := halike marked .empty hmarked
  exact ⟨hfault, hagain.trans hfault, hsettled, hmarked, hmarkedCommands.trans hcommands.symm⟩

end Sublayer

end Portrayal
