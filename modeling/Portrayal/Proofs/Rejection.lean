import Portrayal.Proofs.Drafts
import Portrayal.Proofs.LastWrites
import Portrayal.Proofs.Redraw

/-!
Features that the filter of a highlight rejects. A shader whose rules are all restricted to features
that its filter does not reject writes nothing over the style of one that it does. A binding that
covers the sublayer then draws such a feature as it does without any highlight. A binding with a
feature of its own starts a highlight from the style that the feature carries, or from none, instead of
the style that its source gives it, so there the two passes agree exactly if these are the same.
-/

namespace Portrayal

/-- Rules that were restricted to features that the filter does not reject, and perhaps to zoom levels
after that. -/
inductive Rule.Restricted : Rule → Prop where
  | filtered (inner : Rule) (supply : RecordSupply) : Restricted (inner.filtered.run supply).1
  | zoomRange {r : Rule} (h : Restricted r) (least greatest : Option Float)
      (supply : RecordSupply) : Restricted ((r.zoomRange least greatest).run supply).1

/-- A restricted rule has no value for a feature that the filter rejects. -/
theorem Rule.Restricted.evaluate {r : Rule} (h : r.Restricted) {s : Situation}
    (hs : s.filter = some false) : r.evaluate s = none := by
  induction h with
  | filtered inner supply => exact if_pos hs
  | @zoomRange r _ least greatest supply ih =>
    change (if _ then r.evaluate s else none) = none
    rw [ih, ite_self]

/-- Completing no style gives some: every kind has properties. -/
theorem Style.complete_empty_ne (kind : Kind) : Style.empty.complete kind ≠ .empty := by
  intro h
  have hset : (Style.empty.complete kind).contains .globalCompositeOperation = true := by
    cases kind <;> rfl
  rw [h] at hset
  exact absurd hset (by decide)

/-- A draw under a shader and a draw without one, of the same feature, and in the same style if the
filter rejects the feature. -/
def Draw.Retained (shader : Shader) (lit unlit : Draw) : Prop :=
  lit.feature = unlit.feature ∧ lit.kind = unlit.kind ∧
    (shader.filterFor lit.feature = some false → lit.style = unlit.style)

namespace Feature

variable {pass : Pass} {f : Feature} {source : Option StyleSource} {shader : Shader}

/-- A shader of restricted rules writes nothing over the style of a feature that its filter rejects. -/
theorem highlight_of_rejected (hrules : ∀ r ∈ shader.rules, r.Restricted)
    (hf : shader.filterFor f.id = some false) (base : Style) :
    (f.highlight pass shader base).value = base := by
  have hnone : (Style.ofRules f.kind ⟨f.exposed, pass.zoom, shader.filterFor f.id⟩
      shader.rules).value = .empty :=
    Style.ofRules_of_none fun r hr => (hrules r hr).evaluate hf
  rw [highlight, Style.highlighted, Noted.value_map, hnone, Style.overlay_empty]

/-- Whether a feature with a binding of its own is drawn in the style that it carries while nothing is
highlighted: under a service style if it carries what that one gives it, and under any other source if
it carries a style at all. -/
def Settled (pass : Pass) (source : Option StyleSource) (f : Feature) : Prop :=
  match source with
  | some (.service _) => f.Based pass source (f.style.getD .empty)
  | _ => f.style.isSome

theorem settled_iff (pass : Pass) (source : Option StyleSource) (f : Feature) :
    f.Settled pass source ↔ (f.ownStyle pass.unlit source none).value = .ok (f.style.getD .empty) := by
  have hcarried : f.style.isSome ↔
      (.ok (f.style.getD (Style.empty.complete f.kind)) : Except FillFault Style) =
        .ok (f.style.getD .empty) := by
    cases f.style with
    | some style => simp
    | none => simpa using Style.complete_empty_ne f.kind
  rcases source with _ | shader | style
  · exact hcarried
  · exact hcarried
  · exact based_iff

end Feature

namespace Binding

variable {b : Binding} {pass : Pass} {order : UInt32} {surfaces : Surfaces}
  {features : List Feature} {list : DisplayList}

/-- A binding that covers the sublayer draws a feature under a shader if and only if it draws it
without one. -/
theorem stroke_unlit (hscope : b.scope = .sublayer) {shader : Shader}
    (happlies : b.shader pass = some shader) (hrules : ∀ r ∈ shader.rules, r.Restricted)
    (order : UInt32) (surfaces : Surfaces) (f : Feature) :
    (∃ e, b.stroke pass order surfaces f = .error e ∧
        b.stroke pass.unlit order surfaces f = .error e) ∨
      ∃ lit unlit, b.stroke pass order surfaces f = .ok lit ∧
        b.stroke pass.unlit order surfaces f = .ok unlit ∧ Draw.Retained shader lit unlit := by
  simp only [stroke, styleOf, hscope, happlies, shader_unlit]
  have hunlit : f.baseStyle pass.unlit b.source = f.baseStyle pass b.source := rfl
  cases hbase : (f.baseStyle pass b.source).value with
  | error fault =>
    rw [Feature.sharedStyle_of_base_error hbase,
      Feature.sharedStyle_of_base_error (hunlit ▸ hbase)]
    exact .inl ⟨fault, rfl, rfl⟩
  | ok base =>
    rw [Feature.sharedStyle_of_base_ok hbase, Feature.sharedStyle_of_base_ok (hunlit ▸ hbase)]
    exact .inr ⟨f.record (some shader) order surfaces (f.highlight pass shader base).value,
      f.record none order surfaces base, rfl, rfl, rfl, rfl,
      fun hf => Feature.highlight_of_rejected hrules hf base⟩

/-- A binding that covers the sublayer stops where it stops without any highlight, and until then draws
the features that the filter rejects in the same styles. -/
theorem render_rejected_shared (hscope : b.scope = .sublayer) {shader : Shader}
    (happlies : b.shader pass = some shader) (hrules : ∀ r ∈ shader.rules, r.Restricted)
    (order : UInt32) (features : List Feature) (list : DisplayList) :
    let lit := b.render pass order features list
    let unlit := b.render pass.unlit order features list
    lit.fault = unlit.fault ∧
      ∃ ds es, lit.state.2.2.draws = list.draws ++ ds ∧ unlit.state.2.2.draws = list.draws ++ es ∧
        List.Forall₂ (Draw.Retained shader) ds es := by
  intro lit unlit
  rw [show lit.fault = _ from (b.render_follows pass order features list).1,
    show unlit.fault = _ from (b.render_follows pass.unlit order features list).1,
    show lit.state.2.2.draws = _ from b.draws_render pass order features list,
    show unlit.state.2.2.draws = _ from b.draws_render pass.unlit order features list]
  refine (?_ : _ ∧ List.Forall₂ _ _ _).imp_right fun h => ⟨_, _, rfl, rfl, h⟩
  rcases b.ready_or_not with hready | ⟨surfaces, hstage, hsurfaces⟩
  · rw [course_of_not_ready hready, course_of_not_ready hready, draws_of_not_ready hready,
      draws_of_not_ready hready]
    exact ⟨rfl, .nil⟩
  · rw [course_of_ready hstage hsurfaces, course_of_ready hstage hsurfaces,
      draws_of_ready hstage hsurfaces, draws_of_ready hstage hsurfaces]
    have hrelated := Course.along_related (b.subjects features)
      fun f _ => stroke_unlit hscope happlies hrules order surfaces f
    exact hrelated.imp_left (congrArg (Option.map Fault.fill))

/-- A binding with a feature of its own that the filter rejects draws it in the style that it carries,
or in none. Without any highlight it does so exactly if the feature is settled. -/
theorem render_rejected_own {f : Feature} (hscope : b.scope = .feature f) (hstage : b.stage = .bound)
    (hsurfaces : b.surfaces = some surfaces) {shader : Shader}
    (happlies : b.shader pass = some shader) (hrules : ∀ r ∈ shader.rules, r.Restricted)
    (hf : shader.filterFor f.id = some false) (order : UInt32) (features : List Feature)
    (list : DisplayList) :
    let lit := b.render pass order features list
    let unlit := b.render pass.unlit order features list
    lit.fault = none ∧
      lit.state.2.2.draws =
        list.draws ++ [f.record (some shader) order surfaces (f.style.getD .empty)] ∧
      (unlit.state.2.2.draws =
          list.draws ++ [f.record none order surfaces (f.style.getD .empty)] ↔
        f.Settled pass b.source) := by
  intro lit unlit
  have hlit : (f.ownStyle pass b.source (b.shader pass)).value = .ok (f.style.getD .empty) := by
    rw [happlies, Feature.ownStyle, Noted.value_map, Feature.highlight_of_rejected hrules hf]
  refine ⟨?_, ?_, ?_⟩
  · rw [show lit.fault = _ from (b.render_follows pass order features list).1,
      course_of_ready hstage hsurfaces, strokes_own_of_ok hscope hlit]
    rfl
  · rw [show lit.state.2.2.draws = _ from b.draws_render pass order features list,
      draws_of_ready hstage hsurfaces, strokes_own_of_ok hscope hlit, happlies]
  · rw [Feature.settled_iff,
      show unlit.state.2.2.draws = _ from b.draws_render pass.unlit order features list,
      draws_of_ready hstage hsurfaces]
    cases hunlit : (f.ownStyle pass.unlit b.source none).value with
    | error cause =>
      rw [strokes_own_of_error hscope hunlit]
      simp
    | ok style =>
      rw [strokes_own_of_ok hscope hunlit, List.append_cancel_left_eq, shader_unlit]
      constructor
      · intro h
        have hdraw := (List.cons.inj h).1
        exact congrArg (fun d => Except.ok d.style) hdraw
      · intro h
        rw [Except.ok.inj h]

/-- Under a shader of restricted rules, bindings draw the features that its filter rejects as they do
without any highlight: those of the sublayer always, and one of their own exactly if it is settled. -/
theorem render_rejected (b : Binding) (pass : Pass) (order : UInt32) (features : List Feature)
    (list : DisplayList) {shader : Shader}
    (happlies : pass.layer.highlight.shaderFor b.sublayerId = some shader)
    (hrules : ∀ r ∈ shader.rules, r.Restricted) :
    let lit := b.render pass order features list
    let unlit := b.render pass.unlit order features list
    (b.scope = .sublayer → lit.fault = unlit.fault ∧
      ∃ ds es, lit.state.2.2.draws = list.draws ++ ds ∧ unlit.state.2.2.draws = list.draws ++ es ∧
        List.Forall₂ (Draw.Retained shader) ds es) ∧
      ∀ f surfaces, b.scope = .feature f → b.stage = .bound → b.surfaces = some surfaces →
        shader.filterFor f.id = some false →
          lit.fault = none ∧
            lit.state.2.2.draws =
              list.draws ++ [f.record (some shader) order surfaces (f.style.getD .empty)] ∧
            (unlit.state.2.2.draws =
                list.draws ++ [f.record none order surfaces (f.style.getD .empty)] ↔
              f.Settled pass b.source) := by
  intro lit unlit
  refine ⟨fun hscope => ?_, fun f surfaces hscope hstage hsurfaces hf => ?_⟩
  · exact render_rejected_shared hscope happlies hrules order features list
  · exact render_rejected_own hscope hstage hsurfaces happlies hrules hf order features list

theorem restricted_widened : ∀ r ∈ Sublayer.widened.rules, r.Restricted := by
  intro r hr
  obtain rfl := List.mem_singleton.mp hr
  exact .filtered ⟨"line-width", .constant (.number 5), ⟨0⟩⟩ ⟨0⟩

/-- The two roads of the sublayer: widening the second one leaves the first one as it is. But a binding
of its own draws the first one in no style at all then, because it carries none; without the highlight it
has the fallbacks of a line. -/
theorem render_rejected_roads :
    let b := make "roads" .sublayer none ⟨1, 2⟩
    let own := make "roads" (.feature (Sublayer.road 1)) none ⟨1, 2⟩
    let roads := [Sublayer.road 1, Sublayer.road 2]
    Sublayer.roadsPass.layer.highlight.shaderFor "roads" = some Sublayer.widened ∧
      (∀ r ∈ Sublayer.widened.rules, r.Restricted) ∧
      (∃ ds es,
        (b.render Sublayer.roadsPass 999 roads .empty).state.2.2.draws = ds ∧
        (b.render Sublayer.roadsPass.unlit 999 roads .empty).state.2.2.draws = es ∧
        List.Forall₂ (Draw.Retained Sublayer.widened) ds es) ∧
      Sublayer.widened.filterFor 1 = some false ∧
      (own.render Sublayer.roadsPass 999 [] .empty).state.2.2.draws =
        [⟨1, .line, true, some 999, some ⟨1, 2⟩, .empty⟩] ∧
      (own.render Sublayer.roadsPass.unlit 999 [] .empty).state.2.2.draws ≠
        [⟨1, .line, false, some 999, some ⟨1, 2⟩, .empty⟩] := by
  intro b own roads
  obtain ⟨hshared, -⟩ := render_rejected b Sublayer.roadsPass 999 roads .empty rfl restricted_widened
  obtain ⟨-, ds, es, hds, hes, hretained⟩ := hshared rfl
  obtain ⟨-, hown⟩ := render_rejected own Sublayer.roadsPass 999 [] .empty rfl restricted_widened
  obtain ⟨-, hlit, hunlit⟩ := hown (Sublayer.road 1) ⟨1, 2⟩ rfl rfl rfl rfl
  have hunsettled : ¬ (Sublayer.road 1).Settled Sublayer.roadsPass own.source := Bool.false_ne_true
  exact ⟨rfl, restricted_widened, ⟨ds, es, hds, hes, hretained⟩, rfl, hlit,
    fun h => hunsettled (hunlit.mp h)⟩

end Binding

end Portrayal
