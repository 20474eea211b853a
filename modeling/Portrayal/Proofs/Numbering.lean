import Mathlib.Algebra.Group.Nat.Defs
import Portrayal.Proofs.Drawing
import Portrayal.Proofs.LoadedScene

/-!
What a loaded scene is laid out like. Every spec becomes a live sublayer with one binding for all its
features, or with one binding for each of them. Surfaces are handed out in pairs by one counter that
passes through all sublayers, and nothing but a new binding moves it:

    sublayers     roads (shared)    lots (a binding each)      names (shared)
    bindings      1                 2        3        4        5
    surfaces      1 2               3 4      5 6      7 8      9 10

The counter has 32 bits, so the numbers are told apart as long as there are fewer than `2 ^ 31` bindings.

Main statement: the `k`-th binding of a loaded scene renders into the surfaces `2 * k - 1` and `2 * k`,
and no two bindings of it share a surface.
-/

namespace Portrayal

/-! ### Steps that hand out no surfaces -/

namespace Loading

variable {α β : Type} {step : Loading α} {s t : LoadState}

/-- A step that leaves the last surface alone wherever it goes through. -/
def Quiet (step : Loading α) : Prop := ∀ s a t, Goes s step a t → t.surfaces = s.surfaces

theorem quiet_pure (a : α) : Quiet (pure a) := fun _ _ _ h =>
  congrArg LoadState.surfaces (goes_pure.mp h).2

theorem quiet_throw (fault : LoadFault) : Quiet (throw fault : Loading α) := fun _ _ _ h =>
  absurd h not_goes_throw

theorem quiet_lift (result : Except LoadFault α) : Quiet (liftM result) := fun _ _ _ h =>
  congrArg LoadState.surfaces (goes_lift.mp h).2

theorem Quiet.bind {next : α → Loading β} (h : Quiet step) (hnext : ∀ a, Quiet (next a)) :
    Quiet (step >>= next) := by
  intro s b t hgoes
  obtain ⟨a, s', hstep, hrest⟩ := goes_bind.mp hgoes
  exact (hnext a s' b t hrest).trans (h s a s' hstep)

theorem quiet_recording (step : StateM RecordSupply α) : Quiet (recording step) := by
  rintro s a t h
  obtain ⟨-, rfl⟩ := Prod.mk.inj h
  rfl

theorem quiet_mapM {f : α → Loading β} (h : ∀ a, Quiet (f a)) : ∀ items : List α, Quiet (items.mapM f)
  | [] => quiet_pure []
  | a :: items => by
    rw [List.mapM_cons]
    exact (h a).bind fun b => (quiet_mapM h items).bind fun rest => quiet_pure (b :: rest)

end Loading

open Loading

theorem RuleSpec.quiet_load (spec : RuleSpec) : Quiet spec.load := by
  refine (quiet_lift spec.evaluator?).bind fun e => (quiet_recording _).bind fun r => ?_
  split
  · exact quiet_recording _
  · exact quiet_pure r

theorem RuleSpec.quiet_loadShader (specs : List RuleSpec) : Quiet (loadShader specs) :=
  (quiet_mapM quiet_load specs).bind fun _ => quiet_pure _

theorem SublayerSpec.quiet_loadSource (spec : SublayerSpec) : Quiet spec.loadSource := by
  rw [loadSource]
  split
  · exact quiet_throw _
  · exact quiet_pure _
  · exact (RuleSpec.quiet_loadShader _).bind fun _ => quiet_pure _
  · exact quiet_pure _

/-! ### Bindings in order -/

namespace Binding

/-- Whatever pass renders the binding, it takes these surfaces first and draws on nothing else. -/
def RendersInto (b : Binding) (surfaces : Surfaces) : Prop :=
  ∀ (pass : Pass) (order : UInt32) (features : List Feature) (list : DisplayList),
    ∃ draws : List Draw, (b.render pass order features list).state.2.2.commands.toList =
        list.commands.toList ++ .bind surfaces :: draws.map .draw ∧
      ∀ d ∈ draws, d.surfaces = some surfaces

theorem rendersInto {b : Binding} {surfaces : Surfaces} (hstage : b.stage = .bound)
    (hsurfaces : b.surfaces = some surfaces) : b.RendersInto surfaces := by
  intro pass order features list
  refine ⟨(b.strokes pass order surfaces features).results, ?_, fun d hd => ?_⟩
  · rw [(b.render_follows pass order features list).2, course_of_ready hstage hsurfaces]
  · obtain ⟨f, -, hstroke⟩ := Course.mem_along hd
    rw [stroke] at hstroke
    cases hstyle : b.styleOf pass f with
    | error fault =>
      rw [hstyle] at hstroke
      exact absurd hstroke (by simp [Except.map])
    | ok style =>
      rw [hstyle] at hstroke
      rw [← Except.ok.inj hstroke]
      rfl

end Binding

/-! ### The layout of a sublayer -/

/-- The bindings of a sublayer while it is alive. -/
def Sublayer.held (u : Sublayer) : List Binding := u.contents.elim [] Contents.bindings

namespace SublayerSpec

/-- A sublayer has the name and the options of its spec, and it is alive with some contents. -/
structure Describes (spec : SublayerSpec) (u : Sublayer) (c : Contents) : Prop where
  layerName : u.layerName = spec.name
  id : u.id = escapeLayerName spec.name
  cssClass : u.cssClass = escapeLayerName spec.name
  index : u.index = 0
  assigned : ∀ n, u.origin = .assigned n ↔ spec.options.originIndex = some n
  unassigned : u.origin = .unassigned ↔ spec.options.originIndex = none
  tile : u.tile = none
  userLayerType : u.userLayerType = spec.options.userLayerType
  visible : u.visible = spec.options.visible
  contents : u.contents = some c

/-- A sublayer as its spec says: with all features and one binding for them, or without features and
with a binding for each of them that has it for its own. All bindings have one source and are ready to
draw. -/
inductive LaidOut (spec : SublayerSpec) (u : Sublayer) : Prop where
  | shared (source : Option StyleSource) (surfaces : Surfaces) (hshape : spec.perFeature = false)
      (h : spec.Describes u ⟨spec.features,
        [⟨escapeLayerName spec.name, .sublayer, source, some surfaces, .bound⟩]⟩)
  | own (source : Option StyleSource) {bindings : List Binding} (hshape : spec.perFeature = true)
      (h : spec.Describes u ⟨[], bindings⟩)
      (hbindings : List.Forall₂ (fun f b => ∃ style surfaces, b =
        ⟨escapeLayerName spec.name, .feature { f with style }, source, some surfaces, .bound⟩)
          spec.features bindings)

theorem describes_holding (spec : SublayerSpec) (c : Contents) : spec.Describes (spec.holding c) c where
  layerName := rfl
  id := rfl
  cssClass := rfl
  index := rfl
  assigned n := by
    cases h : spec.options.originIndex <;> simp [holding, Sublayer.make, OriginIndex.ofOption, h]
  unassigned := by
    cases h : spec.options.originIndex <;> simp [holding, Sublayer.make, OriginIndex.ofOption, h]
  tile := rfl
  userLayerType := rfl
  visible := rfl
  contents := rfl

/-- A feature gets nothing but a style ahead of time. -/
theorem prepared_eq (zoom : Float) (source : Option StyleSource) (f : Feature) :
    ∃ style, prepared zoom source f = { f with style } := by
  rcases source with _ | shader | service
  · exact ⟨f.style, rfl⟩
  · exact ⟨_, rfl⟩
  · exact ⟨f.style, rfl⟩

/-- A sublayer that loads is laid out as its spec says, and its bindings have the next surfaces. -/
theorem goes_load_numbered {spec : SublayerSpec} {zoom : Float} {u : Sublayer} {s t : LoadState}
    (h : Goes s (spec.load zoom) u t) : spec.LaidOut u ∧ Numbered s.surfaces u.held t.surfaces := by
  obtain ⟨source, s', hgoes, -⟩ := goes_bind.mp h
  have hsource : Ensures s spec.loadSource fun _ s₁ => s₁.surfaces = s.surfaces :=
    ⟨source, s', hgoes, spec.quiet_loadSource s source s' hgoes⟩
  cases hshape : spec.perFeature with
  | false =>
    obtain ⟨source, s₁, hquiet, rfl, hlast⟩ := h.holds (ensures_load_shared spec hshape hsource zoom)
    rw [hlast, hquiet]
    exact ⟨.shared source _ hshape (spec.describes_holding _), .cons rfl rfl (.nil _)⟩
  | true =>
    obtain ⟨source, s₁, bindings, hquiet, rfl, hbindings, hnumbered⟩ :=
      h.holds (ensures_load_own spec hshape hsource zoom)
    rw [hquiet] at hnumbered
    refine ⟨.own source hshape (spec.describes_holding _) (hbindings.imp ?_), hnumbered⟩
    rintro f b ⟨surfaces, rfl⟩
    obtain ⟨style, hstyle⟩ := prepared_eq zoom source f
    exact ⟨style, surfaces, by rw [hstyle, Binding.make]⟩

/-! ### The layout of a scene -/

theorem Numbered.append {n m k : UInt32} {as bs : List Binding} (has : Numbered n as m)
    (hbs : Numbered m bs k) : Numbered n (as ++ bs) k := by
  induction has with
  | nil => exact hbs
  | cons hstage hsurfaces _ ih => exact .cons hstage hsurfaces (ih hbs)

/-- The place of a binding among numbered ones says which surfaces it has. -/
theorem Numbered.getElem? {n m : UInt32} {bindings : List Binding} (h : Numbered n bindings m)
    {k : Nat} {b : Binding} (hb : bindings[k]? = some b) : b.stage = .bound ∧
      b.surfaces = some ⟨n + 2 * .ofNat k + 1, n + 2 * .ofNat k + 2⟩ := by
  induction h generalizing k with
  | nil => exact absurd hb (by simp)
  | @cons n m first bindings hstage hsurfaces _ ih =>
    cases k with
    | zero =>
      obtain rfl : first = b := Option.some.inj hb
      exact ⟨hstage, hsurfaces.trans (by simp)⟩
    | succ k =>
      obtain ⟨hstage, hsurfaces⟩ := ih hb
      have hshift : n + 2 + 2 * UInt32.ofNat k = n + 2 * .ofNat (k + 1) := by
        rw [UInt32.ofNat_add]
        grind
      rw [hshift] at hsurfaces
      exact ⟨hstage, hsurfaces⟩

/-- Sublayers that load one after the other pass the counter on. -/
theorem goes_mapM_numbered {zoom : Float} : ∀ {specs : List SublayerSpec} {sublayers : List Sublayer}
    {s t : LoadState}, Goes s (specs.mapM fun spec => within (.inSublayer spec.name) (spec.load zoom))
        sublayers t →
      List.Forall₂ LaidOut specs sublayers ∧
        Numbered s.surfaces (sublayers.flatMap Sublayer.held) t.surfaces
  | [], sublayers, s, t, h => by
    rw [List.mapM_nil, goes_pure] at h
    obtain ⟨rfl, rfl⟩ := h
    exact ⟨.nil, .nil _⟩
  | spec :: specs, sublayers, s, t, h => by
    obtain ⟨u, s', rest, hfirst, hrest, rfl⟩ := goes_mapM_cons.mp h
    obtain ⟨hlaid, hnumbered⟩ := goes_load_numbered (goes_within.mp hfirst)
    obtain ⟨hlaids, hnumbereds⟩ := goes_mapM_numbered hrest
    exact ⟨.cons hlaid hlaids, hnumbered.append hnumbereds⟩

end SublayerSpec

/-- The bindings of a loaded scene, through all its sublayers in order. -/
def LoadedScene.bindings (loaded : LoadedScene) : List Binding := loaded.sublayers.flatMap Sublayer.held

/-- Two pairs of surfaces have none in common. -/
structure Surfaces.Apart (p q : Surfaces) : Prop where
  contexts : p.context ≠ q.context
  crossed : p.context ≠ q.hitContext
  crossed' : p.hitContext ≠ q.context
  hitContexts : p.hitContext ≠ q.hitContext

namespace Scene

variable {scene : Scene} {loaded : LoadedScene}

/-- Of fewer than `2 ^ 31` numbered bindings, each has the surfaces that its place says. -/
theorem surfaces_of_numbered {m : UInt32} {bindings : List Binding}
    (h : SublayerSpec.Numbered 0 bindings m) (hfew : bindings.length < 2 ^ 31) {k : Nat} {b : Binding}
    (hb : bindings[k]? = some b) : ∃ surfaces : Surfaces, b.surfaces = some surfaces ∧
      b.RendersInto surfaces ∧ surfaces.context.toNat = 2 * k + 1 ∧
        surfaces.hitContext.toNat = 2 * k + 2 := by
  obtain ⟨hstage, hsurfaces⟩ := h.getElem? hb
  have hk : k < bindings.length := (List.getElem?_eq_some_iff.mp hb).1
  refine ⟨_, hsurfaces, Binding.rendersInto hstage hsurfaces, ?_, ?_⟩
  all_goals
    simp only [UInt32.toNat_add, UInt32.toNat_mul, UInt32.toNat_ofNat', UInt32.reduceToNat]
    omega

/-- A loaded scene has a sublayer for each spec, laid out as the spec says, and the binding with `k`
others before it renders into the surfaces `2 * k + 1` and `2 * k + 2`; no two bindings share one. -/
theorem load_lays_out (hload : scene.load.value = .ok loaded)
    (hfew : loaded.bindings.length < 2 ^ 31) :
    List.Forall₂ SublayerSpec.LaidOut scene.sublayers loaded.sublayers ∧
      (∀ (k : Nat) (b : Binding), loaded.bindings[k]? = some b →
        ∃ surfaces : Surfaces, b.surfaces = some surfaces ∧ b.RendersInto surfaces ∧
          surfaces.context.toNat = 2 * k + 1 ∧ surfaces.hitContext.toNat = 2 * k + 2) ∧
      loaded.bindings.Pairwise fun b c => ∀ p q, b.surfaces = some p → c.surfaces = some q →
        p.Apart q := by
  obtain ⟨images, sublayers, s, highlight, t, ⟨-, hsublayers⟩, -, -, rfl⟩ :=
    load_eq_ok_iff.mp (congrArg (Noted.mk · scene.load.notices) hload)
  obtain ⟨hlaid, hnumbered⟩ := SublayerSpec.goes_mapM_numbered hsublayers
  have hplaced := fun k b => surfaces_of_numbered (k := k) (b := b) hnumbered hfew
  refine ⟨hlaid, hplaced, List.pairwise_iff_getElem.mpr fun i j hi hj hij => ?_⟩
  intro p q hp hq
  obtain ⟨p', hp', -, hcontext, hhit⟩ := hplaced i _ (List.getElem?_eq_getElem hi)
  obtain ⟨q', hq', -, hcontext', hhit'⟩ := hplaced j _ (List.getElem?_eq_getElem hj)
  obtain rfl : p = p' := Option.some.inj (hp.symm.trans hp')
  obtain rfl : q = q' := Option.some.inj (hq.symm.trans hq')
  constructor
  all_goals
    intro h
    have := congrArg UInt32.toNat h
    omega

/-- A line without vertices and attributes. -/
def bare (id : Int) : Feature := { id, geometry := { kind := .line, coordinates := [] } }

/-- A scene with two roads that share a binding and two lots that have one each. -/
def estate : Scene :=
  { layerUrl := ""
    zoom := 3
    highlight := none
    fillImages := []
    sublayers :=
      [{ name := "roads@2"
         options := {}
         serviceStyle := none
         rules := none
         perFeature := false
         features := [bare 1, bare 2] },
       { name := "lots"
         options := { visible := false }
         serviceStyle := none
         rules := some [⟨"line-width", some (.integer 5), none, none, none⟩]
         perFeature := true
         features := [bare 3, bare 4] }] }

/-- The roads have the surfaces 1 and 2, the first lot 3 and 4, and the second one 5 and 6. -/
theorem load_lays_out_estate : ∃ loaded b c d, estate.load.value = .ok loaded ∧
    loaded.bindings.length < 2 ^ 31 ∧ loaded.bindings = [b, c, d] ∧
    List.Forall₂ SublayerSpec.LaidOut estate.sublayers loaded.sublayers ∧
    b.RendersInto ⟨1, 2⟩ ∧ c.RendersInto ⟨3, 4⟩ ∧ d.RendersInto ⟨5, 6⟩ := by
  obtain ⟨loaded, b, c, d, hload, hbindings⟩ : ∃ loaded b c d, estate.load.value = .ok loaded ∧
    loaded.bindings = [b, c, d] := ⟨_, _, _, _, rfl, rfl⟩
  have hfew : loaded.bindings.length < 2 ^ 31 := by
    rw [hbindings]
    exact (by decide : 3 < 2 ^ 31)
  obtain ⟨hlaid, hplaced, -⟩ := load_lays_out hload hfew
  rw [hbindings] at hplaced
  have hrenders : ∀ (k : Nat) (b' : Binding) (m n : UInt32), [b, c, d][k]? = some b' →
      m.toNat = 2 * k + 1 → n.toNat = 2 * k + 2 → b'.RendersInto ⟨m, n⟩ := by
    intro k b' m n hb' hm hn
    obtain ⟨⟨context, hitContext⟩, -, hinto, hcontext, hhit⟩ := hplaced k b' hb'
    rwa [← UInt32.toNat_inj.mp (hcontext.trans hm.symm), ← UInt32.toNat_inj.mp (hhit.trans hn.symm)]
  exact ⟨loaded, b, c, d, hload, hfew, hbindings, hlaid, hrenders 0 b 1 2 rfl rfl rfl,
    hrenders 1 c 3 4 rfl rfl rfl, hrenders 2 d 5 6 rfl rfl rfl⟩

end Scene

end Portrayal
