import Mathlib.Data.List.Forall2
import Portrayal.Scene.Load

/-!
What loading a sublayer comes to. A loading step goes through from a state, with a result and a state
that satisfy something, or it stops there with a fault. Which of the two happens to rules does not
depend on the state: rules that are well formed always load, and every load gives them the same
properties and the same evaluators, with records that nothing reads when a style is resolved.
-/

namespace Portrayal

namespace Loading

variable {α β : Type}

/-- From a state, the step goes through with a result and a state that satisfy something. -/
def Ensures (s : LoadState) (step : Loading α) (post : α → LoadState → Prop) : Prop :=
  ∃ a s', step.run.run s = (.ok a, s') ∧ post a s'

/-- From a state, the step stops with a fault. -/
def StopsWith (s : LoadState) (step : Loading α) (fault : LoadFault) : Prop :=
  ∃ s', step.run.run s = (.error fault, s')

variable {s : LoadState} {step : Loading α} {next : α → Loading β}
  {post : α → LoadState → Prop} {post' : β → LoadState → Prop} {fault : LoadFault}

theorem Ensures.pure {a : α} (h : post a s) : Ensures s (Pure.pure a) post := ⟨a, s, rfl, h⟩

theorem Ensures.mono {post' : α → LoadState → Prop} (h : Ensures s step post)
    (himp : ∀ a s', post a s' → post' a s') : Ensures s step post' := by
  obtain ⟨a, s', hrun, hpost⟩ := h
  exact ⟨a, s', hrun, himp a s' hpost⟩

theorem run_bind_of_ok {a : α} {s' : LoadState} (h : step.run.run s = (.ok a, s')) :
    (step >>= next).run.run s = (next a).run.run s' := by
  rw [ExceptT.run_bind, StateT.run_bind, h]
  rfl

theorem run_bind_of_error {s' : LoadState} (h : step.run.run s = (.error fault, s')) :
    (step >>= next).run.run s = (.error fault, s') := by
  rw [ExceptT.run_bind, StateT.run_bind, h]
  rfl

/-- Two steps that go through one after the other go through together. -/
theorem Ensures.bind (h : Ensures s step post)
    (hnext : ∀ a s', post a s' → Ensures s' (next a) post') : Ensures s (step >>= next) post' := by
  obtain ⟨a, s', hrun, hpost⟩ := h
  obtain ⟨b, t, hrun', hpost'⟩ := hnext a s' hpost
  exact ⟨b, t, (run_bind_of_ok hrun).trans hrun', hpost'⟩

/-- A first step that stops stops both. -/
theorem StopsWith.bind (h : StopsWith s step fault) (next : α → Loading β) :
    StopsWith s (step >>= next) fault := by
  obtain ⟨s', hrun⟩ := h
  exact ⟨s', run_bind_of_error hrun⟩

/-- A second step that stops stops both. -/
theorem Ensures.stops (h : Ensures s step post)
    (hnext : ∀ a s', post a s' → StopsWith s' (next a) fault) : StopsWith s (step >>= next) fault := by
  obtain ⟨a, s', hrun, hpost⟩ := h
  obtain ⟨t, hrun'⟩ := hnext a s' hpost
  exact ⟨t, (run_bind_of_ok hrun).trans hrun'⟩

theorem ensures_recording (s : LoadState) (step : StateM RecordSupply α) :
    Ensures s (recording step) fun a _ => a = (step.run s.records).1 := ⟨_, _, rfl, rfl⟩

theorem ensures_noted (s : LoadState) (n : Noted α) :
    Ensures s (noted n) fun a s' => a = n.value ∧ s'.surfaces = s.surfaces := ⟨_, _, rfl, rfl, rfl⟩

theorem ensures_settled (s : LoadState) {o : Outcome α} (h : o.fault = none) :
    Ensures s (settled o) fun a s' => a = o.state ∧ s'.surfaces = s.surfaces := by
  refine ⟨o.state, { s with notices := s.notices ++ o.notices }, ?_, rfl, rfl⟩
  rw [settled, h]
  rfl

/-- The next pair of surfaces is the one after the last surface that was given out. -/
theorem ensures_nextSurfaces (s : LoadState) : Ensures s nextSurfaces fun surfaces s' =>
    surfaces = ⟨s.surfaces + 1, s.surfaces + 2⟩ ∧ s'.surfaces = s.surfaces + 2 := by
  refine ⟨_, _, rfl, ?_, rfl⟩
  have hcontext : s.surfaces + 2 - 1 = s.surfaces + 1 := by grind
  rw [hcontext]

end Loading

open Loading

/-! ### Rules -/

namespace RuleSpec

variable {spec : RuleSpec}

/-- Whether the zoom bounds of a rule let it apply at a zoom level. -/
def admits (spec : RuleSpec) (zoom : Float) : Bool :=
  spec.minZoom.all (fun z => zoom ≥ z) && spec.maxZoom.all (fun z => zoom ≤ z)

/-- What a rule evaluates to where its zoom bounds let it apply: a constant, or what a feature has under
a name. -/
inductive Evaluates (spec : RuleSpec) : Evaluator → Prop where
  | constant {json : Json} {v : Value} (hvalue : spec.value = some json)
      (hname : spec.attributeName = none) (hv : Value.ofJson? json = some v) :
      Evaluates spec fun _ => some v
  | named {name : String} (hvalue : spec.value = none)
      (hname : spec.attributeName = some name) :
      Evaluates spec fun s => (s.attributes.get? name).bind Value.ofJson?

theorem evaluator?_eq_ok_iff {e : Evaluator} : spec.evaluator? = .ok e ↔ spec.Evaluates e := by
  constructor
  · intro h
    rw [evaluator?] at h
    split at h
    · rename_i json hvalue hname
      split at h
      · rename_i v hv
        obtain rfl := Except.ok.inj h
        exact .constant hvalue hname hv
      · exact absurd h (by simp)
    · rename_i name hvalue hname
      obtain rfl := Except.ok.inj h
      exact .named hvalue hname
    · exact absurd h (by simp)
  · rintro (⟨hvalue, hname, hv⟩ | ⟨hvalue, hname⟩)
    · simp only [evaluator?, hvalue, hname, hv]
      rfl
    · simp only [evaluator?, hvalue, hname]
      rfl

/-- A rule that a spec gives: all but its record. -/
def Gives (spec : RuleSpec) (r : Rule) : Prop :=
  r.property = spec.property ∧
    ∃ e, spec.Evaluates e ∧ r.evaluator = fun s => if spec.admits s.zoom then e s else none

theorem load_ok {e : Evaluator} (h : spec.evaluator? = .ok e) (s : LoadState) :
    Ensures s spec.load fun r _ => spec.Gives r := by
  rw [load, h]
  have hevaluator : Ensures s (pure e : Loading Evaluator) fun a _ => a = e := .pure rfl
  refine hevaluator.bind ?_
  rintro e s rfl
  refine (ensures_recording s _).bind ?_
  rintro r s rfl
  by_cases hbounds : (spec.minZoom.isSome || spec.maxZoom.isSome) = true
  · rw [if_pos hbounds]
    exact (ensures_recording s _).mono fun r _ hr =>
      ⟨by rw [hr]; rfl, e, evaluator?_eq_ok_iff.mp h, by rw [hr]; rfl⟩
  · rw [if_neg hbounds]
    have hnone : spec.minZoom = none ∧ spec.maxZoom = none := by simpa using hbounds
    refine .pure ⟨rfl, e, evaluator?_eq_ok_iff.mp h, ?_⟩
    simp only [admits, hnone.1, hnone.2]
    rfl

theorem load_error {fault : LoadFault} (h : spec.evaluator? = .error fault) (s : LoadState) :
    StopsWith s spec.load fault := by
  rw [load, h]
  exact ⟨s, rfl⟩

/-- Rules all load, from whatever state, or a first one stops every load with the same fault. -/
theorem mapM_load : ∀ specs : List RuleSpec,
    (∀ s, Ensures s (specs.mapM load) fun rules _ => List.Forall₂ Gives specs rules) ∨
      ∃ fault, ∀ s, StopsWith s (specs.mapM load) fault
  | [] => .inl fun s => .pure .nil
  | spec :: specs => by
    -- whether a rule loads is said by its evaluator alone, which is why no state is mentioned
    simp only [List.mapM_cons]
    cases hspec : spec.evaluator? with
    | error fault => exact .inr ⟨fault, fun s => (load_error hspec s).bind _⟩
    | ok e =>
      rcases mapM_load specs with h | ⟨fault, h⟩
      · refine .inl fun s => (load_ok hspec s).bind fun r s' hr => ?_
        exact (h s').bind fun rules s'' hrules => .pure (.cons hr hrules)
      · refine .inr ⟨fault, fun s => (load_ok hspec s).stops fun r s' hr => ?_⟩
        exact (h s').bind _

/-- Two loads of a rule differ in its record alone. -/
theorem Gives.unique {q r : Rule} (hq : spec.Gives q) (hr : spec.Gives r) :
    q.property = r.property ∧ q.evaluator = r.evaluator := by
  obtain ⟨hq, e, he, hqe⟩ := hq
  obtain ⟨hr, e', he', hre⟩ := hr
  have hsame := (evaluator?_eq_ok_iff.mpr he).symm.trans (evaluator?_eq_ok_iff.mpr he')
  obtain rfl : e = e' := Except.ok.inj hsame
  exact ⟨hq.trans hr.symm, hqe.trans hre.symm⟩

/-- Two loads of the same rules match one by one in whatever two loads of each of them do. -/
theorem forall₂_of_gives {R : Rule → Rule → Prop} {specs : List RuleSpec} {qs rs : List Rule}
    (hqs : List.Forall₂ Gives specs qs) (hrs : List.Forall₂ Gives specs rs)
    (h : ∀ spec ∈ specs, ∀ q r, spec.Gives q → spec.Gives r → R q r) : List.Forall₂ R qs rs := by
  induction hqs generalizing rs with
  | nil =>
    cases hrs
    exact .nil
  | @cons spec q specs qs hq _ ih =>
    rcases hrs with _ | ⟨hr, hrs⟩
    exact .cons (h spec List.mem_cons_self q _ hq hr)
      (ih hrs fun spec' hspec' => h spec' (List.mem_cons_of_mem spec hspec'))

theorem loadShader_ok {specs : List RuleSpec}
    (h : ∀ s, Ensures s (specs.mapM load) fun rules _ => List.Forall₂ Gives specs rules)
    (s : LoadState) :
    Ensures s (loadShader specs) fun shader _ => List.Forall₂ Gives specs shader.rules :=
  (h s).bind fun _ _ hrules => .pure hrules

end RuleSpec

/-! ### Sublayers -/

namespace SublayerSpec

variable {spec : SublayerSpec}

/-- A feature as it gets a binding of its own: under rules it carries the style that they give to its
attributes at the zoom level of the scene. -/
def prepared (zoom : Float) (source : Option StyleSource) (f : Feature) : Feature :=
  match source with
  | some (.rules shader) =>
    { f with style := some (Style.baseOfRules f.kind f.attributes zoom shader.rules).value }
  | _ => f

/-- Bindings that are bound to the surfaces after a given one, in pairs and in order, up to another
given one. -/
inductive Numbered : UInt32 → List Binding → UInt32 → Prop where
  | nil (n : UInt32) : Numbered n [] n
  | cons {n m : UInt32} {b : Binding} {bindings : List Binding} (hstage : b.stage = .bound)
      (hsurfaces : b.surfaces = some ⟨n + 1, n + 2⟩) (hrest : Numbered (n + 2) bindings m) :
      Numbered n (b :: bindings) m

/-- The sublayer that a spec describes, with some contents. -/
def holding (spec : SublayerSpec) (c : Contents) : Sublayer :=
  { Sublayer.make spec.name none spec.options with contents := some c }

theorem ensures_loadOwnFeature (zoom : Float) (source : Option StyleSource) (f : Feature)
    (s : LoadState) :
    Ensures s (loadOwnFeature zoom source f) fun g s' =>
      g = prepared zoom source f ∧ s'.surfaces = s.surfaces := by
  rcases source with _ | shader | style
  · exact .pure ⟨rfl, rfl⟩
  · refine (ensures_noted s _).bind ?_
    rintro style s' ⟨rfl, hkept⟩
    exact .pure ⟨rfl, hkept⟩
  · exact .pure ⟨rfl, rfl⟩

/-- A sublayer takes every binding that is made for it, with the next pair of surfaces. -/
theorem ensures_attach {t : Sublayer} {c : Contents} (hlive : t.contents = some c) (scope : Scope)
    (source : Option StyleSource) (s : LoadState) :
    Ensures s (attach t scope source) fun u s' => u = { t with
      contents := some { c with
        bindings := c.bindings ++ [.make t.id scope source ⟨s.surfaces + 1, s.surfaces + 2⟩] } } ∧
      s'.surfaces = s.surfaces + 2 := by
  refine (ensures_nextSurfaces s).bind ?_
  rintro surfaces s' ⟨hsurfaces, hlast⟩
  rw [← hsurfaces]
  have hbind : t.bind? scope source surfaces = .ok (.make t.id scope source surfaces) := by
    rw [Sublayer.bind?, Sublayer.whileLive, hlive]
  have hadd : t.addBinding (.make t.id scope source surfaces) = .ok { t with
      contents := some { c with
        bindings := c.bindings ++ [.make t.id scope source surfaces] } } := by
    have howner : (Binding.make t.id scope source surfaces).sublayerId = t.id := rfl
    rw [Sublayer.addBinding, if_pos howner, Sublayer.change, hlive]
  rw [hbind]
  refine (ensures_settled s' (o := t.addBinding (.make t.id scope source surfaces)) ?_).mono ?_
  · rw [hadd]
    rfl
  · rintro u s'' ⟨rfl, hkept⟩
    exact ⟨by rw [hadd]; rfl, hkept.trans hlast⟩

/-- Features that get bindings of their own get one each, in order. -/
theorem ensures_attachEach (zoom : Float) (source : Option StyleSource) :
    ∀ (features : List Feature) {t : Sublayer} {c : Contents}, t.contents = some c →
      ∀ s, Ensures s (attachEach zoom source features t) fun u s' => ∃ bindings,
        u = { t with contents := some { c with bindings := c.bindings ++ bindings } } ∧
          List.Forall₂ (fun f b => ∃ surfaces,
            b = .make t.id (.feature (prepared zoom source f)) source surfaces) features bindings ∧
          Numbered s.surfaces bindings s'.surfaces
  | [], t, c, hlive, s => by
    refine .pure ⟨[], ?_, .nil, .nil _⟩
    rw [List.append_nil, ← hlive]
  | f :: features, t, c, hlive, s => by
    refine (ensures_loadOwnFeature zoom source f s).bind ?_
    rintro g s₁ ⟨rfl, hkept⟩
    refine (ensures_attach hlive (.feature (prepared zoom source f)) source s₁).bind ?_
    rintro u s₂ ⟨rfl, hlast⟩
    refine (ensures_attachEach zoom source features rfl s₂).mono ?_
    rintro v s₃ ⟨bindings, rfl, hbindings, hnumbered⟩
    rw [hlast, hkept] at hnumbered
    rw [hkept]
    exact ⟨.make t.id (.feature (prepared zoom source f)) source
        ⟨s.surfaces + 1, s.surfaces + 2⟩ :: bindings,
      by simp, .cons ⟨_, rfl⟩ hbindings, .cons rfl rfl hnumbered⟩

/-- A sublayer whose features share a binding, with the pair of surfaces after those that were given out
when its source was found. -/
theorem ensures_load_shared (spec : SublayerSpec) (hshape : spec.perFeature = false)
    {P : Option StyleSource → LoadState → Prop} {s : LoadState} (hsource : Ensures s spec.loadSource P)
    (zoom : Float) : Ensures s (spec.load zoom) fun t s₂ => ∃ source s₁, P source s₁ ∧
      t = spec.holding ⟨spec.features, [.make (escapeLayerName spec.name) .sublayer source
        ⟨s₁.surfaces + 1, s₁.surfaces + 2⟩]⟩ ∧ s₂.surfaces = s₁.surfaces + 2 := by
  refine hsource.bind fun source s₁ hP => ?_
  rw [hshape]
  refine (ensures_settled s₁ (o := (Sublayer.make spec.name none spec.options).addFeatures
    spec.features) rfl).bind ?_
  rintro t s ⟨rfl, hkept⟩
  refine (ensures_attach (c := ⟨spec.features, []⟩) rfl .sublayer source s).mono ?_
  rintro u s₂ ⟨rfl, hlast⟩
  rw [hkept] at hlast ⊢
  exact ⟨source, s₁, hP, rfl, hlast⟩

/-- A sublayer whose features have bindings of their own, with the pairs of surfaces after those. -/
theorem ensures_load_own (spec : SublayerSpec) (hshape : spec.perFeature = true)
    {P : Option StyleSource → LoadState → Prop} {s : LoadState} (hsource : Ensures s spec.loadSource P)
    (zoom : Float) : Ensures s (spec.load zoom) fun t s₂ => ∃ source s₁ bindings, P source s₁ ∧
      t = spec.holding ⟨[], bindings⟩ ∧
        List.Forall₂ (fun f b => ∃ surfaces, b = .make (escapeLayerName spec.name)
          (.feature (prepared zoom source f)) source surfaces) spec.features bindings ∧
        Numbered s₁.surfaces bindings s₂.surfaces := by
  refine hsource.bind fun source s₁ hP => ?_
  rw [hshape]
  refine (ensures_attachEach zoom source spec.features
    (t := Sublayer.make spec.name none spec.options) (c := ⟨[], []⟩) rfl s₁).mono ?_
  rintro u s₂ ⟨bindings, rfl, hbindings, hnumbered⟩
  exact ⟨source, s₁, bindings, hP, rfl, hbindings, hnumbered⟩

/-- A sublayer whose features share a binding, on whatever surfaces. -/
theorem load_shared (spec : SublayerSpec) (hshape : spec.perFeature = false)
    {P : Option StyleSource → Prop} {s : LoadState}
    (hsource : Ensures s spec.loadSource fun source _ => P source) (zoom : Float) :
    Ensures s (spec.load zoom) fun t _ => ∃ source surfaces, P source ∧ t = spec.holding
      ⟨spec.features, [.make (escapeLayerName spec.name) .sublayer source surfaces]⟩ := by
  refine (ensures_load_shared spec hshape hsource zoom).mono ?_
  rintro t s₂ ⟨source, s₁, hP, rfl, -⟩
  exact ⟨source, _, hP, rfl⟩

/-- A sublayer whose features have bindings of their own, on whatever surfaces. -/
theorem load_own (spec : SublayerSpec) (hshape : spec.perFeature = true)
    {P : Option StyleSource → Prop} {s : LoadState}
    (hsource : Ensures s spec.loadSource fun source _ => P source) (zoom : Float) :
    Ensures s (spec.load zoom) fun t _ => ∃ source bindings, P source ∧
      t = spec.holding ⟨[], bindings⟩ ∧
        List.Forall₂ (fun f b => ∃ surfaces, b = .make (escapeLayerName spec.name)
          (.feature (prepared zoom source f)) source surfaces) spec.features bindings := by
  refine (ensures_load_own spec hshape hsource zoom).mono ?_
  rintro t s₂ ⟨source, s₁, bindings, hP, rfl, hbindings, -⟩
  exact ⟨source, bindings, hP, rfl, hbindings⟩

/-- A sublayer under rules finds its source, from whatever state, or never does. -/
theorem loadSource_ruled {rules : List RuleSpec} (hservice : spec.serviceStyle = none)
    (hrules : spec.rules = some rules) :
    (∀ s, Ensures s spec.loadSource fun source _ => ∃ shader, source = some (.rules shader) ∧
        List.Forall₂ RuleSpec.Gives rules shader.rules) ∨
      ∃ fault, ∀ s, StopsWith s spec.loadSource fault := by
  rw [loadSource, hservice, hrules]
  rcases RuleSpec.mapM_load rules with h | ⟨fault, h⟩
  · exact .inl fun s => (RuleSpec.loadShader_ok h s).bind fun shader s hshader =>
      .pure ⟨shader, rfl, hshader⟩
  · exact .inr ⟨fault, fun s => ((h s).bind _).bind _⟩

end SublayerSpec

end Portrayal
