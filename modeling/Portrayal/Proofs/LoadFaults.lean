import Portrayal.Proofs.LoadedScene
import Portrayal.Proofs.Shapes

/-!
Why a scene does not load. What is wrong with a scene can be told part by part, without loading anything;
loading checks the parts in a fixed order and stops at the first thing that is wrong:

    fill images     each too large?
    sublayers       each, in order:  two sources?  or each rule malformed?
    highlight       features without sublayers?  each name unknown?  each rule malformed?

Main statement: a scene that comes from a document fails to load exactly if something is wrong with it, and
the fault is the first one in that order. In particular no sublayer refuses a binding that is made for it.
-/

namespace Portrayal

/-! ### What is wrong with a scene -/

namespace Json

/-- Whether a document is a number. -/
def isNumber : Json → Bool
  | integer _ | float _ => true
  | _ => false

/-- Whether a document cannot be the value of a rule: truth values, objects and arrays with something
else than numbers. -/
def isValueless : Json → Bool
  | bool _ | object _ => true
  | array items => items.any fun item => !item.isNumber
  | _ => false

end Json

/-- The flaw of a fill image: more pixels than the limit. -/
def FillImageSpec.flaws (spec : FillImageSpec) : List LoadFault :=
  if 4096 * 4096 < spec.width.toNat * spec.height.toNat then
    [.fillImageTooLarge spec.symbol spec.width spec.height]
  else []

/-- The flaw of a rule: both a value and an attribute, neither of them, or a value that is none. -/
def RuleSpec.flaws (spec : RuleSpec) : List LoadFault :=
  match spec.value, spec.attributeName with
  | some json, none => if json.isValueless then [.unsupportedValue spec.property json] else []
  | none, some _ => []
  | _, _ => [.ambiguousRule spec.property]

/-- The flaws of a sublayer: two sources, or those of its rules in order. -/
def SublayerSpec.flaws (spec : SublayerSpec) : List LoadFault :=
  match spec.serviceStyle, spec.rules with
  | some _, some _ => [.twoSources]
  | none, some rules => rules.flatMap RuleSpec.flaws
  | _, none => []

/-- The flaws of a highlight section, among sublayers with some names: features without any sublayer,
names in order, rules in order. -/
def HighlightSpec.flaws (names : List String) (spec : HighlightSpec) : List LoadFault :=
  (if spec.sublayers = [] ∧ spec.features ≠ [] then [.featuresWithoutSublayer] else []) ++
    (spec.sublayers.flatMap fun name => if name ∈ names then [] else [.unknownSublayer name]) ++
    (spec.rules.flatMap RuleSpec.flaws).map .inHighlightRules

/-- The flaws of a scene, in the order in which they are looked for. -/
def Scene.flaws (scene : Scene) : List LoadFault :=
  scene.fillImages.flatMap FillImageSpec.flaws ++
    (scene.sublayers.flatMap fun spec => spec.flaws.map (.inSublayer spec.name)) ++
    scene.highlight.elim [] (HighlightSpec.flaws (scene.sublayers.map SublayerSpec.name))

/-! ### Steps that find flaws -/

namespace Loading

variable {α β : Type} {post : α → Prop} {post' : β → Prop} {flaws flaws' : List LoadFault}

/-- A check finds the first of some flaws, and if there is none its result satisfies something. -/
def Finds (result : Except LoadFault α) (post : α → Prop) : List LoadFault → Prop
  | [] => ∃ a, result = .ok a ∧ post a
  | fault :: _ => result = .error fault

/-- The flaws of what is checked first come first. -/
theorem Finds.bind {result : Except LoadFault α} {next : α → Except LoadFault β}
    (h : Finds result post flaws) (hnext : ∀ a, post a → Finds (next a) post' flaws') :
    Finds (result >>= next) post' (flaws ++ flaws') := by
  cases flaws with
  | nil =>
    obtain ⟨a, rfl, hpost⟩ := h
    exact hnext a hpost
  | cons fault rest =>
    obtain rfl : result = .error fault := h
    exact rfl

theorem Finds.bind_flawless {result : Except LoadFault α} {next : α → Except LoadFault β}
    (h : Finds result post flaws) (hnext : ∀ a, post a → Finds (next a) post' []) :
    Finds (result >>= next) post' flaws := by
  rw [← List.append_nil flaws]
  exact h.bind hnext

theorem Finds.map {result : Except LoadFault α} (h : Finds result post flaws) (f : α → β)
    (hpost : ∀ a, post a → post' (f a)) : Finds (result.map f) post' flaws := by
  cases flaws with
  | nil =>
    obtain ⟨a, rfl, ha⟩ := h
    exact ⟨f a, rfl, hpost a ha⟩
  | cons fault rest =>
    obtain rfl : result = .error fault := h
    exact rfl

theorem Finds.mapError {result : Except LoadFault α} (h : Finds result post flaws)
    (place : LoadFault → LoadFault) : Finds (result.mapError place) post (flaws.map place) := by
  cases flaws with
  | nil =>
    obtain ⟨a, rfl, hpost⟩ := h
    exact ⟨a, rfl, hpost⟩
  | cons fault rest =>
    obtain rfl : result = .error fault := h
    exact rfl

theorem finds_mapM {f : α → Except LoadFault β} {flaws : α → List LoadFault}
    (h : ∀ a, Finds (f a) (fun _ => True) (flaws a)) :
    ∀ items : List α, Finds (items.mapM f) (fun _ => True) (items.flatMap flaws)
  | [] => ⟨[], rfl, trivial⟩
  | a :: items => by
    rw [List.mapM_cons, List.flatMap_cons]
    exact (h a).bind fun b _ => (finds_mapM h items).bind_flawless fun rest _ =>
      ⟨b :: rest, rfl, trivial⟩

/-- A loading step finds the first of some flaws, from whatever state. -/
def Checks (step : Loading α) (post : α → Prop) (flaws : List LoadFault) : Prop :=
  ∀ s, Finds (step.run.run s).1 post flaws

variable {step : Loading α} {next : α → Loading β}

theorem checks_nil : Checks step post [] ↔ ∀ s, Ensures s step fun a _ => post a := by
  refine forall_congr' fun s => ?_
  constructor
  · rintro ⟨a, hresult, hpost⟩
    exact ⟨a, (step.run.run s).2, Prod.ext hresult rfl, hpost⟩
  · rintro ⟨a, s', hrun, hpost⟩
    exact ⟨a, congrArg Prod.fst hrun, hpost⟩

theorem checks_cons {fault : LoadFault} :
    Checks step post (fault :: flaws) ↔ ∀ s, StopsWith s step fault := by
  refine forall_congr' fun s => ?_
  constructor
  · intro h
    exact ⟨(step.run.run s).2, Prod.ext h rfl⟩
  · rintro ⟨s', hrun⟩
    exact congrArg Prod.fst hrun

theorem checks_pure {a : α} (h : post a) : Checks (pure a) post [] := fun _ => ⟨a, rfl, h⟩

theorem checks_throw (fault : LoadFault) (flaws : List LoadFault) :
    Checks (throw fault : Loading α) post (fault :: flaws) := fun _ => rfl

theorem checks_lift {result : Except LoadFault α} (h : Finds result post flaws) :
    Checks (liftM result) post flaws := by
  intro s
  cases result <;> exact h

theorem checks_recording (step : StateM RecordSupply α) :
    Checks (recording step) (fun _ => True) [] :=
  checks_nil.mpr fun s => (ensures_recording s step).mono fun _ _ _ => trivial

/-- The flaws of a first step come first. -/
theorem Checks.bind (h : Checks step post flaws) (hnext : ∀ a, post a → Checks (next a) post' flaws') :
    Checks (step >>= next) post' (flaws ++ flaws') := by
  cases flaws with
  | nil =>
    intro s
    obtain ⟨a, s', hrun, hpost⟩ := checks_nil.mp h s
    rw [run_bind_of_ok hrun]
    exact hnext a hpost s'
  | cons fault rest => exact checks_cons.mpr fun s => (checks_cons.mp h s).bind next

/-- A last step without flaws adds none. -/
theorem Checks.bind_flawless (h : Checks step post flaws)
    (hnext : ∀ a, post a → Checks (next a) post' []) : Checks (step >>= next) post' flaws := by
  rw [← List.append_nil flaws]
  exact h.bind hnext

theorem Checks.within (h : Checks step post flaws) (place : LoadFault → LoadFault) :
    Checks (within place step) post (flaws.map place) := by
  intro s
  rw [run_within]
  exact (h s).mapError place

theorem checks_mapM {f : α → Loading β} {R : α → β → Prop} {flaws : α → List LoadFault} :
    ∀ {items : List α}, (∀ a ∈ items, Checks (f a) (R a) (flaws a)) →
      Checks (items.mapM f) (List.Forall₂ R items) (items.flatMap flaws)
  | [], _ => checks_pure .nil
  | a :: items, h => by
    rw [List.mapM_cons, List.flatMap_cons]
    obtain ⟨hfirst, hitems⟩ := List.forall_mem_cons.mp h
    exact hfirst.bind fun b hb => (checks_mapM hitems).bind_flawless fun rest hrest =>
      checks_pure (.cons hb hrest)

end Loading

open Loading

/-! ### Values and rules -/

namespace Json

/-- What is read from a field that may be left out is read from a document other than `null`. -/
theorem Fields.optional?_some {α : Type} {read : Json → Option α} {fields : Fields} {name : String}
    {a : α} (h : fields.optional? name read = some (some a)) :
    ∃ json, json ≠ .null ∧ read json = some a := by
  rw [optional?] at h
  split at h
  · exact absurd h (by simp)
  · exact absurd h (by simp)
  · rename_i json hnull _
    obtain ⟨a', hread, ha⟩ := Option.map_eq_some_iff.mp h
    exact ⟨json, hnull, hread.trans ha⟩

/-- Every document of a list is read exactly if each of them is. -/
theorem isSome_each? {α : Type} (read : Json → Option α) : ∀ items : List Json,
    (each? read items).isSome = items.all fun item => (read item).isSome
  | [] => rfl
  | item :: items => by
    rw [List.all_cons, ← isSome_each? read items, each?]
    cases read item with
    | none => rfl
    | some a => cases each? read items <;> rfl

theorem isSome_float? (json : Json) : json.float?.isSome = json.isNumber := by
  cases json <;> rfl

/-- Whether a document can be what a member of a record holds. -/
def Proper (json : Json) : Prop := json ≠ .null ∧ json ≠ .unheld

theorem proper_of_held? {json value : Json} (hjson : json ≠ .null) (h : json.held? = some value) :
    value.Proper := by
  cases json with
  | null => exact absurd rfl hjson
  | unheld => exact absurd h (by simp [held?])
  | array items =>
    obtain ⟨items', -, rfl⟩ := Option.map_eq_some_iff.mp (h : (heldItems? items).map array = _)
    exact ⟨by simp, by simp⟩
  | object members =>
    obtain ⟨members', -, rfl⟩ := Option.map_eq_some_iff.mp (h : (heldMembers? members).map object = _)
    exact ⟨by simp, by simp⟩
  | _ =>
    rw [← Option.some.inj (h : some _ = some value)]
    exact ⟨by simp, by simp⟩

end Json

/-- Documents other than `null` have a style value exactly if they are not of the kinds without one. -/
theorem Value.isSome_ofJson? {json : Json} (h : json.Proper) :
    (ofJson? json).isSome = !json.isValueless := by
  cases json with
  | null => exact absurd rfl h.1
  | unheld => exact absurd rfl h.2
  | array items =>
    rw [ofJson?, Option.isSome_map, Json.isSome_each?, Json.isValueless, List.not_any_eq_all_not]
    simp only [Json.isSome_float?, Bool.not_not]
  | _ => rfl

namespace RuleSpec

/-- A rule with a value has a proper one. -/
def Proper (spec : RuleSpec) : Prop := ∀ json, spec.value = some json → json.Proper

theorem proper_of_ofJson? {json : Json} {spec : RuleSpec} (h : ofJson? json = some spec) :
    spec.Proper := by
  simp only [ofJson?, Option.bind_eq_bind, Option.bind_eq_some_iff, Option.some.injEq] at h
  obtain ⟨fields, -, property, -, value, hvalue, name, -, least, -, greatest, -, rfl⟩ := h
  intro held hheld
  obtain rfl : value = some held := hheld
  obtain ⟨given, hgiven, hread⟩ := Json.Fields.optional?_some hvalue
  exact Json.proper_of_held? hgiven hread

variable {spec : RuleSpec}

theorem finds_evaluator? (h : spec.Proper) : Finds spec.evaluator? (fun _ => True) spec.flaws := by
  rw [evaluator?, flaws]
  cases hvalue : spec.value with
  | none =>
    cases spec.attributeName with
    | none => exact rfl
    | some name => exact ⟨_, rfl, trivial⟩
  | some json =>
    cases spec.attributeName with
    | some name => exact rfl
    | none =>
      dsimp only
      have hsome := Value.isSome_ofJson? (h json hvalue)
      cases hread : Value.ofJson? json with
      | none =>
        have hvalueless : json.isValueless = true := by simpa [hread] using hsome
        rw [if_pos hvalueless]
        exact rfl
      | some v =>
        have hvalued : ¬ json.isValueless = true := by simpa [hread] using hsome
        rw [if_neg hvalued]
        exact ⟨_, rfl, trivial⟩

theorem checks_load (h : spec.Proper) : Checks spec.load (fun _ => True) spec.flaws := by
  refine (checks_lift (finds_evaluator? h)).bind_flawless fun e _ => ?_
  refine (checks_recording _).bind_flawless fun r _ => ?_
  split
  · exact checks_recording _
  · exact checks_pure trivial

theorem checks_loadShader {specs : List RuleSpec} (h : ∀ spec ∈ specs, spec.Proper) :
    Checks (loadShader specs) (fun _ => True) (specs.flatMap flaws) :=
  (checks_mapM fun spec hspec => checks_load (h spec hspec)).bind_flawless fun _ _ =>
    checks_pure trivial

end RuleSpec

/-- The rules of a sublayer have proper values. -/
def SublayerSpec.Proper (spec : SublayerSpec) : Prop :=
  ∀ rules, spec.rules = some rules → ∀ rule ∈ rules, rule.Proper

/-- The rules of a highlight section have proper values. -/
def HighlightSpec.Proper (spec : HighlightSpec) : Prop := ∀ rule ∈ spec.rules, rule.Proper

theorem RuleSpec.proper_of_list? {json : Json} {rules : List RuleSpec}
    (h : Json.list? ofJson? json = some rules) : ∀ rule ∈ rules, rule.Proper := by
  intro rule hrule
  obtain ⟨item, hitem⟩ := Json.mem_list? h hrule
  exact proper_of_ofJson? hitem

theorem SublayerSpec.proper_of_ofJson? {json : Json} {spec : SublayerSpec}
    (h : ofJson? json = some spec) : spec.Proper := by
  simp only [ofJson?, Option.bind_eq_bind, Option.bind_eq_some_iff, Option.some.injEq] at h
  obtain ⟨fields, -, name, -, options, -, style, -, given, hrules, perFeature, -, features, -, rfl⟩ :=
    h
  intro rules hgiven
  obtain rfl : given = some rules := hgiven
  obtain ⟨items, -, hitems⟩ := Json.Fields.optional?_some hrules
  exact RuleSpec.proper_of_list? hitems

theorem HighlightSpec.proper_of_ofJson? {json : Json} {spec : HighlightSpec}
    (h : ofJson? json = some spec) : spec.Proper := by
  simp only [ofJson?, Option.bind_eq_bind, Option.bind_eq_some_iff, Option.some.injEq] at h
  obtain ⟨fields, -, sublayers, -, rules, hrules, wholeLayer, -, features, -, rfl⟩ := h
  rcases Json.Fields.orElse?_cases hrules with rfl | ⟨items, hitems⟩
  · exact fun rule hrule => absurd hrule (by simp)
  · exact RuleSpec.proper_of_list? hitems

/-- The rules of a scene that a document holds have proper values. -/
theorem Scene.proper_of_ofJson? {json : Json} {scene : Scene} (h : ofJson? json = some scene) :
    (∀ spec ∈ scene.sublayers, spec.Proper) ∧ ∀ spec, scene.highlight = some spec → spec.Proper := by
  simp only [ofJson?, Option.bind_eq_bind, Option.bind_eq_some_iff, Option.some.injEq] at h
  obtain ⟨fields, -, url, -, zoom, -, highlight, hhighlight, images, -, sublayers, hsublayers, rfl⟩ := h
  constructor
  · intro spec hspec
    rcases Json.Fields.orElse?_cases hsublayers with rfl | ⟨items, hitems⟩
    · exact absurd hspec (by simp)
    · obtain ⟨item, hitem⟩ := Json.mem_list? hitems hspec
      exact SublayerSpec.proper_of_ofJson? hitem
  · intro spec hspec
    obtain rfl : highlight = some spec := hspec
    obtain ⟨item, -, hitem⟩ := Json.Fields.optional?_some hhighlight
    exact HighlightSpec.proper_of_ofJson? hitem

/-! ### Fill images and sublayers -/

theorem FillImageSpec.finds_bitmap? (spec : FillImageSpec) :
    Finds spec.bitmap? (fun _ => True) spec.flaws := by
  rw [bitmap?, maxFillImagePixels, flaws]
  by_cases h : 4096 * 4096 < spec.width.toNat * spec.height.toNat
  · rw [if_pos h, if_neg (Nat.not_le.mpr h)]
    exact rfl
  · rw [if_neg h, if_pos (Nat.not_lt.mp h)]
    exact ⟨_, rfl, trivial⟩

theorem Scene.finds_loadFillImages (scene : Scene) : Finds scene.loadFillImages (fun _ => True)
    (scene.fillImages.flatMap FillImageSpec.flaws) := by
  refine (finds_mapM (fun spec => ?_) scene.fillImages).bind_flawless fun _ _ => ⟨_, rfl, trivial⟩
  exact spec.finds_bitmap?.bind_flawless fun _ _ => ⟨_, rfl, trivial⟩

namespace SublayerSpec

variable {spec : SublayerSpec}

theorem checks_loadSource (h : spec.Proper) :
    Checks spec.loadSource (fun _ => True) spec.flaws := by
  rw [loadSource, flaws]
  cases spec.serviceStyle with
  | some style =>
    cases spec.rules with
    | some rules => exact checks_throw _ _
    | none => exact checks_pure trivial
  | none =>
    cases hrules : spec.rules with
    | some rules =>
      exact (RuleSpec.checks_loadShader (h rules hrules)).bind_flawless fun _ _ => checks_pure trivial
    | none => exact checks_pure trivial

/-- Once its source is found a sublayer loads, whatever its features are. -/
theorem checks_load (h : spec.Proper) (zoom : Float) :
    Checks (spec.load zoom) (fun u => u.layerName = spec.name) spec.flaws := by
  have hsource := checks_loadSource h
  cases hflaws : spec.flaws with
  | cons fault rest =>
    rw [hflaws] at hsource
    exact checks_cons.mpr fun s => (checks_cons.mp hsource s).bind _
  | nil =>
    rw [hflaws] at hsource
    refine checks_nil.mpr fun s => ?_
    cases hshape : spec.perFeature with
    | false =>
      refine (load_shared spec hshape (checks_nil.mp hsource s) zoom).mono ?_
      rintro u s' ⟨source, surfaces, -, rfl⟩
      rfl
    | true =>
      refine (load_own spec hshape (checks_nil.mp hsource s) zoom).mono ?_
      rintro u s' ⟨source, bindings, -, rfl, -⟩
      rfl

end SublayerSpec

/-! ### The highlight -/

namespace HighlightSpec

variable {spec : HighlightSpec} {names : List String} {sublayers : List Sublayer}

theorem finds_loadEntries (hnames : sublayers.map Sublayer.layerName = names) :
    ∀ listed : List String, Finds (spec.loadEntries sublayers listed) (fun _ => True)
      (listed.flatMap fun name => if name ∈ names then [] else [.unknownSublayer name])
  | [] => ⟨[], rfl, trivial⟩
  | name :: listed => by
    rw [loadEntries, List.flatMap_cons]
    cases hfind : sublayers.find? fun u => u.layerName == name with
    | none =>
      have habsent : name ∉ names := by
        rw [← hnames, List.mem_map]
        rintro ⟨u, hu, hname⟩
        exact absurd hname (by simpa using List.find?_eq_none.mp hfind u hu)
      rw [if_neg habsent]
      exact rfl
    | some u =>
      have hthere : name ∈ names := by
        rw [← hnames, List.mem_map]
        exact ⟨u, List.mem_of_find?_eq_some hfind, by simpa using List.find?_some hfind⟩
      rw [if_pos hthere, List.nil_append]
      exact (finds_loadEntries hnames listed).map _ fun _ _ => trivial

theorem checks_loadShader (h : spec.Proper) (listed : List Int) :
    Checks (spec.loadShader listed) (fun _ => True)
      ((spec.rules.flatMap RuleSpec.flaws).map .inHighlightRules) := by
  refine ((RuleSpec.checks_loadShader h).within .inHighlightRules).bind_flawless fun shader _ => ?_
  split
  · exact checks_pure trivial
  · exact (checks_recording _).bind_flawless fun _ _ => checks_pure trivial

theorem checks_load (h : spec.Proper)
    (hnames : sublayers.map Sublayer.layerName = names) :
    Checks (spec.load sublayers) (fun _ => True) (spec.flaws names) := by
  have hsteps : Checks (do
      let entries ← spec.loadEntries sublayers spec.sublayers
      let shader ← spec.loadShader (entries.filterMap HighlightEntry.feature)
      if spec.wholeLayer then return ⟨entries, none, some shader⟩
      else return ⟨entries, some shader, none⟩ : Loading Highlight) (fun _ => True)
      ((spec.sublayers.flatMap fun name => if name ∈ names then [] else [.unknownSublayer name]) ++
        (spec.rules.flatMap RuleSpec.flaws).map .inHighlightRules) := by
    refine (checks_lift (finds_loadEntries hnames spec.sublayers)).bind fun entries _ => ?_
    refine (checks_loadShader h _).bind_flawless fun shader _ => ?_
    split <;> exact checks_pure trivial
  rw [load, flaws, List.append_assoc]
  by_cases hlisted : spec.sublayers = [] ∧ spec.features ≠ []
  · rw [if_pos hlisted, if_pos (by simpa using hlisted)]
    have hthrow : Checks (throw .featuresWithoutSublayer : Loading PUnit) (fun _ => True)
        [.featuresWithoutSublayer] := checks_throw _ _
    exact hthrow.bind fun _ _ => hsteps
  · rw [if_neg hlisted, if_neg (by simpa using hlisted)]
    exact hsteps

end HighlightSpec

/-! ### Scenes -/

/-- A rule has both a value and an attribute or neither, or its value is none. -/
def RuleSpec.Malformed (spec : RuleSpec) : Prop :=
  spec.value.isSome = spec.attributeName.isSome ∨
    ∃ json, spec.value = some json ∧ json.isValueless = true

/-- Something is wrong with a scene. -/
inductive Scene.Flawed (scene : Scene) : Prop where
  /-- A fill image is too large. -/
  | fillImage {image : FillImageSpec} (himage : image ∈ scene.fillImages)
      (hlarge : 4096 * 4096 < image.width.toNat * image.height.toNat)
  /-- A sublayer has two sources. -/
  | twoSources {spec : SublayerSpec} (hspec : spec ∈ scene.sublayers)
      (hservice : spec.serviceStyle.isSome = true) (hrules : spec.rules.isSome = true)
  /-- A rule of a sublayer without a service style is malformed. -/
  | rule {spec : SublayerSpec} {rules : List RuleSpec} {rule : RuleSpec}
      (hspec : spec ∈ scene.sublayers) (hservice : spec.serviceStyle = none)
      (hrules : spec.rules = some rules) (hrule : rule ∈ rules) (hmalformed : rule.Malformed)
  /-- The highlight lists features and no sublayer. -/
  | features {spec : HighlightSpec} (hspec : scene.highlight = some spec)
      (hfeatures : spec.features ≠ []) (hsublayers : spec.sublayers = [])
  /-- The highlight lists a sublayer that is not there. -/
  | name {spec : HighlightSpec} {name : String} (hspec : scene.highlight = some spec)
      (hname : name ∈ spec.sublayers) (hunknown : ∀ sub ∈ scene.sublayers, sub.name ≠ name)
  /-- A rule of the highlight is malformed. -/
  | highlightRule {spec : HighlightSpec} {rule : RuleSpec} (hspec : scene.highlight = some spec)
      (hrule : rule ∈ spec.rules) (hmalformed : rule.Malformed)

theorem FillImageSpec.flaws_eq_nil {spec : FillImageSpec} :
    spec.flaws = [] ↔ ¬ 4096 * 4096 < spec.width.toNat * spec.height.toNat := by
  rw [flaws]
  split <;> simp_all

theorem RuleSpec.flaws_eq_nil {spec : RuleSpec} : spec.flaws = [] ↔ ¬ spec.Malformed := by
  rw [flaws, Malformed]
  cases spec.value <;> cases spec.attributeName <;> simp

theorem SublayerSpec.flaws_eq_nil {spec : SublayerSpec} : spec.flaws = [] ↔
    ¬ (spec.serviceStyle.isSome = true ∧ spec.rules.isSome = true) ∧
      (spec.serviceStyle = none → ∀ rules, spec.rules = some rules → ∀ rule ∈ rules,
        ¬ rule.Malformed) := by
  rw [flaws]
  cases spec.serviceStyle <;> cases spec.rules <;> simp [RuleSpec.flaws_eq_nil]

theorem HighlightSpec.flaws_eq_nil {names : List String} {spec : HighlightSpec} :
    spec.flaws names = [] ↔ ¬ (spec.sublayers = [] ∧ spec.features ≠ []) ∧
      (∀ name ∈ spec.sublayers, name ∈ names) ∧ ∀ rule ∈ spec.rules, ¬ rule.Malformed := by
  simp only [flaws, List.append_eq_nil_iff, List.map_eq_nil_iff, List.flatMap_eq_nil_iff,
    RuleSpec.flaws_eq_nil, and_assoc, ite_eq_left_iff, ite_eq_right_iff, List.cons_ne_nil, imp_false,
    not_not]

namespace Scene

variable {scene : Scene}

/-- A scene has a flaw exactly if something is wrong with it. -/
theorem flaws_eq_nil : scene.flaws = [] ↔ ¬ scene.Flawed := by
  have hparts : scene.flaws = [] ↔ (∀ image ∈ scene.fillImages, image.flaws = []) ∧
      (∀ spec ∈ scene.sublayers, spec.flaws = []) ∧ ∀ spec, scene.highlight = some spec →
        spec.flaws (scene.sublayers.map SublayerSpec.name) = [] := by
    rw [flaws]
    cases scene.highlight <;> simp
  simp only [hparts, FillImageSpec.flaws_eq_nil, SublayerSpec.flaws_eq_nil,
    HighlightSpec.flaws_eq_nil]
  constructor
  · rintro ⟨himages, hspecs, hhighlight⟩ hflawed
    cases hflawed with
    | fillImage himage hlarge => exact himages _ himage hlarge
    | twoSources hspec hservice hrules => exact (hspecs _ hspec).1 ⟨hservice, hrules⟩
    | rule hspec hservice hrules hrule hmalformed =>
      exact (hspecs _ hspec).2 hservice _ hrules _ hrule hmalformed
    | features hspec hfeatures hsublayers =>
      exact (hhighlight _ hspec).1 ⟨hsublayers, hfeatures⟩
    | name hspec hname hunknown =>
      obtain ⟨sub, hsub, hsame⟩ := List.mem_map.mp ((hhighlight _ hspec).2.1 _ hname)
      exact hunknown sub hsub hsame
    | highlightRule hspec hrule hmalformed => exact (hhighlight _ hspec).2.2 _ hrule hmalformed
  · intro h
    refine ⟨fun image himage hlarge => h (.fillImage himage hlarge), fun spec hspec => ⟨?_, ?_⟩,
      fun spec hspec => ⟨?_, ?_, ?_⟩⟩
    · exact fun ⟨hservice, hrules⟩ => h (.twoSources hspec hservice hrules)
    · exact fun hservice rules hrules rule hrule hmalformed =>
        h (.rule hspec hservice hrules hrule hmalformed)
    · exact fun ⟨hsublayers, hfeatures⟩ => h (.features hspec hfeatures hsublayers)
    · intro name hname
      by_contra hunknown
      exact h (.name hspec hname fun sub hsub hsame =>
        hunknown (List.mem_map.mpr ⟨sub, hsub, hsame⟩))
    · exact fun rule hrule hmalformed => h (.highlightRule hspec hrule hmalformed)

/-- Sublayers are loaded under the names of their specs. -/
theorem checks_lighting (hhighlight : ∀ spec, scene.highlight = some spec → spec.Proper)
    {sublayers : List Sublayer}
    (hloaded : List.Forall₂ (fun spec u => u.layerName = spec.name) scene.sublayers sublayers) :
    Checks (scene.lighting sublayers) (fun _ => True)
      (scene.highlight.elim [] (HighlightSpec.flaws (scene.sublayers.map SublayerSpec.name))) := by
  have hnames : sublayers.map Sublayer.layerName = scene.sublayers.map SublayerSpec.name := by
    rw [← List.forall₂_eq_eq_eq, List.forall₂_map_left_iff, List.forall₂_map_right_iff]
    exact hloaded.flip
  rw [lighting]
  cases hspec : scene.highlight with
  | none => exact checks_pure trivial
  | some spec => exact HighlightSpec.checks_load (hhighlight spec hspec) hnames

theorem checks_loading (hsublayers : ∀ spec ∈ scene.sublayers, spec.Proper)
    (hhighlight : ∀ spec, scene.highlight = some spec → spec.Proper) :
    Checks scene.loading (fun _ => True) scene.flaws := by
  rw [loading_eq, flaws, List.append_assoc]
  refine (checks_lift scene.finds_loadFillImages).bind fun images _ => ?_
  refine (checks_mapM fun spec hspec =>
    (SublayerSpec.checks_load (hsublayers spec hspec) scene.zoom).within _).bind fun sublayers h => ?_
  exact (checks_lighting hhighlight h).bind_flawless fun highlight _ => checks_pure trivial

/-- A scene that comes from a document fails to load exactly if something is wrong with it, and what is
reported is the first thing that is wrong: fill images in order, sublayers in order, and for each of them
its sources and then its rules, and last the features, names and rules of the highlight. -/
theorem load_fails_iff {json : Json} (hread : ofJson? json = some scene) :
    ((∃ fault, scene.load.value = .error fault) ↔ scene.Flawed) ∧
      ∀ fault, scene.load.value = .error fault ↔ scene.flaws.head? = some fault := by
  obtain ⟨hsublayers, hhighlight⟩ := proper_of_ofJson? hread
  have hfinds : Finds scene.load.value (fun _ => True) scene.flaws :=
    checks_loading hsublayers hhighlight .initial
  have hflawed : scene.flaws = [] ↔ ¬ scene.Flawed := flaws_eq_nil
  cases hflaws : scene.flaws with
  | nil =>
    rw [hflaws] at hfinds
    obtain ⟨loaded, hload, -⟩ := hfinds
    exact ⟨by simp [hload, hflawed.mp hflaws], by simp [hload]⟩
  | cons first rest =>
    rw [hflaws] at hfinds hflawed
    have hload : scene.load.value = .error first := hfinds
    exact ⟨by simpa [hload] using hflawed, by simp [hload]⟩

/-- A scene with two malformed rules, and a highlight for a sublayer that is not there. -/
def hastyDocument : Json :=
  .object
    [("highlight", .object [("sublayers", .array [.text "rivers"])]),
      ("sublayers", .array
        [.object
          [("name", .text "roads"),
            ("rules", .array
              [.object [("property", .text "line-width"), ("value", .integer 2)],
                .object [("property", .text "line-dash"), ("value", .array [.integer 4, .null])],
                .object [("property", .text "line-color")]])]])]

/-- Of the three flaws the dash pattern is found first. -/
theorem load_fails_iff_hasty : ∃ scene, ofJson? hastyDocument = some scene ∧ scene.Flawed ∧
    scene.flaws =
      [.inSublayer "roads" (.unsupportedValue "line-dash" (.array [.integer 4, .null])),
        .inSublayer "roads" (.ambiguousRule "line-color"), .unknownSublayer "rivers"] ∧
    scene.load.value = .error
      (.inSublayer "roads" (.unsupportedValue "line-dash" (.array [.integer 4, .null]))) := by
  obtain ⟨scene, hread, hflaws⟩ : ∃ scene, ofJson? hastyDocument = some scene ∧ scene.flaws =
      [.inSublayer "roads" (.unsupportedValue "line-dash" (.array [.integer 4, .null])),
        .inSublayer "roads" (.ambiguousRule "line-color"), .unknownSublayer "rivers"] :=
    ⟨_, rfl, rfl⟩
  obtain ⟨hfails, hfirst⟩ := load_fails_iff hread
  have hload := (hfirst _).mpr (congrArg List.head? hflaws)
  exact ⟨scene, hread, hfails.mp ⟨_, hload⟩, hflaws, hload⟩

end Scene

end Portrayal
