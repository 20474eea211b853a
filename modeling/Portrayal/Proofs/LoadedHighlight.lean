import Portrayal.Proofs.LoadedScene
import Portrayal.Proofs.Rejection

/-!
What a loaded highlight is like. A highlight section lists names of sublayers and identities of
features. It reaches a sublayer if it is for the whole layer or lists a name that the identity of the
sublayer comes from, and it covers a feature if it lists it or lists none at all. Loading makes of it an
index, which pairs every name with every feature, and a shader, whose rules it restricts to the features
in the index if there are any:

```
  names × features  ──►  entries ──┬──►  whether a shader applies to a sublayer
                                   └──►  the filter of the shader
```

Of the index only its members are ever looked at. So a section that lists the same names and features in
another order, or more than once, makes another index and the same shader.
-/

namespace Portrayal

open Loading

namespace RuleSpec

variable {spec : RuleSpec} {specs : List RuleSpec} {r : Rule} {shader : Shader} {s t : LoadState}

/-- A rule of a scene looks at the attributes and the zoom level, and not at the filter. -/
theorem Gives.evaluate_filter (h : spec.Gives r) (attributes : Attributes) (zoom : Float)
    (filter filter' : Option Bool) :
    r.evaluate ⟨attributes, zoom, filter⟩ = r.evaluate ⟨attributes, zoom, filter'⟩ := by
  obtain ⟨-, e, he, hr⟩ := h
  rw [Rule.evaluate, Rule.evaluate, hr]
  cases he with
  | constant => rfl
  | named => rfl

theorem goes_load (h : Goes s spec.load r t) : spec.Gives r := by
  cases hspec : spec.evaluator? with
  | error fault =>
    obtain ⟨s', hstops⟩ := load_error hspec s
    exact absurd (Prod.mk.inj (h.symm.trans hstops)).1 (by simp)
  | ok e => exact h.holds (load_ok hspec s)

theorem goes_loadShader (h : Goes s (loadShader specs) shader t) :
    List.Forall₂ Gives specs shader.rules := by
  obtain ⟨rules, s', hrules, h⟩ := goes_bind.mp h
  obtain ⟨rfl, -⟩ := goes_pure.mp h
  refine (goes_mapM hrules).imp ?_
  rintro spec r ⟨s, s', hr⟩
  exact goes_load hr

end RuleSpec

/-- Rules of a scene give the same style whatever the filter says. -/
theorem RuleSpec.ofRules_filter {specs : List RuleSpec} {rules : List Rule}
    (h : List.Forall₂ RuleSpec.Gives specs rules) (kind : Kind) (attributes : Attributes)
    (zoom : Float) (filter filter' : Option Bool) :
    (Style.ofRules kind ⟨attributes, zoom, filter⟩ rules).value =
      (Style.ofRules kind ⟨attributes, zoom, filter'⟩ rules).value := by
  refine Style.ofRules_congr (forall₂_of_gives h h fun _ _ q r hq hr => ?_)
  obtain ⟨hproperty, hevaluator⟩ := hq.unique hr
  refine ⟨hproperty, ?_⟩
  rw [Rule.evaluate, hevaluator]
  exact hr.evaluate_filter attributes zoom filter filter'

/-- What a rule becomes when it is restricted to the features that the filter does not reject. -/
def Rule.NarrowsTo (r q : Rule) : Prop := ∃ supply, q = (r.filtered.run supply).1

/-- Restricted rules give what the rules give, unless the filter rejects the feature. -/
theorem Style.ofRules_filtered {rules filtered : List Rule}
    (h : List.Forall₂ Rule.NarrowsTo rules filtered)
    {kind : Kind} {s : Situation} (hs : s.filter ≠ some false) :
    (ofRules kind s filtered).value = (ofRules kind s rules).value := by
  refine (ofRules_congr (h.imp ?_)).symm
  rintro r q ⟨supply, rfl⟩
  exact ⟨rfl, (if_neg hs).symm⟩

/-- Restricting a list of rules restricts each of them. -/
theorem Rule.mapM_filtered : ∀ (rules : List Rule) (supply : RecordSupply),
    List.Forall₂ NarrowsTo rules ((rules.mapM Rule.filtered).run supply).1
  | [], _ => .nil
  | r :: rules, supply => by
    rw [List.mapM_cons, StateT.run_bind]
    exact .cons ⟨supply, rfl⟩ (mapM_filtered rules _)

theorem Rule.restricted_of_filtered {rules filtered : List Rule}
    (h : List.Forall₂ Rule.NarrowsTo rules filtered) :
    ∀ q ∈ filtered, q.Restricted := by
  induction h with
  | nil => simp
  | @cons r q rules filtered hq _ ih =>
    obtain ⟨supply, rfl⟩ := hq
    exact List.forall_mem_cons.mpr ⟨.filtered r supply, ih⟩

namespace HighlightSpec

variable {spec spec' : HighlightSpec}

/-- Whether a section is for a sublayer: it is for the whole layer, or it lists a name whose escaped form
is the identity of the sublayer. -/
def Reaches (spec : HighlightSpec) (id : String) : Prop :=
  spec.wholeLayer = true ∨ ∃ name ∈ spec.sublayers, id = escapeLayerName name

/-- Whether a section is for a feature of the sublayers that it reaches: it lists the feature, or it
lists none. -/
def Covers (spec : HighlightSpec) (feature : Int) : Prop :=
  spec.features = [] ∨ feature ∈ spec.features

/-- A section that lists the same sublayers and the same features as another one, in whatever order and
however often, and is no different otherwise. -/
structure Relists (spec' spec : HighlightSpec) : Prop where
  sublayers : ∀ name, name ∈ spec'.sublayers ↔ name ∈ spec.sublayers
  features : ∀ feature, feature ∈ spec'.features ↔ feature ∈ spec.features
  rules : spec'.rules = spec.rules
  wholeLayer : spec'.wholeLayer = spec.wholeLayer

theorem Relists.sublayers_eq_nil (h : spec'.Relists spec) :
    spec'.sublayers = [] ↔ spec.sublayers = [] := by
  simp only [List.eq_nil_iff_forall_not_mem, h.sublayers]

theorem Relists.features_eq_nil (h : spec'.Relists spec) :
    spec'.features = [] ↔ spec.features = [] := by
  simp only [List.eq_nil_iff_forall_not_mem, h.features]

theorem Relists.reaches_iff (h : spec'.Relists spec) (id : String) :
    spec'.Reaches id ↔ spec.Reaches id := by
  simp only [Reaches, h.wholeLayer, h.sublayers]

/-! ### The index -/

/-- The index that a section lists. -/
def entries (spec : HighlightSpec) : List HighlightEntry :=
  spec.sublayers.flatMap fun name => spec.entriesFor (escapeLayerName name)

/-- The features that the index of a section lists. -/
def listed (spec : HighlightSpec) : List Int := spec.entries.filterMap HighlightEntry.feature

/-- Whether every sublayer that a section lists is there. -/
def Known (spec : HighlightSpec) (sublayers : List Sublayer) : Prop :=
  ∀ name ∈ spec.sublayers, ∃ u ∈ sublayers, u.layerName = name

theorem mem_entriesFor {id : String} {e : HighlightEntry} :
    e ∈ spec.entriesFor id ↔ e.sublayer = id ∧
      (spec.features = [] ∧ e.feature = none ∨ ∃ f ∈ spec.features, e.feature = some f) := by
  obtain ⟨sublayer, feature⟩ := e
  rw [entriesFor]
  cases hfeatures : spec.features with
  | nil => simp
  | cons first rest =>
    rw [if_neg (by simp)]
    simp only [List.mem_map, HighlightEntry.mk.injEq, List.cons_ne_nil, false_and, false_or]
    constructor
    · rintro ⟨f, hf, rfl, rfl⟩
      exact ⟨rfl, f, hf, rfl⟩
    · rintro ⟨rfl, f, hf, rfl⟩
      exact ⟨f, hf, rfl, rfl⟩

/-- Every listed sublayer has an entry, with or without features. -/
theorem exists_mem_entriesFor (spec : HighlightSpec) (id : String) :
    ∃ e ∈ spec.entriesFor id, e.sublayer = id := by
  cases hfeatures : spec.features with
  | nil => exact ⟨⟨id, none⟩, mem_entriesFor.mpr ⟨rfl, .inl ⟨hfeatures, rfl⟩⟩, rfl⟩
  | cons f rest =>
    have hf : f ∈ spec.features := by rw [hfeatures]; exact List.mem_cons_self
    exact ⟨⟨id, some f⟩, mem_entriesFor.mpr ⟨rfl, .inr ⟨f, hf, rfl⟩⟩, rfl⟩

theorem any_entries {id : String} : (spec.entries.any fun e => e.sublayer == id) = true ↔
    ∃ name ∈ spec.sublayers, id = escapeLayerName name := by
  simp only [List.any_eq_true, entries, List.mem_flatMap, beq_iff_eq]
  constructor
  · rintro ⟨e, ⟨name, hname, he⟩, rfl⟩
    exact ⟨name, hname, (mem_entriesFor.mp he).1⟩
  · rintro ⟨name, hname, rfl⟩
    obtain ⟨e, he, hid⟩ := spec.exists_mem_entriesFor (escapeLayerName name)
    exact ⟨e, ⟨name, hname, he⟩, hid⟩

/-- The index lists the features of its section, as long as there is a sublayer to list them for. -/
theorem mem_listed (hnames : spec.sublayers = [] → spec.features = []) {f : Int} :
    f ∈ spec.listed ↔ f ∈ spec.features := by
  simp only [listed, entries, List.mem_filterMap, List.mem_flatMap]
  constructor
  · rintro ⟨e, ⟨name, -, he⟩, hf⟩
    rcases (mem_entriesFor.mp he).2 with ⟨-, hnone⟩ | ⟨g, hg, hsome⟩
    · rw [hnone] at hf
      exact absurd hf (by simp)
    · rw [hsome] at hf
      exact Option.some.inj hf ▸ hg
  · intro hf
    cases hsublayers : spec.sublayers with
    | nil =>
      rw [hnames hsublayers] at hf
      exact absurd hf (by simp)
    | cons name rest =>
      exact ⟨⟨escapeLayerName name, some f⟩, ⟨name, List.mem_cons_self,
        mem_entriesFor.mpr ⟨rfl, .inr ⟨f, hf, rfl⟩⟩⟩, rfl⟩

/-- Among sublayers that are named as they are identified, the entries of some names are found exactly
if every name is there. -/
theorem loadEntries_eq_ok_iff {sublayers : List Sublayer}
    (hids : ∀ u ∈ sublayers, u.id = escapeLayerName u.layerName) :
    ∀ {names : List String} {entries : List HighlightEntry},
      spec.loadEntries sublayers names = .ok entries ↔
        (∀ name ∈ names, ∃ u ∈ sublayers, u.layerName = name) ∧
          entries = names.flatMap fun name => spec.entriesFor (escapeLayerName name)
  | [], entries => by simp [loadEntries, eq_comm]
  | name :: names, entries => by
    rw [loadEntries]
    cases hfind : sublayers.find? fun u => u.layerName == name with
    | none =>
      have habsent : ∀ u ∈ sublayers, u.layerName ≠ name := by simpa using hfind
      refine iff_of_false (by simp) ?_
      rintro ⟨hthere, -⟩
      obtain ⟨u, hu, hname⟩ := hthere name List.mem_cons_self
      exact habsent u hu hname
    | some u =>
      have hu := List.mem_of_find?_eq_some hfind
      have hname : u.layerName = name := by simpa using List.find?_some hfind
      have hid : u.id = escapeLayerName name := by rw [hids u hu, hname]
      simp only [hid, List.forall_mem_cons, List.flatMap_cons]
      constructor
      · intro h
        cases hrest : spec.loadEntries sublayers names with
        | error fault =>
          rw [hrest] at h
          exact absurd h (by simp [Except.map])
        | ok rest =>
          obtain ⟨hthere, rfl⟩ := (loadEntries_eq_ok_iff hids).mp hrest
          rw [hrest] at h
          exact ⟨⟨⟨u, hu, hname⟩, hthere⟩, (Except.ok.inj h).symm⟩
      · rintro ⟨⟨-, hthere⟩, rfl⟩
        rw [(loadEntries_eq_ok_iff hids).mpr ⟨hthere, rfl⟩]
        rfl

/-! ### The shader -/

/-- A shader writes what rules set over the styles of the features that a section covers, and nothing
over the styles of others. -/
structure Shades (spec : HighlightSpec) (rules : List Rule) (shader : Shader) : Prop where
  covered : ∀ (f : Feature) (pass : Pass) (base : Style) (filter : Option Bool),
    spec.Covers f.id → (f.highlight pass shader base).value =
      base.overlay (Style.ofRules f.kind ⟨f.exposed, pass.zoom, filter⟩ rules).value
  uncovered : ∀ (f : Feature) (pass : Pass) (base : Style),
    ¬ spec.Covers f.id → (f.highlight pass shader base).value = base

variable {rules : List Rule} {shader : Shader} {listed listed' : List Int} {s t : LoadState}

/-- Without features in the section, the rules as they are. -/
theorem shades_of_rules (hrules : List.Forall₂ RuleSpec.Gives spec.rules shader.rules)
    (hfeatures : spec.features = []) : spec.Shades shader.rules shader where
  covered f pass base filter _ :=
    congrArg base.overlay (RuleSpec.ofRules_filter hrules f.kind f.exposed pass.zoom _ filter)
  uncovered _ _ _ h := absurd (.inl hfeatures) h

/-- With features in the section, the rules restricted to them. -/
theorem shades_of_filtered {filtered : List Rule}
    (hrules : List.Forall₂ RuleSpec.Gives spec.rules rules)
    (hfiltered : List.Forall₂ Rule.NarrowsTo rules filtered)
    (hfeatures : spec.features ≠ []) (hlisted : ∀ f, f ∈ listed ↔ f ∈ spec.features) :
    spec.Shades rules ((Shader.ofRules filtered).withFilter fun id => listed.contains id) where
  covered f pass base filter h := by
    have hf : listed.contains f.id = true := by
      rw [List.contains_iff_mem, hlisted]
      exact h.resolve_left hfeatures
    refine congrArg base.overlay ?_
    calc (Style.ofRules f.kind ⟨f.exposed, pass.zoom, some (listed.contains f.id)⟩ filtered).value
      _ = (Style.ofRules f.kind ⟨f.exposed, pass.zoom, some true⟩ filtered).value := by rw [hf]
      _ = (Style.ofRules f.kind ⟨f.exposed, pass.zoom, some true⟩ rules).value :=
        Style.ofRules_filtered hfiltered (by simp)
      _ = (Style.ofRules f.kind ⟨f.exposed, pass.zoom, filter⟩ rules).value :=
        RuleSpec.ofRules_filter hrules f.kind f.exposed pass.zoom _ filter
  uncovered f pass base h := by
    have hf : listed.contains f.id = false := by
      rw [Bool.eq_false_iff, ne_eq, List.contains_iff_mem, hlisted]
      exact fun hf => h (.inr hf)
    refine Feature.highlight_of_rejected (Rule.restricted_of_filtered hfiltered) ?_ base
    exact congrArg some hf

/-- The shader of a section shades what the section covers. -/
theorem goes_loadShader (hlisted : ∀ f, f ∈ listed ↔ f ∈ spec.features)
    (h : Goes s (spec.loadShader listed) shader t) :
    ∃ rules, List.Forall₂ RuleSpec.Gives spec.rules rules ∧ spec.Shades rules shader := by
  obtain ⟨plain, s', hplain, h⟩ := goes_bind.mp h
  have hrules := RuleSpec.goes_loadShader (goes_within.mp hplain)
  refine ⟨plain.rules, hrules, ?_⟩
  have hempty : listed.isEmpty = true ↔ spec.features = [] := by
    simp only [List.isEmpty_iff, List.eq_nil_iff_forall_not_mem, hlisted]
  by_cases hfeatures : spec.features = []
  · rw [if_pos (hempty.mpr hfeatures)] at h
    obtain ⟨rfl, -⟩ := goes_pure.mp h
    exact shades_of_rules hrules hfeatures
  · rw [if_neg fun h => hfeatures (hempty.mp h)] at h
    obtain ⟨filtered, s'', hfiltered, h⟩ := goes_bind.mp h
    obtain rfl := hfiltered.holds (ensures_recording s' _)
    obtain ⟨rfl, -⟩ := goes_pure.mp h
    exact shades_of_filtered hrules (Rule.mapM_filtered _ _) hfeatures hlisted

/-- Of the features of an index, the shader depends on which ones they are. -/
theorem loadShader_congr (hrules : spec'.rules = spec.rules) (h : ∀ f, f ∈ listed' ↔ f ∈ listed) :
    spec'.loadShader listed' = spec.loadShader listed := by
  have hcontains : ∀ f, listed'.contains f = listed.contains f := fun f => by
    rw [Bool.eq_iff_iff, List.contains_iff_mem, List.contains_iff_mem, h]
  have hempty : listed'.isEmpty = listed.isEmpty := by
    rw [Bool.eq_iff_iff]
    simp only [List.isEmpty_iff, List.eq_nil_iff_forall_not_mem, h]
  rw [loadShader, loadShader, hrules, hempty]
  simp only [hcontains]

/-! ### The highlight -/

/-- The highlight of a section with a shader. -/
def lit (spec : HighlightSpec) (shader : Shader) : Highlight :=
  if spec.wholeLayer then ⟨spec.entries, none, some shader⟩ else ⟨spec.entries, some shader, none⟩

theorem shaderFor_lit_of_reaches {id : String} (h : spec.Reaches id) (shader : Shader) :
    (spec.lit shader).shaderFor id = some shader := by
  rw [lit]
  cases hwhole : spec.wholeLayer with
  | true => rfl
  | false =>
    have hlists := any_entries.mpr (h.resolve_left (by simp [hwhole]))
    simp [Highlight.shaderFor, Highlight.lists, hlists]

theorem shaderFor_lit_of_not_reaches {id : String} (h : ¬ spec.Reaches id) (shader : Shader) :
    (spec.lit shader).shaderFor id = none := by
  have hwhole : spec.wholeLayer = false := by simpa using fun hwhole => h (.inl hwhole)
  have hlists : ¬ (spec.entries.any fun e => e.sublayer == id) = true := fun hlists =>
    h (.inr (any_entries.mp hlists))
  rw [lit, if_neg (by simp [hwhole])]
  simp [Highlight.shaderFor, Highlight.lists, hlists]

theorem goes_lit {highlight : Highlight} : Goes s (if spec.wholeLayer then
      return ⟨spec.entries, none, some shader⟩ else return ⟨spec.entries, some shader, none⟩)
        highlight t ↔ highlight = spec.lit shader ∧ t = s := by
  rw [lit]
  cases spec.wholeLayer with
  | true => exact goes_pure
  | false => exact goes_pure

/-- A section loads exactly if it lists features only together with sublayers, all sublayers that it
lists are there, and its shader loads. -/
theorem goes_load {sublayers : List Sublayer} {highlight : Highlight}
    (hids : ∀ u ∈ sublayers, u.id = escapeLayerName u.layerName) :
    Goes s (spec.load sublayers) highlight t ↔
      (spec.sublayers = [] → spec.features = []) ∧ spec.Known sublayers ∧
        ∃ shader, Goes s (spec.loadShader spec.listed) shader t ∧ highlight = spec.lit shader := by
  have hguard : (spec.sublayers.isEmpty && !spec.features.isEmpty) = true ↔
      ¬ (spec.sublayers = [] → spec.features = []) := by
    simp
  by_cases hnames : spec.sublayers = [] → spec.features = []
  · rw [load, if_neg fun h => hguard.mp h hnames]
    constructor
    · intro h
      obtain ⟨entries, s', hlift, hrest⟩ := goes_bind.mp h
      obtain ⟨hentries, rfl⟩ := goes_lift.mp hlift
      obtain ⟨hknown, rfl⟩ := (loadEntries_eq_ok_iff hids).mp hentries
      obtain ⟨shader, s'', hshader, hrest⟩ := goes_bind.mp hrest
      obtain ⟨rfl, rfl⟩ := goes_lit.mp hrest
      exact ⟨hnames, hknown, shader, hshader, rfl⟩
    · rintro ⟨-, hknown, shader, hshader, rfl⟩
      have hentries : spec.loadEntries sublayers spec.sublayers = .ok spec.entries :=
        (loadEntries_eq_ok_iff hids).mpr ⟨hknown, rfl⟩
      refine goes_bind.mpr ⟨spec.entries, s, goes_lift.mpr ⟨hentries, rfl⟩, ?_⟩
      exact goes_bind.mpr ⟨shader, t, hshader, goes_lit.mpr ⟨rfl, rfl⟩⟩
  · rw [load, if_pos (hguard.mpr hnames)]
    refine iff_of_false (fun h => ?_) fun h => hnames h.1
    obtain ⟨_, _, hthrow, -⟩ := goes_bind.mp h
    exact not_goes_throw hthrow

/-- A section that lists the same as one that loads does so as well, and its shader applies to the same
sublayers. -/
theorem Relists.goes_load {sublayers : List Sublayer} {highlight : Highlight}
    (hrelists : spec'.Relists spec)
    (hids : ∀ u ∈ sublayers, u.id = escapeLayerName u.layerName)
    (h : Goes s (spec.load sublayers) highlight t) :
    ∃ highlight', Goes s (spec'.load sublayers) highlight' t ∧
      ∀ id, highlight'.shaderFor id = highlight.shaderFor id := by
  obtain ⟨hnames, hknown, shader, hshader, rfl⟩ := (HighlightSpec.goes_load hids).mp h
  have hnames' : spec'.sublayers = [] → spec'.features = [] := by
    rwa [hrelists.sublayers_eq_nil, hrelists.features_eq_nil]
  have hlisted : ∀ f, f ∈ spec'.listed ↔ f ∈ spec.listed := fun f => by
    rw [mem_listed hnames', mem_listed hnames, hrelists.features]
  have hknown' : spec'.Known sublayers := fun name hname =>
    hknown name ((hrelists.sublayers name).mp hname)
  rw [← loadShader_congr hrelists.rules hlisted] at hshader
  refine ⟨spec'.lit shader, (HighlightSpec.goes_load hids).mpr
    ⟨hnames', hknown', shader, hshader, rfl⟩, fun id => ?_⟩
  by_cases hreaches : spec.Reaches id
  · rw [shaderFor_lit_of_reaches hreaches,
      shaderFor_lit_of_reaches ((hrelists.reaches_iff id).mpr hreaches)]
  · rw [shaderFor_lit_of_not_reaches hreaches,
      shaderFor_lit_of_not_reaches fun h => hreaches ((hrelists.reaches_iff id).mp h)]

end HighlightSpec

end Portrayal
