import Portrayal.Proofs.Insertion
import Portrayal.Proofs.Records
import Portrayal.Scene.Format

/-!
Members that a scene does not declare. A scene file is made of records inside of records: those of the
scene itself are strict, and those inside them that come from the map service are lenient.

    scene                         strict
      highlight, its rules        strict
      fill images                 strict
      sublayers, their options    strict
        rules                     strict
        service style, colors     lenient
        features, geometries      lenient
          label style, colors     lenient

Main statement: a scene with one more member that its record does not declare is no scene if that record
is strict, and the same scene if it is lenient, wherever the record is and whatever the member holds.
-/

namespace Portrayal

open Json

/-- The records of a scene file. -/
inductive Record where
  | scene
  | highlight
  | fillImage
  | sublayer
  | options
  | rule
  | feature
  | geometry
  | serviceStyle
  | labelStyle
  | serviceColor
  deriving DecidableEq

/-- What a field holds: no record, one, or a list of them. -/
inductive Holding where
  | scalar
  | one (R : Record)
  | many (R : Record)
  deriving DecidableEq

namespace Record

/-- What an attribute of a service style holds. -/
def holdingOf (a : ServiceAttribute) : Holding :=
  match a.info.kind with
  | .color => .one serviceColor
  | _ => .scalar

/-- The declared fields of a record, in order. -/
def fields : Record → List (String × Holding)
  | scene =>
    [("layerUrl", .scalar), ("zoom", .scalar), ("highlight", .one highlight),
      ("fillImages", .many fillImage), ("sublayers", .many sublayer)]
  | highlight =>
    [("sublayers", .scalar), ("rules", .many rule), ("wholeLayer", .scalar), ("features", .scalar)]
  | fillImage =>
    [("symbolId", .scalar), ("width", .scalar), ("height", .scalar), ("rgba", .scalar),
      ("crossOrigin", .scalar)]
  | sublayer =>
    [("name", .scalar), ("options", .one options), ("serverStyle", .one serviceStyle),
      ("rules", .many rule), ("perFeature", .scalar), ("features", .many feature)]
  | options => [("originIndex", .scalar), ("visible", .scalar), ("ugcLayerType", .scalar)]
  | rule =>
    [("property", .scalar), ("value", .scalar), ("attribute", .scalar), ("minZoom", .scalar),
      ("maxZoom", .scalar)]
  | feature => [("id", .scalar), ("geometry", .one geometry), ("attributes", .scalar)]
  | geometry =>
    [("type", .scalar), ("coordinates", .scalar), ("text", .scalar), ("textStyle", .one labelStyle)]
  | serviceStyle => ServiceAttribute.all.map fun a => (a.name, holdingOf a)
  | labelStyle =>
    [("bold", .scalar), ("italic", .scalar), ("fontHeight", .scalar), ("fontName", .scalar),
      ("align", .scalar), ("outline", .scalar), ("backColor", .one serviceColor),
      ("foreColor", .one serviceColor)]
  | serviceColor => [("red", .scalar), ("green", .scalar), ("blue", .scalar)]

/-- The names that a record declares. -/
def names (R : Record) : List String := R.fields.map Prod.fst

/-- Whether a record refuses members that it does not declare. -/
def strictness : Record → Strictness
  | scene | highlight | fillImage | sublayer | options | rule => .strict
  | feature | geometry | serviceStyle | labelStyle | serviceColor => .lenient

theorem nodup_names (R : Record) : R.names.Nodup := by
  cases R <;> decide

end Record

namespace Holding

/-- The way from a field into a record inside of it. A record is an object, which is entered by the names
of its fields, or an array, which is entered by their positions. -/
inductive Leads : Holding → List Step → Record → Prop where
  | here {R : Record} : Leads (.one R) [] R
  | member {R T : Record} {name : String} {h : Holding} {place : List Step}
      (hfield : (name, h) ∈ R.fields) (hrest : Leads h place T) :
      Leads (.one R) (.member (some name) :: place) T
  | position {R T : Record} {i : Nat} {name : String} {h : Holding} {place : List Step}
      (hfield : R.fields[i]? = some (name, h)) (hrest : Leads h place T) :
      Leads (.one R) (.item i :: place) T
  | item {R T : Record} {i : Nat} {place : List Step} (hrest : Leads (.one R) place T) :
      Leads (.many R) (.item i :: place) T

/-- One more member in a record inside of a field that does not declare it. -/
def change (h : Holding) : Change where
  Rel S v v' := ∃ place T name, h.Leads place T ∧ T.strictness = S ∧ name ∉ T.names ∧
    Grown name place v v'
  ne_null := by
    rintro S v v' ⟨place, T, name, -, -, -, hgrown⟩
    cases hgrown <;> exact ⟨Json.noConfusion, Json.noConfusion⟩

variable {α : Type} {read : Json → Option α} {R : Record}

theorem heeds_scalar : Heeds scalar.change read := by
  rintro S v v' ⟨place, T, name, hleads, -⟩
  cases hleads

theorem heeds_many (hread : Heeds (one R).change read) : Heeds (many R).change (list? read) := by
  rintro S v v' ⟨_, T, name, hleads, hS, hname, hgrown⟩
  cases hleads with
  | item hrest =>
    cases hgrown with
    | @item _ before after _ _ hgrown =>
      exact follows_each? (hread ⟨_, T, name, hrest, hS, hname, hgrown⟩) after before
    | unheld => exact nofun

/-- A reader of a record that asks for its fields in order, where each of them heeds the changes inside
of it, heeds the changes in the record. -/
theorem heeds_one {get : Fields → Option α}
    (hget : Gathers (R.fields.map fun f => (f.1, f.2.change)) get)
    (hread : ∀ v, read v = v.fields? R.strictness R.names >>= get) : Heeds (one R).change read := by
  have hnames : (R.fields.map fun f => (f.1, f.2.change)).map Prod.fst = R.names := by
    rw [List.map_map]
    rfl
  have hnodup := hnames ▸ R.nodup_names
  have hdeclared {name : String} {h : Holding} (hfield : (name, h) ∈ R.fields) :
      (name, h.change) ∈ R.fields.map fun f => (f.1, f.2.change) :=
    List.mem_map_of_mem (f := fun f : String × Holding => (f.1, f.2.change)) hfield
  rintro S v v' ⟨_, T, name, hleads, hS, hname, hgrown⟩
  rw [hread, hread]
  cases hleads with
  | here =>
    cases hgrown with
    | here => exact hS ▸ (follows_fields?_undeclared hname).bind get
    | unheld => exact nofun
  | @member _ _ key h place hfield hrest =>
    cases hgrown with
    | @member _ before after _ w w' hgrown =>
      have hkey : key ∈ R.names := List.mem_map_of_mem (f := Prod.fst) hfield
      intro a ha
      obtain ⟨fields, hfields, ha⟩ := Option.bind_eq_some_iff.mp ha
      obtain ⟨fields', hfields', hchanged⟩ := exists_changed_of_object hkey hfields w'
      rw [hfields']
      exact hget.follows hnodup (hdeclared hfield) ⟨place, T, name, hrest, hS, hname, hgrown⟩
        hchanged a ha
    | unheld => exact nofun
  | @position _ _ i key h place hfield hrest =>
    cases hgrown with
    | @item _ before after w w' hgrown =>
      have hkey : R.names[before.length]? = some key := by
        rw [Record.names, List.getElem?_map, hfield]
        rfl
      intro a ha
      obtain ⟨fields, hfields, ha⟩ := Option.bind_eq_some_iff.mp ha
      obtain ⟨fields', hfields', hchanged⟩ :=
        exists_changed_of_array R.nodup_names hkey hfields w'
      rw [hfields']
      exact hget.follows hnodup (hdeclared (List.mem_of_getElem? hfield))
        ⟨place, T, name, hrest, hS, hname, hgrown⟩ hchanged a ha
    | unheld => exact nofun

end Holding

open Holding

/-! ### The records of a scene, from the inside -/

theorem ServiceColor.heeds : Heeds (one .serviceColor).change ServiceColor.ofJson? :=
  heeds_one
    (.field (asks_required heeds_scalar) fun _ => .field (asks_required heeds_scalar) fun _ =>
      .field (asks_required heeds_scalar) fun _ => .done _)
    fun _ => rfl

theorem LabelStyle.heeds : Heeds (one .labelStyle).change LabelStyle.ofJson? :=
  heeds_one
    (.field (asks_orElse heeds_scalar _) fun _ => .field (asks_orElse heeds_scalar _) fun _ =>
      .field (asks_orElse heeds_scalar _) fun _ => .field (asks_orElse heeds_scalar _) fun _ =>
      .field (asks_orElse heeds_scalar _) fun _ => .field (asks_orElse heeds_scalar _) fun _ =>
      .field (asks_orElse ServiceColor.heeds _) fun _ =>
      .field (asks_orElse ServiceColor.heeds _) fun _ => .done _)
    fun _ => rfl

theorem Geometry.heeds : Heeds (one .geometry).change Geometry.ofJson? :=
  heeds_one
    (.field (asks_required heeds_scalar) fun _ => .field (asks_orElse heeds_scalar _) fun _ =>
      .field (asks_optional heeds_scalar) fun _ =>
      .field (asks_optional LabelStyle.heeds) fun _ => .done _)
    fun _ => rfl

theorem Feature.heeds : Heeds (one .feature).change Feature.ofJson? :=
  heeds_one
    (.field (asks_required heeds_scalar) fun _ => .field (asks_required Geometry.heeds) fun _ =>
      .field (asks_orElse heeds_scalar _) fun _ => .done _)
    fun _ => rfl

theorem ServiceStyle.heeds : Heeds (one .serviceStyle).change ServiceStyle.ofJson? :=
  heeds_one
    (.field (asks_optional heeds_scalar) fun _ => .field (asks_optional heeds_scalar) fun _ =>
      .field (asks_optional ServiceColor.heeds) fun _ =>
      .field (asks_optional heeds_scalar) fun _ => .field (asks_optional heeds_scalar) fun _ =>
      .field (asks_optional ServiceColor.heeds) fun _ =>
      .field (asks_optional ServiceColor.heeds) fun _ =>
      .field (asks_optional heeds_scalar) fun _ => .field (asks_optional heeds_scalar) fun _ =>
      .field (asks_optional heeds_scalar) fun _ =>
      .field (asks_optional ServiceColor.heeds) fun _ =>
      .field (asks_optional heeds_scalar) fun _ => .field (asks_optional heeds_scalar) fun _ =>
      .field (asks_optional heeds_scalar) fun _ => .field (asks_optional heeds_scalar) fun _ =>
      .field (asks_optional heeds_scalar) fun _ => .field (asks_optional heeds_scalar) fun _ =>
      .field (asks_optional heeds_scalar) fun _ => .done _)
    fun _ => rfl

theorem RuleSpec.heeds : Heeds (one .rule).change RuleSpec.ofJson? :=
  heeds_one
    (.field (asks_required heeds_scalar) fun _ => .field (asks_optional heeds_scalar) fun _ =>
      .field (asks_optional heeds_scalar) fun _ => .field (asks_optional heeds_scalar) fun _ =>
      .field (asks_optional heeds_scalar) fun _ => .done _)
    fun _ => rfl

theorem SublayerOptions.heeds : Heeds (one .options).change SublayerOptions.ofJson? :=
  heeds_one
    (.field (asks_optional heeds_scalar) fun _ => .field (asks_orElse heeds_scalar _) fun _ =>
      .field (asks_optional heeds_scalar) fun _ => .done _)
    fun _ => rfl

theorem SublayerSpec.heeds : Heeds (one .sublayer).change SublayerSpec.ofJson? :=
  heeds_one
    (.field (asks_required heeds_scalar) fun _ =>
      .field (asks_orElse SublayerOptions.heeds _) fun _ =>
      .field (asks_optional ServiceStyle.heeds) fun _ =>
      .field (asks_optional (heeds_many RuleSpec.heeds)) fun _ =>
      .field (asks_orElse heeds_scalar _) fun _ =>
      .field (asks_orElse (heeds_many Feature.heeds) _) fun _ => .done _)
    fun _ => rfl

theorem FillImageSpec.heeds : Heeds (one .fillImage).change FillImageSpec.ofJson? :=
  heeds_one
    (.field (asks_required heeds_scalar) fun _ => .field (asks_orElse heeds_scalar _) fun _ =>
      .field (asks_orElse heeds_scalar _) fun _ => .field (asks_required heeds_scalar) fun _ =>
      .field (asks_orElse heeds_scalar _) fun _ => .done _)
    fun _ => rfl

theorem HighlightSpec.heeds : Heeds (one .highlight).change HighlightSpec.ofJson? :=
  heeds_one
    (.field (asks_orElse heeds_scalar _) fun _ =>
      .field (asks_orElse (heeds_many RuleSpec.heeds) _) fun _ =>
      .field (asks_orElse heeds_scalar _) fun _ => .field (asks_orElse heeds_scalar _) fun _ =>
      .done _)
    fun _ => rfl

namespace Scene

theorem heeds : Heeds (one .scene).change ofJson? :=
  heeds_one
    (.field (asks_orElse heeds_scalar _) fun _ => .field (asks_orElse heeds_scalar _) fun _ =>
      .field (asks_optional HighlightSpec.heeds) fun _ =>
      .field (asks_orElse (heeds_many FillImageSpec.heeds) _) fun _ =>
      .field (asks_orElse (heeds_many SublayerSpec.heeds) _) fun _ => .done _)
    fun _ => rfl

/-- A member is put into the text of a scene, in a record that does not declare its name, at any depth
and with any value. Then the text is no scene any more if that record is the scene itself, the highlight,
a fill image, a sublayer, the options of one, or a rule; and it is the same scene if the record is a
feature, a geometry, a service style, a label style or a color of the service. -/
theorem read?_inserted {text text' : String} {scene : Scene} {place : List Step} {name : String}
    {R : Record} (hread : read? text = some scene) (hinserted : Inserted name place text text')
    (hplace : (Holding.one .scene).Leads place R) (hname : name ∉ R.names) :
    (R ∈ [.scene, .highlight, .fillImage, .sublayer, .options, .rule] → read? text' = none) ∧
      (R ∈ [.feature, .geometry, .serviceStyle, .labelStyle, .serviceColor] →
        read? text' = some scene) := by
  obtain ⟨doc, hdoc, hscene⟩ := Option.bind_eq_some_iff.mp hread
  obtain ⟨doc', hdoc', hgrown⟩ := hinserted.read? hdoc
  have hverdict : read? text' = R.strictness.verdict scene := by
    rw [read?, hdoc']
    exact heeds ⟨place, R, name, hplace, rfl, hname, hgrown⟩ scene hscene
  rw [hverdict]
  constructor
  · intro hR
    have hstrict : ∀ R ∈ [Record.scene, .highlight, .fillImage, .sublayer, .options, .rule],
      R.strictness = .strict := by decide
    rw [hstrict R hR]
    rfl
  · intro hR
    have hlenient : ∀ R ∈ [Record.feature, .geometry, .serviceStyle, .labelStyle, .serviceColor],
      R.strictness = .lenient := by decide
    rw [hlenient R hR]
    rfl

/-- The text of a scene with one sublayer, with what is written in front of the name of the sublayer, in
its service style, and behind the sublayers. -/
def lotsText (front style behind : String) : String :=
  "\x7b\"sublayers\":[\x7b" ++ front ++ "\"name\":\"lots\",\"serverStyle\":\x7b" ++ style ++
    "\x7d\x7d]" ++ behind ++ "\x7d"

/-- With a note in the sublayer or in the scene itself the text is no scene, and with one in the service
style it is the same scene. -/
theorem read?_inserted_lots : ∃ scene, read? (lotsText "" "" "") = some scene ∧
    read? (lotsText "\"note\":1," "" "") = none ∧
    read? (lotsText "" "\"note\":1" "") = some scene ∧
    read? (lotsText "" "" ",\"note\":1") = none := by
  have hread : read? (lotsText "" "" "") = some _ := rfl
  have hname : Token.Scans "\"note\"".toList [.string (some "note")] := rfl
  have hvalue : Json.read? "1" = some _ := rfl
  have hsublayer : (one .scene).Leads [.member (some "sublayers"), .item 0] .sublayer :=
    .member (h := .many .sublayer) (by decide) (.item .here)
  have hstyle : (one .scene).Leads
      [.member (some "sublayers"), .item 0, .member (some "serverStyle")] .serviceStyle :=
    .member (h := .many .sublayer) (by decide)
      (.item (.member (h := .one .serviceStyle) (by decide) .here))
  refine ⟨_, hread, ?_, ?_, ?_⟩
  · have hbefore : Token.Scans "\x7b\"sublayers\":[".toList _ := rfl
    have hafter : Token.Scans
      "\"name\":\"lots\",\"serverStyle\":\x7b\x7d\x7d]\x7d".toList _ := rfl
    have hinserted : Inserted "note" _ (lotsText "" "" "") (lotsText "\"note\":1," "" "") :=
      inserted_front (c := '\x7b') (m := ("\"note\"", "1")) hname hvalue rfl hbefore hafter rfl
        (.inr rfl)
    exact (read?_inserted hread hinserted hsublayer (by decide)).1 (by decide)
  · have hbefore : Token.Scans
      "\x7b\"sublayers\":[\x7b\"name\":\"lots\",\"serverStyle\":".toList _ := rfl
    have hafter : Token.Scans "\x7d]\x7d".toList _ := rfl
    have hinserted : Inserted "note" _ (lotsText "" "" "") (lotsText "" "\"note\":1" "") :=
      inserted_alone (m := ("\"note\"", "1")) hname hvalue hbefore hafter rfl
    exact (read?_inserted hread hinserted hstyle (by decide)).2 (by decide)
  · have hbefore : Token.Scans
      "\x7b\"sublayers\":[\x7b\"name\":\"lots\",\"serverStyle\":\x7b\x7d\x7d]".toList _ := rfl
    have hinserted : Inserted "note" _ (lotsText "" "" "") (lotsText "" "" ",\"note\":1") :=
      inserted_behind (c := '\x7d') (m := ("\"note\"", "1")) hname hvalue rfl hbefore .nil rfl
    exact (read?_inserted hread hinserted .here (by decide)).1 (by decide)

end Scene

end Portrayal
