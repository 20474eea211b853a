import Mathlib.Data.List.Nodup
import Mathlib.Data.List.Perm.Basic
import Portrayal.Proofs.Members
import Portrayal.ServiceStyle

/-!
Documents of service styles. A style is written as an object with a member for each attribute that is
present, and read by name, so neither the order of the members nor names that are no attributes matter:

    style                         attributes in order              members of the text
    lineWidth  0.1                fillBackOpaque   –
    foreColor  (255, 0, 128)      lineWidth        present         "lineWidth":0.1
                                  …                                "foreColor":{"red":255,…}

Main statement: the text of a style is an object with the names of the attributes that are present, in
their order; the style is read back from it, and also from its members in any order and among others.
-/

namespace Portrayal

namespace Json

/-! ### Records by name -/

section Records

variable {name : String} {v : Json} {members known other : List (String × Json)}

theorem lookup_eq_some_iff_mem (h : (members.map Prod.fst).Nodup) :
    members.lookup name = some v ↔ (name, v) ∈ members := by
  rw [List.lookup_eq_some_iff]
  constructor
  · rintro ⟨before, after, rfl, -⟩
    exact List.mem_append_right _ List.mem_cons_self
  · intro hmem
    obtain ⟨before, after, rfl⟩ := List.append_of_mem hmem
    refine ⟨before, after, rfl, fun m hm => ?_⟩
    rw [List.map_append, List.map_cons, List.nodup_append] at h
    exact bne_iff_ne.mpr
      (h.2.2 m.1 (List.mem_map_of_mem hm) name List.mem_cons_self).symm

/-- A name that occurs once occurs in one member. -/
theorem length_filter_name_le (h : (members.map Prod.fst).Nodup) (name : String) :
    (members.filter fun m => m.1 == name).length ≤ 1 := by
  have hcount := List.nodup_iff_count_le_one.mp h name
  rw [List.count, List.countP_map, List.countP_eq_length_filter] at hcount
  exact hcount

/-- A lenient record takes from an object the members with declared names, in any order and among
members with other names. -/
theorem fields?_of_perm {names : List String} (hperm : members.Perm (known ++ other))
    (hknown : ∀ m ∈ known, m.1 ∈ names) (hother : ∀ m ∈ other, m.1 ∉ names)
    (hnodup : (known.map Prod.fst).Nodup) :
    ∃ fields : Fields, (object members).fields? .lenient names = some fields ∧
      ∀ name v, fields.get? name = some v ↔ (name, v) ∈ known := by
  have hfilter : (members.filter fun m => names.contains m.1).Perm known := by
    refine (hperm.filter _).trans (List.Perm.of_eq ?_)
    rw [List.filter_append, List.filter_eq_self.mpr fun m hm => ?_,
      List.filter_eq_nil_iff.mpr fun m hm => ?_, List.append_nil]
    · rw [List.contains_iff_mem]
      exact hother m hm
    · exact List.contains_iff_mem.mpr (hknown m hm)
  have hkeys := (hfilter.map Prod.fst).nodup_iff.mpr hnodup
  refine ⟨⟨members.filter fun m => names.contains m.1⟩, ?_, fun name v => ?_⟩
  · have honce : (names.all fun name => ((members.filter fun m => names.contains m.1).filter
        fun m => m.1 == name).length ≤ 1) = true :=
      List.all_eq_true.mpr fun name _ => decide_eq_true (length_filter_name_le hkeys name)
    rw [fields?]
    simp only [honce, beq_self_eq_true, Bool.true_or, Bool.and_self, if_true]
  · exact (lookup_eq_some_iff_mem hkeys).trans hfilter.mem_iff

/-- An optional field is read back from what it is written as. -/
theorem Fields.optional?_of_get? {α : Type} {fields : Fields} {write : α → Json}
    {read : Json → Option α} {o : Option α} (hget : fields.get? name = o.map write)
    (hnull : read .null = none) (hread : ∀ x ∈ o, read (write x) = some x) :
    fields.optional? name read = some o := by
  rw [optional?, hget]
  cases o with
  | none => rfl
  | some x =>
    have hx := hread x rfl
    rw [Option.map_some]
    split
    · rename_i habsent
      exact nomatch habsent
    · rename_i hwrite
      rw [Option.some.inj hwrite, hnull] at hx
      exact nomatch hx
    · rename_i hwrite
      rw [← Option.some.inj hwrite, hx, Option.map_some]

end Records

end Json

/-! ### Colors -/

namespace ServiceColor

theorem uint8?_channel (n : UInt8) : Json.uint8? (.integer n.toNat) = some n := by
  have hn : n.toNat < 256 := n.toNat_lt
  rw [Json.uint8?, Json.integerIn?, if_pos (by omega), Option.map_some, Int.toNat_natCast,
    UInt8.ofNat_toNat]

theorem ofJson?_toJson (c : ServiceColor) : ofJson? c.toJson = some c := by
  have hfields : c.toJson.fields? .lenient ["red", "green", "blue"] =
    some ⟨[("red", .integer c.red.toNat), ("green", .integer c.green.toNat),
      ("blue", .integer c.blue.toNat)]⟩ := rfl
  rw [ofJson?, hfields]
  show (do some (ServiceColor.mk (← Json.uint8? (.integer c.red.toNat))
    (← Json.uint8? (.integer c.green.toNat)) (← Json.uint8? (.integer c.blue.toNat)))) = some c
  rw [uint8?_channel, uint8?_channel, uint8?_channel]
  rfl

theorem denotes_compact (c : ServiceColor) {depth : Nat} (hdepth : depth < Json.maxDepth) :
    Json.Denotes c.toJson.compact depth (· = c.toJson) := by
  have hchannel (n : UInt8) :
      Json.Denotes (Json.integer n.toNat).compact (depth + 1) (· = .integer n.toNat) := by
    have hn : n.toNat < 256 := n.toNat_lt
    exact Json.denotes_literal (Json.Token.scans_integer (by omega) (by omega)) _
  refine Json.denotes_object hdepth fun m hm => ?_
  simp only [List.mem_cons, List.not_mem_nil, or_false] at hm
  rcases hm with rfl | rfl | rfl
  · exact hchannel c.red
  · exact hchannel c.green
  · exact hchannel c.blue

end ServiceColor

/-! ### Attributes -/

namespace ServiceAttribute

theorem mem_all (a : ServiceAttribute) : a ∈ all := by
  cases a <;> decide

theorem nodup_names : (all.map name).Nodup := by decide

theorem name_inj {a b : ServiceAttribute} : a.name = b.name ↔ a = b :=
  ⟨fun h => List.inj_on_of_nodup_map nodup_names (mem_all a) (mem_all b) h, congrArg name⟩

end ServiceAttribute

namespace ServiceStyle

open ServiceAttribute (all name)

variable {s : ServiceStyle} {a : ServiceAttribute} {v : Json}

/-- The document of an attribute, if it is present; symbol identities stay whole numbers. -/
def member? (s : ServiceStyle) : ServiceAttribute → Option Json
  | .fillBackOpaque => s.fillBackOpaque.map .bool
  | .lineWidth => s.lineWidth.map .float
  | .fillBackColor => s.fillBackColor.map ServiceColor.toJson
  | .markerWidth => s.markerWidth.map .float
  | .markerAngle => s.markerAngle.map .float
  | .fillForeColor => s.fillForeColor.map ServiceColor.toJson
  | .foreColor => s.foreColor.map ServiceColor.toJson
  | .markerSize => s.markerSize.map .float
  | .fillGradientOffsetRatioX => s.fillGradientOffsetRatioX.map .float
  | .fillGradientOffsetRatioY => s.fillGradientOffsetRatioY.map .float
  | .lineColor => s.lineColor.map ServiceColor.toJson
  | .fillOpaqueRate => s.fillOpaqueRate.map .float
  | .markerHeight => s.markerHeight.map .float
  | .fillGradientMode => s.fillGradientMode.map .text
  | .fillSymbol => s.fillSymbol.map .integer
  | .fillGradientAngle => s.fillGradientAngle.map .float
  | .markerSymbol => s.markerSymbol.map .integer
  | .lineSymbol => s.lineSymbol.map .integer

/-- The fields are the attributes, in the same order and under the same names. -/
theorem fields_eq (s : ServiceStyle) : s.fields = all.map fun a => (a.name, s.member? a) := rfl

theorem members_eq (s : ServiceStyle) :
    s.members = all.filterMap fun a => (s.member? a).map fun v => (a.name, v) := by
  rw [members, fields_eq, List.filterMap_map]
  rfl

theorem fieldNames_eq : fieldNames = all.map name := rfl

theorem isSome_member? (s : ServiceStyle) (a : ServiceAttribute) :
    (s.member? a).isSome = (s.value? a).isSome := by
  cases a <;> simp only [member?, value?, Option.isSome_map]

/-- The members are named for the attributes that are present, in order. -/
theorem names_members (s : ServiceStyle) :
    s.members.map Prod.fst = (all.filter fun a => (s.value? a).isSome).map name := by
  rw [members_eq]
  generalize all = attributes
  induction attributes with
  | nil => rfl
  | cons a rest ih =>
    have ha := s.isSome_member? a
    rw [List.filterMap_cons, List.filter_cons]
    cases hmember : s.member? a with
    | none =>
      rw [hmember] at ha
      rw [← ha]
      exact ih
    | some v =>
      rw [hmember] at ha
      rw [← ha]
      exact congrArg (a.name :: ·) ih

theorem mem_members_iff : (a.name, v) ∈ s.members ↔ s.member? a = some v := by
  rw [members_eq, List.mem_filterMap]
  constructor
  · rintro ⟨b, -, hb⟩
    obtain ⟨w, hw, heq⟩ := Option.map_eq_some_iff.mp hb
    obtain ⟨hname, rfl⟩ := Prod.mk.inj heq
    rwa [← ServiceAttribute.name_inj.mp hname]
  · intro ha
    exact ⟨a, ServiceAttribute.mem_all a, by rw [ha, Option.map_some]⟩

theorem nodup_names_members (s : ServiceStyle) : (s.members.map Prod.fst).Nodup := by
  rw [names_members]
  exact ServiceAttribute.nodup_names.sublist ((List.filter_sublist).map name)

theorem name_mem_of_mem_members {m : String × Json} (h : m ∈ s.members) : m.1 ∈ all.map name := by
  have hname : m.1 ∈ s.members.map Prod.fst := List.mem_map_of_mem h
  rw [names_members] at hname
  exact (List.filter_sublist.map name).subset hname

/-! ### Reading a style -/

/-- A style whose numbers are read back from their texts, and whose symbols are 64-bit numbers. What is
not finite is written as `null`, which is no number. -/
structure Legible (s : ServiceStyle) : Prop where
  numbers : ∀ a x, s.member? a = some (.float x) →
    Json.read? (Json.float x).compact = some (.float x)
  symbols : ∀ a n, s.member? a = some (.integer n) →
    -0x8000000000000000 ≤ n ∧ n ≤ 0x7fffffffffffffff

theorem exists_of_fields {i : Nat} {key : String} {o : Option Json}
    (h : s.fields[i]? = some (key, o)) : ∃ a : ServiceAttribute, a.name = key ∧ s.member? a = o := by
  rw [fields_eq, List.getElem?_map] at h
  obtain ⟨a, -, ha⟩ := Option.map_eq_some_iff.mp h
  exact ⟨a, Prod.mk.inj ha⟩

theorem Legible.int64? (h : s.Legible) {i : Nat} {key : String} {o : Option Int}
    (hfield : s.fields[i]? = some (key, o.map .integer)) :
    ∀ n ∈ o, Json.int64? (.integer n) = some n := by
  obtain ⟨a, -, ha⟩ := exists_of_fields hfield
  rintro n rfl
  exact if_pos (h.symbols a n ha)

/-- A style is read from its members in any order, and among others with names that are no
attributes. -/
theorem Legible.ofJson?_of_perm (h : s.Legible) {members other : List (String × Json)}
    (hperm : members.Perm (s.members ++ other)) (hother : ∀ m ∈ other, m.1 ∉ all.map name) :
    ofJson? (.object members) = some s := by
  obtain ⟨fields, hfields, hgiven⟩ := Json.fields?_of_perm hperm
    (fun m hm => name_mem_of_mem_members hm) hother s.nodup_names_members
  rw [← fieldNames_eq] at hfields
  have hget {i : Nat} {key : String} {o : Option Json} (hfield : s.fields[i]? = some (key, o)) :
      fields.get? key = o := by
    obtain ⟨a, rfl, rfl⟩ := exists_of_fields hfield
    exact Option.ext fun v => (hgiven a.name v).trans mem_members_iff
  have hflag (i : Nat) {key : String} {o : Option Bool}
      (hfield : s.fields[i]? = some (key, o.map .bool)) :
      fields.optional? key Json.bool? = some o :=
    Json.Fields.optional?_of_get? (hget hfield) rfl fun _ _ => rfl
  have hnumber (i : Nat) {key : String} {o : Option Float}
      (hfield : s.fields[i]? = some (key, o.map .float)) :
      fields.optional? key Json.float? = some o :=
    Json.Fields.optional?_of_get? (hget hfield) rfl fun _ _ => rfl
  have hcolor (i : Nat) {key : String} {o : Option ServiceColor}
      (hfield : s.fields[i]? = some (key, o.map ServiceColor.toJson)) :
      fields.optional? key ServiceColor.ofJson? = some o :=
    Json.Fields.optional?_of_get? (hget hfield) rfl fun c _ => c.ofJson?_toJson
  have hkeyword (i : Nat) {key : String} {o : Option String}
      (hfield : s.fields[i]? = some (key, o.map .text)) :
      fields.optional? key Json.text? = some o :=
    Json.Fields.optional?_of_get? (hget hfield) rfl fun _ _ => rfl
  have hsymbol (i : Nat) {key : String} {o : Option Int}
      (hfield : s.fields[i]? = some (key, o.map .integer)) :
      fields.optional? key Json.int64? = some o :=
    Json.Fields.optional?_of_get? (hget hfield) rfl (h.int64? hfield)
  rw [ofJson?, hfields, Option.bind_eq_bind, Option.bind_some]
  dsimp only
  -- each field is read from the member with its name, in the order of the record
  rw [hflag 0 rfl, hnumber 1 rfl, hcolor 2 rfl, hnumber 3 rfl, hnumber 4 rfl, hcolor 5 rfl,
    hcolor 6 rfl, hnumber 7 rfl, hnumber 8 rfl, hnumber 9 rfl, hcolor 10 rfl, hnumber 11 rfl,
    hnumber 12 rfl, hkeyword 13 rfl, hsymbol 14 rfl, hnumber 15 rfl, hsymbol 16 rfl, hsymbol 17 rfl]
  rfl

/-! ### Texts of a style -/

/-- The kinds of documents of attributes. -/
theorem member?_cases (h : s.member? a = some v) :
    (∃ b, v = .bool b) ∨ (∃ x, v = .float x) ∨ (∃ c : ServiceColor, v = c.toJson) ∨
      (∃ k, v = .text k) ∨ ∃ n, v = .integer n := by
  cases a
  all_goals
    obtain ⟨x, -, rfl⟩ := Option.map_eq_some_iff.mp h
    simp

/-- The written form of an attribute is a value that is the document of the attribute. -/
theorem Legible.denotes_member (h : s.Legible) (ha : s.member? a = some v) {depth : Nat}
    (hdepth : depth < Json.maxDepth) : Json.Denotes v.compact depth (· = v) := by
  rcases member?_cases ha with ⟨b, rfl⟩ | ⟨x, rfl⟩ | ⟨c, rfl⟩ | ⟨k, rfl⟩ | ⟨n, rfl⟩
  · exact Json.denotes_literal (Json.Token.scans_bool b) depth
  · exact (Json.denotes_of_read? (h.numbers a x ha) depth).mono fun w hw =>
      Json.eq_of_bare hw fun hfloat => nomatch hfloat
  · exact c.denotes_compact hdepth
  · exact Json.denotes_string (Json.Token.scans_quoted k) depth
  · obtain ⟨hleast, hgreatest⟩ := h.symbols a n ha
    exact Json.denotes_literal (Json.Token.scans_integer hleast hgreatest) depth

theorem Legible.denotes_members (h : s.Legible) {depth : Nat} (hdepth : depth < Json.maxDepth) :
    ∀ m ∈ s.members, Json.Denotes m.2.compact depth (· = m.2) := by
  intro m hm
  rw [members_eq, List.mem_filterMap] at hm
  obtain ⟨a, -, ha⟩ := hm
  obtain ⟨v, hv, rfl⟩ := Option.map_eq_some_iff.mp ha
  exact h.denotes_member hv hdepth

/-- A style is read from the texts of its members in any order and among foreign ones. -/
theorem Legible.ofJson?_of_texts (h : s.Legible) {texts others : List (String × String)}
    (hothers : ∀ m ∈ others, Json.Foreign (all.map name) m)
    (hperm : texts.Perm (s.members.map Json.memberTexts ++ others)) :
    (Json.read? (Json.objectText texts)).bind ofJson? = some s := by
  obtain ⟨members, other, hread, hmembers, hother⟩ :=
    Json.read?_of_texts (h.denotes_members (by decide)) hothers hperm
  rw [hread]
  exact h.ofJson?_of_perm hmembers hother

/-- The text of a style is an object with a member for each attribute that is present, named for it, in
the order of the attributes. The style is read back from its text, and from any text with the same members
in another order and with members that no style declares. -/
theorem text_reads_back (s : ServiceStyle) (h : s.Legible) :
    s.toJson.compact = Json.objectText (s.members.map Json.memberTexts) ∧
      Json.read? s.toJson.compact = some (.object s.members) ∧
      s.members.map Prod.fst = (all.filter fun a => (s.value? a).isSome).map name ∧
      (Json.read? s.toJson.compact).bind ofJson? = some s ∧
      ∀ texts others : List (String × String),
        (∀ m ∈ others, Json.Foreign (all.map name) m) →
          texts.Perm (s.members.map Json.memberTexts ++ others) →
            (Json.read? (Json.objectText texts)).bind ofJson? = some s := by
  have htext : s.toJson.compact = Json.objectText (s.members.map Json.memberTexts) := by
    rw [toJson, Json.compact_object]
  have hdenotes : Json.Denotes (Json.object s.members).compact 0 (· = .object s.members) :=
    Json.denotes_object (by decide) (h.denotes_members (by decide))
  obtain ⟨_, hread, rfl⟩ := hdenotes.exists_read?
  refine ⟨htext, hread, s.names_members, ?_, fun _ _ => h.ofJson?_of_texts⟩
  rw [htext]
  exact h.ofJson?_of_texts (fun m hm => absurd hm List.not_mem_nil)
    (.of_eq (List.append_nil _).symm)

/-- A style with an attribute of every kind but a flag; its keyword takes escapes. -/
def plaque : ServiceStyle where
  lineWidth := some 0.1
  foreColor := some ⟨255, 0, 128⟩
  fillGradientMode := some "a\"\u0001é"
  lineSymbol := some (-3)

theorem legible_plaque : plaque.Legible where
  numbers a x h := by
    cases a <;> simp [member?, plaque, ServiceColor.toJson] at h
    obtain rfl := h
    rfl
  symbols a n h := by
    cases a <;> simp [member?, plaque, ServiceColor.toJson] at h
    obtain rfl := h
    decide

theorem memberTexts_plaque : plaque.members.map Json.memberTexts =
    [("\"lineWidth\"", "0.1"), ("\"foreColor\"", "\x7b\"red\":255,\"green\":0,\"blue\":128\x7d"),
      ("\"fillGradientMode\"", "\"a\\\"\\u0001é\""), ("\"lineSymbolID\"", "-3")] := by
  decide +kernel

/-- The plaque is read back from its text, and also when its width stands last, behind a note that holds a
number beyond all floats. -/
theorem text_reads_back_plaque :
    plaque.Legible ∧ (Json.read? plaque.toJson.compact).bind ofJson? = some plaque ∧
      (Json.read? (Json.objectText
        [("\"foreColor\"", "\x7b\"red\":255,\"green\":0,\"blue\":128\x7d"),
          ("\"fillGradientMode\"", "\"a\\\"\\u0001é\""), ("\"lineSymbolID\"", "-3"),
          (" \"n\\u006fte\"", "[1e999, null]"), ("\"lineWidth\"", "0.1")])).bind ofJson? =
        some plaque := by
  obtain ⟨-, -, -, hread, harranged⟩ := text_reads_back plaque legible_plaque
  refine ⟨legible_plaque, hread, harranged _ [(" \"n\\u006fte\"", "[1e999, null]")] ?_ ?_⟩
  · intro m hm
    obtain rfl := List.mem_singleton.mp hm
    exact ⟨"note", rfl, by decide, rfl⟩
  · rw [memberTexts_plaque]
    decide

end ServiceStyle

end Portrayal
