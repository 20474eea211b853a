import Portrayal.Color
import Portrayal.Property
import Portrayal.Unit

/-!
Styles that the map service sends for points, lines and regions. Every attribute may be absent. The
attributes have an order, and each has a description: the canvas property that it drives, the kind
of its values, their unit, and the value that is assumed when it is absent.
-/

namespace Portrayal

/-- A style as the map service sends it; lengths are in millimetres. -/
structure ServiceStyle where
  fillBackOpaque : Option Bool := none
  lineWidth : Option Float := none
  fillBackColor : Option ServiceColor := none
  markerWidth : Option Float := none
  markerAngle : Option Float := none
  fillForeColor : Option ServiceColor := none
  foreColor : Option ServiceColor := none
  markerSize : Option Float := none
  fillGradientOffsetRatioX : Option Float := none
  fillGradientOffsetRatioY : Option Float := none
  lineColor : Option ServiceColor := none
  fillOpaqueRate : Option Float := none
  markerHeight : Option Float := none
  fillGradientMode : Option String := none
  fillSymbol : Option Int := none
  fillGradientAngle : Option Float := none
  markerSymbol : Option Int := none
  lineSymbol : Option Int := none
  deriving Repr, Inhabited

/-- An attribute of a service style. The order is that in which attributes are applied. -/
inductive ServiceAttribute where
  | fillBackOpaque
  | lineWidth
  | fillBackColor
  | markerWidth
  | markerAngle
  | fillForeColor
  | foreColor
  | markerSize
  | fillGradientOffsetRatioX
  | fillGradientOffsetRatioY
  | lineColor
  | fillOpaqueRate
  | markerHeight
  | fillGradientMode
  | fillSymbol
  | fillGradientAngle
  | markerSymbol
  | lineSymbol
  deriving DecidableEq, Repr

/-- The kinds of attribute values. -/
inductive ServiceValueKind where
  | number
  | color
  | keyword
  | flag
  deriving DecidableEq, Repr

/-- The value of an attribute. -/
inductive ServiceValue where
  | number (x : Float)
  | color (c : ServiceColor)
  | keyword (s : String)
  | flag (b : Bool)
  deriving BEq, Repr

/-- The kind of a value. -/
def ServiceValue.kind : ServiceValue → ServiceValueKind
  | number _ => .number
  | color _ => .color
  | keyword _ => .keyword
  | flag _ => .flag

/-- The description of an attribute. -/
structure AttributeInfo where
  /-- The canvas property that the attribute drives, if any. -/
  property : Option Property
  kind : ServiceValueKind
  unit : Option PhysicalUnit
  /-- The value assumed when the attribute is absent, if there is a sensible one. -/
  fallback : Option ServiceValue

namespace ServiceValueKind

/-- The written name of a kind of values. -/
def name : ServiceValueKind → String
  | number => "number"
  | color => "color"
  | keyword => "string"
  | flag => "boolean"

end ServiceValueKind

namespace ServiceAttribute

/-- All attributes in order. -/
def all : List ServiceAttribute :=
  [fillBackOpaque, lineWidth, fillBackColor, markerWidth, markerAngle, fillForeColor, foreColor,
   markerSize, fillGradientOffsetRatioX, fillGradientOffsetRatioY, lineColor, fillOpaqueRate,
   markerHeight, fillGradientMode, fillSymbol, fillGradientAngle, markerSymbol, lineSymbol]

/-- The written name of an attribute. -/
def name : ServiceAttribute → String
  | fillBackOpaque => "fillBackOpaque"
  | lineWidth => "lineWidth"
  | fillBackColor => "fillBackColor"
  | markerWidth => "markerWidth"
  | markerAngle => "markerAngle"
  | fillForeColor => "fillForeColor"
  | foreColor => "foreColor"
  | markerSize => "markerSize"
  | fillGradientOffsetRatioX => "fillGradientOffsetRatioX"
  | fillGradientOffsetRatioY => "fillGradientOffsetRatioY"
  | lineColor => "lineColor"
  | fillOpaqueRate => "fillOpaqueRate"
  | markerHeight => "markerHeight"
  | fillGradientMode => "fillGradientMode"
  | fillSymbol => "fillSymbolID"
  | fillGradientAngle => "fillGradientAngle"
  | markerSymbol => "markerSymbolID"
  | lineSymbol => "lineSymbolID"

/-- The description of an attribute. -/
def info : ServiceAttribute → AttributeInfo
  | fillBackOpaque => ⟨none, .flag, none, some (.flag true)⟩
  | lineWidth => ⟨some .lineWidth, .number, some .millimeter, some (.number 0.1)⟩
  | fillBackColor => ⟨none, .color, none, some (.color .black)⟩
  | markerWidth => ⟨none, .number, some .millimeter, none⟩
  | markerAngle => ⟨none, .number, some .degree, none⟩
  | fillForeColor => ⟨some .fillStyle, .color, none, some (.color .black)⟩
  | foreColor => ⟨some .fillStyle, .color, none, some (.color .black)⟩
  | markerSize => ⟨some .markerSize, .number, some .millimeter, some (.number 2.4)⟩
  | fillGradientOffsetRatioX => ⟨none, .number, none, some (.number 0)⟩
  | fillGradientOffsetRatioY => ⟨none, .number, none, some (.number 0)⟩
  | lineColor => ⟨some .strokeStyle, .color, none, some (.color .black)⟩
  | fillOpaqueRate => ⟨none, .number, none, some (.number 100)⟩
  | markerHeight => ⟨none, .number, some .millimeter, some (.number 0)⟩
  | fillGradientMode => ⟨none, .keyword, none, some (.keyword "NONE")⟩
  | fillSymbol => ⟨none, .number, none, some (.number 0)⟩
  | fillGradientAngle => ⟨none, .number, some .degree, some (.number 0)⟩
  | markerSymbol => ⟨none, .number, none, some (.number 0)⟩
  | lineSymbol => ⟨none, .number, none, some (.number 0)⟩

end ServiceAttribute

namespace ServiceStyle

/-- The value of an attribute, if it is present; symbol identities count as numbers. -/
def value? (s : ServiceStyle) : ServiceAttribute → Option ServiceValue
  | .fillBackOpaque => s.fillBackOpaque.map .flag
  | .lineWidth => s.lineWidth.map .number
  | .fillBackColor => s.fillBackColor.map .color
  | .markerWidth => s.markerWidth.map .number
  | .markerAngle => s.markerAngle.map .number
  | .fillForeColor => s.fillForeColor.map .color
  | .foreColor => s.foreColor.map .color
  | .markerSize => s.markerSize.map .number
  | .fillGradientOffsetRatioX => s.fillGradientOffsetRatioX.map .number
  | .fillGradientOffsetRatioY => s.fillGradientOffsetRatioY.map .number
  | .lineColor => s.lineColor.map .color
  | .fillOpaqueRate => s.fillOpaqueRate.map .number
  | .markerHeight => s.markerHeight.map .number
  | .fillGradientMode => s.fillGradientMode.map .keyword
  | .fillSymbol => s.fillSymbol.map fun n => .number (Float.ofInt n)
  | .fillGradientAngle => s.fillGradientAngle.map .number
  | .markerSymbol => s.markerSymbol.map fun n => .number (Float.ofInt n)
  | .lineSymbol => s.lineSymbol.map fun n => .number (Float.ofInt n)

/-- The value of an attribute is of the kind that its description says. -/
theorem kind_value? (s : ServiceStyle) (a : ServiceAttribute) :
    ∀ v ∈ s.value? a, v.kind = a.info.kind := by
  intro v hv
  cases a
  all_goals
    obtain ⟨x, -, rfl⟩ := Option.map_eq_some_iff.mp hv
    rfl

/-- The attributes that are present, with their values, in order. -/
def values (s : ServiceStyle) : List (ServiceAttribute × ServiceValue) :=
  ServiceAttribute.all.filterMap fun a => (s.value? a).map fun v => (a, v)

/-- The number assumed for an absent attribute. -/
def fallbackNumber (a : ServiceAttribute) : Option Float :=
  match a.info.fallback with
  | some (.number x) => some x
  | _ => none

/-- The color assumed for an absent attribute. -/
def fallbackColor (a : ServiceAttribute) : Option ServiceColor :=
  match a.info.fallback with
  | some (.color c) => some c
  | _ => none

/-- The style with its absent attributes filled in. The legacy fore color stays absent, and so do the
attributes that have no value to assume. -/
def withDefaults (s : ServiceStyle) : ServiceStyle :=
  { s with
    fillBackOpaque := s.fillBackOpaque <|> some true
    lineWidth := s.lineWidth <|> fallbackNumber .lineWidth
    fillBackColor := s.fillBackColor <|> fallbackColor .fillBackColor
    fillForeColor := s.fillForeColor <|> fallbackColor .fillForeColor
    markerSize := s.markerSize <|> fallbackNumber .markerSize
    fillGradientOffsetRatioX :=
      s.fillGradientOffsetRatioX <|> fallbackNumber .fillGradientOffsetRatioX
    fillGradientOffsetRatioY :=
      s.fillGradientOffsetRatioY <|> fallbackNumber .fillGradientOffsetRatioY
    lineColor := s.lineColor <|> fallbackColor .lineColor
    fillOpaqueRate := s.fillOpaqueRate <|> fallbackNumber .fillOpaqueRate
    markerHeight := s.markerHeight <|> fallbackNumber .markerHeight
    fillGradientMode := s.fillGradientMode <|> some "NONE"
    fillSymbol := s.fillSymbol <|> some 0
    fillGradientAngle := s.fillGradientAngle <|> fallbackNumber .fillGradientAngle
    markerSymbol := s.markerSymbol <|> some 0
    lineSymbol := s.lineSymbol <|> some 0 }

/-- The fields of the record in its order, each under the name that it has in documents; symbol
identities stay whole numbers. -/
def fields (s : ServiceStyle) : List (String × Option Json) :=
  [("fillBackOpaque", s.fillBackOpaque.map .bool),
    ("lineWidth", s.lineWidth.map .float),
    ("fillBackColor", s.fillBackColor.map ServiceColor.toJson),
    ("markerWidth", s.markerWidth.map .float),
    ("markerAngle", s.markerAngle.map .float),
    ("fillForeColor", s.fillForeColor.map ServiceColor.toJson),
    ("foreColor", s.foreColor.map ServiceColor.toJson),
    ("markerSize", s.markerSize.map .float),
    ("fillGradientOffsetRatioX", s.fillGradientOffsetRatioX.map .float),
    ("fillGradientOffsetRatioY", s.fillGradientOffsetRatioY.map .float),
    ("lineColor", s.lineColor.map ServiceColor.toJson),
    ("fillOpaqueRate", s.fillOpaqueRate.map .float),
    ("markerHeight", s.markerHeight.map .float),
    ("fillGradientMode", s.fillGradientMode.map .text),
    ("fillSymbolID", s.fillSymbol.map .integer),
    ("fillGradientAngle", s.fillGradientAngle.map .float),
    ("markerSymbolID", s.markerSymbol.map .integer),
    ("lineSymbolID", s.lineSymbol.map .integer)]

/-- The fields that are present. -/
def members (s : ServiceStyle) : List (String × Json) :=
  s.fields.filterMap fun f => f.2.map fun v => (f.1, v)

/-- The names of the fields in documents. -/
def fieldNames : List String := (fields {}).map Prod.fst

/-- The style in a document: the fields that are present, in order. -/
def toJson (s : ServiceStyle) : Json := .object s.members

/-- The style that a document holds. -/
def ofJson? (json : Json) : Option ServiceStyle := do
  let fields ← json.fields? .lenient fieldNames
  let flag (name : String) := fields.optional? name Json.bool?
  let number (name : String) := fields.optional? name Json.float?
  let color (name : String) := fields.optional? name ServiceColor.ofJson?
  let symbol (name : String) := fields.optional? name Json.int64?
  some
    { fillBackOpaque := ← flag "fillBackOpaque"
      lineWidth := ← number "lineWidth"
      fillBackColor := ← color "fillBackColor"
      markerWidth := ← number "markerWidth"
      markerAngle := ← number "markerAngle"
      fillForeColor := ← color "fillForeColor"
      foreColor := ← color "foreColor"
      markerSize := ← number "markerSize"
      fillGradientOffsetRatioX := ← number "fillGradientOffsetRatioX"
      fillGradientOffsetRatioY := ← number "fillGradientOffsetRatioY"
      lineColor := ← color "lineColor"
      fillOpaqueRate := ← number "fillOpaqueRate"
      markerHeight := ← number "markerHeight"
      fillGradientMode := ← fields.optional? "fillGradientMode" Json.text?
      fillSymbol := ← symbol "fillSymbolID"
      fillGradientAngle := ← number "fillGradientAngle"
      markerSymbol := ← symbol "markerSymbolID"
      lineSymbol := ← symbol "lineSymbolID" }

end ServiceStyle

/-- The identity of a built-in symbol: identities above `max` or below zero count as the plain one,
and so does an absent one. -/
def clampSymbol (raw : Option Int) (max : UInt8) : UInt8 :=
  match raw with
  | some n => if 0 ≤ n ∧ n ≤ max.toNat then UInt8.ofNat n.toNat else 0
  | none => 0

end Portrayal
