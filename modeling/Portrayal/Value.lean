import Portrayal.Color
import Portrayal.Decimal.Reading

/-!
Style values: numbers, texts, colors, dash patterns and fill patterns. A value comes from a document
(a rule's constant or an attribute), prints as it appears in a font descriptor, and goes into
documents; text that denotes a float counts as a number where one is asked for.
-/

namespace Portrayal

/-- A repeating fill, made from a symbol bitmap. -/
structure Pattern where
  /-- The fill symbol it was made from. -/
  symbol : UInt8
  width : UInt32
  height : UInt32
  /-- The bytes of one tile, four to the pixel. -/
  rgba : List UInt8
  deriving DecidableEq, Repr

/-- A style value. -/
inductive Value where
  | number (x : Float)
  | text (s : String)
  | color (c : Color)
  | dash (parts : List Float)
  | pattern (p : Pattern)
  deriving BEq, Repr, Inhabited

namespace Value

/-- The number that a value is or that its text denotes. -/
def number? : Value → Option Float
  | number x => some x
  | text s => Decimal.readFloat? (Text.trim s)
  | _ => none

/-- The text of a text value. -/
def text? : Value → Option String
  | text s => some s
  | _ => none

/-- The value in a document: arrays of numbers are dash patterns, strings are colors if they denote
one; nothing else but numbers has a style value. -/
def ofJson? : Json → Option Value
  | .integer n => some (number (Float.ofInt n))
  | .float x => some (number x)
  | .text s => some ((Color.ofLiteral? s).elim (text s) color)
  | .array items => (Json.each? Json.float? items).map dash
  | _ => none

/-- The value as it appears in a font descriptor. -/
def shown : Value → String
  | number x => x.plainText
  | text s => s
  | color c => c.css
  | dash parts => String.intercalate "," (parts.map Float.plainText)
  | pattern p => "pattern(System " ++ toString p.symbol.toNat ++ ")"

/-- The value in a document; the bytes of a pattern are left out. -/
def toJson : Value → Json
  | number x => .float x
  | text s => .text s
  | color c => .text c.css
  | dash parts => .array (parts.map .float)
  | pattern p =>
    .object [("symbol_id", .integer p.symbol.toNat), ("width", .integer p.width.toNat),
      ("height", .integer p.height.toNat)]

end Value

end Portrayal
