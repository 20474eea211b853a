import Portrayal.Decimal.Layout
import Portrayal.Json.Fields
import Portrayal.Text.Blank
import Portrayal.Text.Hexadecimal

/-!
Colors. A canvas color has an alpha channel and is shown as `rgba(r,g,b,a)` with alpha as a fraction
of three places; it is read from hexadecimal digits or from a name. A service color has no alpha.
-/

namespace Portrayal

/-- A canvas color. -/
structure Color where
  r : UInt8
  g : UInt8
  b : UInt8
  a : UInt8
  deriving DecidableEq, Repr, Inhabited

namespace Color

/-- An opaque color. -/
def rgb (r g b : UInt8) : Color := ⟨r, g, b, 255⟩

/-- Opaque black. -/
def black : Color := rgb 0 0 0

/-- Opaque white. -/
def white : Color := rgb 255 255 255

/-- Black with no opacity. -/
def transparent : Color := ⟨0, 0, 0, 0⟩

/-- The channel that two characters denote: two hexadecimal digits, or a plus sign and one. -/
def channel? (high low : Char) : Option UInt8 := do
  let l ← Text.hexValue? low
  if high = '+' then some (UInt8.ofNat l)
  else
    let h ← Text.hexValue? high
    some (UInt8.ofNat (16 * h + l))

/-- The color that 3, 4, 6 or 8 characters denote; the short forms write each digit once. -/
def ofDigits? : List Char → Option Color
  | [r, g, b] => do some (rgb (← channel? r r) (← channel? g g) (← channel? b b))
  | [r, g, b, a] => do
    some ⟨← channel? r r, ← channel? g g, ← channel? b b, ← channel? a a⟩
  | [r, r', g, g', b, b'] => do some (rgb (← channel? r r') (← channel? g g') (← channel? b b'))
  | [r, r', g, g', b, b', a, a'] => do
    some ⟨← channel? r r', ← channel? g g', ← channel? b b', ← channel? a a'⟩
  | _ => none

/-- The color of a hexadecimal form, with or without a `#` in front. -/
def ofHex? (s : String) : Option Color :=
  match s.toList with
  | '#' :: digits => ofDigits? digits
  | digits => ofDigits? digits

/-- The colors that have a name. -/
def named : List (String × Color) :=
  [("white", white), ("black", black), ("red", rgb 255 0 0), ("green", rgb 0 128 0),
   ("blue", rgb 0 0 255), ("yellow", rgb 255 255 0), ("gray", rgb 128 128 128),
   ("grey", rgb 128 128 128), ("aqua", rgb 0 255 255), ("cyan", rgb 0 255 255),
   ("fuchsia", rgb 255 0 255), ("magenta", rgb 255 0 255), ("lime", rgb 0 255 0),
   ("maroon", rgb 128 0 0), ("navy", rgb 0 0 128), ("olive", rgb 128 128 0),
   ("orange", rgb 255 165 0), ("purple", rgb 128 0 128), ("silver", rgb 192 192 192),
   ("teal", rgb 0 128 128), ("transparent", transparent)]

/-- The color of a name; ASCII letters may have either case. -/
def ofName? (s : String) : Option Color :=
  named.lookup (String.ofList (s.toList.map Char.toLower))

/-- The color that a literal denotes, between blanks: a name, or digits behind a `#`. -/
def ofLiteral? (s : String) : Option Color :=
  let s := Text.trim s
  if s.toList.head? = some '#' then ofHex? s else ofName? s

/-- Alpha as a fraction of one. -/
def alphaFraction (c : Color) : Float := c.a.toNat.toFloat / 255

/-- The text of a color: alpha is rounded to three places. -/
def css (c : Color) : String :=
  let alpha := (c.alphaFraction * 1000).round / 1000
  "rgba(" ++ toString c.r.toNat ++ "," ++ toString c.g.toNat ++ "," ++ toString c.b.toNat ++ "," ++
    alpha.plainText ++ ")"

end Color

/-- A color as the map service sends it. -/
structure ServiceColor where
  red : UInt8
  green : UInt8
  blue : UInt8
  deriving DecidableEq, Repr, Inhabited

namespace ServiceColor

/-- The service's black. -/
def black : ServiceColor := ⟨0, 0, 0⟩

/-- The service's white. -/
def white : ServiceColor := ⟨255, 255, 255⟩

/-- The canvas color with a given alpha. -/
def withAlpha (c : ServiceColor) (a : UInt8) : Color := ⟨c.red, c.green, c.blue, a⟩

/-- The opaque canvas color. -/
def opaqueColor (c : ServiceColor) : Color := c.withAlpha 255

/-- The color in a document. -/
def toJson (c : ServiceColor) : Json :=
  .object [("red", .integer c.red.toNat), ("green", .integer c.green.toNat),
    ("blue", .integer c.blue.toNat)]

/-- The color that a document holds; all three channels are needed. -/
def ofJson? (json : Json) : Option ServiceColor := do
  let fields ← json.fields? .lenient ["red", "green", "blue"]
  some ⟨← fields.required? "red" Json.uint8?, ← fields.required? "green" Json.uint8?,
    ← fields.required? "blue" Json.uint8?⟩

end ServiceColor

end Portrayal
