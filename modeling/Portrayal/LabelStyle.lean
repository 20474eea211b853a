import Portrayal.Color

/-!
Styles that the map service sends for labels. What the service leaves out has a default, so a label
style is always complete.
-/

namespace Portrayal

/-- A label style as the map service sends it. -/
structure LabelStyle where
  bold : Bool := false
  italic : Bool := false
  /-- The height of the font in millimetres. -/
  fontHeight : Float := 6
  /-- The font family; an `@` marks vertical writing. -/
  fontName : String := "Times New Roman"
  /-- A vertical and a horizontal keyword in one word. -/
  align : String := "BASELINECENTER"
  outline : Bool := false
  backColor : ServiceColor := .white
  foreColor : ServiceColor := .black
  deriving Repr, Inhabited

namespace LabelStyle

/-- The style in a document. -/
def toJson (s : LabelStyle) : Json :=
  .object
    [("bold", .bool s.bold), ("italic", .bool s.italic), ("fontHeight", .float s.fontHeight),
     ("fontName", .text s.fontName), ("align", .text s.align), ("outline", .bool s.outline),
     ("backColor", s.backColor.toJson), ("foreColor", s.foreColor.toJson)]

/-- The style that a document holds. -/
def ofJson? (json : Json) : Option LabelStyle := do
  let fields ← json.fields? .lenient
    ["bold", "italic", "fontHeight", "fontName", "align", "outline", "backColor", "foreColor"]
  let base : LabelStyle := {}
  some
    { bold := ← fields.orElse? "bold" base.bold Json.bool?
      italic := ← fields.orElse? "italic" base.italic Json.bool?
      fontHeight := ← fields.orElse? "fontHeight" base.fontHeight Json.float?
      fontName := ← fields.orElse? "fontName" base.fontName Json.text?
      align := ← fields.orElse? "align" base.align Json.text?
      outline := ← fields.orElse? "outline" base.outline Json.bool?
      backColor := ← fields.orElse? "backColor" base.backColor ServiceColor.ofJson?
      foreColor := ← fields.orElse? "foreColor" base.foreColor ServiceColor.ofJson? }

end LabelStyle

end Portrayal
