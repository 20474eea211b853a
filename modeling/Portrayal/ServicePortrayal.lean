import Portrayal.Defaults
import Portrayal.FillPattern
import Portrayal.LabelStyle
import Portrayal.MarkerUrl
import Portrayal.Resolution
import Portrayal.Text.Casing
import Portrayal.Text.Search

/-!
Styles from the map service. A point becomes the URL of a marker image, a label a font with
alignment, halo and colors; lines and regions apply the attributes that are present, in order. The
only way to fail is a fill pattern whose bitmap is missing or cannot be read back.
-/

namespace Portrayal

/-- The highest fill symbol with a rendering of its own. -/
def maxFillSymbol : UInt8 := 7

/-- The highest line symbol with a rendering of its own. -/
def maxLineSymbol : UInt8 := 5

/-- The fill symbol that leaves an area empty. -/
def emptyFillSymbol : UInt8 := 1

/-- The line symbol that draws nothing. -/
def invisibleLineSymbol : UInt8 := 5

/-- The dash pattern of a line symbol; what is not dashed is one long dash. -/
def dashPreset (symbol : UInt8) : List Float :=
  if symbol = 1 then [9.7, 3.7]
  else if symbol = 2 then [3.7, 3.7]
  else if symbol = 3 then [9.7, 3.7, 2.3, 3.7]
  else if symbol = 4 then [9.7, 3.7, 2.3, 3.7, 2.3, 3.7]
  else [1, 0]

/-- The bitmaps of fill symbols. A bitmap registered later stands in front of an earlier one. -/
structure FillImages where
  entries : List (UInt8 × Bitmap)

namespace FillImages

/-- No bitmap at all. -/
def empty : FillImages := ⟨[]⟩

/-- Register the bitmap of a symbol. -/
def insert (images : FillImages) (symbol : UInt8) (bitmap : Bitmap) : FillImages :=
  ⟨(symbol, bitmap) :: images.entries⟩

/-- The bitmap of a symbol. -/
def get? (images : FillImages) (symbol : UInt8) : Option Bitmap := images.entries.lookup symbol

/-- The bitmaps of a list of symbols, later ones over earlier ones. -/
def ofList (entries : List (UInt8 × Bitmap)) : FillImages :=
  entries.foldl (fun images entry => images.insert entry.1 entry.2) empty

theorem get?_insert (images : FillImages) (s t : UInt8) (b : Bitmap) :
    (images.insert s b).get? t = if t = s then some b else images.get? t := by
  by_cases h : t = s
  · simp [get?, insert, h]
  · have hne : (t == s) = false := by simp [h]
    simp [get?, insert, List.lookup_cons, h, hne]

end FillImages

/-- What a layer contributes to the resolution of service styles. -/
structure ServiceContext where
  layerUrl : String
  fillImages : FillImages

/-- A style of the map service for one feature. -/
inductive ServiceSource where
  | shape (style : ServiceStyle)
  | label (style : LabelStyle)

/-- The fill of a symbol in a color. -/
def fillValue? (ctx : ServiceContext) (symbol : UInt8) (fore : ServiceColor)
    (back : Option ServiceColor) : Except FillFault Value :=
  if symbol = 0 then .ok (.color fore.opaqueColor)
  else if symbol = emptyFillSymbol then .ok (.color (fore.withAlpha 0))
  else
    match Pattern.ofBitmap? symbol (ctx.fillImages.get? symbol) fore back with
    | .ok pattern => .ok (.pattern pattern)
    | .error fault => .error fault

/-- A stroke in a color: its dash pattern if the symbol is dashed, then the color, which is
transparent for the invisible symbol. -/
def strokeInto (style : Style) (property : Property) (symbol : UInt8) (color : ServiceColor) :
    Style :=
  let dashed :=
    if symbol ≠ 0 ∧ symbol ≠ invisibleLineSymbol then
      style.set .lineDasharray (.dash (dashPreset symbol))
    else style
  dashed.set property
    (.color (color.withAlpha (if symbol = invisibleLineSymbol then 0 else 255)))

/-- The style after one attribute of a line or region. One that is absent or drives no property leaves
the style as it is, and so does a value of another kind than the attribute has. -/
def applyAttribute? (ctx : ServiceContext) (service : ServiceStyle) (style : Style)
    (a : ServiceAttribute) : Except FillFault Style :=
  match a.info.property, service.value? a with
  | some property, some value =>
    match a.info.kind, value with
    | .number, .number x =>
      let pixels :=
        match a.info.unit with
        | some .millimeter => millimetersToPixels x * PhysicalUnit.lineWidthScale
        | some .degree | none => x
      .ok (style.set property (.number pixels))
    | .color, .color c =>
      match property with
      | .fillStyle =>
        match fillValue? ctx (clampSymbol service.fillSymbol maxFillSymbol) c
            service.fillBackColor with
        | .ok fill => .ok (style.set .fillStyle fill)
        | .error fault => .error fault
      | .strokeStyle =>
        .ok (strokeInto style .strokeStyle (clampSymbol service.lineSymbol maxLineSymbol) c)
      | _ => .ok (style.set property (.color c.opaqueColor))
    | _, _ => .ok style
  | _, _ => .ok style

/-- The style of a line or region: its attributes applied in order. -/
def attributeStyle? (ctx : ServiceContext) (service : ServiceStyle) :
    List ServiceAttribute → Style → Except FillFault Style
  | [], style => .ok style
  | a :: rest, style =>
    match applyAttribute? ctx service style a with
    | .ok style => attributeStyle? ctx service rest style
    | .error fault => .error fault

/-- The style of a point, line or region. -/
def shapeStyle? (ctx : ServiceContext) (kind : Kind) (service : ServiceStyle) :
    Except FillFault Style :=
  if kind = .point then
    .ok (Style.empty.set .pointFile (.text (service.markerUrl ctx.layerUrl)))
  else attributeStyle? ctx service ServiceAttribute.all Style.empty

namespace LabelStyle

/-- The vertical keywords of an alignment. -/
def verticalKeywords : List String := ["TOP", "MIDDLE", "BASELINE", "BOTTOM"]

/-- The horizontal keywords of an alignment. -/
def horizontalKeywords : List String := ["LEFT", "RIGHT", "CENTER"]

/-- What is left of an alignment without its vertical keyword, in lower case. -/
def horizontal (s : LabelStyle) : String :=
  Text.lowercase (Text.trim (Text.removeFirst verticalKeywords s.align))

/-- What is left of an alignment without its horizontal keyword, in lower case; the canvas calls the
base line alphabetic. -/
def vertical (s : LabelStyle) : String :=
  let rest := Text.trim (Text.removeFirst horizontalKeywords s.align)
  if rest = "BASELINE" then "alphabetic" else Text.lowercase rest

/-- The height of the font in pixels. -/
def height (s : LabelStyle) : Float :=
  millimetersToPixels s.fontHeight * PhysicalUnit.fontHeightScale

/-- The font descriptor. -/
def font (s : LabelStyle) : String :=
  (if s.bold then "bolder" else "normal") ++ " " ++ (if s.italic then "italic" else "normal") ++
    " " ++ s.height.plainText ++ "px/5px " ++ String.ofList (s.fontName.toList.filter (· != '@'))

/-- A style with an alignment set; an axis that the alignment does not name takes its default. -/
def alignInto (style : Style) (p : Property) (keyword : String) : Style :=
  if keyword.isEmpty then
    match Kind.text.defaultStyle.get? p with
    | some v => style.set p v
    | none => style
  else style.set p (.text keyword)

/-- The style of a label. -/
def style (s : LabelStyle) : Style :=
  let font := (Style.empty.set .font (.text s.font)).set .textHeight (.number s.height)
  let aligned := alignInto (alignInto font .textAlign s.horizontal) .textBaseline s.vertical
  ((aligned.set .haloRadius (.number (if s.outline then 1 else 0))).set .backColor
    (.color s.backColor.opaqueColor)).set .foreColor (.color s.foreColor.opaqueColor)

end LabelStyle

/-- The style that the map service gives a feature of a kind. Labels need a label style and all else
a shape style; what does not fit is replaced by the default one. -/
def serviceStyle? (ctx : ServiceContext) (kind : Kind) (source : ServiceSource) :
    Noted (Except FillFault Style) :=
  let part : Noted (Except FillFault Style) :=
    match kind, source with
    | .text, .label style => .silent (.ok style.style)
    | .text, .shape _ => ⟨.ok (LabelStyle.style {}), [.warning .labelWithoutTextStyle]⟩
    | kind, .label _ => ⟨shapeStyle? ctx kind {}, [.warning (.textStyleOnShape kind)]⟩
    | kind, .shape style => .silent (shapeStyle? ctx kind style)
  part.map fun result => result.map fun style => style.set .globalAlpha (.number 1)

end Portrayal
