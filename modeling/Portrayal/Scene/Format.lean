import Portrayal.Json.Reader
import Portrayal.Sublayer

/-!
Scene files. A scene is a layer with its highlight and its sublayers. The scene, its highlight, fill
images, sublayers, their options and rules refuse members they do not declare; features and styles
inside them, which come from the map service, skip such members.
-/

namespace Portrayal

/-- A rule in a scene: a constant value or the name of an attribute. -/
structure RuleSpec where
  property : String
  value : Option Json
  attributeName : Option String
  minZoom : Option Float
  maxZoom : Option Float

/-- The highlight section of a scene. -/
structure HighlightSpec where
  /-- The names of sublayers to list in the index. -/
  sublayers : List String
  rules : List RuleSpec
  /-- Whether the rules apply to all sublayers instead of the listed ones. -/
  wholeLayer : Bool
  /-- The features to which the rules are restricted. -/
  features : List Int

/-- A fill image of one color. -/
structure FillImageSpec where
  symbol : UInt8
  width : UInt32
  height : UInt32
  pixel : Pixel
  crossOrigin : Bool

/-- A sublayer in a scene. -/
structure SublayerSpec where
  name : String
  options : SublayerOptions
  serviceStyle : Option ServiceStyle
  rules : Option (List RuleSpec)
  /-- Whether every feature gets a binding of its own. -/
  perFeature : Bool
  features : List Feature

/-- A scene. -/
structure Scene where
  layerUrl : String
  zoom : Float
  highlight : Option HighlightSpec
  fillImages : List FillImageSpec
  sublayers : List SublayerSpec

/-- The rule that a document holds. -/
def RuleSpec.ofJson? (json : Json) : Option RuleSpec := do
  let fields ← json.fields? .strict ["property", "value", "attribute", "minZoom", "maxZoom"]
  some
    { property := ← fields.required? "property" Json.text?
      value := ← fields.optional? "value" Json.held?
      attributeName := ← fields.optional? "attribute" Json.text?
      minZoom := ← fields.optional? "minZoom" Json.float?
      maxZoom := ← fields.optional? "maxZoom" Json.float? }

/-- The highlight section that a document holds. -/
def HighlightSpec.ofJson? (json : Json) : Option HighlightSpec := do
  let fields ← json.fields? .strict ["sublayers", "rules", "wholeLayer", "features"]
  some
    { sublayers := ← fields.orElse? "sublayers" [] (Json.list? Json.text?)
      rules := ← fields.orElse? "rules" [] (Json.list? RuleSpec.ofJson?)
      wholeLayer := ← fields.orElse? "wholeLayer" false Json.bool?
      features := ← fields.orElse? "features" [] (Json.list? Json.int64?) }

/-- A pixel as an array of four channels. -/
def Pixel.ofJson? : Json → Option Pixel
  | .array [r, g, b, a] => do
    some ⟨← Json.uint8? r, ← Json.uint8? g, ← Json.uint8? b, ← Json.uint8? a⟩
  | _ => none

/-- The fill image that a document holds; without a size it is one tile. -/
def FillImageSpec.ofJson? (json : Json) : Option FillImageSpec := do
  let fields ← json.fields? .strict ["symbolId", "width", "height", "rgba", "crossOrigin"]
  some
    { symbol := ← fields.required? "symbolId" Json.uint8?
      width := ← fields.orElse? "width" (UInt32.ofNat tileSize) Json.uint32?
      height := ← fields.orElse? "height" (UInt32.ofNat tileSize) Json.uint32?
      pixel := ← fields.required? "rgba" Pixel.ofJson?
      crossOrigin := ← fields.orElse? "crossOrigin" false Json.bool? }

/-- The sublayer that a document holds. -/
def SublayerSpec.ofJson? (json : Json) : Option SublayerSpec := do
  let fields ← json.fields? .strict
    ["name", "options", "serverStyle", "rules", "perFeature", "features"]
  some
    { name := ← fields.required? "name" Json.text?
      options := ← fields.orElse? "options" {} SublayerOptions.ofJson?
      serviceStyle := ← fields.optional? "serverStyle" ServiceStyle.ofJson?
      rules := ← fields.optional? "rules" (Json.list? RuleSpec.ofJson?)
      perFeature := ← fields.orElse? "perFeature" false Json.bool?
      features := ← fields.orElse? "features" [] (Json.list? Feature.ofJson?) }

namespace Scene

/-- The scene that a document holds. -/
def ofJson? (json : Json) : Option Scene := do
  let fields ← json.fields? .strict ["layerUrl", "zoom", "highlight", "fillImages", "sublayers"]
  some
    { layerUrl := ← fields.orElse? "layerUrl" "" Json.text?
      zoom := ← fields.orElse? "zoom" 0 Json.float?
      highlight := ← fields.optional? "highlight" HighlightSpec.ofJson?
      fillImages := ← fields.orElse? "fillImages" [] (Json.list? FillImageSpec.ofJson?)
      sublayers := ← fields.orElse? "sublayers" [] (Json.list? SublayerSpec.ofJson?) }

/-- The scene that a text holds. -/
def read? (text : String) : Option Scene := do
  let json ← Json.read? text
  ofJson? json

end Scene

end Portrayal
