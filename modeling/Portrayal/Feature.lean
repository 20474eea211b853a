import Portrayal.LabelStyle
import Portrayal.Shader
import Portrayal.Style

/-!
Features as a tile delivers them: an identity, a geometry and attributes. A feature may carry a style
that was resolved ahead of time; how it was classified and where it was painted is written onto it by
every pass that draws it.
-/

namespace Portrayal

/-- The geometry of a feature. -/
structure Geometry where
  kind : Kind
  /-- The vertices in the pixels of the tile. -/
  coordinates : List (Float × Float)
  /-- The text of a label. -/
  text : Option String := none
  /-- The style of a label. -/
  label : Option LabelStyle := none

/-- How the last pass drew a feature. -/
inductive RenderClass where
  | normal
  | highlight
  deriving DecidableEq, Repr

/-- The written name of a render class. -/
def RenderClass.name : RenderClass → String
  | normal => "normal"
  | highlight => "highlight"

/-- A feature. -/
structure Feature where
  id : Int
  geometry : Geometry
  attributes : Attributes := .empty
  /-- A style resolved ahead of time. -/
  style : Option Style := none
  renderClass : RenderClass := .normal
  /-- The paint order that the last pass gave it. -/
  layerIndex : Option UInt32 := none

namespace Feature

/-- The kind of a feature's geometry. -/
def kind (f : Feature) : Kind := f.geometry.kind

/-- The attribute under which rules see the identity of a feature. -/
def idAttribute : String := "featureID"

/-- The attributes that rules see: its own, and its identity. -/
def exposed (f : Feature) : Attributes := f.attributes.insert idAttribute (.integer f.id)

/-- The feature as a pass leaves it that drew it. -/
def stamped (f : Feature) (renderClass : RenderClass) (order : UInt32) : Feature :=
  { f with renderClass, layerIndex := some order }

end Feature

/-- The geometry that a document holds. -/
def Geometry.ofJson? (json : Json) : Option Geometry := do
  let fields ← json.fields? .lenient ["type", "coordinates", "text", "textStyle"]
  some
    { kind := ← fields.required? "type" (Json.choice? Kind.ofName?)
      coordinates := ← fields.orElse? "coordinates" [] (Json.list? (Json.pair? Json.float?))
      text := ← fields.optional? "text" Json.text?
      label := ← fields.optional? "textStyle" LabelStyle.ofJson? }

/-- The feature that a document holds; what passes write is not part of it. -/
def Feature.ofJson? (json : Json) : Option Feature := do
  let fields ← json.fields? .lenient ["id", "geometry", "attributes"]
  some
    { id := ← fields.required? "id" Json.int64?
      geometry := ← fields.required? "geometry" Geometry.ofJson?
      attributes := ← fields.orElse? "attributes" .empty Attributes.ofJson? }

end Portrayal
