import Portrayal.Json.Writer
import Portrayal.ServiceStyle
import Portrayal.Url

/-!
Marker images. The service draws a point symbol for a style; the URL of that image carries the edge
length in whole pixels and the style as a document.
-/

namespace Portrayal

/-- A length in pixels rounded up to a whole number; what is not positive counts as nothing, and
sizes end where 64 bits do. -/
def wholePixels (x : Float) : UInt64 := x.ceil.toUInt64

/-- The edge of a marker image in pixels. -/
def ServiceStyle.markerSide (s : ServiceStyle) : UInt64 :=
  wholePixels (millimetersToPixels (s.withDefaults.markerSize.getD 0))

/-- The parameters of a marker image. -/
def ServiceStyle.markerParameters (s : ServiceStyle) : List (String × String) :=
  let side := toString s.markerSide.toNat
  [("transparent", "true"), ("resourceType", "SYMBOLMARKER"), ("picWidth", side),
   ("picHeight", side), ("style", s.toJson.compact)]

/-- The URL of the marker image for a style, below the URL of the layer. -/
def ServiceStyle.markerUrl (s : ServiceStyle) (layerUrl : String) : String :=
  Url.appendQuery (Url.joinPath layerUrl "symbol.png") (Url.parameterString s.markerParameters)

end Portrayal
