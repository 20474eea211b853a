import Portrayal.Highlight
import Portrayal.ServicePortrayal

/-!
What the sublayers of a layer have in common, and what a drawing pass reads.
-/

namespace Portrayal

/-- A layer: the URL of its service, the bitmaps of fill symbols, and the highlight. -/
structure Layer where
  url : String
  fillImages : FillImages
  highlight : Highlight

namespace Layer

/-- A layer without bitmaps and without highlight. -/
def ofUrl (url : String) : Layer := ⟨url, .empty, .empty⟩

/-- What the layer contributes to the resolution of service styles. -/
def serviceContext (l : Layer) : ServiceContext := ⟨l.url, l.fillImages⟩

end Layer

/-- What a drawing pass reads: the layer and the zoom level of the view. -/
structure Pass where
  layer : Layer
  zoom : Float

end Portrayal
