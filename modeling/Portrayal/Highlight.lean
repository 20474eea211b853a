import Portrayal.Shader

/-!
The highlight of a layer: an index of sublayers and features, a shader for the sublayers in the index
and a shader for the whole layer. When both shaders are there, the first one is used wherever either
applies.
-/

namespace Portrayal

/-- An entry of the highlight index: a sublayer, or one feature of it. -/
structure HighlightEntry where
  sublayer : String
  feature : Option Int
  deriving DecidableEq, Repr

/-- The highlight of a layer. -/
structure Highlight where
  /-- The index, oldest entry first. -/
  entries : List HighlightEntry
  /-- The shader for the sublayers in the index. -/
  selector : Option Shader
  /-- The shader for all sublayers. -/
  wholeLayer : Option Shader

namespace Highlight

/-- Nothing is highlighted. -/
def empty : Highlight := ⟨[], none, none⟩

/-- The highlight with one more entry in the index. -/
def push (h : Highlight) (sublayer : String) (feature : Option Int) : Highlight :=
  { h with entries := h.entries ++ [⟨sublayer, feature⟩] }

/-- Whether the index names a sublayer. -/
def lists (h : Highlight) (sublayer : String) : Bool :=
  h.entries.any fun e => e.sublayer == sublayer

/-- The features of a sublayer that the index names, in order. -/
def listedFeatures (h : Highlight) (sublayer : String) : List Int :=
  h.entries.filterMap fun e => if e.sublayer == sublayer then e.feature else none

/-- The shader that applies to a sublayer, if any. -/
def shaderFor (h : Highlight) (sublayer : String) : Option Shader :=
  let selected := h.selector.isSome && h.lists sublayer
  if selected || h.wholeLayer.isSome then h.selector <|> h.wholeLayer else none

end Highlight

end Portrayal
