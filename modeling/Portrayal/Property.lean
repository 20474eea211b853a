/-!
Canvas properties: what a drawing style can set. Their order here is the order in which a style
lists them.
-/

namespace Portrayal

/-- A canvas property. -/
inductive Property where
  | font
  | textHeight
  | textAlign
  | textBaseline
  | haloRadius
  | backColor
  | foreColor
  | pointFile
  | pointRadius
  | pointHaloRadius
  | pointHaloColor
  | markerSize
  | fillStyle
  | strokeStyle
  | lineWidth
  | lineCap
  | lineJoin
  | miterLimit
  | lineDashOffset
  | lineDasharray
  | offset
  | lineOpacity
  | polygonOpacity
  | offsetX
  | offsetY
  | globalAlpha
  | globalCompositeOperation
  deriving DecidableEq, Repr, Inhabited

namespace Property

/-- All properties in order. -/
def all : List Property :=
  [font, textHeight, textAlign, textBaseline, haloRadius, backColor, foreColor, pointFile,
   pointRadius, pointHaloRadius, pointHaloColor, markerSize, fillStyle, strokeStyle, lineWidth,
   lineCap, lineJoin, miterLimit, lineDashOffset, lineDasharray, offset, lineOpacity,
   polygonOpacity, offsetX, offsetY, globalAlpha, globalCompositeOperation]

/-- The number of properties. -/
abbrev count : Nat := 27

/-- The position of a property in the order. -/
def index (p : Property) : Fin count :=
  ⟨p.ctorIdx, by cases p <;> decide⟩

/-- The written name of a property. -/
def name : Property → String
  | font => "font"
  | textHeight => "textHeight"
  | textAlign => "textAlign"
  | textBaseline => "textBaseline"
  | haloRadius => "haloRadius"
  | backColor => "backColor"
  | foreColor => "foreColor"
  | pointFile => "pointFile"
  | pointRadius => "pointRadius"
  | pointHaloRadius => "pointHaloRadius"
  | pointHaloColor => "pointHaloColor"
  | markerSize => "markerSize"
  | fillStyle => "fillStyle"
  | strokeStyle => "strokeStyle"
  | lineWidth => "lineWidth"
  | lineCap => "lineCap"
  | lineJoin => "lineJoin"
  | miterLimit => "miterLimit"
  | lineDashOffset => "lineDashOffset"
  | lineDasharray => "lineDasharray"
  | offset => "offset"
  | lineOpacity => "lineOpacity"
  | polygonOpacity => "polygonOpacity"
  | offsetX => "offsetX"
  | offsetY => "offsetY"
  | globalAlpha => "globalAlpha"
  | globalCompositeOperation => "globalCompositeOperation"

/-- The property with a written name. -/
def ofName? (s : String) : Option Property := all.find? fun p => p.name == s

/-- The property at a position in the order. -/
def atIndex (i : Fin count) : Property := all[i]

theorem mem_all (p : Property) : p ∈ all := by cases p <;> decide

@[simp]
theorem atIndex_index (p : Property) : atIndex p.index = p := by cases p <;> rfl

@[simp]
theorem index_atIndex (i : Fin count) : (atIndex i).index = i := by revert i; decide

theorem index_inj {p q : Property} : p.index = q.index ↔ p = q :=
  ⟨fun h => by simpa using congrArg atIndex h, congrArg index⟩

end Property

end Portrayal
