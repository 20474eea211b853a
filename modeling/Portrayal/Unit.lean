import Portrayal.Json.Basic

/-!
Physical units. A screen has 96 pixels to the inch; lengths in millimetres are converted by inches,
angles in degrees are not converted at all.
-/

namespace Portrayal

/-- A unit of a service attribute. -/
inductive PhysicalUnit where
  | millimeter
  | degree
  deriving DecidableEq, Repr

namespace PhysicalUnit

/-- Pixels per inch of the assumed screen. -/
def pixelsPerInch : Float := 96

/-- How much wider lines are drawn than their length in pixels. -/
def lineWidthScale : Float := 2.5

/-- How much of the font height the glyphs take up. -/
def fontHeightScale : Float := 0.9

/-- The written name of a unit. -/
def name : PhysicalUnit → String
  | millimeter => "mm"
  | degree => "degree"

/-- Inches to one of a length unit. -/
def inches? : PhysicalUnit → Option Float
  | millimeter => some 0.03937
  | degree => none

/-- A value of this unit in pixels; what is no length stays as it is. -/
def toPixels (u : PhysicalUnit) (value : Float) : Float :=
  match u.inches? with
  | some inches => value * pixelsPerInch * inches
  | none => value

end PhysicalUnit

/-- Millimetres in pixels. -/
def millimetersToPixels (value : Float) : Float := PhysicalUnit.millimeter.toPixels value

end Portrayal
