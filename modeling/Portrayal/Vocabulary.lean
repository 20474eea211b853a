import Portrayal.Kind
import Portrayal.Property

/-!
The vocabulary of style sheet rules. For each geometry kind a table says which rule properties exist
and where their values go: to a canvas property, or into one of the two halves of the font. A second
table gives composite operations their canvas names; operations without a canvas equivalent have no
entry.
-/

namespace Portrayal

/-- Where the value of a rule goes. -/
inductive Target where
  | property (p : Property)
  | fontSize
  | fontFamily
  deriving DecidableEq, Repr

namespace Target

/-- The written name of a target. -/
def name : Target → String
  | property p => p.name
  | fontSize => "(font size)"
  | fontFamily => "(font name)"

end Target

namespace Kind

/-- The rule properties of a kind with their targets. -/
def targets : Kind → List (String × Target)
  | text =>
    [("text-size", .fontSize),
     ("text-face-name", .fontFamily),
     ("text-align", .property .textAlign),
     ("text-vertical-alignment", .property .textBaseline),
     ("text-halo-radius", .property .haloRadius),
     ("text-halo-color", .property .backColor),
     ("text-fill", .property .foreColor),
     ("text-opacity", .property .globalAlpha),
     ("text-dx", .property .offsetX),
     ("text-dy", .property .offsetY),
     ("text-comp-op", .property .globalCompositeOperation)]
  | point =>
    [("point-file", .property .pointFile),
     ("point-fill", .property .fillStyle),
     ("point-radius", .property .pointRadius),
     ("point-halo-radius", .property .pointHaloRadius),
     ("point-halo-color", .property .pointHaloColor),
     ("point-dx", .property .offsetX),
     ("point-dy", .property .offsetY),
     ("point-opacity", .property .globalAlpha),
     ("point-comp-op", .property .globalCompositeOperation)]
  | line =>
    [("line-color", .property .strokeStyle),
     ("line-width", .property .lineWidth),
     ("line-cap", .property .lineCap),
     ("line-join", .property .lineJoin),
     ("line-miterlimit", .property .miterLimit),
     ("line-dash-offset", .property .lineDashOffset),
     ("line-opacity", .property .globalAlpha),
     ("line-dasharray", .property .lineDasharray),
     ("line-offset", .property .offset),
     ("line-comp-op", .property .globalCompositeOperation)]
  | region =>
    [("line-color", .property .strokeStyle),
     ("line-width", .property .lineWidth),
     ("line-cap", .property .lineCap),
     ("line-join", .property .lineJoin),
     ("line-miterlimit", .property .miterLimit),
     ("line-dash-offset", .property .lineDashOffset),
     ("line-opacity", .property .lineOpacity),
     ("line-dasharray", .property .lineDasharray),
     ("polygon-fill", .property .fillStyle),
     ("polygon-dx", .property .offsetX),
     ("polygon-dy", .property .offsetY),
     ("polygon-opacity", .property .polygonOpacity),
     ("polygon-comp-op", .property .globalCompositeOperation)]

/-- Where the value of a rule property goes for a kind, if the kind knows the property. -/
def target? (kind : Kind) (property : String) : Option Target := kind.targets.lookup property

end Kind

/-- The composite operations with a canvas equivalent. -/
def compositeOperations : List (String × String) :=
  [("src-over", "source-over"),
   ("dst-over", "destination-over"),
   ("src-in", "source-in"),
   ("dst-in", "destination-in"),
   ("src-out", "source-out"),
   ("dst-out", "destination-out"),
   ("src-atop", "source-atop"),
   ("dst-atop", "destination-atop"),
   ("xor", "xor"),
   ("plus", "lighter"),
   ("lighten", "lighter")]

/-- The canvas equivalent of a composite operation, if it has one. -/
def compositeOperation? (name : String) : Option String := compositeOperations.lookup name

end Portrayal
