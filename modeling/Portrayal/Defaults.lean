import Portrayal.Kind
import Portrayal.Style

/-!
Default styles. Each kind has a complete style; completing a partial style for a kind keeps the
values it has for the properties of that kind, drops all others, and fills in the rest.
-/

namespace Portrayal

namespace Kind

/-- The complete style of a kind that nothing else is said about. -/
def defaultStyle : Kind → Style
  | point => Style.ofEntries
      [(.globalCompositeOperation, .text "source-over"),
       (.pointFile, .text ""),
       (.fillStyle, .color (Color.rgb 255 204 0)),
       (.pointRadius, .number 3),
       (.pointHaloRadius, .number 1),
       (.pointHaloColor, .color (Color.rgb 204 51 51)),
       (.offsetX, .number 0),
       (.offsetY, .number 0),
       (.globalAlpha, .number 1)]
  | line => Style.ofEntries
      [(.globalCompositeOperation, .text "source-over"),
       (.strokeStyle, .color Color.black),
       (.lineWidth, .number 1),
       (.lineCap, .text "butt"),
       (.lineJoin, .text "round"),
       (.miterLimit, .number 10),
       (.lineDashOffset, .number 0),
       (.globalAlpha, .number 1),
       (.lineDasharray, .dash []),
       (.offset, .number 0)]
  | region => Style.ofEntries
      [(.globalCompositeOperation, .text "source-over"),
       (.strokeStyle, .color Color.transparent),
       (.fillStyle, .color (Color.rgb 128 128 128)),
       (.lineWidth, .number 1),
       (.lineCap, .text "butt"),
       (.lineJoin, .text "miter"),
       (.miterLimit, .number 4),
       (.lineDashOffset, .number 0),
       (.lineOpacity, .number 1),
       (.lineDasharray, .dash []),
       (.offsetX, .number 0),
       (.offsetY, .number 0),
       (.polygonOpacity, .number 1)]
  | text => Style.ofEntries
      [(.globalCompositeOperation, .text "source-over"),
       (.font, .text "10px sans-serif"),
       (.textHeight, .number 10),
       (.textAlign, .text "center"),
       (.textBaseline, .text "middle"),
       (.haloRadius, .number 0),
       (.backColor, .color Color.white),
       (.foreColor, .color Color.black),
       (.globalAlpha, .number 1),
       (.offsetX, .number 0),
       (.offsetY, .number 0)]

end Kind

/-- A partial style completed for a kind: exactly the properties of the kind's default style, with
the partial style's values where it has one. -/
def Style.complete (part : Style) (kind : Kind) : Style :=
  Style.ofEntries (kind.defaultStyle.entries.map fun (p, v) => (p, (part.get? p).getD v))

end Portrayal
