import Portrayal.Defaults
import Portrayal.Resolution
import Portrayal.Shader
import Portrayal.Vocabulary

/-!
Styles from rules. The rules are applied in order to a draft: a rule whose property the kind does
not know, or that has no value in the situation, leaves the draft as it is; any other one writes its
value over what was there. Font size and font family come from different rules and are put together
at the end. A composite operation without a canvas equivalent writes nothing.
-/

namespace Portrayal

/-- The line gap of a font as a fraction of its size. -/
def lineGap : Float := 0.5

/-- The first half of a font descriptor: the size, the line gap, and a blank. -/
def fontSizeText (size : Float) : String :=
  size.plainText ++ "px/" ++ (size * lineGap).plainText ++ "px "

/-- A style that rules are being applied to. -/
structure Draft where
  style : Style
  fontSize : Option String
  fontFamily : Option String
  notices : List Notice

namespace Draft

/-- Before the first rule. -/
def empty : Draft := ⟨Style.empty, none, none, []⟩

/-- The draft with one more notice. -/
def note (d : Draft) (n : Notice) : Draft := { d with notices := d.notices ++ [n] }

/-- The draft after a value went to its target. -/
def write (d : Draft) (target : Target) (v : Value) : Draft :=
  match target with
  | .fontSize =>
    match v.number? with
    | some size =>
      { d with
        fontSize := some (fontSizeText size)
        style := d.style.set .textHeight (.number size) }
    | none => d.note (.warning (.sizeNotNumeric v))
  | .fontFamily => { d with fontFamily := some v.shown }
  | .property .globalCompositeOperation =>
    match compositeOperation? v.shown with
    | some operation =>
      { d with style := d.style.set .globalCompositeOperation (.text operation) }
    | none => d.note (.warning (.unknownOperation v.shown))
  | .property p => { d with style := d.style.set p v }

/-- The draft after one rule. -/
def apply (kind : Kind) (s : Situation) (d : Draft) (r : Rule) : Draft :=
  match kind.target? r.property with
  | none => d.note (.unmapped r.record r.property kind)
  | some target =>
    match r.evaluate s with
    | some v => d.write target v
    | none => d

/-- The finished style: a font as soon as a rule named a size or a family. -/
def finish (d : Draft) : Style :=
  if d.fontSize.isSome || d.fontFamily.isSome then
    d.style.set .font
      (.text (d.fontSize.getD "10px " ++ d.fontFamily.getD "sans-serif"))
  else d.style

end Draft

namespace Style

/-- The partial style that rules give a feature of a kind in a situation. -/
def ofRules (kind : Kind) (s : Situation) (rules : List Rule) : Noted Style :=
  let d := rules.foldl (Draft.apply kind s) Draft.empty
  ⟨d.finish, d.notices⟩

/-- The complete style that rules give a feature. The base pass counts every feature as accepted by
the filter. -/
def baseOfRules (kind : Kind) (attributes : Attributes) (zoom : Float) (rules : List Rule) :
    Noted Style :=
  (ofRules kind ⟨attributes, zoom, some true⟩ rules).map fun part => part.complete kind

/-- A style with the properties that a highlight shader sets written over it. -/
def highlighted (base : Style) (kind : Kind) (s : Situation) (shader : Shader) : Noted Style :=
  (ofRules kind s shader.rules).map base.overlay

end Style

end Portrayal
