import Portrayal.Feature

/-!
Display lists. Drawing records commands: binding a pair of surfaces makes them the active ones, and
every draw notes the surfaces that were active when it happened.
-/

namespace Portrayal

/-- A pair of drawing surfaces: the visible one and the one that hits are tested on. -/
structure Surfaces where
  context : UInt32
  hitContext : UInt32
  deriving DecidableEq, Repr

/-- The record of a drawn feature. -/
structure Draw where
  feature : Int
  kind : Kind
  highlighted : Bool
  layerIndex : Option UInt32
  /-- The surfaces that were active. -/
  surfaces : Option Surfaces
  style : Style

/-- A recorded command. -/
inductive Command where
  | bind (surfaces : Surfaces)
  | draw (d : Draw)

/-- The commands recorded so far, and the surfaces that are active now. -/
structure DisplayList where
  commands : Array Command
  active : Option Surfaces

namespace DisplayList

/-- Nothing recorded and no surfaces active. -/
def empty : DisplayList := ⟨#[], none⟩

/-- Drop all recorded commands; no surfaces stay active. -/
def clear (l : DisplayList) : DisplayList := { l with commands := #[], active := none }

/-- Make a pair of surfaces the active ones. -/
def bind (l : DisplayList) (surfaces : Surfaces) : DisplayList :=
  ⟨l.commands.push (.bind surfaces), some surfaces⟩

/-- Draw a feature, as it is classified and stamped, in a style. -/
def draw (l : DisplayList) (f : Feature) (style : Style) : DisplayList :=
  { l with
    commands := l.commands.push (.draw
      { feature := f.id
        kind := f.kind
        highlighted := f.renderClass = .highlight
        layerIndex := f.layerIndex
        surfaces := l.active
        style }) }

/-- The recorded draws. -/
def draws (l : DisplayList) : List Draw :=
  l.commands.toList.filterMap fun
    | .draw d => some d
    | .bind _ => none

@[simp]
theorem commands_bind (l : DisplayList) (surfaces : Surfaces) :
    (l.bind surfaces).commands.toList = l.commands.toList ++ [.bind surfaces] := by
  simp [bind]

@[simp]
theorem active_bind (l : DisplayList) (surfaces : Surfaces) :
    (l.bind surfaces).active = some surfaces := rfl

@[simp]
theorem active_draw (l : DisplayList) (f : Feature) (style : Style) :
    (l.draw f style).active = l.active := rfl

end DisplayList

/-- A pair of surfaces in a document. -/
def Surfaces.toJson (s : Surfaces) : Json :=
  .object [("context", .integer s.context.toNat), ("hitContext", .integer s.hitContext.toNat)]

/-- A command in a document. -/
def Command.toJson : Command → Json
  | .bind surfaces => .object [("command", .text "bindSurfaces"), ("handles", surfaces.toJson)]
  | .draw d => .object
      [("command", .text "drawFeature"),
       ("featureId", .integer d.feature),
       ("kind", .text d.kind.name),
       ("highlight", .bool d.highlighted),
       ("layerIndex", d.layerIndex.elim .null fun i => .integer i.toNat),
       ("surfaces", d.surfaces.elim .null Surfaces.toJson),
       ("style", d.style.toJson)]

/-- A display list in a document: its commands in order. -/
def DisplayList.toJson (l : DisplayList) : Json := .array (l.commands.toList.map Command.toJson)

end Portrayal
