import Portrayal.Binding

/-!
Sublayers: named groups of features with a paint order, and the bindings that draw them. A sublayer
is alive until it is destroyed; from then on everything but the question whether it is destroyed is
a misuse.
-/

namespace Portrayal

/-- The paint order of a sublayer; without one it paints after those that have one. -/
inductive OriginIndex where
  | assigned (n : UInt32)
  | unassigned
  deriving DecidableEq, Repr

namespace OriginIndex

/-- The paint order that stands for none. -/
def unassignedOrder : UInt32 := 999

/-- The origin index of an optional number. -/
def ofOption (n : Option UInt32) : OriginIndex := n.elim .unassigned .assigned

/-- The number of an origin index, if it is assigned. -/
def toOption : OriginIndex → Option UInt32
  | assigned n => some n
  | unassigned => none

/-- The paint order that features are stamped with. -/
def paintOrder : OriginIndex → UInt32
  | assigned n => n
  | unassigned => unassignedOrder

end OriginIndex

/-- The kinds of user-generated layers. -/
inductive UserLayerType where
  | vector
  | theme
  deriving DecidableEq, Repr

namespace UserLayerType

/-- The written name of a layer type. -/
def name : UserLayerType → String
  | vector => "VECTOR"
  | theme => "THEME"

/-- The layer type with a written name. -/
def ofName? (s : String) : Option UserLayerType := [vector, theme].find? fun t => t.name == s

end UserLayerType

/-- A tile: column, row and zoom level. -/
structure TileKey where
  x : Int
  y : Int
  z : UInt32
  deriving DecidableEq, Repr

/-- The tile that a document names. -/
def TileKey.ofJson? (json : Json) : Option TileKey := do
  let fields ← json.fields? .lenient ["x", "y", "z"]
  some ⟨← fields.required? "x" Json.int64?, ← fields.required? "y" Json.int64?,
    ← fields.required? "z" Json.uint32?⟩

/-- What a sublayer is created with. -/
structure SublayerOptions where
  originIndex : Option UInt32 := none
  visible : Bool := true
  userLayerType : Option UserLayerType := none
  deriving DecidableEq, Repr

/-- The options that a document holds; it may hold nothing else. -/
def SublayerOptions.ofJson? (json : Json) : Option SublayerOptions := do
  let fields ← json.fields? .strict ["originIndex", "visible", "ugcLayerType"]
  some
    { originIndex := ← fields.optional? "originIndex" Json.uint32?
      visible := ← fields.orElse? "visible" true Json.bool?
      userLayerType := ← fields.optional? "ugcLayerType" (Json.choice? UserLayerType.ofName?) }

/-- What a sublayer holds while it is alive. -/
structure Contents where
  features : List Feature
  bindings : List Binding

/-- A sublayer. -/
structure Sublayer where
  layerName : String
  id : String
  cssClass : String
  index : Float
  origin : OriginIndex
  tile : Option TileKey
  userLayerType : Option UserLayerType
  visible : Bool
  contents : Option Contents

/-- A layer name as an identity or class name: `@` and `#` are not valid there. -/
def escapeLayerName (name : String) : String :=
  String.ofList (name.toList.flatMap fun c => if c = '@' ∨ c = '#' then ['_', '_'] else [c])

namespace Sublayer

/-- A sublayer without features and bindings. -/
def make (name : String) (tile : Option TileKey) (options : SublayerOptions) : Sublayer :=
  { layerName := name
    id := escapeLayerName name
    cssClass := escapeLayerName name
    index := 0
    origin := .ofOption options.originIndex
    tile
    userLayerType := options.userLayerType
    visible := options.visible
    contents := some ⟨[], []⟩ }

/-- Whether the sublayer was destroyed. -/
def isDestroyed (s : Sublayer) : Bool := s.contents.isNone

/-- The fault of every operation on a destroyed sublayer. -/
def destroyedFault (s : Sublayer) : Fault := .illegalState (.sublayerDestroyed s.id)

/-- Something about a live sublayer. -/
def whileLive {α : Type} (s : Sublayer) (f : Contents → α) : Except Fault α :=
  match s.contents with
  | some contents => .ok (f contents)
  | none => .error s.destroyedFault

/-- The name that a live sublayer was created with. -/
def layerName? (s : Sublayer) : Except Fault String := s.whileLive fun _ => s.layerName

/-- The identity of a live sublayer. -/
def id? (s : Sublayer) : Except Fault String := s.whileLive fun _ => s.id

/-- The class name of a live sublayer. -/
def cssClass? (s : Sublayer) : Except Fault String := s.whileLive fun _ => s.cssClass

/-- The index of a live sublayer. -/
def index? (s : Sublayer) : Except Fault Float := s.whileLive fun _ => s.index

/-- The paint order of a live sublayer, if it has one. -/
def origin? (s : Sublayer) : Except Fault OriginIndex := s.whileLive fun _ => s.origin

/-- The tile of a live sublayer. -/
def tile? (s : Sublayer) : Except Fault (Option TileKey) := s.whileLive fun _ => s.tile

/-- The layer type of a live sublayer. -/
def userLayerType? (s : Sublayer) : Except Fault (Option UserLayerType) :=
  s.whileLive fun _ => s.userLayerType

/-- Whether a live sublayer is shown. -/
def visible? (s : Sublayer) : Except Fault Bool := s.whileLive fun _ => s.visible

/-- The features of a live sublayer, in the order in which they were added. -/
def features? (s : Sublayer) : Except Fault (List Feature) := s.whileLive Contents.features

/-- The bindings of a live sublayer, in the order in which they draw. -/
def bindings? (s : Sublayer) : Except Fault (List Binding) := s.whileLive Contents.bindings

/-- The first feature with an identity. -/
def featureById? (s : Sublayer) (id : Int) : Except Fault (Option Feature) :=
  s.whileLive fun contents => contents.features.find? fun f => f.id == id

/-- Whether two live sublayers have the same name, identity and class name. -/
def equals? (s t : Sublayer) : Except Fault Bool := do
  let same ← s.whileLive fun _ =>
    s.layerName == t.layerName && s.id == t.id && s.cssClass == t.cssClass
  t.whileLive fun _ => same

/-- Whether two sublayers are alive and the same. -/
def same (s t : Sublayer) : Bool :=
  match s.equals? t with
  | .ok b => b
  | .error _ => false

/-- An operation on a live sublayer. -/
def change (s : Sublayer) (f : Contents → Outcome Sublayer) : Outcome Sublayer :=
  match s.contents with
  | some contents => f contents
  | none => .failed s s.destroyedFault

/-- Show or hide a sublayer. -/
def setVisible (s : Sublayer) (visible : Bool) : Outcome Sublayer :=
  s.change fun _ => .ok { s with visible }

/-- Add a feature at the end. -/
def addFeature (s : Sublayer) (f : Feature) : Outcome Sublayer :=
  s.change fun c => .ok { s with contents := some { c with features := c.features ++ [f] } }

/-- Add features at the end, in order. -/
def addFeatures (s : Sublayer) (fs : List Feature) : Outcome Sublayer :=
  s.change fun c => .ok { s with contents := some { c with features := c.features ++ fs } }

/-- A binding to a live sublayer. -/
def bind? (s : Sublayer) (scope : Scope) (source : Option StyleSource) (surfaces : Surfaces) :
    Except Fault Binding :=
  s.whileLive fun _ => Binding.make s.id scope source surfaces

/-- Add a binding at the end; it has to have been made for this sublayer. -/
def addBinding (s : Sublayer) (b : Binding) : Outcome Sublayer :=
  if b.sublayerId = s.id then
    s.change fun c => .ok { s with contents := some { c with bindings := c.bindings ++ [b] } }
  else .failed s (.illegalState (.foreignBinding b.sublayerId s.id))

/-- Add bindings at the end in order, up to the first one that is refused. -/
def addBindings (s : Sublayer) : List Binding → Outcome Sublayer
  | [] => .ok s
  | b :: rest =>
    let o := s.addBinding b
    match o.fault with
    | some _ => o
    | none => o.state.addBindings rest

/-- Set the index; what is not a number is ignored. -/
def setIndex (s : Sublayer) (index : Float) : Outcome Sublayer :=
  s.change fun _ =>
    if index.isNaN then (Outcome.ok s).after [.warning (.indexNotANumber s.id)]
    else .ok { s with index }

/-- Set the index from text; text that denotes no number is ignored. -/
def setIndexText (s : Sublayer) (raw : String) : Outcome Sublayer :=
  s.change fun _ =>
    match Decimal.readFloat? (Text.trim raw) with
    | some index => s.setIndex index
    | none => (Outcome.ok s).after [.warning (.indexUnreadable s.id raw)]

/-- Draw bindings in order over the features of a sublayer, up to the first one that stops. -/
def drawBindings (pass : Pass) (order : UInt32) :
    List Binding → List Feature → DisplayList → Outcome (List Binding × List Feature × DisplayList)
  | [], features, list => .ok ([], features, list)
  | b :: rest, features, list =>
    let drawn := b.render pass order features list
    let (b, features, list) := drawn.state
    match drawn.fault with
    | some _ => drawn.map fun _ => (b :: rest, features, list)
    | none =>
      ((drawBindings pass order rest features list).map
        fun (rest, features, list) => (b :: rest, features, list)).after drawn.notices

/-- Draw a sublayer: all its bindings in order, and nothing while it is hidden. -/
def redraw (s : Sublayer) (pass : Pass) (list : DisplayList) : Outcome (Sublayer × DisplayList) :=
  match s.contents with
  | none => .failed (s, list) s.destroyedFault
  | some c =>
    if s.visible then
      (drawBindings pass s.origin.paintOrder c.bindings c.features list).map
        fun (bindings, features, list) =>
          ({ s with contents := some ⟨features, bindings⟩ }, list)
    else .ok (s, list)

/-- Destroy bindings in order, up to the first one that was destroyed before. -/
def destroyBindings : List Binding → Outcome (List Binding)
  | [] => .ok []
  | b :: rest =>
    let gone := b.destroy
    match gone.fault with
    | some _ => gone.map fun b => b :: rest
    | none => (destroyBindings rest).map fun rest => gone.state :: rest

/-- Destroy a sublayer and its bindings. It is gone in any case; a binding that was destroyed before
makes the call fail. -/
def destroy (s : Sublayer) : Outcome Sublayer :=
  s.change fun c =>
    (destroyBindings c.bindings).map fun _ => { s with visible := false, contents := none }

end Sublayer

end Portrayal
