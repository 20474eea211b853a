import Portrayal.Json.Writer
import Portrayal.Scene.Format

/-!
Loading a scene: a layer with bitmaps and highlight, and live sublayers with their bindings attached.
Surfaces are numbered in pairs through the whole scene. A scene can be well formed and still make no
sense; loading stops at the first such place, in the order fill images, sublayers, highlight.
-/

namespace Portrayal

/-- Why a scene cannot be loaded. -/
inductive LoadFault where
  /-- A fill image is larger than the limit. -/
  | fillImageTooLarge (symbol : UInt8) (width height : UInt32)
  /-- The value of a rule is no style value. -/
  | unsupportedValue (property : String) (value : Json)
  /-- A rule has both a value and an attribute, or neither. -/
  | ambiguousRule (property : String)
  /-- A sublayer has two style sources. -/
  | twoSources
  /-- A sublayer refused one of its own bindings. -/
  | refused (fault : Fault)
  /-- The highlight lists features and no sublayer. -/
  | featuresWithoutSublayer
  /-- The highlight lists a sublayer that is not there. -/
  | unknownSublayer (name : String)
  /-- A fault in a sublayer. -/
  | inSublayer (name : String) (cause : LoadFault)
  /-- A fault in the rules of the highlight. -/
  | inHighlightRules (cause : LoadFault)
  deriving Inhabited

/-- The largest fill image, in pixels. -/
def maxFillImagePixels : Nat := 4096 * 4096

namespace LoadFault

/-- The fault in words, from the outermost place to the cause. -/
def chain : LoadFault → List String
  | fillImageTooLarge symbol width height =>
    ["fill image " ++ toString symbol.toNat ++ ": " ++ toString width.toNat ++ "x" ++
      toString height.toNat ++ " exceeds " ++ toString maxFillImagePixels ++ " pixels"]
  | unsupportedValue property value =>
    ["rule '" ++ property ++ "': unsupported value " ++ value.compact]
  | ambiguousRule property =>
    ["rule '" ++ property ++ "': exactly one of 'value' and 'attribute' is required"]
  | twoSources => ["'serverStyle' and 'rules' are mutually exclusive"]
  | refused fault => [fault.message]
  | featuresWithoutSublayer => ["highlight 'features' need at least one listed sublayer"]
  | unknownSublayer name => ["highlight names unknown sublayer '" ++ name ++ "'"]
  | inSublayer name cause => ("sublayer '" ++ name ++ "'") :: cause.chain
  | inHighlightRules cause => "highlight rules" :: cause.chain

end LoadFault

/-- What loading keeps track of. -/
structure LoadState where
  /-- The last surface given out. -/
  surfaces : UInt32
  records : RecordSupply
  notices : List Notice

namespace LoadState

/-- Before the first step: no surface and no record given out. -/
def initial : LoadState := ⟨0, .initial, []⟩

end LoadState

/-- A loading step: it may stop, and what it kept track of until then stays. -/
abbrev Loading := ExceptT LoadFault (StateM LoadState)

namespace Loading

/-- The next pair of surfaces. -/
def nextSurfaces : Loading Surfaces := do
  let s ← get
  let last := s.surfaces + 2
  set { s with surfaces := last }
  return ⟨last - 1, last⟩

/-- A step that takes records from the supply. -/
def recording {α : Type} (step : StateM RecordSupply α) : Loading α := do
  let s ← get
  let (result, records) := step.run s.records
  set { s with records }
  return result

/-- The value of a resolution, with its notices kept. -/
def noted {α : Type} (n : Noted α) : Loading α := do
  modify fun s => { s with notices := s.notices ++ n.notices }
  return n.value

/-- The state of an outcome, or its fault. -/
def settled {α : Type} (o : Outcome α) : Loading α := do
  modify fun s => { s with notices := s.notices ++ o.notices }
  match o.fault with
  | some fault => throw (.refused fault)
  | none => return o.state

end Loading

/-- The bitmap of a fill image; it has to stay within the limit. -/
def FillImageSpec.bitmap? (spec : FillImageSpec) : Except LoadFault Bitmap :=
  if spec.width.toNat * spec.height.toNat ≤ maxFillImagePixels then
    .ok { Bitmap.filled spec.width spec.height spec.pixel with clean := !spec.crossOrigin }
  else .error (.fillImageTooLarge spec.symbol spec.width spec.height)

namespace RuleSpec

/-- The evaluator of a rule. -/
def evaluator? (spec : RuleSpec) : Except LoadFault Evaluator :=
  match spec.value, spec.attributeName with
  | some json, none =>
    match Value.ofJson? json with
    | some v => .ok (.constant v)
    | none => .error (.unsupportedValue spec.property json)
  | none, some name => .ok (.ofAttribute name)
  | _, _ => .error (.ambiguousRule spec.property)

/-- The rule, restricted to zoom levels if it names any. -/
def load (spec : RuleSpec) : Loading Rule := do
  let evaluator ← spec.evaluator?
  let rule ← Loading.recording (Rule.make spec.property evaluator)
  if spec.minZoom.isSome || spec.maxZoom.isSome then
    Loading.recording (rule.zoomRange spec.minZoom spec.maxZoom)
  else return rule

/-- A shader of rules. -/
def loadShader (specs : List RuleSpec) : Loading Shader := do
  let rules ← specs.mapM load
  return .ofRules rules

end RuleSpec

namespace SublayerSpec

/-- The style source of a sublayer. -/
def loadSource (spec : SublayerSpec) : Loading (Option StyleSource) := do
  match spec.serviceStyle, spec.rules with
  | some _, some _ => throw .twoSources
  | some style, none => return some (.service style)
  | none, some rules => return some (.rules (← RuleSpec.loadShader rules))
  | none, none => return none

/-- A feature with a binding of its own: under rules its style is resolved ahead of time. -/
def loadOwnFeature (zoom : Float) (source : Option StyleSource) (f : Feature) :
    Loading Feature := do
  match source with
  | some (.rules shader) =>
    let style ← Loading.noted (Style.baseOfRules f.kind f.attributes zoom shader.rules)
    return { f with style := some style }
  | _ => return f

/-- A sublayer with one more binding. -/
def attach (s : Sublayer) (scope : Scope) (source : Option StyleSource) : Loading Sublayer := do
  let surfaces ← Loading.nextSurfaces
  match s.bind? scope source surfaces with
  | .ok binding => Loading.settled (s.addBinding binding)
  | .error fault => throw (.refused fault)

/-- A sublayer with a binding for each of some features. -/
def attachEach (zoom : Float) (source : Option StyleSource) :
    List Feature → Sublayer → Loading Sublayer
  | [], s => return s
  | f :: rest, s => do
    let f ← loadOwnFeature zoom source f
    let s ← attach s (.feature f) source
    attachEach zoom source rest s

/-- The sublayer with its bindings. -/
def load (zoom : Float) (spec : SublayerSpec) : Loading Sublayer := do
  let source ← spec.loadSource
  let s := Sublayer.make spec.name none spec.options
  if spec.perFeature then attachEach zoom source spec.features s
  else
    let s ← Loading.settled (s.addFeatures spec.features)
    attach s .sublayer source

end SublayerSpec

/-- A step whose fault is told together with its place. -/
def Loading.within {α : Type} (place : LoadFault → LoadFault) (step : Loading α) : Loading α :=
  tryCatch step fun fault => throw (place fault)

namespace HighlightSpec

/-- The entries of the index for a sublayer: one for the whole of it, or one for each feature. -/
def entriesFor (spec : HighlightSpec) (sublayer : String) : List HighlightEntry :=
  if spec.features.isEmpty then [⟨sublayer, none⟩]
  else spec.features.map fun f => ⟨sublayer, some f⟩

/-- The entries of the index for all listed sublayers. -/
def loadEntries (spec : HighlightSpec) (sublayers : List Sublayer) :
    List String → Except LoadFault (List HighlightEntry)
  | [] => .ok []
  | name :: rest =>
    match sublayers.find? fun s => s.layerName == name with
    | some s => (loadEntries spec sublayers rest).map (spec.entriesFor s.id ++ ·)
    | none => .error (.unknownSublayer name)

/-- The shader of the highlight, restricted to the listed features if there are any. -/
def loadShader (spec : HighlightSpec) (listed : List Int) : Loading Shader := do
  let shader ← Loading.within .inHighlightRules (RuleSpec.loadShader spec.rules)
  if listed.isEmpty then return shader
  else
    let rules ← Loading.recording (shader.rules.mapM Rule.filtered)
    return (Shader.ofRules rules).withFilter fun id => listed.contains id

/-- The highlight of a scene with these sublayers. -/
def load (spec : HighlightSpec) (sublayers : List Sublayer) : Loading Highlight := do
  if spec.sublayers.isEmpty && !spec.features.isEmpty then throw .featuresWithoutSublayer
  let entries ← spec.loadEntries sublayers spec.sublayers
  let shader ← spec.loadShader (entries.filterMap HighlightEntry.feature)
  if spec.wholeLayer then return ⟨entries, none, some shader⟩
  else return ⟨entries, some shader, none⟩

end HighlightSpec

/-- A scene brought to life. -/
structure LoadedScene where
  layer : Layer
  sublayers : List Sublayer

namespace Scene

/-- The bitmaps of the fill images. -/
def loadFillImages (scene : Scene) : Except LoadFault FillImages := do
  let entries ← scene.fillImages.mapM fun spec => do
    let bitmap ← spec.bitmap?
    return (spec.symbol, bitmap)
  return .ofList entries

/-- The steps of loading a scene. -/
def loading (scene : Scene) : Loading LoadedScene := do
  let fillImages ← scene.loadFillImages
  let sublayers ← scene.sublayers.mapM fun spec =>
    Loading.within (.inSublayer spec.name) (spec.load scene.zoom)
  let highlight ←
    match scene.highlight with
    | some spec => spec.load sublayers
    | none => pure Highlight.empty
  return ⟨⟨scene.layerUrl, fillImages, highlight⟩, sublayers⟩

/-- The loaded scene or why it cannot be loaded, and the notices that came up until then. -/
def load (scene : Scene) : Noted (Except LoadFault LoadedScene) :=
  let (result, state) := (scene.loading.run).run .initial
  ⟨result, state.notices⟩

end Scene

end Portrayal
