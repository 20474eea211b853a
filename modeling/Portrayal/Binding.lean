import Portrayal.DisplayList
import Portrayal.Layer
import Portrayal.Outcome
import Portrayal.RuleStyle

/-!
Bindings tie a style source and a pair of surfaces to a sublayer. A binding draws either every
feature of its sublayer or one feature of its own. Drawing makes the surfaces active, resolves the
style of each feature, writes the highlight over it if one applies to the sublayer, stamps the
feature and records it. The first feature whose style cannot be resolved ends the drawing; what was
recorded and stamped before stays.
-/

namespace Portrayal

/-- Where a base style comes from. -/
inductive StyleSource where
  | rules (shader : Shader)
  | service (style : ServiceStyle)

/-- What a binding draws. -/
inductive Scope where
  | sublayer
  | feature (f : Feature)

/-- A binding; a destroyed one has neither source nor surfaces nor a feature of its own. -/
structure Binding where
  sublayerId : String
  scope : Scope
  source : Option StyleSource
  surfaces : Option Surfaces
  stage : Stage

namespace Feature

/-- The service style of a feature: a label with a style of its own uses that one. -/
def serviceSource (f : Feature) (shared : ServiceStyle) : ServiceSource :=
  match f.geometry.label, f.kind with
  | some label, .text => .label label
  | _, _ => .shape shared

/-- The style of a feature before any highlight. -/
def baseStyle (f : Feature) (pass : Pass) (source : Option StyleSource) :
    Noted (Except FillFault Style) :=
  match source with
  | some (.rules shader) =>
    (Style.baseOfRules f.kind f.exposed pass.zoom shader.rules).map .ok
  | some (.service style) => serviceStyle? pass.layer.serviceContext f.kind (f.serviceSource style)
  | none => (Style.baseOfRules f.kind f.exposed pass.zoom []).map .ok

/-- A style with the highlight of a shader written over it for this feature. -/
def highlight (f : Feature) (pass : Pass) (shader : Shader) (base : Style) : Noted Style :=
  base.highlighted f.kind ⟨f.exposed, pass.zoom, shader.filterFor f.id⟩ shader

/-- The style that a binding over a whole sublayer draws a feature in. -/
def sharedStyle (f : Feature) (pass : Pass) (source : Option StyleSource)
    (shader : Option Shader) : Noted (Except FillFault Style) :=
  let base := f.baseStyle pass source
  match base.value, shader with
  | .ok style, some shader =>
    let top := f.highlight pass shader style
    ⟨.ok top.value, base.notices ++ top.notices⟩
  | _, _ => base

/-- The style that a binding draws a feature of its own in. A highlight is written over the style
that the feature carries, or over nothing; without a highlight a service style is resolved, and any
other source has been resolved onto the feature before. -/
def ownStyle (f : Feature) (pass : Pass) (source : Option StyleSource)
    (shader : Option Shader) : Noted (Except FillFault Style) :=
  match shader, source with
  | some shader, _ => (f.highlight pass shader (f.style.getD .empty)).map .ok
  | none, some (.service style) =>
    serviceStyle? pass.layer.serviceContext f.kind (f.serviceSource style)
  | none, _ => .silent (.ok (f.style.getD (Style.empty.complete f.kind)))

end Feature

/-- How features are classified under a shader that applies to them, if any. -/
def RenderClass.ofShader (shader : Option Shader) : RenderClass :=
  if shader.isSome then .highlight else .normal

namespace Binding

/-- A binding that is ready to draw. -/
def make (sublayerId : String) (scope : Scope) (source : Option StyleSource)
    (surfaces : Surfaces) : Binding :=
  ⟨sublayerId, scope, source, some surfaces, .bound⟩

/-- Whether the highlight index names the sublayer of a binding. -/
def listedIn (b : Binding) (h : Highlight) : Bool := h.lists b.sublayerId

/-- Draw the features of a sublayer in order, up to the first one without a style. -/
def drawFeatures (pass : Pass) (source : Option StyleSource) (shader : Option Shader)
    (order : UInt32) : List Feature → DisplayList → Outcome (List Feature × DisplayList)
  | [], list => .ok ([], list)
  | f :: rest, list =>
    let style := f.sharedStyle pass source shader
    match style.value with
    | .error fault => (Outcome.failed (f :: rest, list) (.fill fault)).after style.notices
    | .ok s =>
      let f := f.stamped (.ofShader shader) order
      ((drawFeatures pass source shader order rest (list.draw f s)).map
        fun (rest, list) => (f :: rest, list)).after style.notices

/-- Draw a binding's own feature. It is classified before its style is resolved. -/
def drawOwn (pass : Pass) (source : Option StyleSource) (shader : Option Shader) (order : UInt32)
    (f : Feature) (list : DisplayList) : Outcome (Feature × DisplayList) :=
  let style := f.ownStyle pass source shader
  match style.value with
  | .error fault =>
    (Outcome.failed ({ f with renderClass := .ofShader shader }, list) (.fill fault)).after
      style.notices
  | .ok s =>
    let f := f.stamped (.ofShader shader) order
    (Outcome.ok (f, list.draw f s)).after style.notices

/-- Draw what a binding covers, among the features of a sublayer with a given paint order. -/
def dispatch (b : Binding) (pass : Pass) (order : UInt32) (features : List Feature)
    (list : DisplayList) : Outcome (Binding × List Feature × DisplayList) :=
  let shader := pass.layer.highlight.shaderFor b.sublayerId
  match b.scope with
  | .sublayer =>
    (drawFeatures pass b.source shader order features list).map
      fun (features, list) => (b, features, list)
  | .feature f =>
    (drawOwn pass b.source shader order f list).map
      fun (f, list) => ({ b with scope := .feature f }, features, list)

/-- Draw a binding: its surfaces become active, and it is ready again afterwards, also when the
drawing stopped. -/
def render (b : Binding) (pass : Pass) (order : UInt32) (features : List Feature)
    (list : DisplayList) : Outcome (Binding × List Feature × DisplayList) :=
  match b.stage, b.surfaces with
  | .bound, some surfaces =>
    (({ b with stage := .rendering } : Binding).dispatch pass order features (list.bind surfaces)).map
      fun (b, features, list) => ({ b with stage := .bound }, features, list)
  | stage, _ =>
    .failed (b, features, list) (.illegalState (.bindingNotReady b.sublayerId stage))

/-- Give up a binding's source, surfaces and feature. -/
def destroy (b : Binding) : Outcome Binding :=
  if b.stage = .destroyed then
    .failed b (.illegalState (.bindingDestroyedTwice b.sublayerId))
  else
    .ok { b with source := none, surfaces := none, scope := .sublayer, stage := .destroyed }

end Binding

end Portrayal
