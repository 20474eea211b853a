import Portrayal.Decimal.Reading

/-!
Command line arguments. Arguments are taken one by one; the first one that does not fit ends the
reading, and so does a request for help or for the version.
-/

namespace Portrayal

/-- What the command line asks for. -/
structure RunOptions where
  scene : String
  zoom : Option Float
  json : Bool
  noColor : Bool

/-- The meaning of a command line. -/
inductive Invocation where
  | run (options : RunOptions)
  | help
  | version
  | usageError

/-- The arguments read so far. -/
structure ArgumentState where
  scene : Option String := none
  zoom : Option Float := none
  json : Bool := false
  noColor : Bool := false

namespace ArgumentState

/-- The path of the scene: given once, and not empty. -/
def takeScene? (s : ArgumentState) (path : String) : Option ArgumentState :=
  if s.scene.isSome || path.isEmpty then none else some { s with scene := some path }

/-- The zoom level: given once, and a number. -/
def takeZoom? (s : ArgumentState) (text : String) : Option ArgumentState :=
  if s.zoom.isSome then none
  else (Decimal.readFloat? text).map fun zoom => { s with zoom := some zoom }

/-- A flag: given once. -/
def takeFlag? (s : ArgumentState) (name : String) : Option ArgumentState :=
  if name = "--json" ∧ !s.json then some { s with json := true }
  else if name = "--no-color" ∧ !s.noColor then some { s with noColor := true }
  else none

/-- The meaning of the arguments once all are read. -/
def finish (s : ArgumentState) : Invocation :=
  match s.scene with
  | some scene => .run { scene, zoom := s.zoom, json := s.json, noColor := s.noColor }
  | none => .usageError

end ArgumentState

/-- The value in an argument `--zoom=value`. -/
def zoomValue? (argument : String) : Option String :=
  let start := "--zoom=".toList
  if start.isPrefixOf argument.toList then
    some (String.ofList (argument.toList.drop start.length))
  else none

/-- Whether an argument is a path or a value and not the name of an option: it does not start with a
dash, or is nothing else. -/
def isPlainArgument (argument : String) : Bool :=
  argument.toList.head? != some '-' || argument = "-"

namespace Invocation

/-- The rest of the arguments as paths. -/
def ofPaths (s : ArgumentState) : List String → Invocation
  | [] => s.finish
  | path :: rest =>
    match s.takeScene? path with
    | some s => ofPaths s rest
    | none => usageError

/-- The meaning of arguments after those read so far. -/
def ofRest (s : ArgumentState) : List String → Invocation
  | [] => s.finish
  | "--" :: rest => ofPaths s rest
  | "--zoom" :: value :: rest =>
    if isPlainArgument value then
      match s.takeZoom? value with
      | some s => ofRest s rest
      | none => usageError
    else usageError
  | argument :: rest =>
    if isPlainArgument argument then
      match s.takeScene? argument with
      | some s => ofRest s rest
      | none => usageError
    else if argument = "--help" ∨ "-h".toList.isPrefixOf argument.toList then help
    else if argument = "--version" ∨ "-V".toList.isPrefixOf argument.toList then version
    else
      match zoomValue? argument with
      | some value =>
        match s.takeZoom? value with
        | some s => ofRest s rest
        | none => usageError
      | none =>
        match s.takeFlag? argument with
        | some s => ofRest s rest
        | none => usageError

/-- The meaning of a command line. -/
def ofArguments (arguments : List String) : Invocation := ofRest {} arguments

end Invocation

end Portrayal
