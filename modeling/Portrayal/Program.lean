import Portrayal.Arguments
import Portrayal.Report
import Portrayal.Scene.Load

/-!
The program as a function: from arguments and files to an exit code and two texts. It loads a scene,
draws all its sublayers in order into one display list, goes on after one that fails, and prints the
list.
-/

namespace Portrayal

/-- Why a file cannot be read. -/
inductive FileFault where
  | notFound
  | isDirectory
  | notADirectory
  | notText
  | other (message : String)

/-- The text of a file fault. -/
def FileFault.message : FileFault → String
  | notFound => "No such file or directory (os error 2)"
  | isDirectory => "Is a directory (os error 21)"
  | notADirectory => "Not a directory (os error 20)"
  | notText => "stream did not contain valid UTF-8"
  | other message => message

/-- What a run of the program shows. -/
structure Transcript where
  exit : Nat
  stdout : String
  stderr : String

/-- The sublayers of a scene after drawing, in order. -/
structure Drawing where
  list : DisplayList
  notices : List Notice
  /-- The identities of the sublayers that failed, with their faults. -/
  failures : List (String × Fault)

/-- Draw sublayers in order into one display list; one that fails does not stop the others. -/
def drawSublayers (pass : Pass) : List Sublayer → DisplayList → Drawing
  | [], list => ⟨list, [], []⟩
  | s :: rest, list =>
    let o := s.redraw pass list
    let more := drawSublayers pass rest o.state.2
    let failure :=
      match o.fault with
      | some fault => [((o.state.1.id?.toOption).getD "", fault)]
      | none => []
    ⟨more.list, o.notices ++ more.notices, failure ++ more.failures⟩

/-- The text that help shows. -/
def helpText : String :=
  "Run the symbolizer over a scene and print the draw calls\n\n" ++
  "Usage: carto [OPTIONS] <SCENE>\n\n" ++
  "Arguments:\n  <SCENE>  Path to the scene file\n\n" ++
  "Options:\n" ++
  "      --zoom <ZOOM>  Zoom level to render at instead of the scene's\n" ++
  "      --json         Print the display list as JSON\n" ++
  "      --no-color     Disable colored output\n" ++
  "  -h, --help         Print help\n" ++
  "  -V, --version      Print version\n"

/-- A run that ends with a fault before anything is drawn. -/
def stopped (notices : List Notice) (chain : List String) : Transcript :=
  ⟨1, "", (Journal.empty.enterAll notices).text ++ faultReport chain⟩

/-- A run that draws a loaded scene. -/
def drawScene (options : RunOptions) (zoom : Float) (notices : List Notice)
    (loaded : LoadedScene) : Transcript :=
  let drawing := drawSublayers ⟨loaded.layer, zoom⟩ loaded.sublayers .empty
  let warnings := (Journal.empty.enterAll (notices ++ drawing.notices)).text
  let shown :=
    if options.json then drawing.list.toJson.pretty ++ "\n"
    else unlines (drawing.list.lines (!options.noColor) zoom)
  let failures := drawing.failures.map fun (id, fault) =>
    paint (!options.noColor) .red (id ++ ": " ++ fault.message)
  if failures.isEmpty then ⟨0, shown, warnings⟩
  else
    ⟨1, shown, warnings ++ unlines failures ++
      faultReport [toString failures.length ++ " sublayer(s) failed to render"]⟩

/-- A run on the text of a scene file. -/
def runScene (options : RunOptions) (text : String) : Transcript :=
  match Scene.read? text with
  | none =>
    stopped [] ["parsing " ++ options.scene, "invalid scene file", "the text is not a scene"]
  | some scene =>
    let result := scene.load
    match result.value with
    | .error fault => stopped result.notices fault.chain
    | .ok loaded => drawScene options (options.zoom.getD scene.zoom) result.notices loaded

/-- A run of the program; `files` gives the bytes of a file. -/
def runProgram (arguments : List String) (files : String → Except FileFault ByteArray) :
    Transcript :=
  match Invocation.ofArguments arguments with
  | .help => ⟨0, helpText, ""⟩
  | .version => ⟨0, "carto 0.1.0\n", ""⟩
  | .usageError => ⟨2, "", "error: invalid arguments; for more information, try '--help'\n"⟩
  | .run options =>
    match files options.scene with
    | .error fault => stopped [] ["reading " ++ options.scene, fault.message]
    | .ok bytes =>
      match String.fromUTF8? bytes with
      | some text => runScene options text
      | none => stopped [] ["reading " ++ options.scene, FileFault.notText.message]

end Portrayal
