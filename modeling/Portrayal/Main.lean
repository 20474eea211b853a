import Portrayal.Program

/-!
The command line program. It reads the arguments and the scene file, runs the program as a function,
and prints what that shows.
-/

namespace Portrayal

/-- The fault of reading a file, in the terms of the program. -/
def fileFault (e : IO.Error) : FileFault :=
  match e with
  | .noFileOrDirectory .. => .notFound
  | .inappropriateType .. => .isDirectory
  | e => .other (toString e)

/-- The bytes of a file. -/
def readBytes (path : String) : IO (Except FileFault ByteArray) := do
  try
    let bytes ← IO.FS.readBinFile path
    return .ok bytes
  catch e => return .error (fileFault e)

end Portrayal

/-- Run the program on its arguments. -/
def main (arguments : List String) : IO UInt32 := do
  let content ←
    match Portrayal.Invocation.ofArguments arguments with
    | .run options => Portrayal.readBytes options.scene
    | _ => pure (.error .notFound)
  let transcript := Portrayal.runProgram arguments fun _ => content
  (← IO.getStdout).putStr transcript.stdout
  (← IO.getStderr).putStr transcript.stderr
  return UInt32.ofNat transcript.exit
