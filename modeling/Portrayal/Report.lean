import Portrayal.Decimal.Layout
import Portrayal.DisplayList
import Portrayal.Json.Writer

/-!
Reports on the terminal: a display list as lines or as a document, failures in red, and a fault with
its causes. Colors are terminal codes around a text and can be switched off.
-/

namespace Portrayal

/-- The looks of a piece of text. -/
inductive Look where
  | bold
  | dimmed
  | red
  | green
  | cyan
  | boldYellow
  deriving DecidableEq, Repr

/-- The terminal code of a look. -/
def Look.code : Look → String
  | bold => "1"
  | dimmed => "2"
  | red => "31"
  | green => "32"
  | cyan => "36"
  | boldYellow => "33;1"

/-- A text in a look, or as it is when colors are off. -/
def paint (colored : Bool) (look : Look) (text : String) : String :=
  if colored then "\x1b[" ++ look.code ++ "m" ++ text ++ "\x1b[0m" else text

/-- The lines of a command. -/
def Command.lines (colored : Bool) : Command → List String
  | .bind surfaces =>
    [paint colored .dimmed ("bind context=" ++ toString surfaces.context.toNat ++ " hit=" ++
      toString surfaces.hitContext.toNat)]
  | .draw d =>
    let order := d.layerIndex.elim "-" fun i => toString i.toNat
    let header := "draw #" ++ toString d.feature ++ " " ++ d.kind.name ++ " order=" ++ order
    let title :=
      if d.highlighted then paint colored .boldYellow (header ++ " [highlight]")
      else paint colored .green header
    title :: d.style.entries.map fun (p, v) =>
      "  " ++ paint colored .cyan p.name ++ ": " ++ v.shown

/-- The lines of a display list, under a heading. -/
def DisplayList.lines (colored : Bool) (zoom : Float) (l : DisplayList) : List String :=
  paint colored .bold ("=== Display List (zoom " ++ zoom.plainText ++ ", " ++
    toString l.commands.size ++ " commands) ===") ::
  l.commands.toList.flatMap (Command.lines colored)

/-- Lines with a line break behind each. -/
def unlines (lines : List String) : String := String.join (lines.map (· ++ "\n"))

/-- A cause with its number in front, if there are several; further lines of it are indented below
the first one. -/
def causeText (number : Option Nat) (cause : String) : String :=
  let start :=
    match number with
    | some n =>
      let digits := toString n
      String.ofList (List.replicate (5 - digits.length) ' ') ++ digits ++ ": "
    | none => "    "
  let indent := if number.isSome then "       " else "    "
  start ++ String.ofList (cause.toList.flatMap fun c =>
    if c = '\n' then '\n' :: indent.toList else [c])

/-- Causes, numbered from `n` on. -/
def numberedCauses (n : Nat) : List String → List String
  | [] => []
  | cause :: rest => causeText (some n) cause :: numberedCauses (n + 1) rest

/-- A fault that ends the program: what happened and, below it, why. -/
def faultReport : List String → String
  | [] => ""
  | [top] => "Error: " ++ top ++ "\n"
  | [top, cause] =>
    "Error: " ++ top ++ "\n\nCaused by:\n" ++ unlines [causeText none cause]
  | top :: causes => "Error: " ++ top ++ "\n\nCaused by:\n" ++ unlines (numberedCauses 0 causes)

end Portrayal
