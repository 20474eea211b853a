import Portrayal.Json.Escape
import Portrayal.Json.Basic

/-!
Writing a document: compactly, or with every item and member on a line of its own, two blanks deeper
than what it belongs to. Members keep their order.
-/

namespace Portrayal.Json

/-- Texts with a separator between them. -/
def separated (separator : String) : List String → String
  | [] => ""
  | [s] => s
  | s :: rest => s ++ separator ++ separated separator rest

/-- A document that is neither array nor object. -/
def scalarText : Json → String
  | bool true => "true"
  | bool false => "false"
  | integer n => toString n
  | float x => floatLayout.text x
  | text s => quoted s
  | _ => "null"

mutual

/-- A document without blanks. -/
def compact : Json → String
  | array items => "[" ++ separated "," (compactItems items) ++ "]"
  | object members => "\x7b" ++ separated "," (compactMembers members) ++ "\x7d"
  | scalar => scalarText scalar

/-- The items of an array without blanks. -/
def compactItems : List Json → List String
  | [] => []
  | item :: rest => compact item :: compactItems rest

/-- The members of an object without blanks. -/
def compactMembers : List (String × Json) → List String
  | [] => []
  | (name, value) :: rest => (quoted name ++ ":" ++ compact value) :: compactMembers rest

end

/-- A line break and the indentation of a level. -/
def newline (level : Nat) : String := String.ofList ('\n' :: List.replicate (2 * level) ' ')

/-- What stands between two brackets at a level: nothing, or its lines. -/
def block (level : Nat) (parts : List String) : String :=
  if parts.isEmpty then ""
  else newline (level + 1) ++ separated ("," ++ newline (level + 1)) parts ++ newline level

mutual

/-- A document in lines, from a level of indentation on. -/
def prettyAt (level : Nat) : Json → String
  | array items => "[" ++ block level (prettyItems (level + 1) items) ++ "]"
  | object members => "\x7b" ++ block level (prettyMembers (level + 1) members) ++ "\x7d"
  | scalar => scalarText scalar

/-- The items of an array in lines. -/
def prettyItems (level : Nat) : List Json → List String
  | [] => []
  | item :: rest => prettyAt level item :: prettyItems level rest

/-- The members of an object in lines. -/
def prettyMembers (level : Nat) : List (String × Json) → List String
  | [] => []
  | (name, value) :: rest =>
    (quoted name ++ ": " ++ prettyAt level value) :: prettyMembers level rest

end

/-- A document in lines. -/
def pretty (json : Json) : String := prettyAt 0 json

end Portrayal.Json
