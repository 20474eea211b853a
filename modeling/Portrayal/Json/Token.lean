import Portrayal.Json.Escape
import Portrayal.Json.Numeral

/-!
Tokens of JSON text: punctuation, strings, and words. A word is a maximal run of characters that
are neither blank nor punctuation nor a quote; it has to be a literal or a numeral. The scan is one
pass over the characters in one of three modes.
-/

namespace Portrayal.Json

/-- A token. A string whose surrogates do not pair up has no value. -/
inductive Token where
  | openArray
  | closeArray
  | openObject
  | closeObject
  | colon
  | comma
  | string (value : Option String)
  | literal (value : Json)

/-- What the scan is in the middle of; the characters so far are in reverse order. -/
inductive Mode where
  | between
  | word (read : List Char)
  | string (read : List Char) (escaped : Bool)

/-- Whether a character may stand between tokens. -/
def isGap (c : Char) : Bool := c == ' ' || c == '\n' || c == '\t' || c == '\r'

/-- The token that a punctuation character is. -/
def punctuation? (c : Char) : Option Token :=
  match c with
  | '[' => some .openArray
  | ']' => some .closeArray
  | '\x7b' => some .openObject
  | '\x7d' => some .closeObject
  | ':' => some .colon
  | ',' => some .comma
  | _ => none

/-- The token that a word is. -/
def Token.ofWord? (cs : List Char) : Option Token :=
  match String.ofList cs with
  | "null" => some (.literal .null)
  | "true" => some (.literal (.bool true))
  | "false" => some (.literal (.bool false))
  | _ => (Numeral.ofChars? cs).map fun n => .literal n.value

/-- The token that the inside of a string is. -/
def Token.ofInside? (cs : List Char) : Option Token :=
  (pieces? cs).map fun pieces => .string ((joinPieces? pieces).map String.ofList)

/-- One character seen between tokens: the tokens it completes and the mode after it. -/
def Token.start (c : Char) : List Token × Mode :=
  if isGap c then ([], .between)
  else if c = '"' then ([], .string [] false)
  else
    match punctuation? c with
    | some t => ([t], .between)
    | none => ([], .word [c])

/-- One character of the scan: the tokens it completes and the mode after it. -/
def Token.step (mode : Mode) (c : Char) : Option (List Token × Mode) :=
  match mode with
  | .between => some (Token.start c)
  | .word read =>
    let (tokens, next) := Token.start c
    match next with
    | .word _ => some ([], .word (c :: read))
    | _ => (Token.ofWord? read.reverse).map fun t => (t :: tokens, next)
  | .string read true => some ([], .string (c :: read) false)
  | .string read false =>
    if c = '"' then (Token.ofInside? read.reverse).map fun t => ([t], .between)
    else some ([], .string (c :: read) (c == '\\'))

/-- The tokens from a mode on, behind those found already, which are in reverse order. -/
def Token.scan? (mode : Mode) (found : List Token) : List Char → Option (List Token)
  | [] =>
    match mode with
    | .between => some found.reverse
    | .word read => (Token.ofWord? read.reverse).map fun t => (t :: found).reverse
    | .string _ _ => none
  | c :: rest =>
    match Token.step mode c with
    | some (tokens, next) => Token.scan? next (tokens.reverse ++ found) rest
    | none => none

/-- The tokens of a text. -/
def Token.ofString? (s : String) : Option (List Token) := Token.scan? .between [] s.toList

end Portrayal.Json
