/-!
Searching for a fixed text inside another: the leftmost place where it occurs, and the leftmost
place where any of several occurs.
-/

namespace Portrayal.Text

/-- The characters before and after the leftmost occurrence of `token`. -/
def splitAtFirst? (token : List Char) : List Char → Option (List Char × List Char)
  | [] => if token.isEmpty then some ([], []) else none
  | c :: rest =>
    if token.isPrefixOf (c :: rest) then some ([], (c :: rest).drop token.length)
    else (splitAtFirst? token rest).map fun (before, after) => (c :: before, after)

/-- Of two splits of one text, the one whose left part is shorter; the first one if neither is. -/
def earlier (a b : Option (List Char × List Char)) : Option (List Char × List Char) :=
  match a, b with
  | some x, some y => if y.1.length < x.1.length then some y else some x
  | some x, none => some x
  | none, b => b

/-- A text without the leftmost occurrence of any of `tokens`; of two that start at the same place
the one listed first is taken. -/
def removeFirst (tokens : List String) (s : String) : String :=
  match (tokens.map fun token => splitAtFirst? token.toList s.toList).foldl earlier none with
  | some (before, after) => String.ofList (before ++ after)
  | none => s

end Portrayal.Text
