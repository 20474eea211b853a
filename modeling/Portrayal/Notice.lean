import Portrayal.Kind
import Portrayal.Value

/-!
Notices and the journal. Resolving a style never fails over input that it has to ignore; it gives
notice of it. The journal prints each distinct warning once, and for a rule whose property a kind
does not know it keeps a record per rule, so that the warning is not even composed a second time.
Clearing the journal forgets the warnings and keeps the records.
-/

namespace Portrayal

/-- The identity of a rule's record of the kinds that do not know its property. -/
structure RecordId where
  value : Nat
  deriving DecidableEq, Repr

/-- Something that was ignored or replaced by a default. -/
inductive Warning where
  | unmappedProperty (property : String) (kind : Kind)
  | sizeNotNumeric (value : Value)
  | unknownOperation (name : String)
  | labelWithoutTextStyle
  | textStyleOnShape (kind : Kind)
  | indexNotANumber (sublayer : String)
  | indexUnreadable (sublayer text : String)
  /-- A warning of another part of the program. -/
  | other (component message : String)
  deriving Repr

namespace Warning

/-- The part of the program that warns. -/
def component : Warning → String
  | indexNotANumber _ | indexUnreadable _ _ => "Sublayer"
  | other component _ => component
  | _ => "Style"

/-- The text of a warning. -/
def message : Warning → String
  | unmappedProperty property kind =>
    "property `" ++ property ++ "` has no " ++ kind.name ++ " mapping; skipped"
  | sizeNotNumeric value => "text-size `" ++ value.shown ++ "` is not a number; skipped"
  | unknownOperation name =>
    "composite operation `" ++ name ++ "` has no canvas equivalent"
  | labelWithoutTextStyle => "TEXT feature without a text style; using defaults"
  | textStyleOnShape kind => kind.name ++ " feature given a text style; using defaults"
  | indexNotANumber sublayer => "'" ++ sublayer ++ "': NaN index ignored"
  | indexUnreadable sublayer text =>
    "'" ++ sublayer ++ "': index '" ++ text ++ "' is not a number; ignored"
  | other _ message => message

/-- What makes two warnings the same. -/
def key (w : Warning) : String := "[" ++ w.component ++ "] " ++ w.message

/-- The printed line of a warning, in yellow. -/
def line (w : Warning) : String :=
  "\x1b[33m[Carto " ++ w.component ++ "] ⚠ " ++ w.message ++ "\x1b[39m\n"

end Warning

/-- What resolution reports: a warning, or a rule property that a kind does not know. -/
inductive Notice where
  | warning (w : Warning)
  | unmapped (record : RecordId) (property : String) (kind : Kind)
  deriving Repr

/-- What has been reported so far. -/
structure Journal where
  /-- The keys of the warnings printed since the last clearing. -/
  printed : List String
  /-- The kinds marked in each record. -/
  marked : List (RecordId × Kind)
  /-- The printed lines, oldest first. -/
  lines : List String
  deriving Repr

namespace Journal

/-- Nothing reported yet. -/
def empty : Journal := ⟨[], [], []⟩

/-- Print a warning unless the same one was printed before. -/
def warn (j : Journal) (w : Warning) : Journal :=
  if j.printed.contains w.key then j
  else { j with printed := w.key :: j.printed, lines := j.lines ++ [w.line] }

/-- Whether a kind is marked in a record. -/
def isMarked (j : Journal) (record : RecordId) (kind : Kind) : Bool :=
  j.marked.contains (record, kind)

/-- Mark a kind in a record. -/
def mark (j : Journal) (record : RecordId) (kind : Kind) : Journal :=
  if j.isMarked record kind then j else { j with marked := (record, kind) :: j.marked }

/-- Enter one notice. -/
def enter (j : Journal) : Notice → Journal
  | .warning w => j.warn w
  | .unmapped record property kind =>
    if j.isMarked record kind then j
    else (j.mark record kind).warn (.unmappedProperty property kind)

/-- Enter notices in order. -/
def enterAll (j : Journal) (notices : List Notice) : Journal := notices.foldl enter j

/-- Forget which warnings were printed. -/
def clear (j : Journal) : Journal := { j with printed := [] }

/-- All that was printed. -/
def text (j : Journal) : String := String.join j.lines

end Journal

end Portrayal
