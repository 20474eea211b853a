import Portrayal.Json.Basic

/-!
Reading records from documents. A record has declared fields; an object gives them by name, an array
by position. A declared name may occur once only. A strict record refuses names it does not declare,
a lenient one skips them together with whatever they hold.
-/

namespace Portrayal.Json

/-- Whether a record refuses members it does not declare. -/
inductive Strictness where
  | strict
  | lenient
  deriving DecidableEq, Repr

/-- The declared fields that a document gives. -/
structure Fields where
  given : List (String × Json)

/-- The fields of a record with these declared names. -/
def fields? (strictness : Strictness) (names : List String) : Json → Option Fields
  | object members =>
    let known := members.filter fun m => names.contains m.1
    let once := names.all fun name => (known.filter fun m => m.1 == name).length ≤ 1
    if once && (strictness == .lenient || known.length == members.length) then some ⟨known⟩
    else none
  | array items => if items.length ≤ names.length then some ⟨names.zip items⟩ else none
  | _ => none

/-- The document of a field, if it is given. -/
def Fields.get? (fields : Fields) (name : String) : Option Json := fields.given.lookup name

/-- A field that has to be given. -/
def Fields.required? {α : Type} (fields : Fields) (name : String) (read : Json → Option α) :
    Option α :=
  (fields.get? name).bind read

/-- A field with a value for when it is not given. -/
def Fields.orElse? {α : Type} (fields : Fields) (name : String) (fallback : α)
    (read : Json → Option α) : Option α :=
  match fields.get? name with
  | some json => read json
  | none => some fallback

/-- A field that may be left out or `null`. -/
def Fields.optional? {α : Type} (fields : Fields) (name : String) (read : Json → Option α) :
    Option (Option α) :=
  match fields.get? name with
  | none | some null => some none
  | some json => (read json).map some

/-- A truth value. -/
def bool? : Json → Option Bool
  | bool b => some b
  | _ => none

/-- A string. -/
def text? : Json → Option String
  | text s => some s
  | _ => none

/-- A number, whole or not, as a float. -/
def float? : Json → Option Float
  | float x => some x
  | integer n => some (Float.ofInt n)
  | _ => none

/-- A whole number between two bounds. -/
def integerIn? (least greatest : Int) : Json → Option Int
  | integer n => if least ≤ n ∧ n ≤ greatest then some n else none
  | _ => none

/-- A whole number that 64 bits hold with a sign. -/
def int64? : Json → Option Int := integerIn? (-0x8000000000000000) 0x7fffffffffffffff

/-- A whole number below `2 ^ 32`. -/
def uint32? (json : Json) : Option UInt32 :=
  (integerIn? 0 0xffffffff json).map fun n => UInt32.ofNat n.toNat

/-- A whole number below `2 ^ 8`. -/
def uint8? (json : Json) : Option UInt8 :=
  (integerIn? 0 0xff json).map fun n => UInt8.ofNat n.toNat

/-- The results of a reader on every document of a list; none if one of them is refused. -/
def each? {α : Type} (read : Json → Option α) : List Json → Option (List α)
  | [] => some []
  | item :: rest => do
    let item ← read item
    let rest ← each? read rest
    some (item :: rest)

/-- An array of any length. -/
def list? {α : Type} (read : Json → Option α) : Json → Option (List α)
  | array items => each? read items
  | _ => none

/-- An array of two. -/
def pair? {α : Type} (read : Json → Option α) : Json → Option (α × α)
  | array [a, b] => do
    let a ← read a
    let b ← read b
    some (a, b)
  | _ => none

/-- One of the named choices: its name, or an object with that name alone and `null` in it. -/
def choice? {α : Type} (ofName? : String → Option α) : Json → Option α
  | text name => ofName? name
  | object [(name, null)] => ofName? name
  | _ => none

end Portrayal.Json
