import Portrayal.Decimal.Layout

/-!
JSON documents. Whole numbers and floats are told apart, an object keeps its members in order and
may name one twice, and `unheld` marks text that is well formed but that no value can hold: a number
beyond the largest float, a string with half a surrogate pair, or nesting of 128 levels. A reader
that skips a member never looks at such a value; every other reader refuses it.
-/

namespace Portrayal

/-- A JSON document. -/
inductive Json where
  | null
  | bool (value : Bool)
  | integer (value : Int)
  | float (value : Float)
  | text (value : String)
  | array (items : List Json)
  | object (members : List (String × Json))
  | unheld
  deriving Inhabited

namespace Json

/-- How a document shows floats: positionally while the first digit has a weight from `10 ^ -5` to
`10 ^ 15`, always recognisable as a float, even digits on ties, and `null` for what is not finite. -/
def floatLayout : Decimal.Layout where
  positional leading := -5 ≤ leading ∧ leading ≤ 15
  keepPoint := true
  tieUp := false
  nan := "null"
  infinity := "null"
  minusInfinity := "null"

/-- The deepest nesting that a value holds. -/
def maxDepth : Nat := 127

/-- The value of the last member with this name. -/
def member? (name : String) : Json → Option Json
  | object members => members.reverse.lookup name
  | _ => none

/-- A member list with one more entry, in order of names; an entry of that name is replaced. -/
def insertMember (name : String) (value : Json) :
    List (String × Json) → List (String × Json)
  | [] => [(name, value)]
  | (key, old) :: rest =>
    if name < key then (name, value) :: (key, old) :: rest
    else if name = key then (name, value) :: rest
    else (key, old) :: insertMember name value rest

theorem lookup_cons (name key : String) (value : Json) (members : List (String × Json)) :
    ((name, value) :: members).lookup key =
      if key = name then some value else members.lookup key := by
  rw [List.lookup_cons]
  by_cases h : key = name
  · rw [if_pos h, beq_iff_eq.mpr h]
  · rw [if_neg h, beq_eq_false_iff_ne.mpr h]

/-- An entry that is set is there, and no other one changes. -/
theorem lookup_insertMember (name key : String) (value : Json) :
    ∀ members : List (String × Json), (insertMember name value members).lookup key =
      if key = name then some value else members.lookup key
  | [] => lookup_cons name key value []
  | (first, old) :: members => by
    have ih := lookup_insertMember name key value members
    rw [insertMember]
    split
    · exact lookup_cons name key value _
    · split
      · rename_i hfirst
        subst hfirst
        rw [lookup_cons, lookup_cons]
        by_cases h : key = name
        · rw [if_pos h, if_pos h]
        · rw [if_neg h, if_neg h, if_neg h]
      · rename_i hfirst
        rw [lookup_cons, lookup_cons, ih]
        by_cases h : key = first
        · rw [if_pos h, if_pos h, if_neg (fun e => hfirst (e.symm.trans h))]
        · rw [if_neg h, if_neg h]

mutual

/-- The document with every object in order of names, each name once and with its last value; none
if some part of it cannot be held. -/
def held? : Json → Option Json
  | null => some null
  | bool b => some (bool b)
  | integer n => some (integer n)
  | float x => some (float x)
  | text s => some (text s)
  | array items => (heldItems? items).map array
  | object members => (heldMembers? members).map object
  | unheld => none

/-- The items of an array, held. -/
def heldItems? : List Json → Option (List Json)
  | [] => some []
  | item :: rest => do
    let item ← held? item
    let rest ← heldItems? rest
    some (item :: rest)

/-- The members of an object, held: an earlier member of the same name gives way. -/
def heldMembers? : List (String × Json) → Option (List (String × Json))
  | [] => some []
  | (name, value) :: rest => do
    let value ← held? value
    let rest ← heldMembers? rest
    some (if (rest.lookup name).isSome then rest else insertMember name value rest)

end

end Json

end Portrayal
