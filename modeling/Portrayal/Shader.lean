import Portrayal.Json.Basic
import Portrayal.Notice
import Portrayal.Text.Quoted

/-!
Style sheet rules. A rule names a property and evaluates to a value, or to nothing, in a situation:
the attributes of a feature, a zoom level and the outcome of a feature filter. A shader is a list of
rules with an optional filter. Restricting a rule to zoom levels or to accepted features wraps its
evaluator and gives it a record of its own; copies of a rule share its record.
-/

namespace Portrayal

/-- The attributes of a feature, in order of their names. -/
structure Attributes where
  entries : List (String × Json)
  deriving Inhabited

namespace Attributes

/-- No attribute at all. -/
def empty : Attributes := ⟨[]⟩

/-- The value of an attribute. -/
def get? (a : Attributes) (name : String) : Option Json := a.entries.lookup name

/-- The attributes with one of them set. -/
def insert (a : Attributes) (name : String) (value : Json) : Attributes :=
  ⟨Json.insertMember name value a.entries⟩

theorem get?_insert (a : Attributes) (name key : String) (value : Json) :
    (a.insert name value).get? key = if key = name then some value else a.get? key :=
  Json.lookup_insertMember name key value a.entries

/-- The attributes that a document holds. -/
def ofJson? (json : Json) : Option Attributes :=
  match json.held? with
  | some (.object members) => some ⟨members⟩
  | _ => none

/-- The attributes in a document. -/
def toJson (a : Attributes) : Json := .object a.entries

end Attributes

/-- What a rule is evaluated against. -/
structure Situation where
  attributes : Attributes
  zoom : Float
  /-- What the shader's filter says about the feature, if it says anything. -/
  filter : Option Bool

/-- The value of a rule in a situation, if the rule applies. -/
abbrev Evaluator := Situation → Option Value

namespace Evaluator

/-- Always the same value. -/
def constant (v : Value) : Evaluator := fun _ => some v

/-- The value of an attribute, if a style can take it. -/
def ofAttribute (name : String) : Evaluator := fun s =>
  (s.attributes.get? name).bind Value.ofJson?

/-- Only between two zoom levels, both included; an absent bound does not restrict. -/
def zoomRange (least greatest : Option Float) (e : Evaluator) : Evaluator := fun s =>
  if least.all (fun z => s.zoom ≥ z) && greatest.all (fun z => s.zoom ≤ z) then e s else none

/-- Not for features that the filter rejects. -/
def filtered (e : Evaluator) : Evaluator := fun s =>
  if s.filter = some false then none else e s

end Evaluator

/-- A supply of record identities. -/
structure RecordSupply where
  next : Nat
  deriving Repr

namespace RecordSupply

/-- No identity given out yet. -/
def initial : RecordSupply := ⟨0⟩

/-- An identity that was not given out before. -/
def fresh : StateM RecordSupply RecordId := fun s => (⟨s.next⟩, ⟨s.next + 1⟩)

end RecordSupply

/-- A rule: a property of the style sheet and how to evaluate it. -/
structure Rule where
  property : String
  evaluator : Evaluator
  /-- The record of the kinds that do not know the property. -/
  record : RecordId

namespace Rule

/-- A rule with a record of its own. -/
def make (property : String) (evaluator : Evaluator) : StateM RecordSupply Rule := do
  let record ← RecordSupply.fresh
  return { property, evaluator, record }

/-- The value of a rule in a situation. -/
def evaluate (r : Rule) (s : Situation) : Option Value := r.evaluator s

/-- A rule restricted to zoom levels. -/
def zoomRange (r : Rule) (least greatest : Option Float) : StateM RecordSupply Rule :=
  make r.property (r.evaluator.zoomRange least greatest)

/-- A rule restricted to features that the filter does not reject. -/
def filtered (r : Rule) : StateM RecordSupply Rule := make r.property r.evaluator.filtered

end Rule

/-- An ordered list of rules with an optional filter on feature identities. -/
structure Shader where
  rules : List Rule
  filter : Option (Int → Bool)

namespace Shader

/-- A shader without a filter. -/
def ofRules (rules : List Rule) : Shader := ⟨rules, none⟩

/-- A shader with a filter. -/
def withFilter (s : Shader) (filter : Int → Bool) : Shader := { s with filter := some filter }

/-- A shader with one more rule at the end. -/
def push (s : Shader) (r : Rule) : Shader := { s with rules := s.rules ++ [r] }

/-- What the filter says about a feature, if there is a filter. -/
def filterFor (s : Shader) (feature : Int) : Option Bool := s.filter.map (· feature)

/-- The properties of the rules in order. -/
def properties (s : Shader) : List String := s.rules.map Rule.property

/-- A one-line listing of the rules and of whether there is a filter. -/
def listing (s : Shader) : String :=
  let rule (r : Rule) :=
    "ShaderRule \x7b property: " ++ Text.quote r.property ++ ", .. \x7d"
  "Shader \x7b rules: [" ++ String.intercalate ", " (s.rules.map rule) ++ "], feature_filter: " ++
    toString s.filter.isSome ++ " \x7d"

end Shader

end Portrayal
