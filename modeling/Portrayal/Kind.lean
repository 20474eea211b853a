/-!
Geometry kinds. The kind of a feature selects which style properties exist for it.
-/

namespace Portrayal

/-- The kind of a geometry. -/
inductive Kind where
  | point
  | line
  | region
  | text
  deriving DecidableEq, Repr, Inhabited

namespace Kind

/-- All kinds in order. -/
def all : List Kind := [point, line, region, text]

/-- The written name of a kind. -/
def name : Kind → String
  | point => "POINT"
  | line => "LINE"
  | region => "REGION"
  | text => "TEXT"

/-- The kind with a written name. -/
def ofName? (s : String) : Option Kind := all.find? fun k => k.name == s

end Kind

end Portrayal
