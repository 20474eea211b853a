import Portrayal.Property
import Portrayal.Value

/-!
Drawing styles. A style gives some of the canvas properties a value. It is a row of slots, one for
each property, so two styles with the same values are the same style however they were written, and
a style is always listed in the order of the properties.
-/

namespace Portrayal

/-- A partial assignment of values to canvas properties. -/
structure Style where
  slots : Vector (Option Value) Property.count
  deriving BEq, Repr, Inhabited

namespace Style

/-- The style that sets nothing. -/
def empty : Style := ⟨Vector.replicate Property.count none⟩

/-- The value of a property, if it is set. -/
def get? (s : Style) (p : Property) : Option Value := s.slots[p.index]

/-- The style with one property set, whatever it was before. -/
def set (s : Style) (p : Property) (v : Value) : Style := ⟨s.slots.set p.index (some v)⟩

/-- Whether a property is set. -/
def contains (s : Style) (p : Property) : Bool := (s.get? p).isSome

/-- The properties that are set, with their values, in order. -/
def entries (s : Style) : List (Property × Value) :=
  Property.all.filterMap fun p => (s.get? p).map fun v => (p, v)

/-- The number of properties that are set. -/
def size (s : Style) : Nat := s.entries.length

/-- Whether no property is set. -/
def isEmpty (s : Style) : Bool := s.entries.isEmpty

/-- The style written by a list of entries, later ones over earlier ones. -/
def ofEntries (entries : List (Property × Value)) : Style :=
  entries.foldl (fun s entry => s.set entry.1 entry.2) empty

/-- A style with the values of another one written over it. -/
def overlay (base top : Style) : Style :=
  ⟨Vector.ofFn fun i => top.slots[i] <|> base.slots[i]⟩

/-- The number that a property is set to, if it is one. -/
def number? (s : Style) (p : Property) : Option Float := (s.get? p).bind Value.number?

/-- The text that a property is set to, if it is one. -/
def text? (s : Style) (p : Property) : Option String := (s.get? p).bind Value.text?

/-- The style in a document, in the order of the properties. -/
def toJson (s : Style) : Json :=
  .object (s.entries.map fun (p, v) => (p.name, v.toJson))

@[ext]
theorem ext {s t : Style} (h : ∀ p, s.get? p = t.get? p) : s = t := by
  cases s with | mk a =>
  cases t with | mk b =>
  congr 1
  apply Vector.ext
  intro i hi
  have := h (Property.atIndex ⟨i, hi⟩)
  simpa [get?] using this

@[simp]
theorem get?_empty (p : Property) : empty.get? p = none := by
  simp [get?, empty]

theorem get?_set (s : Style) (p q : Property) (v : Value) :
    (s.set p v).get? q = if p = q then some v else s.get? q := by
  simp only [get?, set, Fin.getElem_fin, Vector.getElem_set]
  by_cases h : p = q
  · subst h; simp
  · have : ¬ p.index.val = q.index.val := fun e => h (Property.index_inj.1 (Fin.ext e))
    simp [h, this]

@[simp]
theorem get?_set_self (s : Style) (p : Property) (v : Value) : (s.set p v).get? p = some v := by
  simp [get?_set]

theorem get?_set_of_ne {p q : Property} (h : p ≠ q) (s : Style) (v : Value) :
    (s.set p v).get? q = s.get? q := (get?_set s p q v).trans (if_neg h)

theorem get?_overlay (base top : Style) (p : Property) :
    (base.overlay top).get? p = (top.get? p <|> base.get? p) := by
  simp [get?, overlay]

end Style

end Portrayal
