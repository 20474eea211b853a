import Portrayal.Notice

/-!
Results of resolution. Resolving a style gives a value and the notices that came up on the way, in
order. Whether a notice is printed is for the journal to say, so a resolution never depends on the
ones before it.
-/

namespace Portrayal

/-- A value together with the notices that came up. -/
structure Noted (α : Type) where
  value : α
  notices : List Notice

namespace Noted

/-- A value that nothing is to be said about. -/
def silent {α : Type} (value : α) : Noted α := ⟨value, []⟩

/-- The same notices with another value. -/
def map {α β : Type} (f : α → β) (n : Noted α) : Noted β := ⟨f n.value, n.notices⟩

@[simp]
theorem value_silent {α : Type} (a : α) : (silent a).value = a := rfl

@[simp]
theorem notices_silent {α : Type} (a : α) : (silent a).notices = [] := rfl

@[simp]
theorem value_map {α β : Type} (f : α → β) (n : Noted α) : (n.map f).value = f n.value := rfl

@[simp]
theorem notices_map {α β : Type} (f : α → β) (n : Noted α) : (n.map f).notices = n.notices := rfl

end Noted

end Portrayal
