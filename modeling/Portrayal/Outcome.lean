import Portrayal.Fault
import Portrayal.Notice

/-!
Outcomes of operations that change something. An operation can fail half way, so an outcome always
carries the state it leaves behind; the fault, if any, says that it stopped there.
-/

namespace Portrayal

/-- What an operation leaves behind. -/
structure Outcome (α : Type) where
  state : α
  notices : List Notice
  fault : Option Fault

namespace Outcome

/-- An operation that went through without a word. -/
def ok {α : Type} (state : α) : Outcome α := ⟨state, [], none⟩

/-- An operation that stopped. -/
def failed {α : Type} (state : α) (fault : Fault) : Outcome α := ⟨state, [], some fault⟩

/-- Whether the operation went through. -/
def succeeded {α : Type} (o : Outcome α) : Bool := o.fault.isNone

/-- The same outcome with more notices in front. -/
def after {α : Type} (o : Outcome α) (notices : List Notice) : Outcome α :=
  { o with notices := notices ++ o.notices }

/-- The same outcome with another state. -/
def map {α β : Type} (f : α → β) (o : Outcome α) : Outcome β := ⟨f o.state, o.notices, o.fault⟩

/-! ### What each operation does to state, notices and fault -/

@[simp]
theorem state_ok {α : Type} (a : α) : (ok a).state = a := rfl

@[simp]
theorem notices_ok {α : Type} (a : α) : (ok a).notices = [] := rfl

@[simp]
theorem fault_ok {α : Type} (a : α) : (ok a).fault = none := rfl

@[simp]
theorem state_failed {α : Type} (a : α) (fault : Fault) : (failed a fault).state = a := rfl

@[simp]
theorem notices_failed {α : Type} (a : α) (fault : Fault) : (failed a fault).notices = [] := rfl

@[simp]
theorem fault_failed {α : Type} (a : α) (fault : Fault) :
    (failed a fault).fault = some fault := rfl

@[simp]
theorem state_after {α : Type} (o : Outcome α) (ns : List Notice) :
    (o.after ns).state = o.state := rfl

@[simp]
theorem notices_after {α : Type} (o : Outcome α) (ns : List Notice) :
    (o.after ns).notices = ns ++ o.notices := rfl

@[simp]
theorem fault_after {α : Type} (o : Outcome α) (ns : List Notice) :
    (o.after ns).fault = o.fault := rfl

@[simp]
theorem state_map {α β : Type} (f : α → β) (o : Outcome α) : (o.map f).state = f o.state := rfl

@[simp]
theorem notices_map {α β : Type} (f : α → β) (o : Outcome α) :
    (o.map f).notices = o.notices := rfl

@[simp]
theorem fault_map {α β : Type} (f : α → β) (o : Outcome α) : (o.map f).fault = o.fault := rfl

end Outcome

end Portrayal
