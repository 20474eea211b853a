import Portrayal.Program
import Portrayal.Proofs.Drawing

/-!
Sublayers drawn one after another into one display list. What a sublayer records, and whether it stops,
is the same whatever the list holds and whichever surfaces are active in it; and the drawing goes on
after a sublayer that stops. Main statement: the list grows by what each sublayer records when it is
drawn alone, in order, and the failures are those of the sublayers that stop when they are drawn alone.
-/

namespace Portrayal

namespace Sublayer

/-- A sublayer drawn into a display list of its own. -/
def alone (s : Sublayer) (pass : Pass) : Outcome (Sublayer × DisplayList) := s.redraw pass .empty

/-- The name under which a failure of a sublayer is reported: its identity, and nothing once it is
destroyed. -/
def reportedName (s : Sublayer) : String := (s.id?.toOption).getD ""

variable (s : Sublayer) (pass : Pass) (list : DisplayList)

/-- A sublayer stops in a shared list exactly as it does alone. -/
theorem fault_redraw : (s.redraw pass list).fault = (s.alone pass).fault := by
  rw [alone, (s.redraw_follows pass list).1, (s.redraw_follows pass .empty).1]

/-- A sublayer adds to a shared list what it records alone. -/
theorem commands_redraw : (s.redraw pass list).state.2.commands.toList =
    list.commands.toList ++ (s.alone pass).state.2.commands.toList := by
  have hempty : DisplayList.empty.commands.toList = [] := rfl
  rw [alone, (s.redraw_follows pass list).2, (s.redraw_follows pass .empty).2, hempty,
    List.nil_append]

/-- Drawing a sublayer does not change the name under which it is reported. -/
theorem reportedName_redraw : (s.redraw pass list).state.1.reportedName = s.reportedName := by
  rcases s.drawn_or_idle with hidle | ⟨c, hlive, hvisible⟩
  · rw [(redraw_of_idle hidle pass list).1]
  · rw [redraw_of_visible hlive hvisible]
    simp [reportedName, id?, whileLive, hlive]

end Sublayer

variable (pass : Pass)

theorem drawSublayers_cons (s : Sublayer) (rest : List Sublayer) (list : DisplayList) :
    (drawSublayers pass (s :: rest) list).list =
      (drawSublayers pass rest (s.redraw pass list).state.2).list := rfl

/-- The list grows by what each of the sublayers records alone. -/
theorem commands_drawSublayers : ∀ (sublayers : List Sublayer) (list : DisplayList),
    (drawSublayers pass sublayers list).list.commands.toList = list.commands.toList ++
      sublayers.flatMap fun s => (s.alone pass).state.2.commands.toList
  | [], _ => (List.append_nil _).symm
  | s :: rest, list => by
    rw [drawSublayers_cons, commands_drawSublayers rest, s.commands_redraw pass list,
      List.flatMap_cons, List.append_assoc]

/-- The failures are those of the sublayers that fail alone. -/
theorem failures_drawSublayers : ∀ (sublayers : List Sublayer) (list : DisplayList),
    (drawSublayers pass sublayers list).failures = sublayers.filterMap fun s =>
      (s.alone pass).fault.map fun fault => (s.reportedName, fault)
  | [], _ => rfl
  | s :: rest, list => by
    have hrest := failures_drawSublayers rest (s.redraw pass list).state.2
    have hfault := s.fault_redraw pass list
    have hname := s.reportedName_redraw pass list
    rw [List.filterMap_cons, ← hfault, ← hrest]
    cases hs : (s.redraw pass list).fault with
    | none => simp only [drawSublayers, hs, Option.map_none, List.nil_append]
    | some fault =>
      simp only [drawSublayers, hs, Option.map_some, ← hname, List.singleton_append]
      rfl

theorem drawSublayers_append : ∀ (before after : List Sublayer) (list : DisplayList),
    (drawSublayers pass (before ++ after) list).list =
      (drawSublayers pass after (drawSublayers pass before list).list).list
  | [], _, _ => rfl
  | s :: before, after, list => drawSublayers_append before after (s.redraw pass list).state.2

/-- Sublayers that are drawn in order into one list, from whatever it holds, do not see each other. The
list grows by what each of them records alone, in order, and the failures are those of the ones that
stop alone. When it is the turn of one of them, it stops exactly as it does alone and adds what it
records alone, and the drawing goes on from there. -/
theorem drawSublayers_isolated (sublayers : List Sublayer) (list : DisplayList) :
    let drawing := drawSublayers pass sublayers list
    drawing.list.commands.toList = list.commands.toList ++
        (sublayers.flatMap fun s => (s.alone pass).state.2.commands.toList) ∧
      drawing.failures = (sublayers.filterMap fun s =>
        (s.alone pass).fault.map fun fault => (s.reportedName, fault)) ∧
      ∀ before s after, sublayers = before ++ s :: after →
        let earlier := (drawSublayers pass before list).list
        let turn := s.redraw pass earlier
        turn.fault = (s.alone pass).fault ∧
          turn.state.2.commands.toList =
            earlier.commands.toList ++ (s.alone pass).state.2.commands.toList ∧
          drawing.list = (drawSublayers pass after turn.state.2).list := by
  refine ⟨commands_drawSublayers pass sublayers list, failures_drawSublayers pass sublayers list, ?_⟩
  rintro before s after rfl
  refine ⟨s.fault_redraw pass _, s.commands_redraw pass _, ?_⟩
  rw [drawSublayers_append, drawSublayers_cons]

/-- The program ends with a failure exactly if one of the sublayers stops when it is drawn alone. -/
theorem exit_drawScene (options : RunOptions) (zoom : Float) (notices : List Notice)
    (loaded : LoadedScene) : (drawScene options zoom notices loaded).exit =
      if ∃ s ∈ loaded.sublayers, (s.alone ⟨loaded.layer, zoom⟩).fault.isSome then 1 else 0 := by
  have hfailures := failures_drawSublayers ⟨loaded.layer, zoom⟩ loaded.sublayers .empty
  by_cases h : ∃ s ∈ loaded.sublayers, (s.alone ⟨loaded.layer, zoom⟩).fault.isSome
  · have hsome : (drawSublayers ⟨loaded.layer, zoom⟩ loaded.sublayers .empty).failures ≠ [] := by
      obtain ⟨s, hs, hfault⟩ := h
      obtain ⟨fault, hfault⟩ := Option.isSome_iff_exists.mp hfault
      rw [hfailures]
      exact List.ne_nil_of_mem (List.mem_filterMap.mpr ⟨s, hs, by rw [hfault]; rfl⟩)
    rw [if_pos h]
    simp [drawScene, hsome]
  · have hnone : (drawSublayers ⟨loaded.layer, zoom⟩ loaded.sublayers .empty).failures = [] := by
      rw [hfailures, List.filterMap_eq_nil_iff]
      intro s hs
      have hfault : (s.alone ⟨loaded.layer, zoom⟩).fault = none :=
        Option.not_isSome_iff_eq_none.mp fun hfault => h ⟨s, hs, hfault⟩
      rw [hfault]
      rfl
    rw [if_neg h]
    simp [drawScene, hnone]

end Portrayal
