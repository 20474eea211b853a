import Portrayal.Proofs.Drawing

/-!
On whose surfaces a draw lands. Bindings share a display list, and the surfaces that are active in it
are left over from whoever drew last. A ledger follows the list through operations in any order: beside
every command it keeps the binding that recorded it.

        list:     bind 1 2   draw   draw   bind 3 4   draw
        ledger:   roads      roads  roads  parcels    parcels

Main statement: in a ledger every draw stands under a bind of its own binding, with nothing but draws
of that binding in between, and it is on the surfaces of that binding.
-/

namespace Portrayal

/-- An operation on a shared display list, with the sublayer or the binding as it is at that time. -/
inductive DisplayList.Operation where
  | redraw (s : Sublayer) (pass : Pass)
  | render (b : Binding) (pass : Pass) (order : UInt32) (features : List Feature)
  | clear

namespace DisplayList

/-- The display list after an operation, whether it went through or not. -/
def after (list : DisplayList) : Operation → DisplayList
  | .redraw s pass => (s.redraw pass list).state.2
  | .render b pass order features => (b.render pass order features list).state.2.2
  | .clear => list.clear

/-- The commands of a display list that an earlier one did not have. -/
def since (list earlier : DisplayList) : List Command :=
  list.commands.toList.drop earlier.commands.size

theorem since_of_commands {list earlier : DisplayList} {commands : List Command}
    (h : list.commands.toList = earlier.commands.toList ++ commands) :
    list.since earlier = commands := by
  rw [since, h, ← Array.length_toList, List.drop_left]

end DisplayList

/-- A recorded command and the binding that recorded it. -/
structure Entry where
  binding : Binding
  command : Command

/-- The entries of a binding that is drawn. -/
def Binding.entries (b : Binding) (pass : Pass) (order : UInt32) (features : List Feature)
    (list : DisplayList) : List Entry :=
  ((b.render pass order features list).state.2.2.since list).map fun command => ⟨b, command⟩

namespace Sublayer

/-- The entries of bindings that are drawn in order, up to the first one that stops. -/
def entriesOf (pass : Pass) (order : UInt32) :
    List Binding → List Feature → DisplayList → List Entry
  | [], _, _ => []
  | b :: rest, features, list =>
    let drawn := b.render pass order features list
    b.entries pass order features list ++
      match drawn.fault with
      | some _ => []
      | none => entriesOf pass order rest drawn.state.2.1 drawn.state.2.2

/-- The entries of a sublayer that is drawn. -/
def entries (s : Sublayer) (pass : Pass) (list : DisplayList) : List Entry :=
  match s.contents with
  | some c =>
    if s.visible then entriesOf pass s.origin.paintOrder c.bindings c.features list else []
  | none => []

end Sublayer

/-- A display list, and for each of its commands the binding that recorded it. -/
structure Ledger where
  list : DisplayList
  entries : List Entry

namespace Ledger

/-- Nothing recorded. -/
def empty : Ledger := ⟨.empty, []⟩

/-- The ledger after an operation. -/
def after (l : Ledger) (op : DisplayList.Operation) : Ledger :=
  { list := l.list.after op
    entries :=
      match op with
      | .redraw s pass => l.entries ++ s.entries pass l.list
      | .render b pass order features => l.entries ++ b.entries pass order features l.list
      | .clear => [] }

/-- Every draw stands under a bind, with nothing but draws in between; all of these are its own
binding's, and it is on the surfaces of that binding, which are the ones bound. -/
def Orderly (entries : List Entry) : Prop :=
  ∀ before b d later, entries = before ++ ⟨b, .draw d⟩ :: later →
    ∃ earlier surfaces between, before = earlier ++ ⟨b, .bind surfaces⟩ :: between ∧
      (∀ e ∈ between, e.binding = b ∧ ∃ d', e.command = .draw d') ∧
      b.surfaces = some surfaces ∧ d.surfaces = some surfaces

/-- A ledger keeps its list: its entries are the commands in order. -/
def Faithful (l : Ledger) : Prop := l.entries.map Entry.command = l.list.commands.toList

theorem orderly_nil : Orderly [] := by
  intro before b d later h
  exact absurd h (by simp)

/-- Nothing is lost where two orderly parts meet: the second one starts with a bind of its own. -/
theorem Orderly.append {xs ys : List Entry} (hxs : Orderly xs) (hys : Orderly ys) :
    Orderly (xs ++ ys) := by
  intro before b d later h
  rcases List.append_eq_append_iff.mp h with ⟨middle, rfl, hmiddle⟩ | ⟨middle, hmiddle, hlater⟩
  · obtain ⟨earlier, surfaces, between, rfl, hown⟩ := hys middle b d later hmiddle
    exact ⟨xs ++ earlier, surfaces, between, (List.append_assoc ..).symm, hown⟩
  · rcases middle with _ | ⟨first, rest⟩
    · obtain ⟨earlier, surfaces, between, hnil, -⟩ := hys [] b d later hlater.symm
      exact absurd hnil (by simp)
    · obtain ⟨rfl, rfl⟩ := List.cons.inj hlater
      exact hxs before b d rest hmiddle

end Ledger

namespace Binding

variable (b : Binding) (pass : Pass) (order : UInt32) (features : List Feature) (list : DisplayList)

theorem entries_eq : b.entries pass order features list =
    (b.course pass order features).results.map fun command => ⟨b, command⟩ := by
  rw [entries, DisplayList.since_of_commands (b.render_follows pass order features list).2]

theorem surfaces_of_mem_strokes {surfaces : Surfaces} {d : Draw}
    (h : d ∈ (b.strokes pass order surfaces features).results) : d.surfaces = some surfaces := by
  obtain ⟨f, -, hstroke⟩ := Course.mem_along h
  rw [stroke] at hstroke
  cases hstyle : b.styleOf pass f with
  | error cause => simp [hstyle, Except.map] at hstroke
  | ok style =>
    rw [hstyle] at hstroke
    rw [← Except.ok.inj hstroke]
    rfl

/-- A binding records its bind first, if it records anything, and then draws on its own surfaces. -/
theorem orderly_entries : Ledger.Orderly (b.entries pass order features list) := by
  rw [entries_eq]
  rcases b.ready_or_not with hready | ⟨surfaces, hstage, hsurfaces⟩
  · rw [course_of_not_ready hready]
    exact Ledger.orderly_nil
  · rw [course_of_ready hstage hsurfaces]
    intro before b' d later h
    rw [List.map_cons, List.map_map] at h
    rcases before with _ | ⟨first, between⟩
    · have hcommand := congrArg Entry.command (List.cons.inj h).1
      exact absurd hcommand (by simp)
    · rw [List.cons_append] at h
      obtain ⟨rfl, hdraws⟩ := List.cons.inj h
      have hdrawn : ∀ e ∈ between ++ ⟨b', .draw d⟩ :: later, e.binding = b ∧
          ∃ d' ∈ (b.strokes pass order surfaces features).results, e.command = .draw d' := by
        intro e he
        rw [← hdraws] at he
        obtain ⟨d', hd', rfl⟩ := List.mem_map.mp he
        exact ⟨rfl, d', hd', rfl⟩
      obtain ⟨rfl, d', hd', hcommand⟩ := hdrawn ⟨b', .draw d⟩ (by simp)
      obtain rfl : d = d' := by simpa using hcommand
      refine ⟨[], surfaces, between, rfl, ?_, hsurfaces, b'.surfaces_of_mem_strokes _ _ _ hd'⟩
      intro e he
      obtain ⟨hbinding, d'', -, hdraw⟩ := hdrawn e (List.mem_append_left _ he)
      exact ⟨hbinding, d'', hdraw⟩

/-- The entries of a binding are what rendering it records. -/
theorem commands_entries : (b.render pass order features list).state.2.2.commands.toList =
    list.commands.toList ++ (b.entries pass order features list).map Entry.command := by
  have hmap : (b.entries pass order features list).map Entry.command =
      (b.course pass order features).results := by
    rw [entries_eq, List.map_map]
    exact List.map_id _
  rw [hmap]
  exact (b.render_follows pass order features list).2

end Binding

namespace Sublayer

theorem entriesOf_cons_of_fault {pass : Pass} {order : UInt32} {b : Binding}
    {features : List Feature} {list : DisplayList} {fault : Fault}
    (h : (b.render pass order features list).fault = some fault) (rest : List Binding) :
    entriesOf pass order (b :: rest) features list = b.entries pass order features list := by
  simp only [entriesOf, h, List.append_nil]

theorem entriesOf_cons_of_ok {pass : Pass} {order : UInt32} {b : Binding}
    {features : List Feature} {list : DisplayList}
    (h : (b.render pass order features list).fault = none) (rest : List Binding) :
    entriesOf pass order (b :: rest) features list = b.entries pass order features list ++
      entriesOf pass order rest (b.render pass order features list).state.2.1
        (b.render pass order features list).state.2.2 := by
  simp only [entriesOf, h]

/-- The entries of bindings are orderly, and they are what the bindings record. -/
theorem entriesOf_follows (pass : Pass) (order : UInt32) :
    ∀ (bindings : List Binding) (features : List Feature) (list : DisplayList),
      let entries := entriesOf pass order bindings features list
      Ledger.Orderly entries ∧
        (drawBindings pass order bindings features list).state.2.2.commands.toList =
          list.commands.toList ++ entries.map Entry.command
  | [], _, list => ⟨Ledger.orderly_nil, (List.append_nil _).symm⟩
  | b :: rest, features, list => by
    intro entries
    have hb := b.orderly_entries pass order features list
    have hcommands := b.commands_entries pass order features list
    cases hfault : (b.render pass order features list).fault with
    | some fault =>
      rw [show entries = _ from entriesOf_cons_of_fault hfault rest,
        drawBindings_cons_of_fault hfault rest]
      exact ⟨hb, hcommands⟩
    | none =>
      rw [show entries = _ from entriesOf_cons_of_ok hfault rest,
        drawBindings_cons_of_ok hfault rest]
      obtain ⟨hrest, hrestCommands⟩ := entriesOf_follows pass order rest
        (b.render pass order features list).state.2.1 (b.render pass order features list).state.2.2
      refine ⟨hb.append hrest, ?_⟩
      show (drawBindings pass order rest _ _).state.2.2.commands.toList = _
      rw [hrestCommands, hcommands, List.map_append, List.append_assoc]

/-- The entries of a sublayer are orderly, and they are what drawing it records. -/
theorem entries_follows (s : Sublayer) (pass : Pass) (list : DisplayList) :
    Ledger.Orderly (s.entries pass list) ∧
      (s.redraw pass list).state.2.commands.toList =
        list.commands.toList ++ (s.entries pass list).map Entry.command := by
  rw [entries]
  cases hlive : s.contents with
  | none => exact ⟨Ledger.orderly_nil, by simp [redraw, hlive]⟩
  | some c =>
    cases hvisible : s.visible with
    | false => exact ⟨Ledger.orderly_nil, by simp [redraw, hlive, hvisible]⟩
    | true =>
      rw [redraw_of_visible hlive hvisible]
      exact entriesOf_follows pass s.origin.paintOrder c.bindings c.features list

end Sublayer

namespace Ledger

/-- Every operation keeps a ledger faithful and orderly. -/
theorem after_follows {l : Ledger} (hfaithful : l.Faithful) (horderly : Orderly l.entries)
    (op : DisplayList.Operation) : (l.after op).Faithful ∧ Orderly (l.after op).entries := by
  rw [Faithful] at hfaithful
  cases op with
  | redraw s pass =>
    obtain ⟨hadded, hcommands⟩ := s.entries_follows pass l.list
    refine ⟨?_, horderly.append hadded⟩
    show (l.entries ++ s.entries pass l.list).map Entry.command = _
    rw [List.map_append, hfaithful]
    exact hcommands.symm
  | render b pass order features =>
    have hadded := b.orderly_entries pass order features l.list
    have hcommands := b.commands_entries pass order features l.list
    refine ⟨?_, horderly.append hadded⟩
    show (l.entries ++ b.entries pass order features l.list).map Entry.command = _
    rw [List.map_append, hfaithful]
    exact hcommands.symm
  | clear => exact ⟨rfl, orderly_nil⟩

theorem run_follows : ∀ (ops : List DisplayList.Operation) {l : Ledger}, l.Faithful →
    Orderly l.entries → (ops.foldl after l).Faithful ∧ Orderly (ops.foldl after l).entries
  | [], _, hfaithful, horderly => ⟨hfaithful, horderly⟩
  | op :: ops, l, hfaithful, horderly => by
    obtain ⟨hfaithful, horderly⟩ := after_follows hfaithful horderly op
    exact run_follows ops hfaithful horderly

theorem list_run : ∀ (ops : List DisplayList.Operation) (l : Ledger),
    (ops.foldl after l).list = ops.foldl DisplayList.after l.list
  | [], _ => rfl
  | op :: ops, l => list_run ops (l.after op)

/-- Whatever happens to a display list, in any order and whether it goes through or not: the ledger
beside it holds the commands of the list, and each draw stands under the nearest bind before it, which
its own binding recorded, and is on the surfaces of that binding. -/
theorem drawn_on_own_surfaces (ops : List DisplayList.Operation) :
    let ledger := ops.foldl after empty
    ledger.list = ops.foldl DisplayList.after .empty ∧
      ledger.entries.map Entry.command = ledger.list.commands.toList ∧ Orderly ledger.entries := by
  intro ledger
  obtain ⟨hfaithful, horderly⟩ := run_follows ops (l := empty) rfl orderly_nil
  exact ⟨list_run ops empty, hfaithful, horderly⟩

/-- Two bindings take turns, and one whose surfaces are gone records nothing in between. -/
example :
    let road : Feature := { id := 7, geometry := { kind := .line, coordinates := [] } }
    let roads : Binding := .make "roads" (.feature road) none ⟨1, 2⟩
    let paths : Binding := .make "paths" (.feature road) none ⟨3, 4⟩
    let pass : Pass := ⟨.ofUrl "", 3⟩
    let ledger := [roads, paths, paths.destroy.state, roads].foldl
      (fun l b => l.after (.render b pass 0 [])) empty
    ledger.entries.map (fun e => (e.binding.sublayerId, e.command.draw?.bind Draw.surfaces)) =
      [("roads", none), ("roads", some ⟨1, 2⟩), ("paths", none), ("paths", some ⟨3, 4⟩),
        ("roads", none), ("roads", some ⟨1, 2⟩)] := by
  rfl

end Ledger

end Portrayal
