import Portrayal.Proofs.Redraw

/-!
Bindings added in bulk. They are taken one after another, and the first one of another sublayer ends it:

    bindings given       own   own   foreign   own
    bindings taken       own   own

Main statement: a live sublayer takes all bindings if they are all its own, and otherwise those before the
first foreign one, which is then the fault; it is left as it was but for these bindings behind the others.
-/

namespace Portrayal

namespace Sublayer

variable {s : Sublayer} {c : Contents}

/-- A sublayer that holds these things and more bindings behind the others. -/
def withBindings (s : Sublayer) (c : Contents) (bs : List Binding) : Sublayer :=
  { s with contents := some { c with bindings := c.bindings ++ bs } }

/-- Bindings of its own are taken by a live sublayer, and the others come after them. -/
theorem addBindings_append (rest : List Binding) : ∀ {early : List Binding} {s : Sublayer}
    {c : Contents}, s.contents = some c → (∀ b ∈ early, b.sublayerId = s.id) →
      s.addBindings (early ++ rest) = (s.withBindings c early).addBindings rest
  | [], s, c, hlive, _ => by
    have hsame : s.withBindings c [] = s := by
      rw [withBindings, List.append_nil, ← hlive]
    rw [hsame, List.nil_append]
  | b :: early, s, c, hlive, hearly => by
    obtain ⟨hb, hearly⟩ := List.forall_mem_cons.mp hearly
    have hstep : s.addBinding b = .ok (s.withBindings c [b]) := addBinding_of_own hb hlive
    have hrest : (s.withBindings c [b]).addBindings (early ++ rest) = _ :=
      addBindings_append rest rfl hearly
    calc s.addBindings (b :: early ++ rest)
        = (s.withBindings c [b]).addBindings (early ++ rest) := by
          rw [List.cons_append, addBindings, hstep]
          rfl
      _ = (s.withBindings c (b :: early)).addBindings rest := by
          rw [hrest, withBindings, withBindings, withBindings, List.append_assoc]
          rfl

/-- How adding bindings to a live sublayer ends. -/
inductive Takes (s : Sublayer) (c : Contents) (bs : List Binding) : Outcome Sublayer → Prop where
  | all (h : ∀ b ∈ bs, b.sublayerId = s.id) : Takes s c bs (.ok (s.withBindings c bs))
  | short {early late : List Binding} {b : Binding} (hsplit : bs = early ++ b :: late)
      (hearly : ∀ x ∈ early, x.sublayerId = s.id) (hb : b.sublayerId ≠ s.id) :
      Takes s c bs
        (.failed (s.withBindings c early) (.illegalState (.foreignBinding b.sublayerId s.id)))

theorem takes_addBindings (hlive : s.contents = some c) (bs : List Binding) :
    Takes s c bs (s.addBindings bs) := by
  rcases all_or_first (fun b : Binding => b.sublayerId = s.id) bs with
    h | ⟨early, b, late, rfl, hearly, hb⟩
  · have htaken := addBindings_append [] hlive h
    rw [List.append_nil] at htaken
    rw [htaken]
    exact .all h
  · have hrefused : (s.withBindings c early).addBinding b = _ := addBinding_of_foreign hb
    rw [addBindings_append (b :: late) hlive hearly, addBindings, hrefused]
    exact .short rfl hearly hb

/-- Adding bindings goes through exactly if they are all the sublayer's own. -/
theorem Takes.fault_eq_none_iff {bs : List Binding} {o : Outcome Sublayer} (h : Takes s c bs o) :
    o.fault = none ↔ ∀ b ∈ bs, b.sublayerId = s.id := by
  cases h with
  | all hall => exact iff_of_true rfl hall
  | @short early late b hsplit _ hb =>
    refine iff_of_false (by simp) fun hall => hb (hall b ?_)
    rw [hsplit]
    exact List.mem_append_right _ List.mem_cons_self

/-- A live sublayer that is given bindings in bulk goes through exactly if they are all its own, and then
it holds all of them, in order, behind those that it held before. Otherwise the fault is the first foreign
one, and the sublayer holds those before it, in order, and none after. Nothing else about it changes. -/
theorem addBindings_takes (hlive : s.contents = some c) (bs : List Binding) :
    ((s.addBindings bs).fault = none ↔ ∀ b ∈ bs, b.sublayerId = s.id) ∧
      Takes s c bs (s.addBindings bs) :=
  ⟨(takes_addBindings hlive bs).fault_eq_none_iff, takes_addBindings hlive bs⟩

/-- The roads are given a binding of theirs, one of the paths, and another one of theirs: they take the
first of the three, and the paths are named. -/
theorem addBindings_takes_roads : ∃ c, roads.contents = some c ∧
    let own : Binding := .make "roads" .sublayer none ⟨5, 6⟩
    let bs : List Binding := [own, .make "paths" .sublayer none ⟨7, 8⟩, own]
    ((roads.addBindings bs).fault = none ↔ ∀ b ∈ bs, b.sublayerId = roads.id) ∧
      Takes roads c bs (roads.addBindings bs) ∧
      (roads.addBindings bs).fault = some (.illegalState (.foreignBinding "paths" "roads")) ∧
      (roads.addBindings bs).state = roads.withBindings c [own] := by
  refine ⟨_, rfl, ?_⟩
  intro own bs
  obtain ⟨hfault, htakes⟩ := addBindings_takes (s := roads) rfl bs
  exact ⟨hfault, htakes, rfl, rfl⟩

end Sublayer

end Portrayal
