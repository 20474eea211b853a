import Mathlib.Logic.Relation
import Portrayal.Proofs.Reachable

/-!
Layer names and the identities that are made of them. An identity has no room for `@` and `#`, and both
are spelled `__` there:

    a@b  ──►  a__b  ◄──  a#b

So different names can have one identity, and it is the identity that says whose a binding is. Main
statements: two names have one identity exactly if they turn into each other by respelling marks; and a
live sublayer takes a binding that was made for another one exactly if their names do.
-/

namespace Portrayal

/-! ### Names -/

/-- A character that an identity cannot hold. -/
def IsMark (c : Char) : Prop := c = '@' ∨ c = '#'

instance (c : Char) : Decidable (IsMark c) := inferInstanceAs (Decidable (_ ∨ _))

/-- A character of a name as an identity spells it. -/
def escapeChar (c : Char) : List Char := if IsMark c then ['_', '_'] else [c]

/-- A name without marks. -/
def Unmarked (name : String) : Prop := ∀ c ∈ name.toList, ¬IsMark c

/-- One mark of a name, spelled as an identity spells it. -/
inductive Respelled : List Char → List Char → Prop where
  | intro {mark : Char} (hmark : IsMark mark) (before after : List Char) :
      Respelled (before ++ mark :: after) (before ++ '_' :: '_' :: after)

/-- Names that turn into each other by respelling marks, one at a time and in either direction. -/
def Interchangeable (name other : String) : Prop :=
  Relation.EqvGen Respelled name.toList other.toList

theorem toList_escapeLayerName (name : String) :
    (escapeLayerName name).toList = name.toList.flatMap escapeChar :=
  String.toList_ofList

theorem escapeChar_of_isMark {c : Char} (h : IsMark c) : escapeChar c = ['_', '_'] := if_pos h

theorem escapeChar_of_not_isMark {c : Char} (h : ¬IsMark c) : escapeChar c = [c] := if_neg h

theorem not_isMark_of_mem_escapeChar {c d : Char} (h : d ∈ escapeChar c) : ¬IsMark d := by
  by_cases hc : IsMark c
  · rw [escapeChar_of_isMark hc] at h
    obtain rfl : d = '_' := by simpa using h
    decide
  · rw [escapeChar_of_not_isMark hc] at h
    rwa [List.mem_singleton.mp h]

/-- An identity holds no marks. -/
theorem unmarked_escapeLayerName (name : String) : Unmarked (escapeLayerName name) := by
  intro d hd
  rw [toList_escapeLayerName] at hd
  obtain ⟨c, -, hc⟩ := List.mem_flatMap.mp hd
  exact not_isMark_of_mem_escapeChar hc

theorem flatMap_escapeChar_of_unmarked : ∀ {cs : List Char}, (∀ c ∈ cs, ¬IsMark c) →
    cs.flatMap escapeChar = cs
  | [], _ => rfl
  | c :: cs, h => by
    rw [List.flatMap_cons, escapeChar_of_not_isMark (h c List.mem_cons_self),
      flatMap_escapeChar_of_unmarked fun d hd => h d (List.mem_cons_of_mem c hd)]
    rfl

/-- A name without marks is its own identity. -/
theorem escapeLayerName_of_unmarked {name : String} (h : Unmarked name) :
    escapeLayerName name = name := by
  rw [← String.toList_inj, toList_escapeLayerName]
  exact flatMap_escapeChar_of_unmarked h

/-- Respelling a mark does not change what is made of a name. -/
theorem Respelled.flatMap_escapeChar {cs ds : List Char} (h : Respelled cs ds) :
    cs.flatMap escapeChar = ds.flatMap escapeChar := by
  obtain ⟨hmark, before, after⟩ := h
  rw [List.flatMap_append, List.flatMap_append, List.flatMap_cons, escapeChar_of_isMark hmark]
  rfl

theorem Interchangeable.flatMap_escapeChar {cs ds : List Char}
    (h : Relation.EqvGen Respelled cs ds) : cs.flatMap escapeChar = ds.flatMap escapeChar := by
  induction h with
  | rel _ _ hstep => exact hstep.flatMap_escapeChar
  | refl _ => rfl
  | symm _ _ _ ih => exact ih.symm
  | trans _ _ _ _ _ ih₁ ih₂ => exact ih₁.trans ih₂

/-- A name turns into its identity, from the front: what is behind `before` is still to be respelled. -/
theorem eqvGen_flatMap_escapeChar : ∀ (cs before : List Char),
    Relation.EqvGen Respelled (before ++ cs) (before ++ cs.flatMap escapeChar)
  | [], before => .refl _
  | c :: cs, before => by
    by_cases hc : IsMark c
    · have hrest := eqvGen_flatMap_escapeChar cs (before ++ ['_', '_'])
      rw [List.append_assoc, List.append_assoc] at hrest
      rw [List.flatMap_cons, escapeChar_of_isMark hc]
      exact .trans _ _ _ (.rel _ _ (.intro hc before cs)) hrest
    · have hrest := eqvGen_flatMap_escapeChar cs (before ++ [c])
      rw [List.append_assoc, List.append_assoc] at hrest
      rw [List.flatMap_cons, escapeChar_of_not_isMark hc]
      exact hrest

theorem interchangeable_escapeLayerName (name : String) :
    Interchangeable name (escapeLayerName name) := by
  rw [Interchangeable, toList_escapeLayerName]
  exact eqvGen_flatMap_escapeChar name.toList []

/-- Two names have one identity exactly if they turn into each other by respelling marks. -/
theorem escapeLayerName_eq_iff {name other : String} :
    escapeLayerName name = escapeLayerName other ↔ Interchangeable name other := by
  constructor
  · intro h
    have hname := interchangeable_escapeLayerName name
    rw [h] at hname
    exact .trans _ _ _ hname (.symm _ _ (interchangeable_escapeLayerName other))
  · intro h
    rw [← String.toList_inj, toList_escapeLayerName, toList_escapeLayerName]
    exact Interchangeable.flatMap_escapeChar h

/-- Names without marks turn into no name without marks but themselves. -/
theorem interchangeable_iff_of_unmarked {name other : String} (hname : Unmarked name)
    (hother : Unmarked other) : Interchangeable name other ↔ name = other := by
  rw [← escapeLayerName_eq_iff, escapeLayerName_of_unmarked hname,
    escapeLayerName_of_unmarked hother]

/-! ### The names of sublayers -/

namespace Sublayer

/-- The identity of a sublayer is made of its name, whatever has happened to it. -/
theorem Reachable.id_eq {s : Sublayer} (h : s.Reachable) : s.id = escapeLayerName s.layerName := by
  induction h with
  | make name tile options => rfl
  | @step s _ op _ ih =>
    have hbare := s.bare_perform op
    have hid : (s.perform op).state.id = s.id := id_eq_of_bare hbare
    have hname : (s.perform op).state.layerName = s.layerName :=
      congrArg (fun t => t.layerName) hbare
    rw [hid, hname, ih]

end Sublayer

/-! ### Whose a binding is -/

/-- The bindings that were made for a sublayer, and rendered and destroyed since in any order. -/
inductive Binding.MadeFor (s : Sublayer) : Binding → Prop where
  | bind {scope : Scope} {source : Option StyleSource} {surfaces : Surfaces} {b : Binding}
      (h : s.bind? scope source surfaces = .ok b) : MadeFor s b
  | render {b : Binding} (h : MadeFor s b) (pass : Pass) (order : UInt32)
      (features : List Feature) (list : DisplayList) :
      MadeFor s (b.render pass order features list).state.1
  | destroy {b : Binding} (h : MadeFor s b) : MadeFor s b.destroy.state

theorem Sublayer.bind?_eq_ok {s : Sublayer} {scope : Scope} {source : Option StyleSource}
    {surfaces : Surfaces} {b : Binding} (h : s.bind? scope source surfaces = .ok b) :
    b = .make s.id scope source surfaces := by
  rw [bind?] at h
  cases hc : s.contents with
  | none =>
    rw [whileLive_of_gone hc] at h
    exact absurd h (by simp)
  | some c =>
    rw [whileLive_of_live hc] at h
    exact (Except.ok.inj h).symm

/-- A binding carries the identity of the sublayer that it was made for. -/
theorem Binding.MadeFor.sublayerId {s : Sublayer} {b : Binding} (h : b.MadeFor s) :
    b.sublayerId = s.id := by
  induction h with
  | bind h =>
    rw [Sublayer.bind?_eq_ok h]
    rfl
  | @render b _ pass order features list ih =>
    have hplain := congrArg Binding.sublayerId (b.plain_render pass order features list)
    rw [sublayerId_plain, sublayerId_plain] at hplain
    exact hplain.trans ih
  | @destroy b _ ih =>
    rw [Binding.destroy]
    split <;> exact ih

namespace Sublayer

variable {s t : Sublayer} {b : Binding}

/-- A binding that was made for one sublayer is refused by another one, which stays as it is, exactly if
that one is destroyed or the names of the two do not turn into each other by respelling marks. A live
one takes it otherwise, although the names may differ. Names without marks turn into no other ones, so
between sublayers with such names nothing is taken that was made for another name. -/
theorem addBinding_refused_iff (hs : s.Reachable) (ht : t.Reachable) (hb : b.MadeFor s) :
    ((∃ cause, t.addBinding b = .failed t (.illegalState cause)) ↔
        t.isDestroyed = true ∨ ¬Interchangeable s.layerName t.layerName) ∧
      (∀ c, t.contents = some c → Interchangeable s.layerName t.layerName →
        t.addBinding b =
          .ok { t with contents := some { c with bindings := c.bindings ++ [b] } }) ∧
      (Unmarked s.layerName → Unmarked t.layerName →
        (Interchangeable s.layerName t.layerName ↔ s.layerName = t.layerName)) := by
  have hown : b.sublayerId = t.id ↔ Interchangeable s.layerName t.layerName := by
    rw [hb.sublayerId, hs.id_eq, ht.id_eq]
    exact escapeLayerName_eq_iff
  refine ⟨⟨?_, ?_⟩, fun c hc h => addBinding_of_own (hown.mpr h) hc,
    interchangeable_iff_of_unmarked⟩
  · rintro ⟨cause, hrefused⟩
    cases hc : t.contents with
    | none => exact .inl (isDestroyed_iff.mpr hc)
    | some c =>
      refine .inr fun h => ?_
      rw [addBinding_of_own (hown.mpr h) hc] at hrefused
      exact absurd (congrArg Outcome.fault hrefused) (by simp)
  · intro h
    by_cases howner : b.sublayerId = t.id
    · have hgone := Option.isNone_iff_eq_none.mp (h.resolve_right (not_not.mpr (hown.mp howner)))
      rw [addBinding, if_pos howner, change_of_gone hgone]
      exact ⟨_, rfl⟩
    · exact ⟨_, addBinding_of_foreign howner⟩

/-- Two sublayers whose names differ in a mark: the second one takes what was made for the first. -/
theorem addBinding_refused_iff_marks :
    let s := make "a@b" none {}
    let t := make "a#b" none {}
    let b := Binding.make "a__b" .sublayer none ⟨1, 2⟩
    s.bind? .sublayer none ⟨1, 2⟩ = .ok b ∧ s.layerName ≠ t.layerName ∧
      Interchangeable s.layerName t.layerName ∧
      t.addBinding b = .ok { t with contents := some ⟨[], [b]⟩ } ∧
      ¬∃ cause, t.addBinding b = .failed t (.illegalState cause) := by
  intro s t b
  have hnames : Interchangeable s.layerName t.layerName :=
    escapeLayerName_eq_iff.mp (show escapeLayerName "a@b" = escapeLayerName "a#b" by decide)
  obtain ⟨hrefused, htaken, -⟩ :=
    addBinding_refused_iff (s := s) (t := t) (b := b) (.make _ _ _) (.make _ _ _) (.bind rfl)
  refine ⟨rfl, by decide, hnames, htaken _ rfl hnames, fun h => ?_⟩
  rcases hrefused.mp h with hgone | hother
  · exact absurd hgone (by decide)
  · exact hother hnames

end Sublayer

end Portrayal
