import Mathlib.Data.List.Forall2
import Portrayal.RuleStyle

/-!
What rules make of a draft. Two drafts are alike if they will be finished to the same style; notices
do not count. A rule without a value leaves a draft alike to what it was, and rules for the same
properties with the same values keep drafts alike, whatever their records are and whatever else the
situations differ in. So the style that rules give depends on their properties and values alone.
-/

namespace Portrayal

namespace Draft

/-- Drafts that will be finished to the same style. -/
structure Alike (d e : Draft) : Prop where
  style : d.style = e.style
  fontSize : d.fontSize = e.fontSize
  fontFamily : d.fontFamily = e.fontFamily

variable {d e : Draft} {kind : Kind} {s t : Situation}

theorem Alike.refl (d : Draft) : Alike d d := ⟨rfl, rfl, rfl⟩

theorem Alike.trans {c : Draft} (h : Alike c d) (h' : Alike d e) : Alike c e :=
  ⟨h.style.trans h'.style, h.fontSize.trans h'.fontSize, h.fontFamily.trans h'.fontFamily⟩

theorem Alike.finish (h : Alike d e) : d.finish = e.finish := by
  rw [Draft.finish, Draft.finish, h.style, h.fontSize, h.fontFamily]

theorem Alike.note (h : Alike d e) (m n : Notice) : Alike (d.note m) (e.note n) :=
  ⟨h.style, h.fontSize, h.fontFamily⟩

/-- A value goes to a property as it is, unless it is a composite operation. -/
theorem write_property {p : Property} (hp : p ≠ .globalCompositeOperation) (d : Draft) (v : Value) :
    d.write (.property p) v = { d with style := d.style.set p v } := by
  cases p <;> first | rfl | exact absurd rfl hp

/-- Writing the same value to the same target keeps drafts alike. -/
theorem Alike.write (h : Alike d e) (target : Target) (v : Value) :
    Alike (d.write target v) (e.write target v) := by
  have hset : ∀ p w, d.style.set p w = e.style.set p w := fun p w => by rw [h.style]
  rcases target with p | _ | _
  · by_cases hp : p = .globalCompositeOperation
    · subst hp
      cases hoperation : compositeOperation? v.shown with
      | none => simpa only [Draft.write, hoperation] using h.note _ _
      | some operation =>
        simp only [Draft.write, hoperation]
        exact ⟨hset _ _, h.fontSize, h.fontFamily⟩
    · rw [write_property hp, write_property hp]
      exact ⟨hset _ _, h.fontSize, h.fontFamily⟩
  · cases hsize : v.number? with
    | none => simpa only [Draft.write, hsize] using h.note _ _
    | some size =>
      simp only [Draft.write, hsize]
      exact ⟨hset _ _, rfl, h.fontFamily⟩
  · exact ⟨h.style, h.fontSize, rfl⟩

/-- Two rules for the same property with the same value keep drafts alike. -/
theorem Alike.apply (h : Alike d e) {q r : Rule} (hproperty : q.property = r.property)
    (hvalue : q.evaluate s = r.evaluate t) : Alike (d.apply kind s q) (e.apply kind t r) := by
  rw [Draft.apply, Draft.apply, hproperty, hvalue]
  cases kind.target? r.property with
  | none => exact h.note _ _
  | some target =>
    cases r.evaluate t with
    | none => exact h
    | some v => exact h.write target v

/-- A rule without a value leaves a draft as it was, up to notices. -/
theorem alike_apply {r : Rule} (hvalue : r.evaluate s = none) (d : Draft) :
    Alike (d.apply kind s r) d := by
  rw [Draft.apply, hvalue]
  cases kind.target? r.property with
  | none => exact ⟨rfl, rfl, rfl⟩
  | some target => exact .refl d

/-- Rules that match one by one keep drafts alike. -/
theorem Alike.foldl {qs rs : List Rule}
    (hrules : List.Forall₂ (fun q r => q.property = r.property ∧ q.evaluate s = r.evaluate t) qs rs)
    (h : Alike d e) : Alike (qs.foldl (Draft.apply kind s) d) (rs.foldl (Draft.apply kind t) e) := by
  induction hrules generalizing d e with
  | nil => exact h
  | cons hr _ ih => exact ih (h.apply hr.1 hr.2)

/-- Rules without values leave a draft as it was, up to notices. -/
theorem alike_foldl : ∀ {rules : List Rule}, (∀ r ∈ rules, r.evaluate s = none) → ∀ d : Draft,
    Alike (rules.foldl (apply kind s) d) d
  | [], _, d => .refl d
  | r :: rules, h, d => by
    have hrest := alike_foldl (fun q hq => h q (List.mem_cons_of_mem r hq)) (d.apply kind s r)
    exact hrest.trans (alike_apply (h r List.mem_cons_self) d)

end Draft

namespace Style

variable {kind : Kind} {s t : Situation}

/-- Rules that match one by one give the same style. -/
theorem ofRules_congr {qs rs : List Rule}
    (h : List.Forall₂ (fun q r => q.property = r.property ∧ q.evaluate s = r.evaluate t) qs rs) :
    (ofRules kind s qs).value = (ofRules kind t rs).value :=
  (Draft.Alike.foldl h (.refl .empty)).finish

/-- Rules that match one by one give the same complete style. -/
theorem baseOfRules_congr {attributes attributes' : Attributes} {zoom zoom' : Float}
    {qs rs : List Rule}
    (h : List.Forall₂ (fun q r => q.property = r.property ∧
      q.evaluate ⟨attributes, zoom, some true⟩ = r.evaluate ⟨attributes', zoom', some true⟩) qs rs) :
    (baseOfRules kind attributes zoom qs).value = (baseOfRules kind attributes' zoom' rs).value :=
  congrArg (complete · kind) (ofRules_congr h)

/-- Rules without values give no style. -/
theorem ofRules_of_none {rules : List Rule} (h : ∀ r ∈ rules, r.evaluate s = none) :
    (ofRules kind s rules).value = empty :=
  (Draft.alike_foldl h .empty).finish

end Style

end Portrayal
