import Portrayal.ServiceStyle

/-!
What a service style is taken for where it is silent. An attribute that is present keeps its value,
and one that is absent takes the value that its description assumes, if it assumes any:

    lineWidth      present         its own width
    markerSize     absent          2.4
    markerWidth    absent          -        (nothing to assume)
    foreColor      absent          -        (black is assumed, but not filled in)

The last line is the only attribute where the style and the descriptions part. Main statement: the
value of every attribute after the defaults are filled in, and that filling them in again changes
nothing.
-/

namespace Portrayal

/-! ### Kinds of values -/

namespace ServiceValue

variable {v : ServiceValue}

theorem exists_number (h : v.kind = .number) : ∃ x, v = .number x := by
  cases v with
  | number x => exact ⟨x, rfl⟩
  | _ => exact nomatch h

theorem exists_color (h : v.kind = .color) : ∃ c, v = .color c := by
  cases v with
  | color c => exact ⟨c, rfl⟩
  | _ => exact nomatch h

end ServiceValue

namespace ServiceAttribute

/-- What is assumed for an attribute is of the kind of its values. -/
theorem kind_fallback (a : ServiceAttribute) : ∀ v ∈ a.info.fallback, v.kind = a.info.kind := by
  cases a <;> simp [info, ServiceValue.kind]

end ServiceAttribute

namespace ServiceStyle

variable {a : ServiceAttribute}

theorem map_fallbackNumber (h : a.info.kind = .number) :
    (fallbackNumber a).map .number = a.info.fallback := by
  have hkind := a.kind_fallback
  unfold fallbackNumber
  cases hfallback : a.info.fallback with
  | none => rfl
  | some v =>
    obtain ⟨x, rfl⟩ := ServiceValue.exists_number ((hkind v hfallback).trans h)
    rfl

theorem map_fallbackColor (h : a.info.kind = .color) :
    (fallbackColor a).map .color = a.info.fallback := by
  have hkind := a.kind_fallback
  unfold fallbackColor
  cases hfallback : a.info.fallback with
  | none => rfl
  | some v =>
    obtain ⟨c, rfl⟩ := ServiceValue.exists_color ((hkind v hfallback).trans h)
    rfl

/-! ### Filling in -/

theorem map_orElse {α β : Type} (f : α → β) (own assumed : Option α) :
    (own <|> assumed).map f = (own.map f).or (assumed.map f) := by
  cases own <;> rfl

theorem orElse_orElse_self {α : Type} (own assumed : Option α) :
    ((own <|> assumed) <|> assumed) = (own <|> assumed) := by
  cases own <;> cases assumed <;> rfl

theorem map_number_orElse (h : a.info.kind = .number) (own : Option Float) :
    (own <|> fallbackNumber a).map .number = (own.map .number).or a.info.fallback := by
  rw [map_orElse, map_fallbackNumber h]

theorem map_color_orElse (h : a.info.kind = .color) (own : Option ServiceColor) :
    (own <|> fallbackColor a).map .color = (own.map .color).or a.info.fallback := by
  rw [map_orElse, map_fallbackColor h]

/-- An absent symbol is the plain one, which is the number zero. -/
theorem map_symbol_orElse (own : Option Int) :
    (own <|> some 0).map (fun n => ServiceValue.number (Float.ofInt n)) =
      (own.map fun n => .number (Float.ofInt n)).or (some (.number 0)) := by
  rw [map_orElse]
  rfl

/-- The value that a style has for an attribute after its defaults are filled in. -/
theorem value?_withDefaults (s : ServiceStyle) (h : a ≠ .foreColor) :
    s.withDefaults.value? a = (s.value? a).or a.info.fallback := by
  cases a
  case fillBackOpaque => exact map_orElse ServiceValue.flag s.fillBackOpaque _
  case fillGradientMode => exact map_orElse ServiceValue.keyword s.fillGradientMode _
  case fillSymbol => exact map_symbol_orElse s.fillSymbol
  case markerSymbol => exact map_symbol_orElse s.markerSymbol
  case lineSymbol => exact map_symbol_orElse s.lineSymbol
  case fillBackColor | fillForeColor | lineColor => exact map_color_orElse rfl _
  case markerWidth | markerAngle => exact Option.or_none.symm
  case foreColor => exact absurd rfl h
  all_goals exact map_number_orElse rfl _

theorem value?_withDefaults_foreColor (s : ServiceStyle) :
    s.withDefaults.value? .foreColor = s.value? .foreColor := rfl

theorem withDefaults_withDefaults (s : ServiceStyle) :
    s.withDefaults.withDefaults = s.withDefaults := by
  simp only [withDefaults, orElse_orElse_self]

/-- Filling in the defaults leaves every value that is there, and puts the one that is assumed where
there is none, except for the legacy fore color. So what the descriptions say is what is filled in
exactly for the other attributes, and for that one where it is present. -/
theorem withDefaults_fills (s : ServiceStyle) :
    (∀ a, s.withDefaults.value? a =
        (s.value? a).or (if a = .foreColor then none else a.info.fallback)) ∧
      (∀ a, s.withDefaults.value? a = (s.value? a).or a.info.fallback ↔
        a = .foreColor → s.foreColor.isSome) ∧
      s.withDefaults.withDefaults = s.withDefaults := by
  refine ⟨?_, ?_, s.withDefaults_withDefaults⟩
  · intro a
    by_cases h : a = .foreColor
    · rw [if_pos h, Option.or_none, h, value?_withDefaults_foreColor]
    · rw [if_neg h, value?_withDefaults s h]
  · intro a
    by_cases h : a = .foreColor
    · subst h
      rw [value?_withDefaults_foreColor, value?]
      cases s.foreColor with
      | none => exact iff_of_false nofun fun hpresent => nomatch hpresent rfl
      | some c => exact iff_of_true rfl fun _ => rfl
    · exact iff_of_true (value?_withDefaults s h) fun hfore => absurd hfore h

end ServiceStyle

end Portrayal
