import Portrayal.Proofs.LastWrites
import Portrayal.Proofs.Precedence

/-!
Complete styles. A style stays within a kind if it sets no property that the default style of the kind
does not have. Whatever the vocabulary of a kind can set is in its default style, so a style from rules
stays within its kind, and completing it drops nothing.

Main statements: a complete style has exactly the properties of the default style, also with a highlight
written over it, and its values are those of the rules where they set any. Writing the style of some
rules over that of others gives the style of all of them in order, for every property but the font,
which is put together from the two halves only when all rules are applied to one draft.
-/

namespace Portrayal

namespace Style

variable {s base top part : Style} {kind : Kind} {p : Property}

/-- A completed style has the properties of the default style, with the values of the part where it has
them. -/
theorem get?_complete (part : Style) (kind : Kind) (p : Property) :
    (part.complete kind).get? p =
      (kind.defaultStyle.get? p).map fun v => (part.get? p).getD v :=
  get?_ofEntries_map kind.defaultStyle (fun q v => (part.get? q).getD v) p

theorem contains_complete (part : Style) (kind : Kind) (p : Property) :
    (part.complete kind).contains p = kind.defaultStyle.contains p := by
  rw [contains, contains, get?_complete, Option.isSome_map]

/-! ### Staying within a kind -/

/-- A style that sets only properties of a kind. -/
def Within (s : Style) (kind : Kind) : Prop :=
  ∀ p, s.contains p = true → kind.defaultStyle.contains p = true

/-- Completing a style that stays within the kind drops nothing. -/
theorem Within.get?_complete (h : part.Within kind) (p : Property) :
    (part.complete kind).get? p = (part.get? p).or (kind.defaultStyle.get? p) := by
  rw [Style.get?_complete]
  cases hdefault : kind.defaultStyle.get? p with
  | none =>
    have hnone : part.get? p = none := by
      by_contra hsome
      have hset : part.contains p = true := Option.isSome_iff_ne_none.mpr hsome
      have hcontains := h p hset
      rw [contains, hdefault] at hcontains
      exact absurd hcontains (by simp)
    rw [hnone]
    rfl
  | some v => cases part.get? p <;> rfl

/-- Completing a style that stays within the kind writes it over the defaults. -/
theorem Within.complete_eq_overlay (h : part.Within kind) :
    part.complete kind = kind.defaultStyle.overlay part := by
  ext1 p
  rw [h.get?_complete, get?_overlay_eq_or]

/-- What stays within the kind adds no property to a complete style. -/
theorem Within.contains_overlay (h : top.Within kind) {base : Style}
    (hbase : ∀ p, base.contains p = kind.defaultStyle.contains p) (p : Property) :
    (base.overlay top).contains p = kind.defaultStyle.contains p := by
  rw [Style.contains_overlay, hbase]
  cases htop : top.contains p with
  | false => rfl
  | true => exact (h p htop).symm

end Style

/-- Whatever a kind sends a value to is in its default style. -/
theorem Kind.contains_defaultStyle {kind : Kind} {name : String} {p : Property}
    (h : kind.target? name = some (.property p)) : kind.defaultStyle.contains p = true := by
  have hall : ∀ entry ∈ kind.targets, ∀ q ∈ Property.all, entry.2 = .property q →
      kind.defaultStyle.contains q = true := by cases kind <;> decide
  exact hall _ (Kind.mem_targets h) p (Property.mem_all p) rfl

/-- The font belongs to labels alone. -/
theorem Kind.contains_font (kind : Kind) :
    kind.defaultStyle.contains .font = true ↔ kind = .text := by
  cases kind <;> decide

/-- Whatever a rule sets is in the default style. -/
theorem Rule.Sets.contains_defaultStyle {kind : Kind} {s : Situation} {r : Rule} {p : Property}
    {v : Value} (h : r.Sets kind s p v) : kind.defaultStyle.contains p = true := by
  cases h with
  | direct _ htarget _ => exact Kind.contains_defaultStyle htarget
  | operation htarget _ _ => exact Kind.contains_defaultStyle htarget
  | height h =>
    rw [h.1]
    decide

namespace Style

variable {kind : Kind} {s : Situation} {rules : List Rule}

/-- A style from rules stays within its kind. -/
theorem within_ofRules (kind : Kind) (s : Situation) (rules : List Rule) :
    (ofRules kind s rules).value.Within kind := by
  intro p hp
  by_cases hfont : p = .font
  · subst hfont
    obtain ⟨size, family, hsize, hfamily, hvalue⟩ := font_ofRules kind s rules
    rw [contains, hvalue] at hp
    -- a font comes from a rule that names one half of it, and such rules are for labels
    have hnamed : size.isSome ∨ family.isSome := by
      by_contra hnone
      rw [← Bool.or_eq_true] at hnone
      rw [if_neg hnone] at hp
      exact absurd hp (by simp)
    rw [Kind.contains_font]
    rcases hnamed with hnamed | hnamed
    · obtain ⟨r, -, _, hkind, -⟩ := hsize.isSome_iff.mp hnamed
      exact hkind
    · obtain ⟨r, -, _, hkind, -⟩ := hfamily.isSome_iff.mp hnamed
      exact hkind
  · obtain ⟨r, -, v, hsets⟩ := (lastGiven_ofRules hfont rules).isSome_iff.mp hp
    exact hsets.contains_defaultStyle

/-- A style that rules give a feature is complete: it has exactly the properties of the default style,
with what the rules set where they set anything and the default elsewhere, and a highlight written over
it neither adds nor removes a property. -/
theorem baseOfRules_complete (kind : Kind) (attributes : Attributes) (zoom : Float)
    (rules : List Rule) :
    let part := (ofRules kind ⟨attributes, zoom, some true⟩ rules).value
    let base := (baseOfRules kind attributes zoom rules).value
    (∀ p, base.get? p = (part.get? p).or (kind.defaultStyle.get? p)) ∧
      (∀ p, base.contains p = kind.defaultStyle.contains p) ∧
      ∀ (s : Situation) (shader : Shader) (p : Property),
        (base.highlighted kind s shader).value.contains p = kind.defaultStyle.contains p := by
  intro part base
  have hbase : ∀ p, base.contains p = kind.defaultStyle.contains p := contains_complete part kind
  refine ⟨(within_ofRules kind _ rules).get?_complete, hbase, ?_⟩
  intro s shader p
  exact (within_ofRules kind s shader.rules).contains_overlay hbase p

/-! ### Rules after rules -/

/-- What further rules set is written over what the first ones set, but for the font. -/
theorem get?_ofRules_append {p : Property} (hp : p ≠ .font) (earlier later : List Rule) :
    (ofRules kind s (earlier ++ later)).value.get? p =
      ((ofRules kind s later).value.get? p).or ((ofRules kind s earlier).value.get? p) := by
  rw [ofRules, ofRules, ofRules, Draft.get?_finish_of_ne hp, Draft.get?_finish_of_ne hp,
    Draft.get?_finish_of_ne hp]
  exact (Draft.cell_property kind s p).read_foldl_append earlier later (get?_empty p)

theorem get?_font_ofRules (hkind : kind ≠ .text) (rules : List Rule) :
    (ofRules kind s rules).value.get? .font = none := by
  by_contra hsome
  have hset : (ofRules kind s rules).value.contains .font = true :=
    Option.isSome_iff_ne_none.mpr hsome
  exact hkind ((Kind.contains_font kind).mp (within_ofRules kind s rules .font hset))

theorem overlay_ofRules_of_ne (hkind : kind ≠ .text) (earlier later : List Rule) :
    (ofRules kind s earlier).value.overlay (ofRules kind s later).value =
      (ofRules kind s (earlier ++ later)).value := by
  ext1 p
  rw [get?_overlay_eq_or]
  by_cases hp : p = .font
  · subst hp
    rw [get?_font_ofRules hkind, get?_font_ofRules hkind, get?_font_ofRules hkind]
    rfl
  · rw [get?_ofRules_append hp]

/-- Completing comes to the same before further rules are written over a style as after. -/
theorem complete_overlay {earlier later : Style} (hearlier : earlier.Within kind)
    (hboth : (earlier.overlay later).Within kind) :
    (earlier.complete kind).overlay later = (earlier.overlay later).complete kind := by
  ext1 p
  rw [get?_overlay_eq_or, hearlier.get?_complete, hboth.get?_complete, get?_overlay_eq_or,
    Option.or_assoc]

/-- Writing the style of further rules over that of the first ones gives the style of all of them in
order: for every property but the font, and altogether for a kind that has no font. For such a kind a
highlight by further rules is the complete style of all of them. -/
theorem overlay_ofRules_eq_append (kind : Kind) (attributes : Attributes) (zoom : Float)
    (filter : Option Bool) (earlier later : List Rule) :
    let style := fun rules => (ofRules kind ⟨attributes, zoom, filter⟩ rules).value
    let base := fun rules => (baseOfRules kind attributes zoom rules).value
    (∀ p, p ≠ .font → ((style earlier).overlay (style later)).get? p =
        (style (earlier ++ later)).get? p) ∧
      (kind ≠ .text →
        (style earlier).overlay (style later) = style (earlier ++ later) ∧
          ∀ accepts : Option (Int → Bool),
            ((base earlier).highlighted kind ⟨attributes, zoom, some true⟩
              ⟨later, accepts⟩).value = base (earlier ++ later)) := by
  intro style base
  refine ⟨?_, ?_⟩
  · intro p hp
    rw [get?_overlay_eq_or]
    exact (get?_ofRules_append hp earlier later).symm
  · intro hkind
    refine ⟨overlay_ofRules_of_ne hkind earlier later, ?_⟩
    intro accepts
    have hjoined := overlay_ofRules_of_ne (s := ⟨attributes, zoom, some true⟩) hkind earlier later
    have hcomplete := complete_overlay (within_ofRules kind ⟨attributes, zoom, some true⟩ earlier)
      (hjoined ▸ within_ofRules kind ⟨attributes, zoom, some true⟩ (earlier ++ later))
    rw [hjoined] at hcomplete
    exact hcomplete

/-- A place that is blended under what is there and then drawn larger. -/
theorem overlay_ofRules_eq_append_place :
    let larger : List Rule := [⟨"point-radius", .constant (.number 8), ⟨3⟩⟩]
    Kind.point ≠ .text ∧
      ((baseOfRules .point .empty 10 blended).value.highlighted .point ⟨.empty, 10, some true⟩
        ⟨larger, some (· == 2)⟩).value = (baseOfRules .point .empty 10 (blended ++ larger)).value := by
  intro larger
  have hkind : Kind.point ≠ .text := by decide
  exact ⟨hkind, ((overlay_ofRules_eq_append .point .empty 10 none blended larger).2 hkind).2 _⟩

end Style

end Portrayal
