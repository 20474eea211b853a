import Portrayal.Proofs.Cells
import Portrayal.Proofs.Drafts

/-!
Which rule a style gets its values from. A rule is effective for a property if its kind sends it there
and it has a value that the property can take. The properties of a draft, its font size and its font
family are cells that the rules write to, so each of them ends up with what the last effective rule
gave, and rules that are not effective erase nothing.

    text-size 9                      height 9    size "9px/4.5px "
    text-face-name Verdana           height 9    size "9px/4.5px "     family Verdana
    text-size large                  height 9    size "9px/4.5px "     family Verdana
    text-size 12                     height 12   size "12px/6px "      family Verdana
                                     font "12px/6px Verdana"

Main statement: a style from rules has, for every property but the font, what the last effective rule
set it to, and nothing where no rule was effective; the font is put together from the last size and
the last family.
-/

namespace Portrayal

/-! ### What the vocabulary says -/

namespace Kind

variable {kind : Kind} {name : String} {target : Target}

theorem mem_targets (h : kind.target? name = some target) : (name, target) ∈ kind.targets := by
  obtain ⟨before, after, hsplit, -⟩ := List.lookup_eq_some_iff.mp h
  rw [hsplit]
  simp

/-- Only labels have a font size, and only one rule property names it. -/
theorem target?_eq_fontSize : kind.target? name = some .fontSize ↔ kind = .text ∧ name = "text-size" := by
  constructor
  · intro h
    have hall : ∀ kind ∈ Kind.all, ∀ entry ∈ kind.targets, entry.2 = .fontSize →
        kind = .text ∧ entry.1 = "text-size" := by decide
    exact hall kind (by cases kind <;> decide) _ (mem_targets h) rfl
  · rintro ⟨rfl, rfl⟩
    rfl

/-- Only labels have a font family, and only one rule property names it. -/
theorem target?_eq_fontFamily :
    kind.target? name = some .fontFamily ↔ kind = .text ∧ name = "text-face-name" := by
  constructor
  · intro h
    have hall : ∀ kind ∈ Kind.all, ∀ entry ∈ kind.targets, entry.2 = .fontFamily →
        kind = .text ∧ entry.1 = "text-face-name" := by decide
    exact hall kind (by cases kind <;> decide) _ (mem_targets h) rfl
  · rintro ⟨rfl, rfl⟩
    rfl

/-- No rule property goes to the font directly. -/
theorem target?_ne_font : kind.target? name ≠ some (.property .font) := by
  intro h
  have hall : ∀ entry ∈ kind.targets, entry.2 ≠ .property .font := by cases kind <;> decide
  exact hall _ (mem_targets h) rfl

end Kind

/-! ### What a single rule gives -/

namespace Rule

variable {kind : Kind} {s : Situation} {r : Rule}

/-- A rule names a font size, which only labels know: its value is a number or text that denotes one. -/
def NamesSize (kind : Kind) (s : Situation) (r : Rule) (size : Float) : Prop :=
  kind = .text ∧ r.property = "text-size" ∧ ∃ v, r.evaluate s = some v ∧ v.number? = some size

/-- A rule names a font family, which only labels know: any value does, by its text. -/
def NamesFamily (kind : Kind) (s : Situation) (r : Rule) (family : String) : Prop :=
  kind = .text ∧ r.property = "text-face-name" ∧ ∃ v, r.evaluate s = some v ∧ v.shown = family

/-- A rule is effective for a property and sets it to a value: its own value as it is, the canvas name
of the composite operation that it denotes, or the number of the font size that it names. -/
inductive Sets (kind : Kind) (s : Situation) (r : Rule) : Property → Value → Prop where
  | direct {p : Property} {v : Value} (hp : p ≠ .globalCompositeOperation)
      (htarget : kind.target? r.property = some (.property p)) (hvalue : r.evaluate s = some v) :
      Sets kind s r p v
  | operation {v : Value} {operation : String}
      (htarget : kind.target? r.property = some (.property .globalCompositeOperation))
      (hvalue : r.evaluate s = some v) (hoperation : compositeOperation? v.shown = some operation) :
      Sets kind s r .globalCompositeOperation (.text operation)
  | height {size : Float} (h : r.NamesSize kind s size) : Sets kind s r .textHeight (.number size)

theorem not_sets_font (v : Value) : ¬ r.Sets kind s .font v := by
  rintro (⟨-, htarget, -⟩ | _ | _)
  exact Kind.target?_ne_font htarget

end Rule

/-! ### What a draft keeps -/

namespace Draft

variable {kind : Kind} {s : Situation} {r : Rule} {v : Value} {target : Target}

theorem apply_of_target (htarget : kind.target? r.property = some target)
    (hvalue : r.evaluate s = some v) (d : Draft) : d.apply kind s r = d.write target v := by
  rw [apply, htarget]
  dsimp only
  rw [hvalue]

/-- A rule leaves a draft as it was, up to notices, or its value is written to its target. -/
theorem apply_cases (kind : Kind) (s : Situation) (d : Draft) (r : Rule) :
    Alike (d.apply kind s r) d ∨ ∃ target v, kind.target? r.property = some target ∧
      r.evaluate s = some v ∧ d.apply kind s r = d.write target v := by
  cases htarget : kind.target? r.property with
  | none =>
    left
    rw [apply, htarget]
    exact ⟨rfl, rfl, rfl⟩
  | some target =>
    cases hvalue : r.evaluate s with
    | none => exact .inl (alike_apply hvalue d)
    | some v => exact .inr ⟨target, v, rfl, rfl, apply_of_target htarget hvalue d⟩

/-! What a write does to the three parts of a draft, target by target. -/

theorem style_write_operation (d : Draft) (v : Value) :
    (d.write (.property .globalCompositeOperation) v).style =
      (compositeOperation? v.shown).elim d.style
        fun operation => d.style.set .globalCompositeOperation (.text operation) := by
  rw [write]
  cases compositeOperation? v.shown <;> rfl

theorem style_write_fontSize (d : Draft) (v : Value) : (d.write .fontSize v).style =
    v.number?.elim d.style fun size => d.style.set .textHeight (.number size) := by
  rw [write]
  cases v.number? <;> rfl

theorem fontSize_write_fontSize (d : Draft) (v : Value) :
    (d.write .fontSize v).fontSize = v.number?.elim d.fontSize fun size => fontSizeText size := by
  rw [write]
  cases v.number? <;> rfl

theorem fontFamily_write_fontSize (d : Draft) (v : Value) :
    (d.write .fontSize v).fontFamily = d.fontFamily := by
  rw [write]
  cases v.number? <;> rfl

theorem font_write_property (d : Draft) (p : Property) (v : Value) :
    (d.write (.property p) v).fontSize = d.fontSize ∧
      (d.write (.property p) v).fontFamily = d.fontFamily := by
  by_cases hp : p = .globalCompositeOperation
  · subst hp
    rw [write]
    cases compositeOperation? v.shown <;> exact ⟨rfl, rfl⟩
  · rw [write_property hp]
    exact ⟨rfl, rfl⟩

/-- A property of a draft is a cell: it takes what effective rules set it to. -/
theorem cell_property (kind : Kind) (s : Situation) (p : Property) :
    Cell (apply kind s) (fun d => d.style.get? p) fun r v => r.Sets kind s p v where
  given d r v h := by
    cases h with
    | direct hp htarget hvalue =>
      rw [apply_of_target htarget hvalue, write_property hp]
      exact Style.get?_set_self ..
    | operation htarget hvalue hoperation =>
      rw [apply_of_target htarget hvalue, style_write_operation, hoperation]
      exact Style.get?_set_self ..
    | height h =>
      obtain ⟨hkind, hproperty, v, hvalue, hsize⟩ := h
      rw [apply_of_target (Kind.target?_eq_fontSize.mpr ⟨hkind, hproperty⟩) hvalue,
        style_write_fontSize, hsize]
      exact Style.get?_set_self ..
  kept d r h := by
    rcases apply_cases kind s d r with halike | ⟨target, v, htarget, hvalue, hwrite⟩
    · rw [halike.style]
    · rw [hwrite]
      -- whatever the rule writes, it does not write to this property, or it would be effective
      rcases target with q | _ | _
      · by_cases hq : q = .globalCompositeOperation
        · subst hq
          rw [style_write_operation]
          cases hoperation : compositeOperation? v.shown with
          | none => rfl
          | some operation =>
            refine Style.get?_set_of_ne ?_ ..
            rintro rfl
            exact h _ (.operation htarget hvalue hoperation)
        · rw [write_property hq]
          refine Style.get?_set_of_ne ?_ ..
          rintro rfl
          exact h _ (.direct hq htarget hvalue)
      · rw [style_write_fontSize]
        cases hsize : v.number? with
        | none => rfl
        | some size =>
          refine Style.get?_set_of_ne ?_ ..
          rintro rfl
          obtain ⟨hkind, hproperty⟩ := Kind.target?_eq_fontSize.mp htarget
          exact h _ (.height ⟨hkind, hproperty, v, hvalue, hsize⟩)
      · rfl

/-- The font size of a draft is a cell: it takes the text of the sizes that rules name. -/
theorem cell_fontSize (kind : Kind) (s : Situation) :
    Cell (apply kind s) fontSize
      fun r text => ∃ size, r.NamesSize kind s size ∧ fontSizeText size = text where
  given d r text h := by
    obtain ⟨size, ⟨hkind, hproperty, v, hvalue, hsize⟩, htext⟩ := h
    rw [apply_of_target (Kind.target?_eq_fontSize.mpr ⟨hkind, hproperty⟩) hvalue,
      fontSize_write_fontSize, hsize, ← htext]
    rfl
  kept d r h := by
    rcases apply_cases kind s d r with halike | ⟨target, v, htarget, hvalue, hwrite⟩
    · rw [halike.fontSize]
    · rw [hwrite]
      rcases target with q | _ | _
      · exact (font_write_property d q v).1
      · rw [fontSize_write_fontSize]
        cases hsize : v.number? with
        | none => rfl
        | some size =>
          obtain ⟨hkind, hproperty⟩ := Kind.target?_eq_fontSize.mp htarget
          exact absurd ⟨size, ⟨hkind, hproperty, v, hvalue, hsize⟩, rfl⟩ (h (fontSizeText size))
      · rfl

/-- The font family of a draft is a cell: it takes the families that rules name. -/
theorem cell_fontFamily (kind : Kind) (s : Situation) :
    Cell (apply kind s) fontFamily fun r family => r.NamesFamily kind s family where
  given d r family h := by
    obtain ⟨hkind, hproperty, v, hvalue, hfamily⟩ := h
    rw [apply_of_target (Kind.target?_eq_fontFamily.mpr ⟨hkind, hproperty⟩) hvalue, ← hfamily]
    rfl
  kept d r h := by
    rcases apply_cases kind s d r with halike | ⟨target, v, htarget, hvalue, hwrite⟩
    · rw [halike.fontFamily]
    · rw [hwrite]
      rcases target with q | _ | _
      · exact (font_write_property d q v).2
      · exact fontFamily_write_fontSize d v
      · obtain ⟨hkind, hproperty⟩ := Kind.target?_eq_fontFamily.mp htarget
        exact absurd ⟨hkind, hproperty, v, hvalue, rfl⟩ (h v.shown)

/-- Finishing a draft touches no property but the font. -/
theorem get?_finish_of_ne {p : Property} (hp : p ≠ .font) (d : Draft) :
    d.finish.get? p = d.style.get? p := by
  rw [finish]
  split
  · exact Style.get?_set_of_ne hp.symm ..
  · rfl

/-- The font of a finished draft that had none: its size and its family, if it has either. -/
theorem get?_finish_font {d : Draft} (hfont : d.style.get? .font = none) :
    d.finish.get? .font = if d.fontSize.isSome || d.fontFamily.isSome then
      some (.text (d.fontSize.getD "10px " ++ d.fontFamily.getD "sans-serif")) else none := by
  rw [finish]
  split
  · exact Style.get?_set_self ..
  · exact hfont

end Draft

/-! ### What rules leave in a style -/

namespace Style

variable {kind : Kind} {s : Situation}

/-- A property other than the font has what the last effective rule set it to. -/
theorem lastGiven_ofRules {p : Property} (hp : p ≠ .font) (rules : List Rule) :
    LastGiven (fun r v => r.Sets kind s p v) rules ((ofRules kind s rules).value.get? p) := by
  have hlast := (Draft.cell_property kind s p).lastGiven_foldl rules (s := .empty) (get?_empty p)
  rw [ofRules, Draft.get?_finish_of_ne hp]
  exact hlast

/-- No rule at all is effective for the font, so the rules leave it to the finish. -/
theorem get?_font_foldl (kind : Kind) (s : Situation) (rules : List Rule) :
    (rules.foldl (Draft.apply kind s) .empty).style.get? .font = none :=
  ((Draft.cell_property kind s .font).read_foldl_of_never
    (fun _ _ v => Rule.not_sets_font v) .empty).trans (get?_empty .font)

/-- The font is put together from the last size and the last family that rules name. -/
theorem font_ofRules (kind : Kind) (s : Situation) (rules : List Rule) :
    ∃ size family, LastGiven (Rule.NamesSize kind s) rules size ∧
      LastGiven (Rule.NamesFamily kind s) rules family ∧
      (ofRules kind s rules).value.get? .font = if size.isSome || family.isSome then
        some (.text (size.elim "10px " fontSizeText ++ family.getD "sans-serif")) else none := by
  obtain ⟨size, hsize, htext⟩ :=
    ((Draft.cell_fontSize kind s).lastGiven_foldl rules (s := .empty) rfl).exists_of_map
  have hfamily := (Draft.cell_fontFamily kind s).lastGiven_foldl rules (s := .empty) rfl
  refine ⟨size, _, hsize, hfamily, ?_⟩
  rw [ofRules, Draft.get?_finish_font (get?_font_foldl kind s rules), htext]
  cases size <;> rfl

/-- A composite operation that the canvas knows, one that it does not know, and a width: for a place
the first one is the last that is effective, so it stays. -/
def blended : List Rule :=
  [⟨"point-comp-op", .constant (.text "dst-over"), ⟨0⟩⟩,
    ⟨"point-comp-op", .constant (.text "multiply"), ⟨1⟩⟩,
    ⟨"line-width", .constant (.number 3), ⟨2⟩⟩]

end Style

end Portrayal
