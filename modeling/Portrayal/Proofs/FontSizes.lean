import Portrayal.Proofs.Completion

/-!
What size a label is lettered in. A label style gives its size twice, as a text height and in front
of its font. The rules that name a size write both of them, but a font is there as soon as a rule
names a family, and then without a size it says ten pixels.

                            text height    font
    no size, no family      -              -
    a family only           -              "10px Verdana"
    a size                  20             "20px/10px Verdana"
    defaults                10             "10px sans-serif"

Completed by the defaults, each of these says its size twice in the same words. A highlight is
written over a style property by property. So the one case in which it tears the two apart is the
second: its font comes with ten pixels, and the text height underneath stays.
-/

namespace Portrayal

/-! ### The characters of a number -/

namespace Decimal

variable {c : Char}

theorem isDigit_of_mem_digits {n : Nat} (h : c ∈ Nat.toDigits 10 n) : c.isDigit = true :=
  Nat.isDigit_of_mem_toDigits (by decide) (by decide) h

/-- Positional writing adds nothing to the digits but zeros and a point. -/
theorem mem_positionalChars {digits : List Char} {leading : Int} {keepPoint : Bool}
    (h : c ∈ positionalChars digits leading keepPoint) : c ∈ digits ∨ c = '0' ∨ c = '.' := by
  unfold positionalChars at h
  dsimp only at h
  split at h
  · simp only [List.mem_append, List.mem_cons, List.not_mem_nil, or_false,
      List.mem_replicate] at h
    tauto
  · split at h
    · cases keepPoint <;>
        simp only [List.mem_append, List.mem_cons, List.not_mem_nil, or_false,
          List.mem_replicate, if_true, Bool.false_eq_true, if_false] at h <;>
        tauto
    · simp only [List.mem_append, List.mem_cons, List.not_mem_nil, or_false] at h
      rcases h with (h | h) | h
      · exact .inl (List.mem_of_mem_take h)
      · exact .inr (.inr h)
      · exact .inl (List.mem_of_mem_drop h)

/-- In plain writing a number has no letter p, so that a unit behind it shows where it ends. -/
theorem not_mem_plainText (x : Float) : 'p' ∉ x.plainText.toList := by
  have hchars : ∀ s : Scientific, 'p' ∉ plain.chars s := by
    intro s h
    rcases mem_positionalChars h with h | h | h
    · exact absurd (isDigit_of_mem_digits h) (by decide)
    · exact absurd h (by decide)
    · exact absurd h (by decide)
  rw [Float.plainText, Layout.text]
  dsimp only
  split
  · decide
  · split
    · split <;> decide
    · rw [String.toList_ofList, List.mem_append, not_or]
      constructor
      · split <;> decide
      · split <;> exact hchars _

theorem takeWhile_pixels (x : Float) (rest : String) :
    (x.plainText ++ "px" ++ rest).toList.takeWhile (· != 'p') = x.plainText.toList := by
  have hnumber : ∀ c ∈ x.plainText.toList, (c != 'p') = true := by
    intro c hc
    rw [bne_iff_ne]
    rintro rfl
    exact not_mem_plainText x hc
  have hunit : "px".toList = ['p', 'x'] := rfl
  rw [String.append_assoc, String.toList_append, List.takeWhile_append_of_pos hnumber,
    String.toList_append, hunit, List.cons_append, List.takeWhile_cons_of_neg (by decide),
    List.append_nil]

/-- Two numbers with pixels behind them begin alike only if they are written alike. -/
theorem eq_of_pixels {x y : Float} {rest rest' : String}
    (h : x.plainText ++ "px" ++ rest = y.plainText ++ "px" ++ rest') :
    x.plainText = y.plainText := by
  have hchars := takeWhile_pixels x rest
  rw [h, takeWhile_pixels y rest'] at hchars
  exact String.toList_inj.mp hchars.symm

end Decimal

/-! ### Sizes that rules name -/

/-- No rule property goes to the text height directly. -/
theorem Kind.target?_ne_textHeight {kind : Kind} {name : String} :
    kind.target? name ≠ some (.property .textHeight) := by
  intro h
  have hall : ∀ entry ∈ kind.targets, entry.2 ≠ .property .textHeight := by cases kind <;> decide
  exact hall _ (mem_targets h) rfl

/-- What a rule sets the text height to is the size that it names. -/
theorem Rule.sets_textHeight_iff {kind : Kind} {s : Situation} {r : Rule} {v : Value} :
    r.Sets kind s .textHeight v ↔ ∃ size, r.NamesSize kind s size ∧ .number size = v := by
  constructor
  · rintro (⟨-, htarget, -⟩ | _ | h)
    · exact absurd htarget Kind.target?_ne_textHeight
    · exact ⟨_, h, rfl⟩
  · rintro ⟨size, h, rfl⟩
    exact .height h

namespace Style

variable {s : Situation} {rules : List Rule} {p : Property}

/-- A style from rules has the height that the last size names. -/
theorem textHeight_ofRules {size : Option Float}
    (h : LastGiven (Rule.NamesSize .text s) rules size) :
    (ofRules .text s rules).value.get? .textHeight = size.map .number := by
  have hsets : LastGiven (fun r v => r.Sets .text s .textHeight v) rules (size.map .number) := by
    simp only [Rule.sets_textHeight_iff]
    exact h.map Value.number
  rw [ofRules, Draft.get?_finish_of_ne (by decide),
    (Draft.cell_property .text s .textHeight).read_foldl hsets]
  exact Option.or_none

/-- The font of a style begins with its text height in pixels. -/
def Sized (style : Style) : Prop :=
  ∃ height rest, style.get? .textHeight = some (.number height) ∧
    style.get? .font = some (.text (height.plainText ++ "px" ++ rest))

/-- The font that a size and a family are put together to. -/
theorem fontSizeText_append (size : Float) (family : String) :
    ∃ rest, fontSizeText size ++ family = size.plainText ++ "px" ++ rest := by
  refine ⟨"/" ++ (size * lineGap).plainText ++ "px " ++ family, ?_⟩
  have hslash : "px/" = "px" ++ "/" := rfl
  simp only [fontSizeText, hslash, String.append_assoc]

theorem plainText_ten : (10 : Float).plainText = "10" := rfl

/-- A font without a size says ten pixels. -/
theorem ten_pixels (family : String) :
    "10px " ++ family = (10 : Float).plainText ++ "px" ++ (" " ++ family) := by
  have hblank : "10px " = "10" ++ "px" ++ " " := rfl
  rw [plainText_ten, hblank, String.append_assoc]

/-- What rules put into the two places of a size, by what they name. -/
inductive Lettering (s : Situation) (rules : List Rule) (style : Style) : Prop where
  | plain (hsize : ∀ r ∈ rules, ∀ size, ¬ r.NamesSize .text s size)
      (hfamily : ∀ r ∈ rules, ∀ family, ¬ r.NamesFamily .text s family)
      (hheight : style.get? .textHeight = none) (hfont : style.get? .font = none)
  | family {family : String} (hsize : ∀ r ∈ rules, ∀ size, ¬ r.NamesSize .text s size)
      (hfamily : ∃ r ∈ rules, ∃ family, r.NamesFamily .text s family)
      (hheight : style.get? .textHeight = none)
      (hfont : style.get? .font = some (.text ("10px " ++ family)))
  | sized (hsize : ∃ r ∈ rules, ∃ size, r.NamesSize .text s size) (h : style.Sized)

theorem lettering_ofRules (s : Situation) (rules : List Rule) :
    Lettering s rules (ofRules .text s rules).value := by
  obtain ⟨size, family, hsize, hfamily, hfont⟩ := font_ofRules .text s rules
  have hheight := textHeight_ofRules hsize
  have hnames := hsize.isSome_iff
  have hcalls := hfamily.isSome_iff
  cases size with
  | some size =>
    obtain ⟨rest, hrest⟩ := fontSizeText_append size (family.getD "sans-serif")
    refine .sized (hnames.mp rfl) ⟨size, rest, hheight, ?_⟩
    rw [hfont, ← hrest]
    rfl
  | none =>
    have hnosize : ∀ r ∈ rules, ∀ size, ¬ r.NamesSize .text s size := by
      intro r hr size h
      exact absurd (hnames.mpr ⟨r, hr, size, h⟩) (by decide)
    cases family with
    | some family => exact .family hnosize (hcalls.mp rfl) hheight hfont
    | none =>
      refine .plain hnosize ?_ hheight hfont
      intro r hr family h
      exact absurd (hcalls.mpr ⟨r, hr, family, h⟩) (by decide)

/-! ### Styles over styles -/

/-- A style that says its size twice in the same words does so over any other. -/
theorem Sized.overlay {top : Style} (h : top.Sized) (base : Style) : (base.overlay top).Sized := by
  obtain ⟨height, rest, hheight, hfont⟩ := h
  refine ⟨height, rest, ?_, ?_⟩
  · rw [get?_overlay_eq_or, hheight]
    rfl
  · rw [get?_overlay_eq_or, hfont]
    rfl

/-- And it does so under any other that has neither of the two places. -/
theorem Sized.overlay_of_none {base top : Style} (h : base.Sized)
    (hnoheight : top.get? .textHeight = none) (hnofont : top.get? .font = none) :
    (base.overlay top).Sized := by
  obtain ⟨height, rest, hheight, hfont⟩ := h
  refine ⟨height, rest, ?_, ?_⟩
  · rw [get?_overlay_eq_or, hnoheight]
    exact hheight
  · rw [get?_overlay_eq_or, hnofont]
    exact hfont

/-- A style with a family but no size written over it keeps its height, and its font says ten
pixels. -/
theorem sized_overlay_family_iff {base top : Style} {family : String} {height : Float}
    (hbase : base.get? .textHeight = some (.number height)) (hheight : top.get? .textHeight = none)
    (hfont : top.get? .font = some (.text ("10px " ++ family))) :
    (base.overlay top).Sized ↔ height.plainText = "10" := by
  have hkept : (base.overlay top).get? .textHeight = some (.number height) := by
    rw [get?_overlay_eq_or, hheight, hbase]
    rfl
  have hwritten : (base.overlay top).get? .font = some (.text ("10px " ++ family)) := by
    rw [get?_overlay_eq_or, hfont]
    rfl
  rw [ten_pixels] at hwritten
  constructor
  · rintro ⟨height', rest, hheight', hfont'⟩
    obtain rfl : height = height' := by
      rw [hkept] at hheight'
      exact Value.number.inj (Option.some.inj hheight')
    rw [hwritten] at hfont'
    have hsame := Decimal.eq_of_pixels (Value.text.inj (Option.some.inj hfont'))
    rw [← hsame, plainText_ten]
  · intro hten
    refine ⟨height, " " ++ family, hkept, ?_⟩
    rw [hwritten, plainText_ten, hten]

/-! ### Base styles and highlights -/

theorem sized_defaultStyle : Kind.text.defaultStyle.Sized := ⟨10, " sans-serif", rfl, rfl⟩

/-- A complete style from rules says its size twice in the same words. -/
theorem sized_baseOfRules (attributes : Attributes) (zoom : Float) (rules : List Rule) :
    (baseOfRules .text attributes zoom rules).value.Sized := by
  have hbase : (baseOfRules .text attributes zoom rules).value =
      Kind.text.defaultStyle.overlay (ofRules .text ⟨attributes, zoom, some true⟩ rules).value :=
    (within_ofRules .text _ rules).complete_eq_overlay
  rw [hbase]
  cases lettering_ofRules ⟨attributes, zoom, some true⟩ rules with
  | plain _ _ hheight hfont => exact sized_defaultStyle.overlay_of_none hheight hfont
  | family _ _ hheight hfont =>
    exact (sized_overlay_family_iff rfl hheight hfont).mpr plainText_ten
  | sized _ h => exact h.overlay _

/-- A highlight keeps the size of a label style if it names a size, or names no family, or the size
is ten pixels anyway. -/
inductive KeepsSize (base : Style) (s : Situation) (shader : Shader) : Prop where
  | size {r : Rule} {size : Float} (hr : r ∈ shader.rules) (h : r.NamesSize .text s size) :
      KeepsSize base s shader
  | noFamily (h : ∀ r ∈ shader.rules, ∀ family, ¬ r.NamesFamily .text s family) :
      KeepsSize base s shader
  | ten {height : Float} (hheight : base.get? .textHeight = some (.number height))
      (hten : height.plainText = "10") : KeepsSize base s shader

/-- A label style from rules says its size twice in the same words. It still does so under a
highlight exactly if that keeps the size; in every other case the font says ten pixels, and the text
height is the one from before. -/
theorem highlighted_sized_iff (attributes : Attributes) (zoom : Float) (rules : List Rule)
    (s : Situation) (shader : Shader) :
    let base := (baseOfRules .text attributes zoom rules).value
    let lit := (base.highlighted .text s shader).value
    base.Sized ∧ (lit.Sized ↔ base.KeepsSize s shader) ∧
      (base.KeepsSize s shader ∨ lit.get? .textHeight = base.get? .textHeight ∧
        ∃ family, lit.get? .font = some (.text ("10px " ++ family))) := by
  intro base lit
  have hbase : base.Sized := sized_baseOfRules attributes zoom rules
  refine ⟨hbase, ?_⟩
  have hlit : lit = base.overlay (ofRules .text s shader.rules).value := rfl
  rw [hlit]
  cases lettering_ofRules s shader.rules with
  | plain _ hfamily hheight hfont =>
    have hkeeps : base.KeepsSize s shader := .noFamily hfamily
    exact ⟨iff_of_true (hbase.overlay_of_none hheight hfont) hkeeps, .inl hkeeps⟩
  | @family family hsize hfamily hheight hfont =>
    obtain ⟨height, -, hbefore, -⟩ := hbase
    refine ⟨?_, .inr ⟨?_, family, ?_⟩⟩
    · rw [sized_overlay_family_iff hbefore hheight hfont]
      constructor
      · intro hten
        exact .ten hbefore hten
      · rintro (⟨hr, h⟩ | hnone | ⟨hsame, hten⟩)
        · exact absurd h (hsize _ hr _)
        · obtain ⟨r, hr, called, h⟩ := hfamily
          exact absurd h (hnone r hr called)
        · rw [hbefore] at hsame
          rwa [Value.number.inj (Option.some.inj hsame)]
    · rw [get?_overlay_eq_or, hheight]
      rfl
    · rw [get?_overlay_eq_or, hfont]
      rfl
  | sized hsize h =>
    obtain ⟨r, hr, size, hnames⟩ := hsize
    have hkeeps : base.KeepsSize s shader := .size hr hnames
    exact ⟨iff_of_true (h.overlay base) hkeeps, .inl hkeeps⟩

/-- A label of twenty pixels whose highlight names a family: its text height stays at twenty, and
its font says ten pixels. -/
theorem not_sized_verdana :
    let base := (baseOfRules .text .empty 10 [⟨"text-size", .constant (.number 20), ⟨0⟩⟩]).value
    ¬ (base.highlighted .text ⟨.empty, 10, some true⟩
      ⟨[⟨"text-face-name", .constant (.text "Verdana"), ⟨1⟩⟩], none⟩).value.Sized := by
  intro base hsized
  have hheight : base.get? .textHeight = some (.number 20) := rfl
  have hten := (sized_overlay_family_iff hheight rfl rfl).mp hsized
  have htwenty : (20 : Float).plainText = "20" := rfl
  rw [htwenty] at hten
  exact absurd hten (by decide)

end Style

end Portrayal
