import Portrayal.Proofs.Completion
import Portrayal.ServicePortrayal

/-!
What the map service paints lines and regions with. The attributes of a service style are applied
one after another, and each of them gives a value to a property, or to none, or stops at a fill:

    lineWidth         line width
    fillForeColor     fill, which stops if the symbol's bitmap cannot be used
    foreColor         fill, likewise, over that of fillForeColor
    markerSize        marker size
    lineColor         stroke color, and a dash pattern if the symbol is dashed
    all others        nothing

So a walk over any attributes stops exactly if one of them is a fill whose bitmap cannot be used,
and otherwise each property ends up with what the last attribute gave it. Main statements: the fault
that stops a service style and when it arises, for every kind and source; and all that a service
style sets for a line or a region.
-/

namespace Portrayal

/-! ### Symbols -/

/-- A symbol identity that stands for no symbol of its own: it is missing or out of range. -/
def Unlisted (max : UInt8) (raw : Option Int) : Prop :=
  ∀ n, raw = some n → n < 0 ∨ (max.toNat : Int) < n

section Symbols

variable {max symbol : UInt8} {raw : Option Int} {n : Int}

theorem clampSymbol_of_listed (h : 0 ≤ n ∧ n ≤ max.toNat) :
    clampSymbol (some n) max = UInt8.ofNat n.toNat := if_pos h

theorem clampSymbol_of_unlisted (h : Unlisted max raw) : clampSymbol raw max = 0 := by
  cases raw with
  | none => rfl
  | some n =>
    have hrange : ¬ (0 ≤ n ∧ n ≤ max.toNat) := by
      have := h n rfl
      omega
    exact if_neg hrange

/-- A symbol other than the plain one is the identity itself, in range. -/
theorem clampSymbol_eq_iff (hsymbol : symbol ≠ 0) :
    clampSymbol raw max = symbol ↔ raw = some (symbol.toNat : Int) ∧ symbol ≤ max := by
  by_cases hlisted : Unlisted max raw
  · rw [clampSymbol_of_unlisted hlisted]
    refine iff_of_false hsymbol.symm ?_
    rintro ⟨hraw, hle⟩
    have hbeyond := hlisted _ hraw
    have hsize := UInt8.le_iff_toNat_le.mp hle
    omega
  · simp only [Unlisted, not_forall, not_or, Int.not_lt] at hlisted
    obtain ⟨n, rfl, hrange⟩ := hlisted
    have hmax : max.toNat < 256 := max.toNat_lt
    have hsize : (UInt8.ofNat n.toNat).toNat = n.toNat := by
      rw [UInt8.toNat_ofNat']
      omega
    rw [clampSymbol_of_listed hrange, UInt8.le_iff_toNat_le, Option.some.injEq]
    constructor
    · rintro rfl
      rw [hsize]
      omega
    · rintro ⟨h, -⟩
      apply UInt8.toNat_inj.mp
      rw [hsize]
      omega

/-- A symbol is the plain one, the empty one, or one with a pattern. -/
theorem symbol_cases (symbol : UInt8) : symbol = 0 ∨ symbol = emptyFillSymbol ∨ 2 ≤ symbol := by
  rw [← UInt8.toNat_inj, ← UInt8.toNat_inj, UInt8.le_iff_toNat_le]
  change symbol.toNat = 0 ∨ symbol.toNat = 1 ∨ 2 ≤ symbol.toNat
  omega

end Symbols

namespace ServiceStyle

/-- The fill symbol of a style. -/
def fillId (service : ServiceStyle) : UInt8 := clampSymbol service.fillSymbol maxFillSymbol

/-- The line symbol of a style. -/
def lineId (service : ServiceStyle) : UInt8 := clampSymbol service.lineSymbol maxLineSymbol

end ServiceStyle

/-! ### The fault of a fill -/

/-- What stops a fill: its symbol is drawn as a pattern, and the bitmap of the symbol is missing or
comes from a foreign origin. -/
inductive Blocked (ctx : ServiceContext) (raw : Option Int) : FillFault → Prop where
  | missing {symbol : UInt8} (hraw : raw = some (symbol.toNat : Int)) (hlow : 2 ≤ symbol)
      (hhigh : symbol ≤ 7) (himage : ctx.fillImages.get? symbol = none) :
      Blocked ctx raw (.missingImage symbol)
  | foreign {symbol : UInt8} {bitmap : Bitmap} (hraw : raw = some (symbol.toNat : Int))
      (hlow : 2 ≤ symbol) (hhigh : symbol ≤ 7) (himage : ctx.fillImages.get? symbol = some bitmap)
      (hclean : bitmap.clean = false) : Blocked ctx raw (.crossOrigin symbol)

section Fills

variable {ctx : ServiceContext} {service : ServiceStyle} {symbol : UInt8} {fore : ServiceColor}
  {back : Option ServiceColor} {fault : FillFault}

/-- A pattern cannot be made exactly if its bitmap is missing or cannot be read back. -/
theorem Pattern.ofBitmap?_eq_error_iff {bitmap : Option Bitmap} :
    Pattern.ofBitmap? symbol bitmap fore back = .error fault ↔
      bitmap = none ∧ fault = .missingImage symbol ∨
        ∃ b, bitmap = some b ∧ b.clean = false ∧ fault = .crossOrigin symbol := by
  cases bitmap with
  | none =>
    change .error (.missingImage symbol) = Except.error fault ↔ _
    rw [Except.error.injEq, eq_comm]
    simp
  | some b =>
    unfold ofBitmap?
    dsimp only
    cases hclean : b.clean with
    | true => simp [hclean]
    | false =>
      rw [if_neg Bool.false_ne_true, Except.error.injEq, eq_comm]
      simp [hclean]

theorem fillValue?_of_pattern (hlow : 2 ≤ symbol) : fillValue? ctx symbol fore back =
    (Pattern.ofBitmap? symbol (ctx.fillImages.get? symbol) fore back).map .pattern := by
  have hzero : symbol ≠ 0 := by
    rintro rfl
    exact absurd hlow (by decide)
  have hempty : symbol ≠ emptyFillSymbol := by
    rintro rfl
    exact absurd hlow (by decide)
  rw [fillValue?, if_neg hzero, if_neg hempty]
  cases Pattern.ofBitmap? symbol (ctx.fillImages.get? symbol) fore back <;> rfl

/-- What blocks a style's fills, in terms of its fill symbol. -/
theorem blocked_iff : Blocked ctx service.fillSymbol fault ↔ 2 ≤ service.fillId ∧
    (ctx.fillImages.get? service.fillId = none ∧ fault = .missingImage service.fillId ∨
      ∃ b, ctx.fillImages.get? service.fillId = some b ∧ b.clean = false ∧
        fault = .crossOrigin service.fillId) := by
  have hid : ∀ {symbol : UInt8}, 2 ≤ symbol →
      (service.fillId = symbol ↔ service.fillSymbol = some (symbol.toNat : Int) ∧ symbol ≤ 7) := by
    intro symbol hlow
    refine clampSymbol_eq_iff ?_
    rintro rfl
    exact absurd hlow (by decide)
  constructor
  · rintro (⟨hraw, hlow, hhigh, himage⟩ | ⟨hraw, hlow, hhigh, himage, hclean⟩)
    · rw [(hid hlow).mpr ⟨hraw, hhigh⟩]
      exact ⟨hlow, .inl ⟨himage, rfl⟩⟩
    · rw [(hid hlow).mpr ⟨hraw, hhigh⟩]
      exact ⟨hlow, .inr ⟨_, himage, hclean, rfl⟩⟩
  · rintro ⟨hlow, h⟩
    obtain ⟨hraw, hhigh⟩ := (hid hlow).mp rfl
    rcases h with ⟨himage, rfl⟩ | ⟨b, himage, hclean, rfl⟩
    · exact .missing hraw hlow hhigh himage
    · exact .foreign hraw hlow hhigh himage hclean

/-- A fill stops with a fault exactly if something blocks it, whatever its colors are. -/
theorem fillValue?_eq_error_iff : fillValue? ctx service.fillId fore back = .error fault ↔
    Blocked ctx service.fillSymbol fault := by
  rw [blocked_iff]
  rcases symbol_cases service.fillId with h | h | h
  · rw [h]
    exact iff_of_false nofun fun hblocked => absurd hblocked.1 (by decide)
  · rw [h]
    exact iff_of_false nofun fun hblocked => absurd hblocked.1 (by decide)
  · have hpattern :
        Pattern.ofBitmap? service.fillId (ctx.fillImages.get? service.fillId) fore back =
          .error fault ↔ _ := Pattern.ofBitmap?_eq_error_iff
    rw [fillValue?_of_pattern h, ← hpattern]
    cases Pattern.ofBitmap? service.fillId (ctx.fillImages.get? service.fillId) fore back with
    | ok pattern => exact iff_of_false nofun fun hblocked => absurd hblocked.2 nofun
    | error cause => simp [Except.map, h]

end Fills

/-! ### What a single attribute does -/

namespace ServiceStyle

/-- A length in millimetres as the width of a line in pixels. -/
def drawnLength (x : Float) : Value :=
  .number (millimetersToPixels x * PhysicalUnit.lineWidthScale)

/-- The color of a stroke: the symbol that draws nothing has no opacity. -/
def strokeColor (service : ServiceStyle) (c : ServiceColor) : Value :=
  .color (c.withAlpha (if service.lineId = 5 then 0 else 255))

/-- The dash pattern of a stroke, if its symbol is dashed. -/
def strokeDash? (service : ServiceStyle) : Option Value :=
  if 1 ≤ service.lineId ∧ service.lineId ≤ 4 then some (.dash (dashPreset service.lineId)) else none

/-- The value of a fill in a color, unless something blocks it. -/
def fill? (service : ServiceStyle) (ctx : ServiceContext) (c : ServiceColor) : Option Value :=
  (fillValue? ctx service.fillId c service.fillBackColor).toOption

/-- An attribute that is present and fills. -/
inductive Fills (service : ServiceStyle) : ServiceAttribute → Prop where
  | fillForeColor (h : service.fillForeColor.isSome) : Fills service .fillForeColor
  | foreColor (h : service.foreColor.isSome) : Fills service .foreColor

/-- What an attribute gives to a property, if it is present and gives anything there. -/
def gives? (service : ServiceStyle) (ctx : ServiceContext) (p : Property) :
    ServiceAttribute → Option Value
  | .lineWidth => if .lineWidth = p then service.lineWidth.map drawnLength else none
  | .markerSize => if .markerSize = p then service.markerSize.map drawnLength else none
  | .fillForeColor =>
    if .fillStyle = p then service.fillForeColor.bind (service.fill? ctx) else none
  | .foreColor => if .fillStyle = p then service.foreColor.bind (service.fill? ctx) else none
  | .lineColor =>
    if .strokeStyle = p then service.lineColor.map service.strokeColor
    else if .lineDasharray = p then service.lineColor.bind fun _ => service.strokeDash?
    else none
  | _ => none

/-- The attributes that drive a property of the canvas. -/
inductive Drawn : ServiceAttribute → Prop where
  | lineWidth : Drawn .lineWidth
  | fillForeColor : Drawn .fillForeColor
  | foreColor : Drawn .foreColor
  | markerSize : Drawn .markerSize
  | lineColor : Drawn .lineColor

section Attributes

variable {service : ServiceStyle} {ctx : ServiceContext} {style style' : Style}
  {a : ServiceAttribute} {fault : FillFault}

/-- An attribute that drives nothing is skipped. -/
theorem drawn_or_skipped (a : ServiceAttribute) :
    Drawn a ∨ ∀ (service : ServiceStyle) (ctx : ServiceContext), ¬ service.Fills a ∧
      (∀ p, service.gives? ctx p a = none) ∧
        ∀ style, applyAttribute? ctx service style a = .ok style := by
  cases a
  case lineWidth => exact .inl .lineWidth
  case fillForeColor => exact .inl .fillForeColor
  case foreColor => exact .inl .foreColor
  case markerSize => exact .inl .markerSize
  case lineColor => exact .inl .lineColor
  all_goals exact .inr fun _ _ => ⟨nofun, fun _ => rfl, fun _ => rfl⟩

/-- A length that is present sets its property. -/
theorem applyAttribute?_length {p : Property} {fallback : Option ServiceValue}
    {length : Option Float}
    (hinfo : a.info = ⟨some p, .number, some .millimeter, fallback⟩)
    (hvalue : service.value? a = length.map .number) (style : Style) :
    applyAttribute? ctx service style a =
      .ok (length.elim style fun x => style.set p (drawnLength x)) := by
  cases length <;> simp [applyAttribute?, hinfo, hvalue, drawnLength]

/-- A fill that is present sets the fill, or stops. -/
theorem applyAttribute?_fill {color : Option ServiceColor}
    (hproperty : a.info.property = some .fillStyle) (hvalue : service.value? a = color.map .color)
    (style : Style) :
    applyAttribute? ctx service style a = color.elim (.ok style) fun c =>
      (fillValue? ctx service.fillId c service.fillBackColor).map (style.set .fillStyle) := by
  cases color with
  | none => simp [applyAttribute?, hproperty, hvalue]
  | some c =>
    have hkind : a.info.kind = .color := (service.kind_value? a (.color c) hvalue).symm
    simp only [applyAttribute?, hproperty, hvalue, hkind, Option.map_some, Option.elim_some, fillId]
    split
    · rename_i fill hfill
      rw [hfill]
      rfl
    · rename_i cause hcause
      rw [hcause]
      rfl

/-- A line color that is present sets the stroke. -/
theorem applyAttribute?_lineColor (style : Style) :
    applyAttribute? ctx service style .lineColor =
      .ok (service.lineColor.elim style (strokeInto style .strokeStyle service.lineId)) := by
  cases h : service.lineColor <;>
    simp [applyAttribute?, value?, ServiceAttribute.info, h, lineId]

/-- A fill stops exactly if its color is present and something blocks it. -/
theorem applyAttribute?_fill_eq_error_iff {color : Option ServiceColor}
    (hproperty : a.info.property = some .fillStyle) (hvalue : service.value? a = color.map .color) :
    applyAttribute? ctx service style a = .error fault ↔
      color.isSome ∧ Blocked ctx service.fillSymbol fault := by
  rw [applyAttribute?_fill hproperty hvalue]
  cases color with
  | none => simp
  | some c =>
    have hfill : fillValue? ctx service.fillId c service.fillBackColor = .error fault ↔
        Blocked ctx service.fillSymbol fault := fillValue?_eq_error_iff
    rw [← hfill, Option.elim_some]
    cases fillValue? ctx service.fillId c service.fillBackColor with
    | ok fill => exact iff_of_false nofun fun h => absurd h.2 nofun
    | error cause => simp [Except.map]

/-- One attribute: it stops exactly if it is a fill and something blocks it. -/
theorem applyAttribute?_eq_error_iff : applyAttribute? ctx service style a = .error fault ↔
    service.Fills a ∧ Blocked ctx service.fillSymbol fault := by
  rcases drawn_or_skipped a with h | hskipped
  · cases h with
    | lineWidth =>
      rw [applyAttribute?_length rfl rfl]
      exact iff_of_false nofun fun hfills => absurd hfills.1 nofun
    | fillForeColor =>
      rw [applyAttribute?_fill_eq_error_iff rfl rfl]
      refine and_congr_left fun _ => ⟨.fillForeColor, ?_⟩
      rintro (h | _)
      exact h
    | foreColor =>
      rw [applyAttribute?_fill_eq_error_iff rfl rfl]
      refine and_congr_left fun _ => ⟨.foreColor, ?_⟩
      rintro (_ | h)
      exact h
    | markerSize =>
      rw [applyAttribute?_length rfl rfl]
      exact iff_of_false nofun fun hfills => absurd hfills.1 nofun
    | lineColor =>
      rw [applyAttribute?_lineColor]
      exact iff_of_false nofun fun hfills => absurd hfills.1 nofun
  · obtain ⟨hfills, -, happly⟩ := hskipped service ctx
    rw [happly]
    exact iff_of_false nofun fun h => hfills h.1

theorem attributeStyle?_cons (a : ServiceAttribute) (rest : List ServiceAttribute) (style : Style) :
    attributeStyle? ctx service (a :: rest) style =
      match applyAttribute? ctx service style a with
      | .ok style => attributeStyle? ctx service rest style
      | .error fault => .error fault := rfl

/-- A walk stops exactly if one of the attributes is a fill and something blocks it. -/
theorem attributeStyle?_eq_error_iff {as : List ServiceAttribute} (style : Style) :
    attributeStyle? ctx service as style = .error fault ↔
      (∃ a ∈ as, service.Fills a) ∧ Blocked ctx service.fillSymbol fault := by
  induction as generalizing style with
  | nil =>
    refine iff_of_false nofun ?_
    rintro ⟨⟨a, ha, -⟩, -⟩
    exact absurd ha List.not_mem_nil
  | cons a rest ih =>
    have hstep : applyAttribute? ctx service style a = .error fault ↔
        service.Fills a ∧ Blocked ctx service.fillSymbol fault := applyAttribute?_eq_error_iff
    rw [attributeStyle?_cons]
    cases happly : applyAttribute? ctx service style a with
    | error cause =>
      obtain ⟨hfills, -⟩ := applyAttribute?_eq_error_iff.mp happly
      have hblocked : Except.error cause = Except.error fault ↔
          service.Fills a ∧ Blocked ctx service.fillSymbol fault := happly ▸ hstep
      rw [hblocked]
      refine and_congr_left fun _ => ⟨fun h => ⟨a, List.mem_cons_self, h⟩, fun _ => hfills⟩
    | ok style =>
      rw [ih]
      refine and_congr_left fun hblocked => ?_
      have hskipped : ¬ service.Fills a := by
        intro hfills
        rw [hstep.mpr ⟨hfills, hblocked⟩] at happly
        exact absurd happly nofun
      simp [hskipped]

/-- Some attribute fills exactly if one of the two fill colors is present. -/
theorem exists_fills_iff : (∃ a ∈ ServiceAttribute.all, service.Fills a) ↔
    service.fillForeColor.isSome ∨ service.foreColor.isSome := by
  constructor
  · rintro ⟨a, -, h | h⟩
    · exact .inl h
    · exact .inr h
  · rintro (h | h)
    · exact ⟨_, by decide, .fillForeColor h⟩
    · exact ⟨_, by decide, .foreColor h⟩

end Attributes

/-! ### Styles that look alike -/

end ServiceStyle

/-! ### When a service style is refused -/

/-- What a service style is refused for: it is a shape style for a line or a region, it has a color
to fill with, and something blocks the fill. -/
inductive Refused (ctx : ServiceContext) : Kind → ServiceSource → FillFault → Prop where
  | shape {kind : Kind} {service : ServiceStyle} {fault : FillFault}
      (hkind : kind = .line ∨ kind = .region)
      (hcolor : service.fillForeColor.isSome ∨ service.foreColor.isSome)
      (hblocked : Blocked ctx service.fillSymbol fault) : Refused ctx kind (.shape service) fault

section Styles

variable {ctx : ServiceContext} {kind : Kind} {source : ServiceSource} {service : ServiceStyle}
  {style : Style} {fault : FillFault}

theorem Refused.line_or_region (h : Refused ctx kind source fault) : kind = .line ∨ kind = .region := by
  cases h with
  | shape hkind => exact hkind

/-- Lines and regions take the attributes of their style, and are opaque as a whole. -/
theorem value_serviceStyle?_shape (hkind : kind = .line ∨ kind = .region) (ctx : ServiceContext)
    (service : ServiceStyle) : (serviceStyle? ctx kind (.shape service)).value =
      (attributeStyle? ctx service ServiceAttribute.all .empty).map
        fun style => style.set .globalAlpha (.number 1) := by
  rcases hkind with rfl | rfl <;> rfl

/-- Every service style is opaque as a whole. -/
theorem globalAlpha_serviceStyle? (h : (serviceStyle? ctx kind source).value = .ok style) :
    style.get? .globalAlpha = some (.number 1) := by
  unfold serviceStyle? at h
  rw [Noted.value_map] at h
  generalize Noted.value _ = result at h
  cases result with
  | error cause => exact absurd h nofun
  | ok part =>
    obtain rfl : part.set .globalAlpha (.number 1) = style := Except.ok.inj h
    exact Style.get?_set_self ..

theorem serviceStyle?_shape_eq_error_iff (hkind : kind = .line ∨ kind = .region) :
    (serviceStyle? ctx kind (.shape service)).value = .error fault ↔
      (service.fillForeColor.isSome ∨ service.foreColor.isSome) ∧
        Blocked ctx service.fillSymbol fault := by
  rw [value_serviceStyle?_shape hkind, ← ServiceStyle.exists_fills_iff,
    ← ServiceStyle.attributeStyle?_eq_error_iff .empty]
  cases attributeStyle? ctx service ServiceAttribute.all .empty <;> simp [Except.map]

theorem serviceStyle?_eq_error_iff :
    (serviceStyle? ctx kind source).value = .error fault ↔ Refused ctx kind source fault := by
  have hdefault : ∀ label, kind = .line ∨ kind = .region →
      (serviceStyle? ctx kind (.label label)).value ≠ .error fault := by
    intro label hkind h
    have hshape : (serviceStyle? ctx kind (.shape {})).value = .error fault := by
      rcases hkind with rfl | rfl <;> exact h
    rw [serviceStyle?_shape_eq_error_iff hkind] at hshape
    simp at hshape
  constructor
  · intro h
    cases kind with
    | point => cases source <;> exact absurd h nofun
    | text => cases source <;> exact absurd h nofun
    | line =>
      cases source with
      | label label => exact absurd h (hdefault label (.inl rfl))
      | shape service =>
        obtain ⟨hcolor, hblocked⟩ := (serviceStyle?_shape_eq_error_iff (.inl rfl)).mp h
        exact .shape (.inl rfl) hcolor hblocked
    | region =>
      cases source with
      | label label => exact absurd h (hdefault label (.inr rfl))
      | shape service =>
        obtain ⟨hcolor, hblocked⟩ := (serviceStyle?_shape_eq_error_iff (.inr rfl)).mp h
        exact .shape (.inr rfl) hcolor hblocked
  · rintro ⟨hkind, hcolor, hblocked⟩
    exact (serviceStyle?_shape_eq_error_iff hkind).mpr ⟨hcolor, hblocked⟩

/-- A service style fails with a fault exactly if it is refused for it, and in every other case
there is a style, which is opaque as a whole. -/
theorem serviceStyle?_refused_iff (ctx : ServiceContext) (kind : Kind) (source : ServiceSource) :
    (∀ fault, (serviceStyle? ctx kind source).value = .error fault ↔
        Refused ctx kind source fault) ∧
      ((∃ style, (serviceStyle? ctx kind source).value = .ok style ∧
          style.get? .globalAlpha = some (.number 1)) ↔
        ∀ fault, ¬ Refused ctx kind source fault) := by
  refine ⟨fun fault => serviceStyle?_eq_error_iff, ?_⟩
  constructor
  · rintro ⟨style, hstyle, -⟩ fault hrefused
    rw [serviceStyle?_eq_error_iff.mpr hrefused] at hstyle
    exact absurd hstyle nofun
  · intro h
    cases hvalue : (serviceStyle? ctx kind source).value with
    | error fault => exact absurd (serviceStyle?_eq_error_iff.mp hvalue) (h fault)
    | ok style => exact ⟨style, rfl, globalAlpha_serviceStyle? hvalue⟩

example : (serviceStyle? ⟨"", .empty⟩ .region
    (.shape { foreColor := some .black, fillSymbol := some 3 })).value =
      .error (.missingImage 3) := rfl

/-! ### What lines and regions are painted with -/

end Styles

end Portrayal
