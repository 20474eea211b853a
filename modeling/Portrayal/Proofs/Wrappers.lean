import Portrayal.Shader

/-!
Rules in wrappers. A rule is restricted by wrapping it, and a wrapped rule can be wrapped again, in
wrappers of the same kind or of the other one, as often as one likes. Each wrapper lets a situation
through to what it is wrapped around, or gives nothing:

        zoom level 8, the filter rejects the feature

        filtered ( from 3 ( from 5 up to 9 ( rule )))     nothing: the outermost wrapper stops it
        from 3 ( up to 7 ( filtered ( rule )))            nothing: the second one does
        from 3 ( from 5 up to 9 ( rule ))                 what the rule gives

Whichever wrapper stops a situation, the outcome is the same. So a stack of wrappers asks for what all of
them ask for: a zoom level between all bounds that are given, and a feature that is not rejected if
there is a filter wrapper among them.

Main statement: a wrapped rule is for the same property and gives what the rule gives in the situations
that pass all wrappers, and nothing in others. It depends on which wrappers there are, and neither on
their order nor on how often one occurs.
-/

namespace Portrayal

open Float.Model (UnpackedFloat)

theorem unpack_of_isNaN {x : Float} (h : x.isNaN = true) :
    x.toModel.unpack = UnpackedFloat.notANumber := by
  have hunpacked : x.toModel.unpack.isNaN = true := h
  cases hx : x.toModel.unpack with
  | notANumber => rfl
  | _ =>
    rw [hx] at hunpacked
    exact nomatch hunpacked

/-- What is not a number is not below, above or equal to anything. -/
theorem not_le_of_isNaN {x y : Float} (h : x.isNaN = true ∨ y.isNaN = true) : ¬ x ≤ y := by
  have hnone : x.toModel.unpack.compare y.toModel.unpack = none := by
    rcases h with h | h
    · rw [unpack_of_isNaN h]
      rfl
    · rw [unpack_of_isNaN h]
      cases x.toModel.unpack <;> rfl
  intro hle
  have hcompare : (x.toModel.unpack.compare y.toModel.unpack).any (·.isLE) = true :=
    of_decide_eq_true hle
  rw [hnone] at hcompare
  exact nomatch hcompare

/-- A wrapper for rules. -/
inductive Wrapper where
  | zoomRange (least greatest : Option Float)
  | filtered

namespace Wrapper

/-- Whether a wrapper lets a situation through. -/
def Admits (s : Situation) : Wrapper → Prop
  | zoomRange least greatest => (∀ z ∈ least, s.zoom ≥ z) ∧ ∀ z ∈ greatest, s.zoom ≤ z
  | filtered => s.filter ≠ some false

/-- What a stack of wrappers asks of a situation. -/
structure Passes (ws : List Wrapper) (s : Situation) : Prop where
  least : ∀ z greatest, .zoomRange (some z) greatest ∈ ws → s.zoom ≥ z
  greatest : ∀ least z, .zoomRange least (some z) ∈ ws → s.zoom ≤ z
  filter : .filtered ∈ ws → s.filter ≠ some false

variable {ws ws' : List Wrapper} {s : Situation} {z : Float}

/-- A situation passes a stack exactly if every wrapper in it lets it through. -/
theorem passes_iff : Passes ws s ↔ ∀ w ∈ ws, w.Admits s := by
  constructor
  · intro h w hw
    cases w with
    | zoomRange least greatest =>
      constructor
      · rintro z rfl
        exact h.least z greatest hw
      · rintro z rfl
        exact h.greatest least z hw
    | filtered => exact h.filter hw
  · intro h
    exact
      { least := fun z _ hw => (h _ hw).1 z rfl
        greatest := fun _ z hw => (h _ hw).2 z rfl
        filter := h .filtered }

instance (s : Situation) : DecidablePred (Admits s)
  | zoomRange least greatest =>
    inferInstanceAs (Decidable ((∀ z ∈ least, s.zoom ≥ z) ∧ ∀ z ∈ greatest, s.zoom ≤ z))
  | filtered => inferInstanceAs (Decidable (s.filter ≠ some false))

instance (ws : List Wrapper) : DecidablePred (Passes ws) := fun _ =>
  decidable_of_iff _ passes_iff.symm

theorem passes_congr (h : ∀ w, w ∈ ws' ↔ w ∈ ws) : Passes ws' s ↔ Passes ws s := by
  simp only [passes_iff, h]

/-- Whether a stack gives a bound on the zoom level. -/
def Bounds (ws : List Wrapper) (z : Float) : Prop :=
  (∃ greatest, .zoomRange (some z) greatest ∈ ws) ∨ ∃ least, .zoomRange least (some z) ∈ ws

/-- A zoom level that is not a number is within no bound. -/
theorem not_passes_of_isNaN (hzoom : s.zoom.isNaN = true) (hbound : Bounds ws z) :
    ¬ Passes ws s := by
  intro h
  rcases hbound with ⟨greatest, hw⟩ | ⟨least, hw⟩
  · exact not_le_of_isNaN (.inr hzoom) (h.least z greatest hw)
  · exact not_le_of_isNaN (.inl hzoom) (h.greatest least z hw)

end Wrapper

namespace Rule

open Wrapper (Passes Bounds)

/-- A rule in a wrapper. -/
def wrap (r : Rule) : Wrapper → StateM RecordSupply Rule
  | .zoomRange least greatest => r.zoomRange least greatest
  | .filtered => r.filtered

/-- A rule in a stack of wrappers, the first one innermost. -/
def wrapAll (r : Rule) (ws : List Wrapper) : StateM RecordSupply Rule := ws.foldlM wrap r

/-- A rule that gives what another one gives, in some situations only. -/
structure Narrowed (P : Situation → Prop) (r q : Rule) : Prop where
  property : q.property = r.property
  inside : ∀ s, P s → q.evaluate s = r.evaluate s
  outside : ∀ s, ¬ P s → q.evaluate s = none

section Narrowed

variable {P Q : Situation → Prop} {q r t : Rule}

theorem Narrowed.trans (h : Narrowed P r q) (h' : Narrowed Q q t) :
    Narrowed (fun s => P s ∧ Q s) r t where
  property := h'.property.trans h.property
  inside s hs := (h'.inside s hs.2).trans (h.inside s hs.1)
  outside s hs := by
    by_cases hQ : Q s
    · exact (h'.inside s hQ).trans (h.outside s fun hP => hs ⟨hP, hQ⟩)
    · exact h'.outside s hQ

theorem Narrowed.congr (h : Narrowed P r q) (hPQ : ∀ s, Q s ↔ P s) : Narrowed Q r q where
  property := h.property
  inside s hs := h.inside s ((hPQ s).mp hs)
  outside s hs := h.outside s fun hP => hs ((hPQ s).mpr hP)

/-- A rule is narrowed in one way only. -/
theorem Narrowed.unique (h : Narrowed P r q) (h' : Narrowed P r t) :
    t.property = q.property ∧ ∀ s, t.evaluate s = q.evaluate s := by
  refine ⟨h'.property.trans h.property.symm, fun s => ?_⟩
  by_cases hs : P s
  · rw [h'.inside s hs, h.inside s hs]
  · rw [h'.outside s hs, h.outside s hs]

end Narrowed

/-- One wrapper narrows a rule to the situations that it lets through. -/
theorem narrowed_wrap (r : Rule) (w : Wrapper) (supply : RecordSupply) :
    Narrowed (w.Admits ·) r ((r.wrap w).run supply).1 := by
  cases w with
  | zoomRange least greatest =>
    have hbounds (s : Situation) : (least.all (fun z => s.zoom ≥ z) &&
        greatest.all fun z => s.zoom ≤ z) = true ↔ (Wrapper.zoomRange least greatest).Admits s := by
      cases least <;> cases greatest <;> simp [Wrapper.Admits]
    exact
      { property := rfl
        inside := fun s hs => if_pos ((hbounds s).mpr hs)
        outside := fun s hs => if_neg fun h => hs ((hbounds s).mp h) }
  | filtered =>
    exact
      { property := rfl
        inside := fun s hs => if_neg hs
        outside := fun s hs => if_pos (Classical.not_not.mp hs) }

/-- A stack of wrappers narrows a rule to the situations that pass it. -/
theorem narrowed_wrapAll : ∀ (ws : List Wrapper) (r : Rule) (supply : RecordSupply),
    Narrowed (Passes ws) r ((r.wrapAll ws).run supply).1
  | [], r, supply =>
    { property := rfl
      inside := fun _ _ => rfl
      outside := fun s hs => absurd (Wrapper.passes_iff.mpr (by simp)) hs }
  | w :: ws, r, supply => by
    have hfirst := narrowed_wrap r w supply
    have hrest := narrowed_wrapAll ws ((r.wrap w).run supply).1 ((r.wrap w).run supply).2
    refine (hfirst.trans hrest).congr fun s => ?_
    rw [Wrapper.passes_iff, List.forall_mem_cons, Wrapper.passes_iff]

/-- A rule in a stack of wrappers is for the same property. It gives what the rule gives if the zoom
level is within all bounds that are given and the feature is not rejected where that is asked for, and
nothing otherwise; in particular nothing if the zoom level is not a number and there is a bound. A
stack of the same wrappers in another order, or with some of them more or less often, makes a rule that
gives the same. -/
theorem wrapAll_conjoins (r : Rule) (ws : List Wrapper) (supply : RecordSupply) :
    let wrapped := ((r.wrapAll ws).run supply).1
    wrapped.property = r.property ∧
      (∀ s, Passes ws s → wrapped.evaluate s = r.evaluate s) ∧
      (∀ s, ¬ Passes ws s → wrapped.evaluate s = none) ∧
      (∀ s z, s.zoom.isNaN = true → Bounds ws z → wrapped.evaluate s = none) ∧
      ∀ ws' supply', (∀ w, w ∈ ws' ↔ w ∈ ws) →
        let other := ((r.wrapAll ws').run supply').1
        other.property = wrapped.property ∧ ∀ s, other.evaluate s = wrapped.evaluate s := by
  intro wrapped
  have hnarrowed : Narrowed (Passes ws) r wrapped := narrowed_wrapAll ws r supply
  refine ⟨hnarrowed.property, hnarrowed.inside, hnarrowed.outside, ?_, ?_⟩
  · intro s z hzoom hbound
    exact hnarrowed.outside s (Wrapper.not_passes_of_isNaN hzoom hbound)
  · intro ws' supply' hws
    have hother := narrowed_wrapAll ws' r supply'
    exact hnarrowed.unique (hother.congr fun s => (Wrapper.passes_congr hws).symm)

/-- A width in a filter wrapper and in one with two bounds, and the same with the filter wrapper twice
and outermost. -/
theorem wrapAll_conjoins_between :
    let width : Rule := ⟨"line-width", .constant (.number 5), ⟨0⟩⟩
    let wrapped := ((width.wrapAll [.filtered, .zoomRange (some 3) (some 7)]).run ⟨1⟩).1
    let other := ((width.wrapAll [.zoomRange (some 3) (some 7), .filtered, .filtered]).run ⟨1⟩).1
    let seen (zoom : Float) (filter : Option Bool) : Situation := ⟨.empty, zoom, filter⟩
    wrapped.property = "line-width" ∧
      wrapped.evaluate (seen 7 (some true)) = some (.number 5) ∧
      wrapped.evaluate (seen 8 (some true)) = none ∧ wrapped.evaluate (seen 5 (some false)) = none ∧
      wrapped.evaluate (seen (0 / 0) none) = none ∧
      ∀ s, other.evaluate s = wrapped.evaluate s := by
  intro width wrapped other seen
  obtain ⟨hproperty, hinside, houtside, hnan, hother⟩ :=
    wrapAll_conjoins width [.filtered, .zoomRange (some 3) (some 7)] ⟨1⟩
  refine ⟨hproperty, hinside _ (by decide), houtside _ (by decide), houtside _ (by decide),
    hnan _ 3 (by decide) (.inl ⟨_, .tail _ (.head _)⟩), fun s => ?_⟩
  exact (hother [.zoomRange (some 3) (some 7), .filtered, .filtered] ⟨1⟩ (by simp [or_comm])).2 s

end Rule

end Portrayal
