import Portrayal.Proofs.Drawing
import Portrayal.Proofs.Painting

/-!
The appearance of a feature: what rules see of it, which style it is shown in, said rule by rule, and
which draw records it; and when it is shown in none.
-/

namespace Portrayal

/-- What rules see of a feature: all its attributes as they are, except that its identity stands under
`featureID`. -/
structure Feature.Exposes (f : Feature) (a : Attributes) : Prop where
  identity : a.get? "featureID" = some (.integer f.id)
  others : ∀ name, name ≠ "featureID" → a.get? name = f.attributes.get? name
  entries : a = f.attributes.insert "featureID" (.integer f.id)

/-- The style that a source gives a feature. A label with a label style of its own uses that one. -/
inductive Feature.Based (pass : Pass) (f : Feature) : Option StyleSource → Style → Prop where
  | ruled (shader : Shader) {a : Attributes} (ha : f.Exposes a) :
      Based pass f (some (.rules shader)) (Style.baseOfRules f.kind a pass.zoom shader.rules).value
  | unstyled {a : Attributes} (ha : f.Exposes a) :
      Based pass f none (Style.baseOfRules f.kind a pass.zoom []).value
  | labelled (service : ServiceStyle) {label : LabelStyle} {style : Style} (hkind : f.kind = .text)
      (hlabel : f.geometry.label = some label)
      (h : (serviceStyle? ⟨pass.layer.url, pass.layer.fillImages⟩ .text (.label label)).value =
        .ok style) :
      Based pass f (some (.service service)) style
  | shaped (service : ServiceStyle) {style : Style}
      (hlabel : f.kind ≠ .text ∨ f.geometry.label = none)
      (h : (serviceStyle? ⟨pass.layer.url, pass.layer.fillImages⟩ f.kind (.shape service)).value =
        .ok style) :
      Based pass f (some (.service service)) style

/-- A source has no style for a feature: it is a service style with a fill that the bitmaps of the layer
do not give, and the feature is a line or a region. -/
def Feature.Barred (pass : Pass) (f : Feature) (source : Option StyleSource) (fault : FillFault) :
    Prop :=
  ∃ service, source = some (.service service) ∧
    Refused ⟨pass.layer.url, pass.layer.fillImages⟩ f.geometry.kind (.shape service) fault

/-- The style that a feature is shown in: the one that its source gives it, and over it what the rules
of the shader that applies set for the feature. -/
inductive Feature.Shown (pass : Pass) (f : Feature) (source : Option StyleSource) :
    Option Shader → Style → Prop where
  | base {style : Style} (h : f.Based pass source style) : Shown pass f source none style
  | highlighted {base : Style} (h : f.Based pass source base) (shader : Shader) {a : Attributes}
      (ha : f.Exposes a) :
      Shown pass f source (some shader) (base.overlay
        (Style.ofRules f.kind ⟨a, pass.zoom, shader.filterFor f.id⟩ shader.rules).value)

/-- The style that a feature with a binding of its own is shown in: under a shader the style that it
carries, or none, with the rules over it; without one the style that a service source gives it, and under
any other source the one that it carries, or the fallbacks of its kind. -/
inductive Feature.ShownAlone (pass : Pass) (f : Feature) (source : Option StyleSource) :
    Option Shader → Style → Prop where
  | highlighted (shader : Shader) {a : Attributes} (ha : f.Exposes a) :
      ShownAlone pass f source (some shader) ((f.style.getD .empty).overlay
        (Style.ofRules f.kind ⟨a, pass.zoom, shader.filterFor f.id⟩ shader.rules).value)
  | served {service : ServiceStyle} {style : Style} (hsource : source = some (.service service))
      (h : f.Based pass source style) : ShownAlone pass f source none style
  | carried {style : Style} (hsource : ∀ service, source ≠ some (.service service))
      (h : f.style = some style) : ShownAlone pass f source none style
  | fallback (hsource : ∀ service, source ≠ some (.service service)) (h : f.style = none) :
      ShownAlone pass f source none (Style.empty.complete f.kind)

namespace Feature

variable {pass : Pass} {f : Feature} {source : Option StyleSource} {a : Attributes}

theorem exposes_exposed (f : Feature) : f.Exposes f.exposed where
  identity := by rw [exposed, Attributes.get?_insert, idAttribute, if_pos rfl]
  others name h := by rw [exposed, Attributes.get?_insert, idAttribute, if_neg h]
  entries := rfl

/-- Rules see one thing of a feature. -/
theorem Exposes.eq_exposed (h : f.Exposes a) : a = f.exposed := h.entries

theorem serviceSource_of_text {label : LabelStyle} (hkind : f.kind = .text)
    (hlabel : f.geometry.label = some label) (service : ServiceStyle) :
    f.serviceSource service = .label label := by
  rw [serviceSource, hlabel, hkind]

theorem serviceSource_of_shape (h : f.kind ≠ .text ∨ f.geometry.label = none)
    (service : ServiceStyle) : f.serviceSource service = .shape service := by
  rw [serviceSource]
  split
  · rename_i hlabel hkind
    rcases h with h | h
    · exact absurd hkind h
    · rw [h] at hlabel
      exact absurd hlabel (by simp)
  · rfl

theorem based_iff {style : Style} :
    f.Based pass source style ↔ (f.baseStyle pass source).value = .ok style := by
  constructor
  · rintro (⟨shader, ha⟩ | ha | ⟨service, hkind, hlabel, h⟩ | ⟨service, hlabel, h⟩)
    · rw [ha.eq_exposed]
      rfl
    · rw [ha.eq_exposed]
      rfl
    · rw [baseStyle, serviceSource_of_text hkind hlabel, hkind]
      exact h
    · rw [baseStyle, serviceSource_of_shape hlabel]
      exact h
  · intro h
    rcases source with _ | shader | service
    · obtain rfl : _ = style := Except.ok.inj h
      exact .unstyled f.exposes_exposed
    · obtain rfl : _ = style := Except.ok.inj h
      exact .ruled shader f.exposes_exposed
    · change (serviceStyle? _ f.kind (f.serviceSource service)).value = .ok style at h
      by_cases hkind : f.kind = .text
      · cases hlabel : f.geometry.label with
        | none =>
          rw [serviceSource_of_shape (.inr hlabel)] at h
          exact .shaped service (.inr hlabel) h
        | some label =>
          rw [serviceSource_of_text hkind hlabel, hkind] at h
          exact .labelled service hkind hlabel h
      · rw [serviceSource_of_shape (.inl hkind)] at h
        exact .shaped service (.inl hkind) h

/-- What has no style is no label, so the service style is the one of the source. -/
theorem barred_iff {fault : FillFault} :
    f.Barred pass source fault ↔ (f.baseStyle pass source).value = .error fault := by
  have hrefused (service : ServiceStyle) :
      Refused ⟨pass.layer.url, pass.layer.fillImages⟩ f.geometry.kind (.shape service) fault ↔
        Refused ⟨pass.layer.url, pass.layer.fillImages⟩ f.geometry.kind (f.serviceSource service)
          fault := by
    by_cases hkind : f.geometry.kind = .text
    · have hnone : ¬ (f.geometry.kind = .line ∨ f.geometry.kind = .region) := by simp [hkind]
      exact iff_of_false (fun h => hnone h.line_or_region) fun h => hnone h.line_or_region
    · rw [serviceSource_of_shape (.inl hkind)]
  rcases source with _ | shader | service
  · exact iff_of_false (fun h => nomatch h.choose_spec.1) nofun
  · exact iff_of_false (fun h => nomatch h.choose_spec.1) nofun
  · have hfails : (f.baseStyle pass (some (.service service))).value = .error fault ↔ _ :=
      serviceStyle?_eq_error_iff
    rw [hfails]
    refine ⟨?_, fun h => ⟨service, rfl, (hrefused service).mpr h⟩⟩
    rintro ⟨_, ⟨⟩, h⟩
    exact (hrefused service).mp h

theorem sharedStyle_of_base_ok {base : Style} (h : (f.baseStyle pass source).value = .ok base)
    (shader : Option Shader) :
    (f.sharedStyle pass source shader).value =
      .ok (shader.elim base fun shader => (f.highlight pass shader base).value) := by
  cases shader <;> simp [sharedStyle, h]

theorem sharedStyle_of_base_error {fault : FillFault}
    (h : (f.baseStyle pass source).value = .error fault) (shader : Option Shader) :
    (f.sharedStyle pass source shader).value = .error fault := by
  simp [sharedStyle, h]

theorem shown_iff {shader : Option Shader} {style : Style} :
    f.Shown pass source shader style ↔ (f.sharedStyle pass source shader).value = .ok style := by
  constructor
  · rintro (h | ⟨h, shader, ha⟩)
    · exact sharedStyle_of_base_ok (based_iff.mp h) none
    · rw [ha.eq_exposed]
      exact sharedStyle_of_base_ok (based_iff.mp h) (some shader)
  · intro h
    cases hbase : (f.baseStyle pass source).value with
    | error fault =>
      rw [sharedStyle_of_base_error hbase] at h
      exact absurd h (by simp)
    | ok base =>
      rw [sharedStyle_of_base_ok hbase] at h
      obtain rfl := Except.ok.inj h
      cases shader with
      | none => exact .base (based_iff.mpr hbase)
      | some shader => exact .highlighted (based_iff.mpr hbase) shader f.exposes_exposed

theorem base_error_of_shared {shader : Option Shader} {fault : FillFault}
    (h : (f.sharedStyle pass source shader).value = .error fault) :
    (f.baseStyle pass source).value = .error fault := by
  cases hbase : (f.baseStyle pass source).value with
  | error fault' => rwa [sharedStyle_of_base_error hbase] at h
  | ok base =>
    rw [sharedStyle_of_base_ok hbase] at h
    exact absurd h (by simp)

theorem ownStyle_of_unserved (hsource : ∀ service, source ≠ some (.service service)) :
    (f.ownStyle pass source none).value = .ok (f.style.getD (Style.empty.complete f.kind)) := by
  rcases source with _ | shader | service
  · rfl
  · rfl
  · exact absurd rfl (hsource service)

theorem shownAlone_iff {shader : Option Shader} {style : Style} :
    f.ShownAlone pass source shader style ↔ (f.ownStyle pass source shader).value = .ok style := by
  constructor
  · rintro (⟨shader, ha⟩ | ⟨hsource, h⟩ | ⟨hsource, h⟩ | ⟨hsource, h⟩)
    · rw [ha.eq_exposed]
      rfl
    · subst hsource
      exact based_iff.mp h
    · rw [ownStyle_of_unserved hsource, h, Option.getD_some]
    · rw [ownStyle_of_unserved hsource, h, Option.getD_none]
  · intro h
    cases shader with
    | some shader =>
      obtain rfl : _ = style := Except.ok.inj h
      exact .highlighted shader f.exposes_exposed
    | none =>
      by_cases hserved : ∃ service, source = some (.service service)
      · obtain ⟨service, rfl⟩ := hserved
        exact .served rfl (based_iff.mpr h)
      · have hsource : ∀ service, source ≠ some (.service service) := not_exists.mp hserved
        rw [ownStyle_of_unserved hsource] at h
        obtain rfl := Except.ok.inj h
        cases hstyle : f.style with
        | none => exact .fallback hsource hstyle
        | some style => exact .carried hsource hstyle

/-- A feature with a binding of its own is shown in no style exactly if nothing highlights it and its
source has none for it. -/
theorem ownStyle_eq_error_iff {shader : Option Shader} {fault : FillFault} :
    (f.ownStyle pass source shader).value = .error fault ↔
      shader = none ∧ f.Barred pass source fault := by
  cases shader with
  | some shader => simp [ownStyle]
  | none =>
    rw [barred_iff]
    rcases source with _ | shader | service
    · simp [ownStyle, baseStyle]
    · simp [ownStyle, baseStyle]
    · simp [ownStyle, baseStyle]

/-- A draw shows a feature: it carries the identity and the kind of the feature, the paint order, the
surfaces and the style, and is marked exactly if a shader applies. -/
def DrawnAs (pass : Pass) (source : Option StyleSource) (shader : Option Shader) (order : UInt32)
    (surfaces : Surfaces) (f : Feature) (d : Draw) : Prop :=
  ∃ style, f.Shown pass source shader style ∧
    d = ⟨f.id, f.geometry.kind, shader.isSome, some order, some surfaces, style⟩

end Feature

end Portrayal
