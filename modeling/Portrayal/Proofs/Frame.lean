import Portrayal.Proofs.Repetition

/-!
What redraws leave alone. A redraw writes on features how it drew them and nothing else; where it writes
the paint order is told by its roll. Beside every draw that a redraw records, the roll keeps the place of
the feature that was drawn: its position among the features of the sublayer, or the position of the
binding that has it for its own.

    bindings      over a b c        has x        over a b c, stops at c     has y
    draws         a    b    c       x            a    b
    roll          0    1    2       binding 1    0    1

Main statement: whatever redraws a sublayer goes through, its features and bindings are what they were up
to the marks on features, and a feature has another layer index than before only if it stands in one of
the rolls, and then it has the paint order of the sublayer.
-/

namespace Portrayal

namespace Feature

/-- A feature is what it was, up to marks, and its layer index is the paint order if it was drawn and the
one it had if it was not. -/
structure Keeps (order : UInt32) (drawn : Prop) (f g : Feature) : Prop where
  same : g.plain = f.plain
  stamped : drawn → g.layerIndex = some order
  unstamped : ¬ drawn → g.layerIndex = f.layerIndex

/-- A draw of a feature by a pass with a paint order. -/
def ShownBy (order : UInt32) (f : Feature) (d : Draw) : Prop :=
  d.feature = f.id ∧ d.kind = f.kind ∧ d.layerIndex = some order

variable {order : UInt32} {p q : Prop} {f g h : Feature}

theorem Keeps.refl (hp : ¬ p) (f : Feature) : f.Keeps order p f :=
  ⟨rfl, fun h => absurd h hp, fun _ => rfl⟩

theorem Keeps.of_stamped (hp : p) (f : Feature) (c : RenderClass) :
    f.Keeps order p (f.stamped c order) :=
  ⟨rfl, fun _ => rfl, fun h => absurd hp h⟩

/-- What is kept twice is drawn if it is drawn the first or the second time. -/
theorem Keeps.trans (hfg : f.Keeps order p g) (hgh : g.Keeps order q h) :
    f.Keeps order (p ∨ q) h where
  same := hgh.same.trans hfg.same
  stamped hpq := by
    by_cases hq : q
    · exact hgh.stamped hq
    · exact (hgh.unstamped hq).trans (hfg.stamped (hpq.resolve_right hq))
  unstamped hpq := by
    obtain ⟨hp, hq⟩ := not_or.mp hpq
    exact (hgh.unstamped hq).trans (hfg.unstamped hp)

theorem Keeps.congr (hpq : p ↔ q) (hfg : f.Keeps order p g) : f.Keeps order q g :=
  ⟨hfg.same, fun hq => hfg.stamped (hpq.mpr hq), fun hq => hfg.unstamped fun hp => hq (hpq.mp hp)⟩

end Feature

/-- Where a feature of a sublayer is kept: among the features that its bindings share, or by a binding
that has it for its own. -/
inductive Place where
  | shared (i : Nat)
  | own (k : Nat)
  deriving DecidableEq, Repr

/-! ### Bindings -/

namespace Binding

/-- The feature that a binding has for its own. -/
def own? (b : Binding) : Option Feature :=
  match b.scope with
  | .sublayer => none
  | .feature f => some f

/-- The place of the feature that a binding draws at some point, if it is the `k`-th binding. -/
def place (b : Binding) (k i : Nat) : Place :=
  match b.scope with
  | .sublayer => .shared i
  | .feature _ => .own k

/-- The roll of the `k`-th binding. -/
def roll (b : Binding) (pass : Pass) (order : UInt32) (features : List Feature) (k : Nat) :
    List (Place × Draw) :=
  (b.draws pass order features).mapIdx fun i d => (b.place k i, d)

variable {b : Binding} {pass : Pass} {order : UInt32} {features : List Feature} {k : Nat}

theorem own?_eq_some_iff {f : Feature} : b.own? = some f ↔ b.scope = .feature f := by
  rw [own?]
  cases b.scope <;> simp

/-- Beside each place the roll has the draw, in order. -/
theorem draws_roll (b : Binding) (pass : Pass) (order : UInt32) (features : List Feature) (k : Nat) :
    (b.roll pass order features k).map Prod.snd = b.draws pass order features := by
  apply List.ext_getElem?
  intro i
  rw [roll, List.getElem?_map, List.getElem?_mapIdx, Option.map_map]
  exact Option.map_id_apply

theorem roll_congr {features' : List Feature}
    (h : features.map Feature.plain = features'.map Feature.plain) :
    b.roll pass order features k = b.roll pass order features' k := by
  rw [roll, roll, draws, draws, course_congr h]

theorem roll_plain (b : Binding) (pass : Pass) (order : UInt32) (features : List Feature) (k : Nat) :
    b.plain.roll pass order features k = b.roll pass order features k := by
  obtain ⟨id, scope, source, surfaces, stage⟩ := b
  cases scope <;> rfl

theorem mem_roll {p : Place} {d : Draw} : (p, d) ∈ b.roll pass order features k ↔
    ∃ i, (b.draws pass order features)[i]? = some d ∧ p = b.place k i := by
  rw [roll, List.mem_mapIdx]
  constructor
  · rintro ⟨i, hi, h⟩
    obtain ⟨rfl, rfl⟩ := Prod.mk.inj h
    exact ⟨i, List.getElem?_eq_getElem hi, rfl⟩
  · rintro ⟨i, hd, rfl⟩
    obtain ⟨hi, rfl⟩ := List.getElem?_eq_some_iff.mp hd
    exact ⟨i, hi, rfl⟩

/-- A binding over the whole sublayer draws the first features, as many as there are draws. -/
theorem drawn_shared (hscope : b.scope = .sublayer) (pass : Pass) (order : UInt32)
    (features : List Feature) (k i : Nat) : (∃ d, (.shared i, d) ∈ b.roll pass order features k) ↔
      i < (b.draws pass order features).length := by
  have hplace : ∀ j, b.place k j = .shared j := fun j => by rw [place, hscope]
  simp only [mem_roll, hplace, Place.shared.injEq]
  constructor
  · rintro ⟨d, j, hd, rfl⟩
    exact (List.getElem?_eq_some_iff.mp hd).1
  · intro hi
    exact ⟨_, i, List.getElem?_eq_getElem hi, rfl⟩

/-- A binding with a feature of its own draws it if there is a draw at all. -/
theorem drawn_own {f : Feature} (hscope : b.scope = .feature f) (pass : Pass) (order : UInt32)
    (features : List Feature) (k : Nat) :
    (∃ d, (.own k, d) ∈ b.roll pass order features k) ↔ b.draws pass order features ≠ [] := by
  have hplace : ∀ j, b.place k j = .own k := fun j => by rw [place, hscope]
  simp only [mem_roll, hplace, and_true]
  rw [List.ne_nil_iff_exists_cons]
  constructor
  · rintro ⟨d, j, hd⟩
    exact List.exists_cons_of_ne_nil (List.ne_nil_of_mem (List.mem_of_getElem? hd))
  · rintro ⟨d, rest, hd⟩
    exact ⟨d, 0, by rw [hd]; rfl⟩

/-- The `k`-th binding is at no place of another binding's own. -/
theorem eq_of_own_mem_roll {j : Nat} {d : Draw} (h : (.own j, d) ∈ b.roll pass order features k) :
    j = k := by
  obtain ⟨i, -, hplace⟩ := mem_roll.mp h
  rw [place] at hplace
  split at hplace
  · exact absurd hplace (by simp)
  · exact Place.own.inj hplace

theorem shownBy_of_stroke {surfaces : Surfaces} {f : Feature} {d : Draw}
    (h : b.stroke pass order surfaces f = .ok d) : f.ShownBy order d := by
  rw [stroke] at h
  cases hstyle : b.styleOf pass f with
  | error cause => simp [hstyle, Except.map] at h
  | ok style =>
    rw [hstyle] at h
    rw [← Except.ok.inj h]
    exact ⟨rfl, rfl, rfl⟩

/-- The draws of a binding are of the features that it covers, in order. -/
theorem shownBy_of_draws {i : Nat} {d : Draw} (h : (b.draws pass order features)[i]? = some d) :
    ∃ f, (b.subjects features)[i]? = some f ∧ f.ShownBy order d := by
  rcases b.ready_or_not with hready | ⟨surfaces, hstage, hsurfaces⟩
  · rw [draws_of_not_ready hready] at h
    exact absurd h (by simp)
  · rw [draws_of_ready hstage hsurfaces] at h
    obtain ⟨f, hf, hstroke⟩ := Course.getElem?_along h
    exact ⟨f, hf, shownBy_of_stroke hstroke⟩

/-- Rendering a binding writes the paint order on the features of the sublayer that it draws, and on no
others. -/
theorem features_render_keep (b : Binding) (pass : Pass) (order : UInt32) (features : List Feature)
    (list : DisplayList) (k : Nat) {i : Nat} {f : Feature} (hf : features[i]? = some f) :
    ∃ g, (b.render pass order features list).state.2.1[i]? = some g ∧
      f.Keeps order (∃ d, (.shared i, d) ∈ b.roll pass order features k) g := by
  cases hscope : b.scope with
  | feature own =>
    have hundrawn : ¬ ∃ d, (Place.shared i, d) ∈ b.roll pass order features k := by
      rintro ⟨d, hd⟩
      obtain ⟨j, -, hplace⟩ := mem_roll.mp hd
      rw [place, hscope] at hplace
      exact absurd hplace (by simp)
    rw [features_render_own hscope]
    exact ⟨f, hf, .refl hundrawn f⟩
  | sublayer =>
    have hdrawn := drawn_shared hscope pass order features k i
    rcases b.ready_or_not with hready | ⟨surfaces, hstage, hsurfaces⟩
    · rw [draws_of_not_ready hready] at hdrawn
      rw [render_of_not_ready hready]
      exact ⟨f, hf, .refl (fun h => absurd (hdrawn.mp h) (by simp)) f⟩
    · rw [draws_of_ready hstage hsurfaces] at hdrawn
      rw [features_render_shared hstage hsurfaces hscope, Feature.stamped_upTo, Feature.markAll,
        List.getElem?_mapIdx, hf]
      refine ⟨_, rfl, ?_⟩
      by_cases hi : i < (b.strokes pass order surfaces features).results.length
      · rw [Feature.marksUpTo, if_pos hi]
        exact .of_stamped (hdrawn.mpr hi) f _
      · rw [Feature.marksUpTo, if_neg hi]
        exact .refl (fun h => hi (hdrawn.mp h)) f

/-- Rendering a binding writes the paint order on a feature of its own if it draws it. -/
theorem own_render_keep (b : Binding) (pass : Pass) (order : UInt32) (features : List Feature)
    (list : DisplayList) (k : Nat) {f : Feature} (hf : b.own? = some f) :
    ∃ g, (b.render pass order features list).state.1.own? = some g ∧
      f.Keeps order (∃ d, (.own k, d) ∈ b.roll pass order features k) g := by
  have hscope := own?_eq_some_iff.mp hf
  have hdrawn := drawn_own hscope pass order features k
  rcases b.ready_or_not with hready | ⟨surfaces, hstage, hsurfaces⟩
  · rw [draws_of_not_ready hready] at hdrawn
    rw [render_of_not_ready hready]
    exact ⟨f, hf, .refl (fun h => hdrawn.mp h rfl) f⟩
  · rw [draws_of_ready hstage hsurfaces] at hdrawn
    rw [render_own hstage hsurfaces hscope]
    refine ⟨_, rfl, ?_⟩
    cases hstyle : (f.ownStyle pass b.source (b.shader pass)).value with
    | error cause =>
      rw [strokes_own_of_error hscope hstyle] at hdrawn
      have hundrawn : ¬ ∃ d, (Place.own k, d) ∈ b.roll pass order features k := fun h => hdrawn.mp h rfl
      rw [drawOwn_of_error hstyle]
      exact ⟨rfl, fun h => absurd h hundrawn, fun _ => rfl⟩
    | ok style =>
      rw [strokes_own_of_ok hscope hstyle] at hdrawn
      rw [drawOwn_of_ok hstyle]
      exact .of_stamped (hdrawn.mpr (by simp)) f _

end Binding

/-! ### Bindings in order -/

namespace Sublayer

/-- The roll of bindings that are drawn in order, up to the first one that stops; the first of them is
the `k`-th one. -/
def rollOf (pass : Pass) (order : UInt32) (features : List Feature) :
    Nat → List Binding → List (Place × Draw)
  | _, [] => []
  | k, b :: rest =>
    b.roll pass order features k ++
      match (b.course pass order features).fault with
      | some _ => []
      | none => rollOf pass order features (k + 1) rest

/-- The roll of a redraw. -/
def roll (s : Sublayer) (pass : Pass) : List (Place × Draw) :=
  match s.contents with
  | some c => if s.visible then rollOf pass s.origin.paintOrder c.features 0 c.bindings else []
  | none => []

variable {pass : Pass} {order : UInt32} {features : List Feature} {k : Nat}

theorem rollOf_cons_of_fault {b : Binding} {fault : Fault}
    (h : (b.course pass order features).fault = some fault) (rest : List Binding) :
    rollOf pass order features k (b :: rest) = b.roll pass order features k := by
  simp only [rollOf, h, List.append_nil]

theorem rollOf_cons_of_ok {b : Binding} (h : (b.course pass order features).fault = none)
    (rest : List Binding) : rollOf pass order features k (b :: rest) =
      b.roll pass order features k ++ rollOf pass order features (k + 1) rest := by
  simp only [rollOf, h]

/-- Marks do not show in a roll. -/
theorem rollOf_congr {features' : List Feature}
    (h : features.map Feature.plain = features'.map Feature.plain) : ∀ (k : Nat)
    (bindings : List Binding), rollOf pass order features k bindings =
      rollOf pass order features' k bindings
  | _, [] => rfl
  | k, b :: rest => by
    rw [rollOf, rollOf, Binding.roll_congr h, Binding.course_congr h, rollOf_congr h (k + 1) rest]

theorem rollOf_plain : ∀ (k : Nat) (bindings : List Binding),
    rollOf pass order features k (bindings.map Binding.plain) = rollOf pass order features k bindings
  | _, [] => rfl
  | k, b :: rest => by
    rw [List.map_cons, rollOf, rollOf, Binding.roll_plain, Binding.course_plain,
      rollOf_plain (k + 1) rest]

/-- Beside each place the roll has the draw, in order. -/
theorem draws_rollOf : ∀ (k : Nat) (bindings : List Binding),
    (rollOf pass order features k bindings).map Prod.snd =
      (course pass order bindings features).results.filterMap Command.draw?
  | _, [] => rfl
  | k, b :: rest => by
    cases hfault : (b.course pass order features).fault with
    | some fault =>
      rw [rollOf_cons_of_fault hfault, Binding.draws_roll, course, List.map_cons,
        Course.chain_cons_of_fault hfault]
      rfl
    | none =>
      rw [rollOf_cons_of_ok hfault, List.map_append, Binding.draws_roll, draws_rollOf (k + 1) rest,
        course, course, List.map_cons, Course.chain_cons_of_ok hfault, List.filterMap_append]
      rfl

/-- The bindings of a roll are at their positions. -/
theorem le_of_own_mem_rollOf {j : Nat} {d : Draw} : ∀ {k : Nat} {bindings : List Binding},
    (.own j, d) ∈ rollOf pass order features k bindings → k ≤ j
  | _, [], h => by simp [rollOf] at h
  | k, b :: rest, h => by
    cases hfault : (b.course pass order features).fault with
    | some fault =>
      rw [rollOf_cons_of_fault hfault] at h
      exact (Binding.eq_of_own_mem_roll h).ge
    | none =>
      rw [rollOf_cons_of_ok hfault] at h
      rcases List.mem_append.mp h with h | h
      · exact (Binding.eq_of_own_mem_roll h).ge
      · have hle := le_of_own_mem_rollOf h
        omega

/-- Drawing bindings in order writes the paint order on the features of the sublayer that stand in the
roll, and on no others. -/
theorem features_drawBindings_keep (pass : Pass) (order : UInt32) {i : Nat} : ∀ (k : Nat)
    (bindings : List Binding) (features : List Feature) (list : DisplayList) {f : Feature},
      features[i]? = some f →
        ∃ g, (drawBindings pass order bindings features list).state.2.1[i]? = some g ∧
          f.Keeps order (∃ d, (.shared i, d) ∈ rollOf pass order features k bindings) g
  | _, [], _, _, f, hf => ⟨f, hf, .refl (by simp [rollOf]) f⟩
  | k, b :: rest, features, list, f, hf => by
    obtain ⟨g, hg, hfg⟩ := b.features_render_keep pass order features list k hf
    have hcourse := (b.render_follows pass order features list).1
    cases hfault : (b.render pass order features list).fault with
    | some fault =>
      rw [drawBindings_cons_of_fault hfault, rollOf_cons_of_fault (hcourse ▸ hfault)]
      exact ⟨g, hg, hfg⟩
    | none =>
      rw [drawBindings_cons_of_ok hfault, rollOf_cons_of_ok (hcourse ▸ hfault)]
      obtain ⟨h, hh, hgh⟩ := features_drawBindings_keep pass order (k + 1) rest _
        (b.render pass order features list).state.2.2 hg
      -- the rest draws features that are stamped by now, which does not show in its roll
      rw [rollOf_congr (b.plain_features_render pass order features list)] at hgh
      refine ⟨h, hh, (hfg.trans hgh).congr ?_⟩
      simp only [List.mem_append, exists_or]

/-- Drawing bindings in order writes the paint order on those of their own features that stand in the
roll, and on no others. -/
theorem own_drawBindings_keep (pass : Pass) (order : UInt32) : ∀ (k : Nat)
    (bindings : List Binding) (features : List Feature) (list : DisplayList) {j : Nat} {f : Feature},
      bindings[j]?.bind Binding.own? = some f →
        ∃ g, (drawBindings pass order bindings features list).state.1[j]?.bind Binding.own? = some g ∧
          f.Keeps order (∃ d, (.own (k + j), d) ∈ rollOf pass order features k bindings) g
  | _, [], _, _, _, _, hf => by simp at hf
  | k, b :: rest, features, list, j, f, hf => by
    have hcourse := (b.render_follows pass order features list).1
    cases hfault : (b.render pass order features list).fault with
    | some fault =>
      rw [drawBindings_cons_of_fault hfault, rollOf_cons_of_fault (hcourse ▸ hfault)]
      cases j with
      | zero => exact b.own_render_keep pass order features list k hf
      | succ j =>
        refine ⟨f, hf, .refl ?_ f⟩
        rintro ⟨d, hd⟩
        have hposition := Binding.eq_of_own_mem_roll hd
        omega
    | none =>
      rw [drawBindings_cons_of_ok hfault, rollOf_cons_of_ok (hcourse ▸ hfault)]
      cases j with
      | zero =>
        obtain ⟨g, hg, hfg⟩ := b.own_render_keep pass order features list k hf
        refine ⟨g, hg, hfg.congr ?_⟩
        simp only [List.mem_append, exists_or, Nat.add_zero]
        refine (or_iff_left ?_).symm
        rintro ⟨d, hd⟩
        have hle := le_of_own_mem_rollOf hd
        omega
      | succ j =>
        have htail : rest[j]?.bind Binding.own? = some f := hf
        obtain ⟨g, hg, hfg⟩ := own_drawBindings_keep pass order (k + 1) rest
          (b.render pass order features list).state.2.1 (b.render pass order features list).state.2.2
          htail
        rw [rollOf_congr (b.plain_features_render pass order features list)] at hfg
        refine ⟨g, hg, hfg.congr ?_⟩
        simp only [List.mem_append, exists_or, Nat.add_right_comm k 1 j, Nat.add_assoc]
        refine (or_iff_right ?_).symm
        rintro ⟨d, hd⟩
        have hposition := Binding.eq_of_own_mem_roll hd
        omega

/-! ### Redraws -/

/-- The feature at a place of a sublayer. -/
def at? (s : Sublayer) : Place → Option Feature
  | .shared i => s.contents.bind fun c => c.features[i]?
  | .own k => s.contents.bind fun c => c.bindings[k]?.bind Binding.own?

variable {s t : Sublayer}

theorem roll_of_idle (h : s.contents = none ∨ s.visible = false) (pass : Pass) : s.roll pass = [] := by
  rw [roll]
  cases hlive : s.contents with
  | none => rfl
  | some c =>
    have hhidden : s.visible = false := h.resolve_left (by simp [hlive])
    simp [hhidden]

theorem roll_of_visible {c : Contents} (hlive : s.contents = some c) (hvisible : s.visible = true)
    (pass : Pass) : s.roll pass = rollOf pass s.origin.paintOrder c.features 0 c.bindings := by
  simp only [roll, hlive, hvisible, if_true]

/-- Marks do not show in the roll of a redraw. -/
theorem roll_alike (h : t.plain = s.plain) (pass : Pass) : t.roll pass = s.roll pass := by
  rcases alike_cases h with ⟨-, rfl⟩ | ⟨c, d, hlive, rfl, hfeatures, hbindings⟩
  · rfl
  · rw [roll, roll, hlive]
    show (if s.visible then rollOf pass s.origin.paintOrder d.features 0 d.bindings else []) =
      if s.visible then rollOf pass s.origin.paintOrder c.features 0 c.bindings else []
    rw [rollOf_congr hfeatures.symm, ← rollOf_plain 0 d.bindings, ← hbindings, rollOf_plain]

/-- A redraw records the draws of its roll, in order. -/
theorem draws_redraw (s : Sublayer) (pass : Pass) (list : DisplayList) :
    (s.redraw pass list).state.2.draws = list.draws ++ (s.roll pass).map Prod.snd := by
  rw [DisplayList.draws_of_commands (s.redraw_follows pass list).2]
  rcases s.drawn_or_idle with hidle | ⟨c, hlive, hvisible⟩
  · rw [roll_of_idle hidle, redrawCourse]
    rcases hidle with hgone | hhidden
    · rw [hgone]
      rfl
    · cases s.contents <;> simp [hhidden, Course.idle]
  · rw [roll_of_visible hlive hvisible, draws_rollOf, redrawCourse, hlive]
    simp only [hvisible, if_true]

/-- A redraw writes the paint order on the features that stand in its roll, and on no others. -/
theorem redraw_keep (s : Sublayer) (pass : Pass) (list : DisplayList) {p : Place} {f : Feature}
    (hf : s.at? p = some f) : ∃ g, (s.redraw pass list).state.1.at? p = some g ∧
      f.Keeps s.origin.paintOrder (∃ d, (p, d) ∈ s.roll pass) g := by
  rcases s.drawn_or_idle with hidle | ⟨c, hlive, hvisible⟩
  · rw [(redraw_of_idle hidle pass list).1, roll_of_idle hidle]
    exact ⟨f, hf, .refl (by simp) f⟩
  · rw [redraw_of_visible hlive hvisible, roll_of_visible hlive hvisible]
    cases p with
    | shared i =>
      simp only [at?, hlive, Option.bind_some] at hf
      exact features_drawBindings_keep pass s.origin.paintOrder 0 c.bindings c.features list hf
    | own k =>
      simp only [at?, hlive, Option.bind_some] at hf
      have hkept := own_drawBindings_keep pass s.origin.paintOrder 0 c.bindings c.features list hf
      rw [Nat.zero_add] at hkept
      exact hkept

/-- What stands in the roll of the bindings from the `k`-th one on is drawn as what it is. -/
theorem shownBy_of_mem_rollOf {c : Contents} (hlive : s.contents = some c) {pass : Pass}
    {order : UInt32} {p : Place} {d : Draw} : ∀ {k : Nat} {bindings : List Binding},
      c.bindings.drop k = bindings → (p, d) ∈ rollOf pass order c.features k bindings →
        ∃ f, s.at? p = some f ∧ f.ShownBy order d
  | _, [], _, h => by simp [rollOf] at h
  | k, b :: rest, hdrop, h => by
    have hb : c.bindings[k]? = some b := by
      rw [← Nat.add_zero k, ← List.getElem?_drop, hdrop]
      rfl
    have hrest : c.bindings.drop (k + 1) = rest := by
      rw [← List.tail_drop, hdrop]
      rfl
    have hfirst : (p, d) ∈ b.roll pass order c.features k →
        ∃ f, s.at? p = some f ∧ f.ShownBy order d := by
      intro h
      obtain ⟨i, hd, rfl⟩ := Binding.mem_roll.mp h
      obtain ⟨f, hf, hshown⟩ := Binding.shownBy_of_draws hd
      refine ⟨f, ?_, hshown⟩
      rw [Binding.subjects] at hf
      rw [Binding.place]
      cases hscope : b.scope with
      | sublayer => simpa [at?, hlive, hscope] using hf
      | feature g =>
        have hown : b.own? = some g := Binding.own?_eq_some_iff.mpr hscope
        simp only [hscope] at hf
        obtain rfl : f = g := by simpa using List.mem_of_getElem? hf
        simp [at?, hlive, hb, hown]
    cases hfault : (b.course pass order c.features).fault with
    | some fault =>
      rw [rollOf_cons_of_fault hfault] at h
      exact hfirst h
    | none =>
      rw [rollOf_cons_of_ok hfault] at h
      rcases List.mem_append.mp h with h | h
      · exact hfirst h
      · exact shownBy_of_mem_rollOf hlive hrest h

/-- What stands in the roll of a redraw is drawn as what it is. -/
theorem shownBy_of_mem_roll {pass : Pass} {p : Place} {d : Draw} (h : (p, d) ∈ s.roll pass) :
    ∃ f, s.at? p = some f ∧ f.ShownBy s.origin.paintOrder d := by
  rcases s.drawn_or_idle with hidle | ⟨c, hlive, hvisible⟩
  · rw [roll_of_idle hidle] at h
    exact absurd h (by simp)
  · rw [roll_of_visible hlive hvisible] at h
    exact shownBy_of_mem_rollOf hlive rfl h

/-- A sublayer after redraws in order, whether they went through or not, each with its own view and
display list. -/
def redraws (s : Sublayer) (views : List (Pass × DisplayList)) : Sublayer :=
  views.foldl (fun s view => (s.redraw view.1 view.2).state.1) s

theorem plain_redraws : ∀ (views : List (Pass × DisplayList)) (s : Sublayer),
    (s.redraws views).plain = s.plain
  | [], _ => rfl
  | view :: views, s =>
    (plain_redraws views (s.redraw view.1 view.2).state.1).trans (s.plain_redraw view.1 view.2)

/-- Redraws write the paint order on the features that stand in one of their rolls, and on no others. -/
theorem redraws_keep_at : ∀ (views : List (Pass × DisplayList)) (s : Sublayer) {p : Place} {f : Feature},
    s.at? p = some f → ∃ g, (s.redraws views).at? p = some g ∧
      f.Keeps s.origin.paintOrder (∃ view ∈ views, ∃ d, (p, d) ∈ s.roll view.1) g
  | [], _, _, f, hf => ⟨f, hf, .refl (by simp) f⟩
  | view :: views, s, p, f, hf => by
    obtain ⟨g, hg, hfg⟩ := s.redraw_keep view.1 view.2 hf
    obtain ⟨h, hh, hgh⟩ := redraws_keep_at views (s.redraw view.1 view.2).state.1 hg
    have hplain := s.plain_redraw view.1 view.2
    have horder : (s.redraw view.1 view.2).state.1.origin = s.origin :=
      congrArg (fun t => t.origin) hplain
    simp only [roll_alike hplain, horder] at hgh
    refine ⟨h, hh, (hfg.trans hgh).congr ?_⟩
    simp only [List.mem_cons, exists_eq_or_imp]

theorem redraws_of_hidden (hhidden : s.visible = false) : ∀ views : List (Pass × DisplayList),
    s.redraws views = s
  | [] => rfl
  | view :: views => by
    rw [redraws, List.foldl_cons, (redraw_of_idle (.inr hhidden) view.1 view.2).1]
    exact redraws_of_hidden hhidden views

/-- Whatever redraws a sublayer goes through, in whatever views, and whether they go through or stop:
its features and those of its bindings, and the bindings themselves, are the same as before up to marks.
A feature has the paint order for its layer index if it stands in the roll of one of the redraws, and its
old layer index otherwise; and the draws that a redraw records are those of its roll, each of them of the
feature at its place. A hidden sublayer is left exactly as it was, and so is the display list. -/
theorem redraws_keep (s : Sublayer) (views : List (Pass × DisplayList)) :
    (s.redraws views).plain = s.plain ∧
      (∀ p f, s.at? p = some f → ∃ g, (s.redraws views).at? p = some g ∧
        f.Keeps s.origin.paintOrder (∃ view ∈ views, ∃ d, (p, d) ∈ s.roll view.1) g) ∧
      (∀ (earlier : List (Pass × DisplayList)) (pass : Pass) (list : DisplayList),
        ((s.redraws earlier).redraw pass list).state.2.draws =
          list.draws ++ (s.roll pass).map Prod.snd) ∧
      (∀ pass p d, (p, d) ∈ s.roll pass → ∃ f, s.at? p = some f ∧ f.ShownBy s.origin.paintOrder d) ∧
      (s.visible = false → s.redraws views = s ∧
        ∀ view ∈ views, (s.redraw view.1 view.2).state = (s, view.2)) := by
  refine ⟨plain_redraws views s, fun p f => redraws_keep_at views s, fun earlier pass list => ?_,
    fun pass p d => shownBy_of_mem_roll, fun hhidden => ?_⟩
  · rw [draws_redraw, roll_alike (plain_redraws earlier s)]
  · exact ⟨redraws_of_hidden hhidden views,
      fun view _ => (redraw_of_idle (.inr hhidden) view.1 view.2).1⟩

/-- A place. -/
def place (id : Int) : Feature := { id, geometry := { kind := .point, coordinates := [(0, 0)] } }

/-- A parcel. -/
def parcel (id : Int) : Feature :=
  { id, geometry := { kind := .region, coordinates := [(0, 0), (8, 0), (8, 8)] } }

/-- A place and a parcel under a binding whose fill pattern has no bitmap. -/
def lots : Sublayer :=
  stocked "lots" [place 1, parcel 2]
    [.make (escapeLayerName "lots") .sublayer
      (some (.service { fillForeColor := some .black, fillSymbol := some 3 })) ⟨1, 2⟩]

/-- Of the lots, which stop at the parcel in every redraw, the place gets a layer index and the parcel gets
none; while they are hidden, neither does. -/
theorem redraws_keep_lots :
    let views : List (Pass × DisplayList) := [(⟨.ofUrl "", 3⟩, .empty), (roadsPass, .empty)]
    let hidden := (lots.setVisible false).state
    lots.at? (.shared 0) = some (place 1) ∧ lots.at? (.shared 1) = some (parcel 2) ∧
      (∃ f, (lots.redraws views).at? (.shared 0) = some f ∧ f.plain = place 1 ∧
        f.layerIndex = some 999) ∧
      (∃ f, (lots.redraws views).at? (.shared 1) = some f ∧ f.plain = parcel 2 ∧
        f.layerIndex = none) ∧
      hidden.visible = false ∧ hidden.redraws views = hidden := by
  intro views hidden
  obtain ⟨-, hkeep, -, -, -⟩ := redraws_keep lots views
  obtain ⟨-, -, -, -, hhidden⟩ := redraws_keep hidden views
  obtain ⟨f, hf, hplace⟩ := hkeep (.shared 0) (place 1) rfl
  obtain ⟨g, hg, hparcel⟩ := hkeep (.shared 1) (parcel 2) rfl
  have hplaces : ∀ view ∈ views, (lots.roll view.1).map Prod.fst = [.shared 0] := by
    intro view hview
    rcases List.mem_pair.mp hview with rfl | rfl <;> rfl
  have hdrawn : ∃ view ∈ views, ∃ d, (Place.shared 0, d) ∈ lots.roll view.1 := by
    refine ⟨_, List.mem_cons_self, ?_⟩
    have hmem : Place.shared 0 ∈ (lots.roll ⟨.ofUrl "", 3⟩).map Prod.fst := by
      rw [hplaces _ List.mem_cons_self]
      exact List.mem_cons_self
    simpa using hmem
  have hundrawn : ¬ ∃ view ∈ views, ∃ d, (Place.shared 1, d) ∈ lots.roll view.1 := by
    rintro ⟨view, hview, d, hd⟩
    have hmem := List.mem_map_of_mem (f := Prod.fst) hd
    rw [hplaces view hview] at hmem
    exact absurd hmem (by simp)
  exact ⟨rfl, rfl, ⟨f, hf, hplace.same, hplace.stamped hdrawn⟩,
    ⟨g, hg, hparcel.same, hparcel.unstamped hundrawn⟩, rfl, (hhidden rfl).1⟩

end Sublayer

end Portrayal
