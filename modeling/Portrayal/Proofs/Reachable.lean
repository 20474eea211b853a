import Mathlib.Data.List.TakeWhile
import Portrayal.Proofs.Drawing

/-!
Which bindings and sublayers there can be. A binding is made for a live sublayer and is then rendered
and destroyed in any order; a sublayer is made from a name and then goes through any sequence of
operations, with bindings that can exist. What one operation does is said once: it leaves what the
sublayer was created with, and it leaves features and bindings, up to what passes write on them, as they
were with those that it adds behind them. From this come the invariants, above all what a drawing relies
on: a sublayer holds only bindings of its own, and those that are ready have their surfaces.
-/

namespace Portrayal

/-- The bindings that there can be. -/
inductive Binding.Reachable : Binding → Prop where
  | make (name : String) (scope : Scope) (source : Option StyleSource) (surfaces : Surfaces) :
      Reachable (.make (escapeLayerName name) scope source surfaces)
  | render {b : Binding} (h : Reachable b) (pass : Pass) (order : UInt32)
      (features : List Feature) (list : DisplayList) :
      Reachable (b.render pass order features list).state.1
  | destroy {b : Binding} (h : Reachable b) : Reachable b.destroy.state

/-- A binding between two calls: it is ready and has its surfaces, or it is destroyed and has none. -/
def Binding.Settled (b : Binding) : Prop :=
  (b.stage = .bound ∨ b.stage = .destroyed) ∧ (b.stage = .bound ↔ b.surfaces.isSome = true)

theorem Binding.settled_of_plain {b b' : Binding} (h : b.plain = b'.plain) (hb : b.Settled) :
    b'.Settled := by
  have hstages : b.stage = b'.stage := by simpa using congrArg Binding.stage h
  have hsurfaces : b.surfaces = b'.surfaces := by simpa using congrArg Binding.surfaces h
  rw [Settled, ← hstages, ← hsurfaces]
  exact hb

theorem Binding.Reachable.settled {b : Binding} (h : b.Reachable) : b.Settled := by
  induction h with
  | make name scope source surfaces => exact ⟨.inl rfl, by simp [Binding.make]⟩
  | render _ pass order features list ih =>
    exact settled_of_plain (plain_render _ pass order features list).symm ih
  | @destroy b _ ih =>
    rw [Binding.destroy]
    split
    · exact ih
    · exact ⟨.inr rfl, by simp⟩

/-- A binding that is ready has its surfaces. -/
def Binding.Equipped (b : Binding) : Prop := b.stage = .bound → ∃ surfaces, b.surfaces = some surfaces

theorem Binding.Settled.equipped {b : Binding} (h : b.Settled) : b.Equipped :=
  fun hstage => Option.isSome_iff_exists.mp (h.2.mp hstage)

/-- An operation on a sublayer that may change it. -/
inductive Sublayer.Operation where
  | setVisible (visible : Bool)
  | addFeature (f : Feature)
  | addFeatures (fs : List Feature)
  | addBinding (b : Binding)
  | addBindings (bs : List Binding)
  | setIndex (index : Float)
  | setIndexText (raw : String)
  | redraw (pass : Pass) (list : DisplayList)
  | destroy

namespace Sublayer

/-- Carry out an operation. -/
def perform (s : Sublayer) : Operation → Outcome Sublayer
  | .setVisible visible => s.setVisible visible
  | .addFeature f => s.addFeature f
  | .addFeatures fs => s.addFeatures fs
  | .addBinding b => s.addBinding b
  | .addBindings bs => s.addBindings bs
  | .setIndex index => s.setIndex index
  | .setIndexText raw => s.setIndexText raw
  | .redraw pass list => (s.redraw pass list).map Prod.fst
  | .destroy => s.destroy

/-- The bindings that an operation brings in. -/
def Operation.bindings : Operation → List Binding
  | .addBinding b => [b]
  | .addBindings bs => bs
  | _ => []

/-- The features that an operation brings in. -/
def Operation.features : Operation → List Feature
  | .addFeature f => [f]
  | .addFeatures fs => fs
  | _ => []

/-- The bindings that a sublayer with an identity takes from an operation: those before the first one of
another sublayer. -/
def Operation.accepted (op : Operation) (id : String) : List Binding :=
  op.bindings.takeWhile fun b => b.sublayerId = id

/-! ### What an operation does -/

/-- A sublayer with nothing but what it was created with. -/
def bare (s : Sublayer) : Sublayer := { s with index := 0, visible := true, contents := none }

/-- What a destroyed sublayer has to say against an operation. A binding of another sublayer is turned
away as such, whether the sublayer is there or not. -/
def objectionTo (s : Sublayer) : Operation → Option Misuse
  | .addBindings [] => none
  | .addBinding b | .addBindings (b :: _) =>
    some (if b.sublayerId = s.id then .sublayerDestroyed s.id else .foreignBinding b.sublayerId s.id)
  | _ => some (.sublayerDestroyed s.id)

variable {s t : Sublayer} {b : Binding} {c d : Contents} {op : Operation}

theorem isDestroyed_iff : s.isDestroyed = true ↔ s.contents = none := Option.isNone_iff_eq_none

theorem exists_contents (hlive : s.isDestroyed = false) : ∃ c, s.contents = some c :=
  Option.ne_none_iff_exists'.mp fun hgone => by simp [isDestroyed_iff.mpr hgone] at hlive

theorem whileLive_of_live {α : Type} (hlive : s.contents = some c) (f : Contents → α) :
    s.whileLive f = .ok (f c) := by
  rw [whileLive, hlive]

theorem whileLive_of_gone {α : Type} (hgone : s.contents = none) (f : Contents → α) :
    s.whileLive f = .error s.destroyedFault := by
  rw [whileLive, hgone]

theorem change_of_live (hlive : s.contents = some c) (f : Contents → Outcome Sublayer) :
    s.change f = f c := by
  rw [change, hlive]

theorem change_of_gone (hgone : s.contents = none) (f : Contents → Outcome Sublayer) :
    s.change f = .failed s s.destroyedFault := by
  rw [change, hgone]

/-- A binding of a sublayer with another identity is turned away. -/
theorem addBinding_of_foreign (h : b.sublayerId ≠ s.id) :
    s.addBinding b = .failed s (.illegalState (.foreignBinding b.sublayerId s.id)) :=
  if_neg h

theorem addBinding_of_own (h : b.sublayerId = s.id) (hlive : s.contents = some c) :
    s.addBinding b =
      .ok { s with contents := some { c with bindings := c.bindings ++ [b] } } := by
  rw [addBinding, if_pos h, change_of_live hlive]

theorem addBinding_of_gone (hgone : s.contents = none) (b : Binding) :
    s.addBinding b = ⟨s, [], (s.objectionTo (.addBinding b)).map .illegalState⟩ := by
  rw [addBinding, objectionTo]
  split
  · exact change_of_gone hgone _
  · rfl

/-- No operation changes anything about a sublayer that is gone. Of bindings that are added to it, the
first one is refused, and the others are not looked at. -/
theorem perform_of_gone (hgone : s.contents = none) (op : Operation) :
    s.perform op = ⟨s, [], (s.objectionTo op).map .illegalState⟩ := by
  cases op with
  | addBinding b => exact addBinding_of_gone hgone b
  | addBindings bs =>
    cases bs with
    | nil => rfl
    | cons b rest =>
      rw [perform, addBindings, addBinding_of_gone hgone b]
      rfl
  | redraw pass list =>
    rw [perform, redraw, hgone]
    rfl
  | _ => exact change_of_gone hgone _

/-- What an operation makes of a live sublayer. -/
structure Tended (s : Sublayer) (c : Contents) (op : Operation) (t : Sublayer) : Prop where
  bare : t.bare = s.bare
  index : t.index = s.index ∨ t.index.isNaN = false
  /-- Unless it is gone now, it has its features, up to what passes write on them, and the new ones. -/
  features : ∀ d, t.contents = some d →
    d.features.map Feature.plain = (c.features ++ op.features).map Feature.plain
  /-- Unless it is gone now, it has its bindings in the same way. -/
  bindings : ∀ d, t.contents = some d →
    d.bindings.map Binding.plain = (c.bindings ++ op.accepted s.id).map Binding.plain

/-- It is enough to look at what a sublayer holds after the operation, if it holds anything. -/
theorem tended_of_live (hbare : t.bare = s.bare)
    (hindex : t.index = s.index ∨ t.index.isNaN = false) (hleft : t.contents = some d)
    (hfeatures : d.features.map Feature.plain = (c.features ++ op.features).map Feature.plain)
    (hbindings : d.bindings.map Binding.plain = (c.bindings ++ op.accepted s.id).map Binding.plain) :
    Tended s c op t := by
  refine ⟨hbare, hindex, fun d' hd' => ?_, fun d' hd' => ?_⟩ <;>
    obtain rfl : d = d' := Option.some.inj (hleft.symm.trans hd')
  · exact hfeatures
  · exact hbindings

/-- An operation that adds nothing and leaves alone what a sublayer holds. -/
theorem tended_of_eq (hbare : t.bare = s.bare)
    (hindex : t.index = s.index ∨ t.index.isNaN = false) (hleft : t.contents = some c)
    (hfeatures : op.features = []) (hbindings : op.bindings = []) : Tended s c op t := by
  refine tended_of_live hbare hindex hleft ?_ ?_
  · rw [hfeatures, List.append_nil]
  · rw [Operation.accepted, hbindings, List.takeWhile_nil, List.append_nil]

theorem tended_setIndex (hlive : s.contents = some c) (index : Float) (hfeatures : op.features = [])
    (hbindings : op.bindings = []) : Tended s c op (s.setIndex index).state := by
  rw [setIndex, change_of_live hlive]
  split
  · exact tended_of_eq rfl (.inl rfl) hlive hfeatures hbindings
  · rename_i hindex
    exact tended_of_eq rfl (.inr (by simpa using hindex)) hlive hfeatures hbindings

/-- Of bindings that are added, a live sublayer takes those before the first one of another sublayer. -/
theorem tended_addBindings : ∀ (bs : List Binding) {s : Sublayer} {c : Contents},
    s.contents = some c → Tended s c (.addBindings bs) (s.addBindings bs).state
  | [], s, c, hlive => tended_of_eq rfl (.inl rfl) hlive rfl rfl
  | b :: bs, s, c, hlive => by
    by_cases howner : b.sublayerId = s.id
    · -- the others are added to a sublayer with the same identity that holds one binding more
      have hrest := tended_addBindings bs (s := { s with
        contents := some { c with bindings := c.bindings ++ [b] } }) rfl
      simp only [addBindings, addBinding_of_own howner hlive, Outcome.fault_ok, Outcome.state_ok]
      refine ⟨hrest.bare, hrest.index, hrest.features, fun d hd => ?_⟩
      rw [hrest.bindings d hd]
      simp [Operation.accepted, Operation.bindings, howner]
    · simp only [addBindings, addBinding_of_foreign howner, Outcome.fault_failed]
      exact tended_of_live rfl (.inl rfl) hlive (by simp [Operation.features])
        (by simp [Operation.accepted, Operation.bindings, howner])

/-- A redraw leaves features and bindings as they were, up to what passes write on them. -/
theorem tended_redraw (hlive : s.contents = some c) (pass : Pass) (list : DisplayList) :
    Tended s c (.redraw pass list) (s.redraw pass list).state.1 := by
  rcases s.drawn_or_idle with hidle | ⟨c', hlive', hvisible⟩
  · rw [(redraw_of_idle hidle pass list).1]
    exact tended_of_eq rfl (.inl rfl) hlive rfl rfl
  · rw [redraw_of_visible hlive hvisible]
    refine tended_of_live rfl (.inl rfl) rfl ?_ ?_
    · simpa [Operation.features] using plain_features_drawBindings pass s.origin.paintOrder
        c.bindings c.features list
    · simpa [Operation.accepted, Operation.bindings] using plain_drawBindings pass
        s.origin.paintOrder c.bindings c.features list

theorem tended_perform (hlive : s.contents = some c) (op : Operation) :
    Tended s c op (s.perform op).state := by
  cases op with
  | setVisible visible =>
    rw [perform, setVisible, change_of_live hlive]
    exact tended_of_eq rfl (.inl rfl) hlive rfl rfl
  | addFeature f =>
    rw [perform, addFeature, change_of_live hlive]
    exact tended_of_live rfl (.inl rfl) rfl rfl (by simp [Operation.accepted, Operation.bindings])
  | addFeatures fs =>
    rw [perform, addFeatures, change_of_live hlive]
    exact tended_of_live rfl (.inl rfl) rfl rfl (by simp [Operation.accepted, Operation.bindings])
  | addBinding b =>
    by_cases howner : b.sublayerId = s.id
    · rw [perform, addBinding_of_own howner hlive]
      exact tended_of_live rfl (.inl rfl) rfl (by simp [Operation.features])
        (by simp [Operation.accepted, Operation.bindings, howner])
    · rw [perform, addBinding_of_foreign howner]
      exact tended_of_live rfl (.inl rfl) hlive (by simp [Operation.features])
        (by simp [Operation.accepted, Operation.bindings, howner])
  | addBindings bs => exact tended_addBindings bs hlive
  | setIndex index => exact tended_setIndex hlive index rfl rfl
  | setIndexText raw =>
    rw [perform, setIndexText, change_of_live hlive]
    split
    · exact tended_setIndex hlive _ rfl rfl
    · exact tended_of_eq rfl (.inl rfl) hlive rfl rfl
  | redraw pass list => exact tended_redraw hlive pass list
  | destroy =>
    rw [perform, destroy, change_of_live hlive]
    exact ⟨rfl, .inl rfl, by rintro d ⟨⟩, by rintro d ⟨⟩⟩

/-- No operation changes what a sublayer was created with. -/
theorem bare_perform (s : Sublayer) (op : Operation) : (s.perform op).state.bare = s.bare := by
  cases hc : s.contents with
  | none => rw [perform_of_gone hc]
  | some c => exact (tended_perform hc op).bare

theorem id_eq_of_bare (h : s.bare = t.bare) : s.id = t.id := congrArg (fun u => u.id) h

/-- A binding that an operation leaves was there before, up to what passes write on it, or was brought in
by the operation for this sublayer. -/
theorem Tended.of_mem (h : Tended s c op t) (hleft : t.contents = some d) (hb : b ∈ d.bindings) :
    ∃ a, a.plain = b.plain ∧ (a ∈ c.bindings ∨ a ∈ op.bindings ∧ a.sublayerId = s.id) := by
  have hmem := List.mem_map_of_mem (f := Binding.plain) hb
  rw [h.bindings d hleft] at hmem
  obtain ⟨a, ha, hplain⟩ := List.mem_map.mp hmem
  refine ⟨a, hplain, ?_⟩
  rcases List.mem_append.mp ha with ha | ha
  · exact .inl ha
  · exact .inr ⟨(List.takeWhile_prefix _).subset ha, by simpa using List.mem_takeWhile_imp ha⟩

/-! ### What holds of every sublayer -/

/-- The sublayers that there can be. -/
inductive Reachable : Sublayer → Prop where
  | make (name : String) (tile : Option TileKey) (options : SublayerOptions) :
      Reachable (.make name tile options)
  | step {s : Sublayer} (h : Reachable s) (op : Operation)
      (hbindings : ∀ b ∈ op.bindings, b.Reachable) : Reachable (s.perform op).state

/-- A binding that a sublayer holds is, up to what passes write on it, one that there can be, and the
sublayer's own. -/
theorem Reachable.exists_plain {s : Sublayer} (h : s.Reachable) : ∀ c, s.contents = some c →
    ∀ b ∈ c.bindings, ∃ a : Binding, a.plain = b.plain ∧ a.Reachable ∧ a.sublayerId = s.id := by
  induction h with
  | make name tile options =>
    rintro c ⟨⟩ b hb
    simp at hb
  | @step s _ op hbindings ih =>
    intro d hd b hb
    have hid : (s.perform op).state.id = s.id := id_eq_of_bare (s.bare_perform op)
    cases hc : s.contents with
    | none =>
      rw [perform_of_gone hc, hc] at hd
      exact absurd hd (by simp)
    | some c =>
      obtain ⟨a, hplain, ha | ⟨ha, howner⟩⟩ := (tended_perform hc op).of_mem hd hb
      · obtain ⟨a', hplain', hreachable, howner⟩ := ih c hc a ha
        exact ⟨a', hplain'.trans hplain, hreachable, howner.trans hid.symm⟩
      · exact ⟨a, hplain, hbindings a ha, howner.trans hid.symm⟩

/-- What a live sublayer can rely on about its bindings. -/
structure Sound (s : Sublayer) : Prop where
  owned : ∀ c, s.contents = some c → ∀ b ∈ c.bindings, b.sublayerId = s.id
  equipped : ∀ c, s.contents = some c → ∀ b ∈ c.bindings, b.Equipped

theorem Reachable.settled {s : Sublayer} (h : s.Reachable) (c : Contents)
    (hlive : s.contents = some c) : ∀ b ∈ c.bindings, b.Settled := by
  intro b hb
  obtain ⟨a, hplain, ha, -⟩ := h.exists_plain c hlive b hb
  exact Binding.settled_of_plain hplain ha.settled

/-- Every sublayer that there can be is sound. -/
theorem Reachable.sound {s : Sublayer} (h : s.Reachable) : s.Sound := by
  refine ⟨fun c hlive b hb => ?_, fun c hlive b hb => (h.settled c hlive b hb).equipped⟩
  obtain ⟨a, hplain, -, howner⟩ := h.exists_plain c hlive b hb
  have hid : a.sublayerId = b.sublayerId := by simpa using congrArg Binding.sublayerId hplain
  exact hid.symm.trans howner

end Sublayer

end Portrayal
