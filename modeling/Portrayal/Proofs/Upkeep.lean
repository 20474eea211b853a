import Portrayal.Proofs.LayerNames
import Portrayal.Proofs.Redraw

/-!
A sublayer kept in use. Whatever operations it goes through, and whether they go through or stop half
way, as long as it is alive:

    name, paint order, tile, type     are those that it was created with
    identity, class name              are the name, with its marks respelled
    index                             is a number
    features                          are those that were added, in order
    bindings                          are its own, ready with their surfaces or destroyed without

Main statement: this holds after every run of operations, and two sublayers are the same to each other
exactly if their names are.
-/

namespace Portrayal

namespace Sublayer

/-- A sublayer after operations in order, whether they went through or not. -/
def run (s : Sublayer) (ops : List Operation) : Sublayer :=
  ops.foldl (fun s op => (s.perform op).state) s

variable {s : Sublayer}

theorem run_cons (s : Sublayer) (op : Operation) (ops : List Operation) :
    s.run (op :: ops) = (s.perform op).state.run ops := rfl

theorem run_of_gone (hgone : s.contents = none) : ∀ ops : List Operation, s.run ops = s
  | [] => rfl
  | op :: ops => by
    rw [run_cons, perform_of_gone hgone]
    exact run_of_gone hgone ops

theorem reachable_run : ∀ {ops : List Operation} {s : Sublayer}, s.Reachable →
    (∀ op ∈ ops, ∀ b ∈ op.bindings, b.Reachable) → (s.run ops).Reachable
  | [], _, hs, _ => hs
  | op :: ops, _, hs, hbindings => by
    rw [run_cons]
    exact reachable_run (hs.step op (hbindings op List.mem_cons_self))
      fun o ho => hbindings o (List.mem_cons_of_mem op ho)

/-- A run changes nothing of what a sublayer was created with. -/
theorem bare_run : ∀ (ops : List Operation) (s : Sublayer), (s.run ops).bare = s.bare
  | [], _ => rfl
  | op :: ops, s => (bare_run ops (s.perform op).state).trans (s.bare_perform op)

theorem isNaN_make (name : String) (tile : Option TileKey) (options : SublayerOptions) :
    (make name tile options).index.isNaN = false :=
  show (0 : Float).isNaN = false by decide

/-- No operation makes the index something that is not a number. -/
theorem isNaN_perform (hs : s.index.isNaN = false) (op : Operation) :
    (s.perform op).state.index.isNaN = false := by
  cases hc : s.contents with
  | none =>
    rw [perform_of_gone hc]
    exact hs
  | some c =>
    rcases (tended_perform hc op).index with hsame | hnumber
    · rw [hsame]
      exact hs
    · exact hnumber

theorem isNaN_run : ∀ (ops : List Operation) {s : Sublayer}, s.index.isNaN = false →
    (s.run ops).index.isNaN = false
  | [], _, hs => hs
  | op :: ops, _, hs => isNaN_run ops (isNaN_perform hs op)

/-- A run that leaves a sublayer alive leaves its features, up to what passes write on them, as they were
with those behind them that the operations brought in. -/
theorem features_run : ∀ (ops : List Operation) {s : Sublayer} {c d : Contents},
    s.contents = some c → (s.run ops).contents = some d →
      d.features.map Feature.plain =
        (c.features ++ ops.flatMap Operation.features).map Feature.plain
  | [], s, c, d, hlive, hleft => by
    obtain rfl : c = d := Option.some.inj (hlive.symm.trans hleft)
    rw [List.flatMap_nil, List.append_nil]
  | op :: ops, s, c, d, hlive, hleft => by
    cases hstep : (s.perform op).state.contents with
    | none =>
      -- a sublayer that is gone after the first operation stays gone
      rw [run_cons, run_of_gone hstep, hstep] at hleft
      exact absurd hleft (by simp)
    | some c' =>
      have hrest := features_run ops hstep hleft
      rw [List.map_append, (tended_perform hlive op).features c' hstep] at hrest
      rw [hrest, List.flatMap_cons, ← List.map_append, List.append_assoc]

/-- What a live sublayer answers that was made with a name, a tile and options and went through
operations. -/
structure KeptUp (name : String) (tile : Option TileKey) (options : SublayerOptions)
    (ops : List Operation) (s : Sublayer) : Prop where
  layerName : s.layerName? = .ok name
  origin : s.origin? = .ok (.ofOption options.originIndex)
  tile : s.tile? = .ok tile
  userLayerType : s.userLayerType? = .ok options.userLayerType
  id : s.id? = .ok (escapeLayerName name)
  cssClass : s.cssClass? = .ok (escapeLayerName name)
  /-- The identity is the one text without marks that the name turns into. -/
  spelled : Unmarked (escapeLayerName name) ∧ Interchangeable name (escapeLayerName name)
  index : ∃ x, s.index? = .ok x ∧ x.isNaN = false
  features : ∃ fs, s.features? = .ok fs ∧
    fs.map Feature.plain = (ops.flatMap Operation.features).map Feature.plain
  bindings : ∃ bs, s.bindings? = .ok bs ∧
    ∀ b ∈ bs, b.sublayerId = escapeLayerName name ∧ b.Settled

/-- What two live sublayers are compared by is their names, as identity and class name are made of
them. -/
theorem equals?_of_live {t : Sublayer} {c d : Contents} (hs : s.contents = some c)
    (ht : t.contents = some d) : s.equals? t =
      .ok (s.layerName == t.layerName && s.id == t.id && s.cssClass == t.cssClass) := by
  rw [equals?, whileLive_of_live hs]
  exact whileLive_of_live ht _

section Run

variable (name : String) (tile : Option TileKey) (options : SublayerOptions) (ops : List Operation)

/-- A run does not change the names of a sublayer. -/
theorem names_run :
    ((make name tile options).run ops).layerName = name ∧
      ((make name tile options).run ops).id = escapeLayerName name ∧
      ((make name tile options).run ops).cssClass = escapeLayerName name := by
  have hbare := bare_run ops (make name tile options)
  exact ⟨congrArg (fun t => t.layerName) hbare, congrArg (fun t => t.id) hbare,
    congrArg (fun t => t.cssClass) hbare⟩

theorem keptUp_run (hbindings : ∀ op ∈ ops, ∀ b ∈ op.bindings, b.Reachable)
    (hlive : ((make name tile options).run ops).isDestroyed = false) :
    KeptUp name tile options ops ((make name tile options).run ops) := by
  obtain ⟨c, hc⟩ := exists_contents hlive
  obtain ⟨hname, hid, hclass⟩ := names_run name tile options ops
  have hbare := bare_run ops (make name tile options)
  have hreachable := reachable_run (.make name tile options) hbindings
  have horigin := congrArg (fun t => t.origin) hbare
  have htile := congrArg (fun t => t.tile) hbare
  have htype := congrArg (fun t => t.userLayerType) hbare
  exact
    { layerName := (whileLive_of_live hc _).trans (congrArg Except.ok hname)
      origin := (whileLive_of_live hc _).trans (congrArg Except.ok horigin)
      tile := (whileLive_of_live hc _).trans (congrArg Except.ok htile)
      userLayerType := (whileLive_of_live hc _).trans (congrArg Except.ok htype)
      id := (whileLive_of_live hc _).trans (congrArg Except.ok hid)
      cssClass := (whileLive_of_live hc _).trans (congrArg Except.ok hclass)
      spelled := ⟨unmarked_escapeLayerName name, interchangeable_escapeLayerName name⟩
      index := ⟨_, whileLive_of_live hc _, isNaN_run ops (isNaN_make name tile options)⟩
      features := ⟨_, whileLive_of_live hc _, features_run ops (c := ⟨[], []⟩) rfl hc⟩
      bindings := ⟨_, whileLive_of_live hc _, fun b hb =>
        ⟨(hreachable.sound.owned c hc b hb).trans hid, hreachable.settled c hc b hb⟩⟩ }

theorem equals?_run (name' : String) (tile' : Option TileKey) (options' : SublayerOptions)
    (ops' : List Operation) (hlive : ((make name tile options).run ops).isDestroyed = false)
    (hlive' : ((make name' tile' options').run ops').isDestroyed = false) :
    ((make name tile options).run ops).equals? ((make name' tile' options').run ops') =
      .ok (decide (name = name')) := by
  obtain ⟨c, hc⟩ := exists_contents hlive
  obtain ⟨d, hd⟩ := exists_contents hlive'
  obtain ⟨hname, hid, hclass⟩ := names_run name tile options ops
  obtain ⟨hname', hid', hclass'⟩ := names_run name' tile' options' ops'
  rw [equals?_of_live hc hd, hname, hid, hclass, hname', hid', hclass']
  by_cases h : name = name' <;> simp [h]

/-- However a sublayer is used, as long as it is alive: it answers what it was created with, its identity
and class name are its name with the marks respelled, its index is a number, its features are those that
were added, in order and up to what passes write on them, and its bindings are its own and are ready with
their surfaces or destroyed without any. Two such sublayers are the same to each other exactly if they
have one name. -/
theorem run_keeps (hbindings : ∀ op ∈ ops, ∀ b ∈ op.bindings, b.Reachable)
    (hlive : ((make name tile options).run ops).isDestroyed = false) :
    KeptUp name tile options ops ((make name tile options).run ops) ∧
      ∀ (name' : String) (tile' : Option TileKey) (options' : SublayerOptions)
        (ops' : List Operation), ((make name' tile' options').run ops').isDestroyed = false →
          ((make name tile options).run ops).equals? ((make name' tile' options').run ops') =
            .ok (decide (name = name')) :=
  ⟨keptUp_run name tile options ops hbindings hlive,
    fun name' tile' options' ops' => equals?_run name tile options ops name' tile' options' ops' hlive⟩

end Run

/-- What happens to some parcels: a road is added, a binding of other parcels, a destroyed one of their
own with another one behind it, an index that is no number and one that is, and a redraw that stops at
the destroyed binding. -/
def upheaval : List Operation :=
  [.addFeatures [road 1, road 2], .addBinding (.make "lots" .sublayer none ⟨1, 2⟩),
    .addBindings
      [.make (escapeLayerName "a#b") .sublayer none ⟨3, 4⟩,
        (Binding.make (escapeLayerName "a#b") .sublayer none ⟨5, 6⟩).destroy.state],
    .setIndex (0 / 0), .setIndex 7, .redraw roadsPass .empty, .setVisible false]

/-- The parcels are kept up through all that, and they are not the same as the ones of another name with
the same identity. -/
theorem run_keeps_upheaval :
    ((make "a#b" none {}).run upheaval).isDestroyed = false ∧
      KeptUp "a#b" none {} upheaval ((make "a#b" none {}).run upheaval) ∧
      ((make "a#b" none {}).run upheaval).equals? (make "a@b" none {}) = .ok false := by
  have hbindings : ∀ op ∈ upheaval, ∀ b ∈ op.bindings, b.Reachable := by
    intro op hop b hb
    simp only [upheaval, List.mem_cons, List.not_mem_nil, or_false] at hop
    rcases hop with rfl | rfl | rfl | rfl | rfl | rfl | rfl <;>
      simp only [Operation.bindings, List.mem_cons, List.not_mem_nil, or_false] at hb
    · subst hb
      exact Binding.Reachable.make "lots" _ _ _
    · rcases hb with rfl | rfl
      · exact .make _ _ _ _
      · exact .destroy (.make _ _ _ _)
  have hlive : ((make "a#b" none {}).run upheaval).isDestroyed = false := rfl
  obtain ⟨hkept, hequals⟩ := run_keeps "a#b" none {} upheaval hbindings hlive
  exact ⟨hlive, hkept, hequals "a@b" none {} [] rfl⟩

end Sublayer

end Portrayal
