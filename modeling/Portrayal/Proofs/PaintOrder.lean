import Portrayal.Proofs.Frame
import Portrayal.Proofs.Upkeep

/-!
Which sublayer paints above which. A redraw gives all that it draws one layer index, the paint order of
its sublayer, and the paint order is settled when the sublayer is created. A sublayer that is created
without a number has the paint order 999, and nothing keeps that number from others:

    created with     0  ...  998     no number     999     1000  ...
    layer index      0  ...  998     999           999     1000  ...

Main statement: the draws of a sublayer with a number are all below those of one without exactly if the
number is less than 999, or one of the two draws nothing.
-/

namespace Portrayal

namespace Draw

/-- A draw has a smaller layer index than another one. -/
def Below (d e : Draw) : Prop :=
  ∃ i j, d.layerIndex = some i ∧ e.layerIndex = some j ∧ i < j

variable {ds es : List Draw} {i j : UInt32}

theorem below_iff {d e : Draw} (hd : d.layerIndex = some i) (he : e.layerIndex = some j) :
    d.Below e ↔ i < j := by
  constructor
  · rintro ⟨i', j', hi, hj, hlt⟩
    obtain rfl : i = i' := Option.some.inj (hd.symm.trans hi)
    obtain rfl : j = j' := Option.some.inj (he.symm.trans hj)
    exact hlt
  · exact fun hlt => ⟨i, j, hd, he, hlt⟩

/-- Draws that share a layer index are below others that share one as the two indexes are, unless there
is nothing to compare. -/
theorem all_below_iff (hds : ∀ d ∈ ds, d.layerIndex = some i) (hes : ∀ e ∈ es, e.layerIndex = some j) :
    (∀ d ∈ ds, ∀ e ∈ es, d.Below e) ↔ i < j ∨ ds = [] ∨ es = [] := by
  constructor
  · intro h
    by_cases hnone : ds = [] ∨ es = []
    · exact .inr hnone
    · obtain ⟨hds', hes'⟩ := not_or.mp hnone
      obtain ⟨d, hd⟩ := List.exists_mem_of_ne_nil ds hds'
      obtain ⟨e, he⟩ := List.exists_mem_of_ne_nil es hes'
      exact .inl ((below_iff (hds d hd) (hes e he)).mp (h d hd e he))
  · rintro (hlt | rfl | rfl) d hd e he
    · exact (below_iff (hds d hd) (hes e he)).mpr hlt
    · exact absurd hd List.not_mem_nil
    · exact absurd he List.not_mem_nil

end Draw

namespace Sublayer

/-- Every draw of a redraw has the paint order of the sublayer for its layer index. -/
theorem layerIndex_of_mem_roll {s : Sublayer} {pass : Pass} {d : Draw}
    (h : d ∈ (s.roll pass).map Prod.snd) : d.layerIndex = some s.origin.paintOrder := by
  obtain ⟨⟨p, d⟩, hd, rfl⟩ := List.mem_map.mp h
  obtain ⟨f, -, -, -, hindex⟩ := shownBy_of_mem_roll hd
  exact hindex

/-- A run does not change the paint order that a sublayer was created with. -/
theorem origin_run (name : String) (tile : Option TileKey) (options : SublayerOptions)
    (ops : List Operation) :
    ((make name tile options).run ops).origin = .ofOption options.originIndex :=
  congrArg (fun t => t.origin) (bare_run ops (make name tile options))

/-- Two sublayers, one created with a number and one without, are redrawn after whatever operations, in
whatever views and lists. All draws that the first redraw records carry the number, and all that the second
one records carry 999. So the first are below the second exactly if the number is less than 999, unless one
of the two records nothing. -/
theorem redraw_below_unassigned_iff (n : UInt32) (name name' : String) (tile tile' : Option TileKey)
    (options options' : SublayerOptions) (ops ops' : List Operation) (pass pass' : Pass)
    (list list' : DisplayList) :
    let s := (make name tile { options with originIndex := some n }).run ops
    let t := (make name' tile' { options' with originIndex := none }).run ops'
    ∃ numbered unnumbered : List Draw,
      (s.redraw pass list).state.2.draws = list.draws ++ numbered ∧
      (t.redraw pass' list').state.2.draws = list'.draws ++ unnumbered ∧
      (∀ d ∈ numbered, d.layerIndex = some n) ∧ (∀ d ∈ unnumbered, d.layerIndex = some 999) ∧
      ((∀ d ∈ numbered, ∀ e ∈ unnumbered, d.Below e) ↔
        n < 999 ∨ numbered = [] ∨ unnumbered = []) := by
  intro s t
  have hs : s.origin.paintOrder = n := congrArg OriginIndex.paintOrder (origin_run name tile _ ops)
  have ht : t.origin.paintOrder = 999 := congrArg OriginIndex.paintOrder (origin_run name' tile' _ ops')
  have hnumbered : ∀ d ∈ (s.roll pass).map Prod.snd, d.layerIndex = some n := fun d hd =>
    hs ▸ layerIndex_of_mem_roll hd
  have hunnumbered : ∀ d ∈ (t.roll pass').map Prod.snd, d.layerIndex = some 999 := fun d hd =>
    ht ▸ layerIndex_of_mem_roll hd
  exact ⟨_, _, s.draws_redraw pass list, t.draws_redraw pass' list', hnumbered, hunnumbered,
    Draw.all_below_iff hnumbered hunnumbered⟩

/-- A road in a sublayer with the number 1000 is painted above one in a sublayer without a number. -/
example :
    let stock (options : SublayerOptions) := (make "roads" none options).run
      [.addFeature (road 1), .addBinding (.make (escapeLayerName "roads") .sublayer none ⟨1, 2⟩)]
    let pass : Pass := ⟨.ofUrl "", 3⟩
    let first := (stock { originIndex := some 1000 }).redraw pass .empty
    ((stock {}).redraw pass first.state.2).state.2.draws.map Draw.layerIndex =
      [some 1000, some 999] := rfl

end Sublayer

end Portrayal
