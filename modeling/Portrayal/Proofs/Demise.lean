import Portrayal.Proofs.Redraw

/-!
The end of a sublayer. Destroying a sublayer destroys its bindings in order, up to the first one that
was destroyed before; the sublayer is gone in any case.

    bindings before    bound   bound   destroyed   bound
    bindings after     gone    gone    destroyed   bound     and the call fails

Main statements: from then on every call is refused with a misuse and leaves everything as it is, a
display list that it comes with included, except that adding no bindings at all is let through; and
destroying fails on a sublayer that is gone already and on one that holds a destroyed binding, and on
no other.
-/

namespace Portrayal

namespace Sublayer

/-- A question about a sublayer, with all that it is asked with. -/
inductive Query where
  | layerName
  | id
  | cssClass
  | index
  | origin
  | tile
  | userLayerType
  | visible
  | features
  | bindings
  | featureById (id : Int)
  | equals (other : Sublayer)
  /-- The comparison, put to the other sublayer. -/
  | equalledBy (other : Sublayer)
  /-- A binding to the sublayer is asked for. -/
  | bind (scope : Scope) (source : Option StyleSource) (surfaces : Surfaces)

/-- What answers a question. -/
def Query.Answer : Query → Type
  | .layerName | .id | .cssClass => String
  | .index => Float
  | .origin => OriginIndex
  | .tile => Option TileKey
  | .userLayerType => Option UserLayerType
  | .visible | .equals _ | .equalledBy _ => Bool
  | .features => List Feature
  | .bindings => List Binding
  | .featureById _ => Option Feature
  | .bind .. => Binding

/-- Put a question. -/
def ask (s : Sublayer) : (q : Query) → Except Fault q.Answer
  | .layerName => s.layerName?
  | .id => s.id?
  | .cssClass => s.cssClass?
  | .index => s.index?
  | .origin => s.origin?
  | .tile => s.tile?
  | .userLayerType => s.userLayerType?
  | .visible => s.visible?
  | .features => s.features?
  | .bindings => s.bindings?
  | .featureById id => s.featureById? id
  | .equals other => s.equals? other
  | .equalledBy other => other.equals? s
  | .bind scope source surfaces => s.bind? scope source surfaces

/-- A call on a sublayer: a question, or an operation that may change it. -/
inductive Call where
  | ask (q : Query)
  | perform (op : Operation)

/-- The display list that a call comes with, to be drawn on. -/
def Call.list : Call → Option DisplayList
  | .perform (.redraw _ list) => some list
  | _ => none

/-- What a call leaves behind: the sublayer, and the display list that it came with. -/
def call (s : Sublayer) : Call → Outcome (Sublayer × Option DisplayList)
  | .ask q =>
    match s.ask q with
    | .ok _ => .ok (s, none)
    | .error fault => .failed (s, none) fault
  | .perform (.redraw pass list) => (s.redraw pass list).map fun (s, list) => (s, some list)
  | .perform op => (s.perform op).map fun s => (s, none)

/-- What calls in order leave behind, each of them. -/
def calls : Sublayer → List Call → List (Outcome (Sublayer × Option DisplayList))
  | _, [] => []
  | s, c :: rest => s.call c :: (s.call c).state.1.calls rest

/-- What a destroyed sublayer has to say against a call. A comparison is refused by the sublayer that
it is put to, if that one is destroyed as well. -/
def objection (s : Sublayer) : Call → Option Misuse
  | .ask (.equalledBy other) =>
    some (.sublayerDestroyed (if other.isDestroyed then other.id else s.id))
  | .ask _ => some (.sublayerDestroyed s.id)
  | .perform op => s.objectionTo op

/-- A call that comes to nothing: everything is as it was, and the objection is the fault. -/
def refusal (s : Sublayer) (c : Call) : Outcome (Sublayer × Option DisplayList) :=
  ⟨(s, c.list), [], (s.objection c).map .illegalState⟩

theorem objection_eq_none_iff (s : Sublayer) (c : Call) :
    s.objection c = none ↔ c = .perform (.addBindings []) := by
  cases c with
  | ask q => cases q <;> simp [objection]
  | perform op =>
    cases op with
    | addBindings bs => cases bs <;> simp [objection, objectionTo]
    | _ => simp [objection, objectionTo]

variable {s : Sublayer}

/-! ### Calls on a sublayer that is gone -/

/-- A comparison is refused by the first of the two sublayers that is gone. -/
theorem equals?_of_gone (h : s.contents = none) (other : Sublayer) :
    s.equals? other = .error s.destroyedFault := by
  rw [equals?, whileLive_of_gone h]
  rfl

theorem equals?_of_other_gone (h : s.contents = none) (other : Sublayer) :
    other.equals? s = .error
      (.illegalState (.sublayerDestroyed (if other.isDestroyed then other.id else s.id))) := by
  cases hother : other.contents with
  | none => simp [equals?_of_gone hother, destroyedFault, isDestroyed, hother]
  | some c =>
    have hlive : other.isDestroyed ≠ true := by simp [isDestroyed_iff, hother]
    rw [equals?, whileLive_of_live hother, if_neg hlive]
    exact whileLive_of_gone h _

/-- No question is answered. -/
theorem ask_of_gone (h : s.contents = none) (q : Query) :
    ∃ cause, s.objection (.ask q) = some cause ∧ s.ask q = .error (.illegalState cause) := by
  cases q with
  | equals other => exact ⟨_, rfl, equals?_of_gone h other⟩
  | equalledBy other => exact ⟨_, rfl, equals?_of_other_gone h other⟩
  | _ => exact ⟨_, rfl, whileLive_of_gone h _⟩

theorem call_of_gone (h : s.contents = none) (c : Call) : s.call c = s.refusal c := by
  cases c with
  | ask q =>
    obtain ⟨cause, hcause, hanswer⟩ := ask_of_gone h q
    rw [call, hanswer, refusal, hcause]
    rfl
  | perform op =>
    have hop := perform_of_gone h op
    cases op with
    | redraw pass list =>
      rw [call, redraw, h]
      rfl
    | _ => exact congrArg (fun o => Outcome.map (fun s => (s, none)) o) hop

theorem calls_of_gone (h : s.contents = none) : ∀ cs : List Call, s.calls cs = cs.map s.refusal
  | [] => rfl
  | c :: cs => by
    have hcall := call_of_gone h c
    have hstate : (s.call c).state.1 = s := by rw [hcall, refusal]
    rw [calls, hstate, hcall, calls_of_gone h cs, List.map_cons]

/-- Whatever is called on a destroyed sublayer, and in whatever order: every call comes to nothing. The
sublayer is as destroyed as before, a display list that was to be drawn on has no new command, nothing
is said, and the fault is a misuse; only adding an empty list of bindings is no fault. -/
theorem calls_of_destroyed (h : s.isDestroyed = true) (cs : List Call) :
    s.calls cs = cs.map (fun c => ⟨(s, c.list), [], (s.objection c).map .illegalState⟩) ∧
      ∀ c, s.objection c = none ↔ c = .perform (.addBindings []) :=
  ⟨calls_of_gone (isDestroyed_iff.mp h) cs, s.objection_eq_none_iff⟩

/-- The roads after they were destroyed are asked, given nothing, given a binding of other roads, drawn,
compared and destroyed once more. -/
theorem calls_of_destroyed_roads :
    let gone := roads.destroy.state
    let cs : List Call :=
      [.ask .features, .perform (.addBindings []),
        .perform (.addBinding (.make "paths" .sublayer none ⟨5, 6⟩)),
        .perform (.redraw roadsPass .empty), .ask (.equalledBy (stocked "paths" [] [])),
        .perform .destroy]
    gone.isDestroyed = true ∧
      gone.calls cs = cs.map (fun c => ⟨(gone, c.list), [], (gone.objection c).map .illegalState⟩) ∧
      cs.map gone.objection =
        [some (.sublayerDestroyed "roads"), none, some (.foreignBinding "paths" "roads"),
          some (.sublayerDestroyed "roads"), some (.sublayerDestroyed "roads"),
          some (.sublayerDestroyed "roads")] := by
  intro gone cs
  have hgone : gone.isDestroyed = true := rfl
  exact ⟨hgone, (calls_of_destroyed hgone cs).1, rfl⟩

end Sublayer

/-! ### Destroying -/

namespace Binding

/-- A binding after it was given up. -/
def released (b : Binding) : Binding :=
  { b with source := none, surfaces := none, scope := .sublayer, stage := .destroyed }

theorem destroy_of_intact {b : Binding} (h : b.stage ≠ .destroyed) : b.destroy = .ok b.released :=
  if_neg h

theorem destroy_of_destroyed {b : Binding} (h : b.stage = .destroyed) :
    b.destroy = .failed b (.illegalState (.bindingDestroyedTwice b.sublayerId)) :=
  if_pos h

end Binding

namespace Sublayer

theorem destroyBindings_cons_of_intact {b : Binding} (h : b.stage ≠ .destroyed)
    (rest : List Binding) :
    destroyBindings (b :: rest) = (destroyBindings rest).map fun rest => b.released :: rest := by
  rw [destroyBindings, Binding.destroy_of_intact h]
  rfl

/-- Bindings that are all intact are all destroyed. -/
theorem destroyBindings_of_intact : ∀ {bindings : List Binding},
    (∀ b ∈ bindings, b.stage ≠ .destroyed) →
      destroyBindings bindings = .ok (bindings.map Binding.released)
  | [], _ => rfl
  | b :: rest, h => by
    rw [destroyBindings_cons_of_intact (h b List.mem_cons_self),
      destroyBindings_of_intact fun x hx => h x (List.mem_cons_of_mem b hx)]
    rfl

/-- The first binding that was destroyed before ends the destruction; the ones behind it are not
touched. -/
theorem destroyBindings_of_destroyed {b : Binding} (hb : b.stage = .destroyed) (late : List Binding) :
    ∀ {early : List Binding}, (∀ x ∈ early, x.stage ≠ .destroyed) →
      destroyBindings (early ++ b :: late) =
        .failed (early.map Binding.released ++ b :: late)
          (.illegalState (.bindingDestroyedTwice b.sublayerId))
  | [], _ => by
    rw [List.nil_append, destroyBindings, Binding.destroy_of_destroyed hb]
    rfl
  | x :: early, h => by
    rw [List.cons_append, destroyBindings_cons_of_intact (h x List.mem_cons_self),
      destroyBindings_of_destroyed hb late fun y hy => h y (List.mem_cons_of_mem x hy)]
    rfl

/-- Bindings are all intact, or there is a first one among them that is destroyed. -/
theorem intact_or_split (bindings : List Binding) :
    (∀ b ∈ bindings, b.stage ≠ .destroyed) ∨
      ∃ early b late, bindings = early ++ b :: late ∧ (∀ x ∈ early, x.stage ≠ .destroyed) ∧
        b.stage = .destroyed := by
  rcases all_or_first (fun b : Binding => b.stage ≠ .destroyed) bindings with
    h | ⟨early, b, late, hsplit, hearly, hb⟩
  · exact .inl h
  · exact .inr ⟨early, b, late, hsplit, hearly, not_not.mp hb⟩

/-- How destroying the bindings of a sublayer ends: the fault, if any, and what becomes of them. -/
inductive Ends (id : String) (bindings : List Binding) : Option Fault → List Binding → Prop where
  | through (h : ∀ b ∈ bindings, b.stage ≠ .destroyed) :
      Ends id bindings none (bindings.map Binding.released)
  | short {early late : List Binding} {b : Binding} (hsplit : bindings = early ++ b :: late)
      (hearly : ∀ x ∈ early, x.stage ≠ .destroyed) (hb : b.stage = .destroyed) :
      Ends id bindings (some (.illegalState (.bindingDestroyedTwice id)))
        (early.map Binding.released ++ b :: late)

theorem ends_destroyBindings {id : String} {bindings : List Binding}
    (howned : ∀ b ∈ bindings, b.sublayerId = id) :
    Ends id bindings (destroyBindings bindings).fault (destroyBindings bindings).state := by
  rcases intact_or_split bindings with h | ⟨early, b, late, rfl, hearly, hb⟩
  · rw [destroyBindings_of_intact h]
    exact .through h
  · rw [destroyBindings_of_destroyed hb late hearly, howned b (by simp)]
    exact .short rfl hearly hb

/-- The destruction of bindings falls short exactly if one of them was destroyed before. -/
theorem Ends.fault_ne_none_iff {id : String} {bindings left : List Binding} {fault : Option Fault}
    (h : Ends id bindings fault left) :
    fault ≠ none ↔ ∃ b ∈ bindings, b.stage = .destroyed := by
  cases h with
  | through hintact => simpa using hintact
  | @short early late b hsplit _ hb =>
    refine ⟨fun _ => ⟨b, ?_, hb⟩, fun _ => by simp⟩
    rw [hsplit]
    exact List.mem_append_right _ List.mem_cons_self

variable {s : Sublayer}

theorem destroy_of_live {c : Contents} (h : s.contents = some c) :
    s.destroy =
      (destroyBindings c.bindings).map fun _ => { s with visible := false, contents := none } :=
  change_of_live h _

/-- Destroying leaves a destroyed sublayer, whether it goes through or not. -/
theorem isDestroyed_destroy (s : Sublayer) : s.destroy.state.isDestroyed = true := by
  cases h : s.contents with
  | none =>
    rw [destroy, change_of_gone h]
    exact isDestroyed_iff.mpr h
  | some c =>
    rw [destroy_of_live h]
    rfl

/-- Destroying fails on a sublayer that is gone already and on one that holds a binding that was
destroyed before, and on no other. The sublayer is destroyed in any case. A live one had its bindings
destroyed in order: all of them, or those before the first one that was destroyed before, which is then
the fault. -/
theorem destroy_fails_iff (hs : s.Reachable) :
    s.destroy.state.isDestroyed = true ∧
      (s.destroy.fault ≠ none ↔
        s.isDestroyed = true ∨ ∃ c, s.contents = some c ∧ ∃ b ∈ c.bindings, b.stage = .destroyed) ∧
      ∀ c, s.contents = some c →
        Ends s.id c.bindings s.destroy.fault (destroyBindings c.bindings).state := by
  have hends : ∀ c, s.contents = some c →
      Ends s.id c.bindings s.destroy.fault (destroyBindings c.bindings).state := by
    intro c hc
    rw [destroy_of_live hc]
    exact ends_destroyBindings (hs.sound.owned c hc)
  refine ⟨s.isDestroyed_destroy, ?_, hends⟩
  cases hc : s.contents with
  | none =>
    rw [destroy, change_of_gone hc]
    simp [isDestroyed_iff, hc]
  | some c =>
    rw [(hends c hc).fault_ne_none_iff]
    simp [isDestroyed_iff, hc]

/-- A sublayer whose second binding was destroyed before it was attached. -/
def spent : Sublayer :=
  stocked "roads" [road 1]
    [.make (escapeLayerName "roads") .sublayer none ⟨1, 2⟩,
      (Binding.make (escapeLayerName "roads") .sublayer none ⟨3, 4⟩).destroy.state,
      .make (escapeLayerName "roads") .sublayer none ⟨5, 6⟩]

theorem reachable_spent : spent.Reachable := by
  refine reachable_stocked _ _ fun b hb => ?_
  simp only [List.mem_cons, List.not_mem_nil, or_false] at hb
  rcases hb with rfl | rfl | rfl
  · exact .make _ _ _ _
  · exact .destroy (.make _ _ _ _)
  · exact .make _ _ _ _

/-- A live sublayer with a destroyed binding: destroying it fails, it is destroyed all the same, and the
binding behind the destroyed one has stayed as it was. -/
theorem destroy_fails_spent : ∃ c, spent.contents = some c ∧ spent.isDestroyed = false ∧
    spent.destroy.state.isDestroyed = true ∧
    Ends "roads" c.bindings spent.destroy.fault (destroyBindings c.bindings).state ∧
    spent.destroy.fault = some (.illegalState (.bindingDestroyedTwice "roads")) ∧
    (destroyBindings c.bindings).state.map Binding.stage = [.destroyed, .destroyed, .bound] := by
  obtain ⟨hgone, -, hends⟩ := destroy_fails_iff reachable_spent
  exact ⟨_, rfl, rfl, hgone, hends _ rfl, rfl, rfl⟩

end Sublayer

end Portrayal
