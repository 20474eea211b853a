import Mathlib.Data.List.Induction

/-!
Cells. A cell is a place in a state that the steps of a run write to: a step gives it a value or leaves
it as it is. A run leaves in a cell what the last step gave that gave anything, and if none did, what
was there before.

        steps give:            -    2    -    3    -
        a full cell:      1    1    2    2    3    3
        an empty cell:    -    -    2    2    3    3

So the second part of a run leaves the same in a cell whatever the first part put there, unless it
gives nothing at all. The draft of a style is made of cells, and so is a style that is written entry by
entry.
-/

namespace Portrayal

variable {α β σ : Type}

/-- What the last item gives of those that give anything; nothing if none does. -/
inductive LastGiven (gives : α → β → Prop) : List α → Option β → Prop where
  | never {items : List α} (h : ∀ a ∈ items, ∀ b, ¬ gives a b) : LastGiven gives items none
  | last {before after : List α} {a : α} {b : β} (h : gives a b)
      (hafter : ∀ a' ∈ after, ∀ b', ¬ gives a' b') :
      LastGiven gives (before ++ a :: after) (some b)

namespace LastGiven

variable {gives : α → β → Prop} {items : List α} {found : Option β}

/-- Something is given exactly if one of the items gives it. -/
theorem isSome_iff (h : LastGiven gives items found) :
    found.isSome ↔ ∃ a ∈ items, ∃ b, gives a b := by
  cases h with
  | never h =>
    constructor
    · intro hsome
      exact absurd hsome (by simp)
    · rintro ⟨a, ha, b, hb⟩
      exact absurd hb (h a ha b)
  | @last before after a b h hafter =>
    constructor
    · intro _
      exact ⟨a, by simp, b, h⟩
    · intro _
      rfl

/-- What is given is given by one of the items. -/
theorem exists_mem {b : β} (h : LastGiven gives items (some b)) : ∃ a ∈ items, gives a b := by
  obtain _ | @⟨before, after, a, _, h, -⟩ := h
  exact ⟨a, by simp, h⟩

/-- What is last given under another name is last given under its own. -/
theorem exists_of_map {δ : Type} {f : β → δ} {found : Option δ}
    (h : LastGiven (fun a c => ∃ b, gives a b ∧ f b = c) items found) :
    ∃ found', LastGiven gives items found' ∧ found = found'.map f := by
  cases h with
  | never h =>
    refine ⟨none, .never ?_, rfl⟩
    intro a ha b hb
    exact h a ha (f b) ⟨b, hb, rfl⟩
  | last h hafter =>
    obtain ⟨b, hb, rfl⟩ := h
    refine ⟨some b, .last hb ?_, rfl⟩
    intro a ha b' hb'
    exact hafter a ha (f b') ⟨b', hb', rfl⟩

/-- What is last given under its own name is last given under another one. -/
theorem map {δ : Type} (h : LastGiven gives items found) (f : β → δ) :
    LastGiven (fun a c => ∃ b, gives a b ∧ f b = c) items (found.map f) := by
  cases h with
  | never h =>
    refine .never ?_
    rintro a ha c ⟨b, hb, -⟩
    exact h a ha b hb
  | last h hafter =>
    refine .last ⟨_, h, rfl⟩ ?_
    rintro a' ha' c ⟨b', hb', -⟩
    exact hafter a' ha' b' hb'

/-- One more item gives something or leaves things as they are. -/
theorem concat (h : LastGiven gives items found) (a : α) :
    ∃ found', LastGiven gives (items ++ [a]) found' := by
  by_cases ha : ∃ b, gives a b
  · obtain ⟨b, hb⟩ := ha
    exact ⟨some b, .last hb (by simp)⟩
  · have hnone : ∀ b, ¬ gives a b := fun b hb => ha ⟨b, hb⟩
    cases h with
    | never h =>
      refine ⟨none, .never ?_⟩
      intro a' ha'
      rcases List.mem_append.mp ha' with ha' | ha'
      · exact h a' ha'
      · rwa [List.mem_singleton.mp ha']
    | @last before after a₀ b h hafter =>
      refine ⟨some b, ?_⟩
      rw [List.append_assoc, List.cons_append]
      refine .last h ?_
      intro a' ha'
      rcases List.mem_append.mp ha' with ha' | ha'
      · exact hafter a' ha'
      · rwa [List.mem_singleton.mp ha']

theorem exists_found (gives : α → β → Prop) (items : List α) :
    ∃ found, LastGiven gives items found := by
  induction items using List.reverseRecOn with
  | nil => exact ⟨none, .never (by simp)⟩
  | append_singleton items a ih =>
    obtain ⟨found, h⟩ := ih
    exact h.concat a

end LastGiven

/-- A place in a state that steps write to: a step that gives a value puts it there, and any other one
leaves the place alone. -/
structure Cell (step : σ → α → σ) (read : σ → Option β) (gives : α → β → Prop) : Prop where
  given : ∀ s {a b}, gives a b → read (step s a) = some b
  kept : ∀ s {a}, (∀ b, ¬ gives a b) → read (step s a) = read s

namespace Cell

variable {step : σ → α → σ} {read : σ → Option β} {gives : α → β → Prop}

theorem read_foldl_of_never (h : Cell step read gives) {items : List α}
    (hitems : ∀ a ∈ items, ∀ b, ¬ gives a b) (s : σ) : read (items.foldl step s) = read s := by
  induction items generalizing s with
  | nil => rfl
  | cons a items ih =>
    rw [List.foldl_cons, ih (fun a' ha' => hitems a' (List.mem_cons_of_mem a ha')),
      h.kept s (hitems a List.mem_cons_self)]

/-- After a run a cell holds what the last step gave, or else what it held before. -/
theorem read_foldl (h : Cell step read gives) {items : List α} {found : Option β}
    (hfound : LastGiven gives items found) (s : σ) :
    read (items.foldl step s) = found.or (read s) := by
  cases hfound with
  | never hitems => exact h.read_foldl_of_never hitems s
  | last hgiven hafter =>
    rw [List.foldl_append, List.foldl_cons, h.read_foldl_of_never hafter, h.given _ hgiven]
    rfl

/-- A run leaves in an empty cell what its last step gave. -/
theorem lastGiven_foldl (h : Cell step read gives) (items : List α) {s : σ} (hs : read s = none) :
    LastGiven gives items (read (items.foldl step s)) := by
  obtain ⟨found, hfound⟩ := LastGiven.exists_found gives items
  rw [h.read_foldl hfound, hs, Option.or_none]
  exact hfound

/-- The second part of a run leaves in a cell what it leaves in an empty one, and where that is nothing,
what the first part left. -/
theorem read_foldl_append (h : Cell step read gives) (items items' : List α) {s : σ}
    (hs : read s = none) :
    read ((items ++ items').foldl step s) =
      (read (items'.foldl step s)).or (read (items.foldl step s)) := by
  obtain ⟨found, hfound⟩ := LastGiven.exists_found gives items'
  rw [List.foldl_append, h.read_foldl hfound, h.read_foldl hfound s, hs, Option.or_none]

end Cell

end Portrayal
