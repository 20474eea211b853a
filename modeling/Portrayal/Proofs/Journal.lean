import Portrayal.Notice

/-!
What a journal knows. A journal knows a warning that it has printed since it was last cleared, and an
unmapped property whose record has the kind marked. It takes no note of what it knows, it knows what it
has entered, and entering more does not make it forget. So entering notices a second time changes
nothing.
-/

namespace Portrayal

/-- A journal has seen to a notice and will take no further note of it. -/
def Journal.Knows (j : Journal) : Notice → Prop
  | .warning w => j.printed.contains w.key = true
  | .unmapped record _ kind => j.isMarked record kind = true

namespace Journal

variable {j : Journal} {n m : Notice}

theorem enter_of_knows (h : j.Knows n) : j.enter n = j := by
  cases n with
  | warning w =>
    have hprinted : j.printed.contains w.key = true := h
    rw [enter, warn, if_pos hprinted]
  | unmapped record property kind =>
    have hmarked : j.isMarked record kind = true := h
    rw [enter, if_pos hmarked]

/-! ### What printing and marking do -/

theorem isMarked_warn (j : Journal) (w : Warning) (record : RecordId) (kind : Kind) :
    (j.warn w).isMarked record kind = j.isMarked record kind := by
  rw [warn]
  split <;> rfl

theorem contains_warn (j : Journal) (w : Warning) : (j.warn w).printed.contains w.key = true := by
  rw [warn]
  split
  · assumption
  · simp

theorem contains_warn_of_contains {key : String} (h : j.printed.contains key = true) (w : Warning) :
    (j.warn w).printed.contains key = true := by
  rw [warn]
  split
  · exact h
  · simp only [List.contains_cons, h, Bool.or_true]

theorem isMarked_mark_iff {record record' : RecordId} {kind kind' : Kind} :
    (j.mark record kind).isMarked record' kind' = true ↔
      (record' = record ∧ kind' = kind) ∨ j.isMarked record' kind' = true := by
  rw [mark]
  split
  · rename_i hmarked
    refine ⟨.inr, ?_⟩
    rintro (⟨rfl, rfl⟩ | h)
    · exact hmarked
    · exact h
  · simp [isMarked]

theorem printed_mark (j : Journal) (record : RecordId) (kind : Kind) :
    (j.mark record kind).printed = j.printed := by
  rw [mark]
  split <;> rfl

/-! ### What entering does -/

/-- A journal knows what it has entered. -/
theorem knows_enter (j : Journal) (n : Notice) : (j.enter n).Knows n := by
  cases n with
  | warning w => exact contains_warn j w
  | unmapped record property kind =>
    rw [enter]
    split
    · assumption
    · rw [Knows, isMarked_warn]
      exact isMarked_mark_iff.mpr (.inl ⟨rfl, rfl⟩)

/-- A journal that enters a notice still knows what it knew. -/
theorem Knows.enter (h : j.Knows m) (n : Notice) : (j.enter n).Knows m := by
  cases n with
  | warning w =>
    cases m with
    | warning v => exact contains_warn_of_contains h w
    | unmapped record property kind =>
      rw [Knows, Journal.enter, isMarked_warn]
      exact h
  | unmapped record property kind =>
    rw [Journal.enter]
    split
    · exact h
    · cases m with
      | warning v =>
        have hprinted : (j.mark record kind).printed.contains v.key = true := by
          rw [printed_mark]
          exact h
        exact contains_warn_of_contains hprinted _
      | unmapped record' property' kind' =>
        rw [Knows, isMarked_warn]
        exact isMarked_mark_iff.mpr (.inr h)

theorem Knows.enterAll : ∀ (ns : List Notice) {j : Journal}, j.Knows m → (j.enterAll ns).Knows m
  | [], _, h => h
  | n :: ns, _, h => Knows.enterAll ns (h.enter n)

/-- A journal knows everything that it has entered. -/
theorem knows_enterAll : ∀ {ns : List Notice} (j : Journal), ∀ n ∈ ns, (j.enterAll ns).Knows n
  | m :: ns, j, n, hn => by
    rcases List.mem_cons.mp hn with rfl | hn
    · exact Knows.enterAll ns (knows_enter j n)
    · exact knows_enterAll (j.enter m) n hn

/-- Notices that a journal knows leave it as it is. -/
theorem enterAll_of_knows : ∀ {ns : List Notice} {j : Journal}, (∀ n ∈ ns, j.Knows n) →
    j.enterAll ns = j
  | [], _, _ => rfl
  | n :: ns, j, h => by
    have hn : j.enter n = j := enter_of_knows (h n List.mem_cons_self)
    have hns : j.enterAll ns = j := enterAll_of_knows fun m hm => h m (List.mem_cons_of_mem n hm)
    rw [Journal.enterAll, List.foldl_cons, hn]
    exact hns

/-- Notices that are entered a second time leave a journal as it is: nothing is printed again. -/
theorem enterAll_again (j : Journal) (ns : List Notice) :
    (j.enterAll ns).enterAll ns = j.enterAll ns :=
  enterAll_of_knows (knows_enterAll j)

end Journal

end Portrayal
