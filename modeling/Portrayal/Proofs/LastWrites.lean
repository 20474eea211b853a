import Portrayal.Proofs.Cells
import Portrayal.Proofs.Members
import Portrayal.Style

/-!
Styles by their last writes. However a style is made, what it holds is for each property the value that
was written last, so the order of the writes is forgotten but for writes to one property:

    set lineWidth 1    set lineCap round                         set lineWidth 3
    set lineCap round                    set lineWidth 3         collect  lineWidth 1, lineCap round
    set lineWidth 3                      set lineCap round       over it  lineWidth 3
    ────────────────────────────────────────────────────────────────────────────────────────────────
    lineWidth 3, lineCap round           the same                the same

Writing a style over another one writes its entries one by one, in their order. As only the last writes
count, that is associative, and a style written over itself or over nothing is that style.

Main statement: two styles are the same exactly if the last writes to every property are, and what they
list, and what is written for them in a document, are the last writes in the order of the properties.
-/

namespace Portrayal

theorem Property.pairwise_all : all.Pairwise fun p q => p.index < q.index := by decide

namespace Style

variable {s base top : Style} {p : Property}

/-! ### Entries -/

theorem mem_entries {v : Value} : (p, v) ∈ s.entries ↔ s.get? p = some v := by
  simp [entries, Property.mem_all]

theorem map_fst_entries (s : Style) : s.entries.map Prod.fst = Property.all.filter s.contains := by
  rw [entries, List.map_filterMap, ← List.filterMap_eq_filter]
  congr 1
  funext p
  cases h : s.get? p <;> simp [Option.guard, contains, h]

/-- A style lists its properties in order, each of them once. -/
theorem pairwise_entries (s : Style) :
    (s.entries.map Prod.fst).Pairwise fun p q => p.index < q.index := by
  rw [map_fst_entries]
  exact Property.pairwise_all.filter _

/-- A property is a cell that the entries of a list write to. -/
theorem cell_entry (p : Property) :
    Cell (fun (s : Style) (entry : Property × Value) => s.set entry.1 entry.2) (fun s => s.get? p)
      fun entry v => entry = (p, v) where
  given s entry v h := by
    rw [h]
    exact get?_set_self s p v
  kept s entry h := by
    refine get?_set_of_ne ?_ s entry.2
    intro hp
    exact h entry.2 (by rw [← hp])

/-! ### Writing over -/

theorem get?_overlay_eq_or (base top : Style) (p : Property) :
    (base.overlay top).get? p = (top.get? p).or (base.get? p) := by
  rw [get?_overlay, Option.orElse_eq_orElse, Option.orElse_eq_or]

theorem contains_overlay (base top : Style) (p : Property) :
    (base.overlay top).contains p = (top.contains p || base.contains p) := by
  rw [contains, contains, contains, get?_overlay_eq_or, Option.isSome_or]

@[simp]
theorem overlay_empty (base : Style) : base.overlay .empty = base := by
  ext p
  simp [get?_overlay]

@[simp]
theorem empty_overlay (top : Style) : Style.empty.overlay top = top := by
  ext1 p
  rw [get?_overlay_eq_or, get?_empty, Option.or_none]

@[simp]
theorem overlay_self (s : Style) : s.overlay s = s := by
  ext1 p
  rw [get?_overlay_eq_or, Option.or_self]

theorem overlay_assoc (s t u : Style) : (s.overlay t).overlay u = s.overlay (t.overlay u) := by
  ext1 p
  simp only [get?_overlay_eq_or, Option.or_assoc]

/-- Entries that are written to a style one by one write the style that they make over it. -/
theorem foldl_set (entries : List (Property × Value)) (s : Style) :
    entries.foldl (fun s entry => s.set entry.1 entry.2) s = s.overlay (ofEntries entries) := by
  ext1 p
  have hlast := (cell_entry p).lastGiven_foldl entries (get?_empty p)
  rw [(cell_entry p).read_foldl hlast s, get?_overlay_eq_or]
  rfl

theorem ofEntries_append (earlier later : List (Property × Value)) :
    ofEntries (earlier ++ later) = (ofEntries earlier).overlay (ofEntries later) := by
  rw [ofEntries, List.foldl_append]
  exact foldl_set later (ofEntries earlier)

/-- Entries of a style whose values are changed make the style with those values. -/
theorem get?_ofEntries_map (s : Style) (f : Property → Value → Value) (p : Property) :
    (ofEntries (s.entries.map fun entry => (entry.1, f entry.1 entry.2))).get? p =
      (s.get? p).map (f p) := by
  have hlast := (cell_entry p).lastGiven_foldl
    (s.entries.map fun entry => (entry.1, f entry.1 entry.2)) (get?_empty p)
  change LastGiven _ _ ((ofEntries _).get? p) at hlast
  cases hfound : (ofEntries (s.entries.map fun entry => (entry.1, f entry.1 entry.2))).get? p with
  | none =>
    cases hs : s.get? p with
    | none => rfl
    | some v =>
      rw [hfound] at hlast
      have hgiven : (none : Option Value).isSome := hlast.isSome_iff.mpr
        ⟨_, List.mem_map_of_mem (mem_entries.mpr hs), _, rfl⟩
      exact absurd hgiven (by simp)
  | some w =>
    rw [hfound] at hlast
    obtain ⟨entry, hentry, rfl⟩ := hlast.exists_mem
    obtain ⟨⟨q, v⟩, hs, heq⟩ := List.mem_map.mp hentry
    obtain ⟨rfl, rfl⟩ := Prod.mk.inj heq
    rw [mem_entries.mp hs, Option.map_some]

/-- A style is made of its own entries. -/
theorem ofEntries_entries (s : Style) : ofEntries s.entries = s := by
  ext1 p
  have hmap := get?_ofEntries_map s (fun _ v => v) p
  rwa [List.map_id', Option.map_id'] at hmap

theorem get?_ofEntries (entries : List (Property × Value)) (p : Property) :
    (ofEntries entries).get? p = entries.reverse.lookup p := by
  induction entries using List.reverseRecOn with
  | nil => exact get?_empty p
  | append_singleton entries entry ih =>
    obtain ⟨q, v⟩ := entry
    have hone : (ofEntries [(q, v)]).get? p = if q = p then some v else none := by
      change (empty.set q v).get? p = _
      rw [get?_set, get?_empty]
    rw [ofEntries_append, get?_overlay_eq_or, ih, hone, List.reverse_append, List.reverse_singleton,
      List.singleton_append, List.lookup_cons]
    by_cases h : q = p
    · subst h
      simp
    · have hne : (p == q) = false := beq_false_of_ne (Ne.symm h)
      simp [h, hne]

/-! ### Ways to make a style -/

/-- A way to make a style: from nothing or from collected entries, by setting a property, and by
writing a style over it that is made in any of these ways. A sequence of such steps is the way whose
bases lead back to nothing. -/
inductive Making where
  | nothing
  | collect (entries : List (Property × Value))
  | set (made : Making) (p : Property) (v : Value)
  | overlay (base top : Making)

namespace Making

/-- The style that is made. -/
def style : Making → Style
  | nothing => .empty
  | collect entries => ofEntries entries
  | set made p v => made.style.set p v
  | overlay base top => base.style.overlay top.style

/-- What is written, in order. -/
def writes : Making → List (Property × Value)
  | nothing => []
  | collect entries => entries
  | set made p v => made.writes ++ [(p, v)]
  | overlay base top => base.writes ++ top.writes

/-- The value that is written to a property last, if any is. -/
def lastWritten (m : Making) (p : Property) : Option Value := m.writes.reverse.lookup p

/-- What is written last to each property, in the order of the properties. -/
def listing (m : Making) : List (Property × Value) :=
  Property.all.filterMap fun p => (m.lastWritten p).map fun v => (p, v)

/-- A style is made by what is written, one write after another. -/
theorem style_eq_ofEntries (m : Making) : m.style = ofEntries m.writes := by
  induction m with
  | nothing => rfl
  | collect entries => rfl
  | set made p v ih =>
    rw [writes, ofEntries_append, ← ih]
    exact foldl_set [(p, v)] made.style
  | overlay base top ihbase ihtop => rw [writes, ofEntries_append, ← ihbase, ← ihtop, style]

theorem get?_style (m : Making) (p : Property) : m.style.get? p = m.lastWritten p := by
  rw [style_eq_ofEntries, get?_ofEntries, lastWritten]

theorem entries_style (m : Making) : m.style.entries = m.listing := by
  simp only [entries, get?_style, listing]

/-- Two ways to make a style make the same one exactly if they write the same last to every property. -/
theorem style_eq_iff {a b : Making} : a.style = b.style ↔ ∀ p, a.lastWritten p = b.lastWritten p := by
  constructor
  · intro h p
    rw [← get?_style, ← get?_style, h]
  · intro h
    ext1 p
    rw [get?_style, get?_style, h]

/-- The text of a style in a document, from its last writes. -/
theorem compact_style (m : Making) : m.style.toJson.compact =
    Json.objectText (m.listing.map fun entry =>
      (Json.quoted entry.1.name, entry.2.toJson.compact)) := by
  rw [toJson, Json.compact_object, List.map_map, entries_style]
  rfl

/-- A style holds what was written last to each of its properties, and nothing else of how it was
made: two styles are the same, and have one text in a document, if the last writes are the same. The
entries of a style, also in its text, are the last writes in the order of the properties, each property
at most once. Writing a style over another takes the values of the one where it has them and of the
other where not, as writing its entries one by one does; this is associative, and a style over itself,
over nothing or under nothing is that style. -/
theorem style_forgets_order (a b : Making) :
    (a.style = b.style ↔ ∀ p, a.lastWritten p = b.lastWritten p) ∧
      ((∀ p, a.lastWritten p = b.lastWritten p) →
        a.style.toJson.compact = b.style.toJson.compact) ∧
      a.style.entries = a.listing ∧
      (a.listing.map Prod.fst).Pairwise (fun p q => p.index < q.index) ∧
      a.style.toJson.compact = Json.objectText (a.listing.map fun entry =>
        (Json.quoted entry.1.name, entry.2.toJson.compact)) ∧
      ∀ s t u : Style,
        (∀ p, (s.overlay t).get? p = (t.get? p).or (s.get? p)) ∧
          t.entries.foldl (fun s entry => s.set entry.1 entry.2) s = s.overlay t ∧
          (s.overlay t).overlay u = s.overlay (t.overlay u) ∧
          s.overlay s = s ∧ Style.empty.overlay s = s ∧ s.overlay .empty = s := by
  refine ⟨style_eq_iff, ?_, entries_style a, ?_, compact_style a, ?_⟩
  · intro h
    rw [style_eq_iff.mpr h]
  · rw [← entries_style]
    exact pairwise_entries a.style
  · intro s t u
    refine ⟨get?_overlay_eq_or s t, ?_, overlay_assoc s t u, overlay_self s, empty_overlay s,
      overlay_empty s⟩
    rw [foldl_set, ofEntries_entries]

example : ((Making.collect [(.lineCap, .text "round"), (.lineWidth, .text "1")]).overlay
      (Making.nothing.set .lineWidth (.text "3"))).style.toJson.compact =
    "\x7b\"lineWidth\":\"3\",\"lineCap\":\"round\"\x7d" := by
  decide +kernel

end Making

end Style

end Portrayal
