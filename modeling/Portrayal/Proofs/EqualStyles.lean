import Mathlib
import Portrayal.Proofs.LastWrites

/-!
Texts of equal styles. Styles compare equal if the same properties have equal values, and as numbers
compare equal that are written differently, so do styles:

        compared            in a document
        0  and  0           0.0     0.0         the same style
        0  and  -0          0.0     -0.0        equal styles with two texts
        nan  and  nan       null    null        styles that do not compare equal

Nothing but opposed zeros can make the difference. And they always do: their texts diverge at the first
character, so wherever such a pair stands, what is written before it is the same on both sides and
nothing behind it can make up for it.

Main statement: two styles that compare equal have one text exactly if no zero in one of them stands
where the other one has the opposed zero, which is to say if they are the same style.

The library is imported as a whole because no smaller part of it says when two floats compare equal
(`Float.beq_iff_ne_nan_and_eq`).
-/

namespace Portrayal

/-! ### Texts that diverge -/

/-- Two texts that differ at a place that both of them have, so that they do whatever follows. -/
def Diverge (s t : String) : Prop := ∀ u v : String, s ++ u ≠ t ++ v

theorem Diverge.ne {s t : String} (h : Diverge s t) : s ≠ t := by
  rintro rfl
  exact h "" "" rfl

theorem Diverge.append {s t : String} (h : Diverge s t) (u v : String) : Diverge (s ++ u) (t ++ v) := by
  intro u' v'
  rw [String.append_assoc, String.append_assoc]
  exact h (u ++ u') (v ++ v')

theorem Diverge.behind {s t : String} (h : Diverge s t) (u : String) : Diverge (u ++ s) (u ++ t) := by
  intro u' v'
  rw [String.append_assoc, String.append_assoc, Ne, String.append_right_inj]
  exact h u' v'

/-- A way of writing tells two things apart: unless they are the same, their texts diverge. -/
def Tells {α : Type} (text : α → String) (a b : α) : Prop := a = b ∨ Diverge (text a) (text b)

namespace Tells

variable {α β : Type} {text : α → String} {a b : α}

theorem text_eq_iff (h : Tells text a b) : text a = text b ↔ a = b := by
  constructor
  · intro htext
    exact h.resolve_right fun hdiverge => hdiverge.ne htext
  · exact congrArg text

theorem behind (h : Tells text a b) (front : String) : Tells (fun c => front ++ text c) a b :=
  h.imp_right fun hdiverge => hdiverge.behind front

theorem append (h : Tells text a b) (back : String) : Tells (fun c => text c ++ back) a b :=
  h.imp_right fun hdiverge => hdiverge.append back back

/-- Other things are told apart if they are written as these are, and the same if these are. -/
theorem trans (h : Tells text a b) {a' b' : β} {text' : β → String} (hsame : a = b → a' = b')
    (ha : text' a' = text a) (hb : text' b' = text b) : Tells text' a' b' := by
  refine h.imp hsame fun hdiverge => ?_
  rw [ha, hb]
  exact hdiverge

end Tells

/-- A way of writing lists tells them apart if their items are told apart. -/
def TellsLists (list : List String → String) : Prop :=
  ∀ {α : Type} {text : α → String} {as bs : List α}, List.Forall₂ (Tells text) as bs →
    Tells (fun l => list (l.map text)) as bs

theorem tellsLists_separated (separator : String) : TellsLists (Json.separated separator)
  | _, _, _, _, .nil => .inl rfl
  | _, _, _, _, .cons (.inl rfl) .nil => .inl rfl
  | _, _, _, _, .cons (.inr hdiverge) .nil => .inr hdiverge
  | _, text, a :: _, b :: _, .cons h (.cons h' hrest) => by
    rcases h with rfl | hdiverge
    · rcases tellsLists_separated separator (.cons h' hrest) with hsame | hlater
      · rw [hsame]
        exact .inl rfl
      · exact .inr (hlater.behind (text a ++ separator))
    · exact .inr ((hdiverge.append separator separator).append _ _)

theorem tellsLists_block (level : Nat) : TellsLists (Json.block level) := by
  intro α text as bs h
  have hlines := (tellsLists_separated ("," ++ Json.newline (level + 1)) h).behind
    (Json.newline (level + 1))
  cases h with
  | nil => exact .inl rfl
  | cons => exact hlines.append (Json.newline level)

/-! ### Numbers -/

/-- One of the two zeros and the other one. -/
inductive OpposedZeros : Float → Float → Prop where
  | down : OpposedZeros 0 (-0)
  | up : OpposedZeros (-0) 0

theorem OpposedZeros.ne {x y : Float} (h : OpposedZeros x y) : x ≠ y := by
  cases h <;> decide

theorem eq_or_opposed_of_beq {x y : Float} (h : (x == y) = true) : x = y ∨ OpposedZeros x y := by
  obtain ⟨-, -, hsame | ⟨rfl, rfl⟩ | ⟨rfl, rfl⟩⟩ := Float.beq_iff_ne_nan_and_eq.mp h
  · exact .inl hsame
  · exact .inr .down
  · exact .inr .up

theorem diverge_zeros : Diverge "0.0" "-0.0" := by
  intro u v h
  have hchars := congrArg String.toList h
  rw [String.toList_append, String.toList_append] at hchars
  exact absurd (List.cons.inj hchars).1 (by decide)

theorem OpposedZeros.diverge {x y : Float} (h : OpposedZeros x y) :
    Diverge (Json.floatLayout.text x) (Json.floatLayout.text y) := by
  cases h with
  | down => exact diverge_zeros
  | up => exact fun u v h => diverge_zeros v u h.symm

theorem tells_number {x y : Float} (h : (x == y) = true) : Tells Json.floatLayout.text x y :=
  (eq_or_opposed_of_beq h).imp_right OpposedZeros.diverge

theorem forall₂_beq : ∀ {xs ys : List Float}, (xs == ys) = true →
    List.Forall₂ (fun x y => (x == y) = true) xs ys
  | [], [], _ => .nil
  | [], _ :: _, h => nomatch h
  | _ :: _, [], h => nomatch h
  | x :: xs, y :: ys, h => by
    have hparts : (x == y && xs == ys) = true := h
    rw [Bool.and_eq_true] at hparts
    exact .cons hparts.1 (forall₂_beq hparts.2)

/-- One of two lists that compare equal is the other, or somewhere in them are opposed zeros. -/
theorem eq_or_mem_zip_opposed : ∀ {xs ys : List Float},
    List.Forall₂ (fun x y => (x == y) = true) xs ys →
      xs = ys ∨ ∃ x y, (x, y) ∈ xs.zip ys ∧ OpposedZeros x y
  | _, _, .nil => .inl rfl
  | x :: xs, y :: ys, .cons h hrest => by
    rcases eq_or_opposed_of_beq h with rfl | hopposed
    · rcases eq_or_mem_zip_opposed hrest with rfl | ⟨x', y', hmem, hopposed⟩
      · exact .inl rfl
      · exact .inr ⟨x', y', List.mem_cons_of_mem _ hmem, hopposed⟩
    · exact .inr ⟨x, y, List.mem_cons_self, hopposed⟩

theorem eq_of_mem_zip_self {xs : List Float} {x y : Float} (h : (x, y) ∈ xs.zip xs) : x = y := by
  rw [List.zip_eq_zipWith, List.zipWith_self, List.mem_map] at h
  obtain ⟨z, -, hz⟩ := h
  obtain ⟨rfl, rfl⟩ := Prod.mk.inj hz
  rfl

theorem compactItems_floats : ∀ parts : List Float,
    Json.compactItems (parts.map .float) = parts.map Json.floatLayout.text
  | [] => rfl
  | _ :: parts => congrArg (_ :: ·) (compactItems_floats parts)

theorem prettyItems_floats (level : Nat) : ∀ parts : List Float,
    Json.prettyItems level (parts.map .float) = parts.map Json.floatLayout.text
  | [] => rfl
  | _ :: parts => congrArg (_ :: ·) (prettyItems_floats level parts)

/-! ### Values -/

namespace Value

/-- Values that compare equal. -/
inductive Equal : Value → Value → Prop where
  | same (v : Value) : Equal v v
  | number {x y : Float} (h : (x == y) = true) : Equal (.number x) (.number y)
  | dash {xs ys : List Float} (h : List.Forall₂ (fun x y => (x == y) = true) xs ys) :
      Equal (.dash xs) (.dash ys)

theorem equal_of_beq {v w : Value} (h : (v == w) = true) : v.Equal w := by
  cases v <;> cases w
  case number.number => exact .number h
  case dash.dash xs ys => exact .dash (forall₂_beq h)
  case text.text s t =>
    obtain rfl : s = t := beq_iff_eq.mp h
    exact .same _
  case color.color c d =>
    obtain rfl : c = d := beq_iff_eq.mp h
    exact .same _
  case pattern.pattern p q =>
    obtain rfl : p = q := beq_iff_eq.mp h
    exact .same _
  all_goals exact nomatch h

/-- The numbers in a value. -/
def numbers : Value → List Float
  | number x => [x]
  | dash parts => parts
  | _ => []

/-- Values that compare equal are the same, or opposed zeros stand in one place of them. -/
theorem Equal.eq_or_opposed {v w : Value} (h : v.Equal w) :
    v = w ∨ ∃ x y, (x, y) ∈ v.numbers.zip w.numbers ∧ OpposedZeros x y := by
  cases h with
  | same => exact .inl rfl
  | number h =>
    refine (eq_or_mem_zip_opposed (.cons h .nil)).imp_left fun hsame => ?_
    rw [(List.cons.inj hsame).1]
  | dash h => exact (eq_or_mem_zip_opposed h).imp_left (congrArg Value.dash)

/-- A layout that writes dash patterns as lists of numbers tells values apart that compare equal. -/
theorem Equal.tells {v w : Value} (h : v.Equal w) {text : Value → String}
    {list : List String → String} (hlist : TellsLists list)
    (hnumber : ∀ x, text (.number x) = Json.floatLayout.text x)
    (hdash : ∀ parts, text (.dash parts) = "[" ++ list (parts.map Json.floatLayout.text) ++ "]") :
    Tells text v w := by
  cases h with
  | same => exact .inl rfl
  | number h => exact (tells_number h).trans (congrArg Value.number) (hnumber _) (hnumber _)
  | dash h =>
    have hparts := hlist (h.imp fun _ _ => tells_number)
    exact ((hparts.behind "[").append "]").trans (congrArg Value.dash) (hdash _) (hdash _)

theorem Equal.tells_compact {v w : Value} (h : v.Equal w) :
    Tells (fun v => v.toJson.compact) v w := by
  refine h.tells (tellsLists_separated ",") (fun _ => rfl) fun parts => ?_
  rw [toJson, Json.compact, compactItems_floats]

theorem Equal.tells_pretty {v w : Value} (h : v.Equal w) (level : Nat) :
    Tells (fun v => v.toJson.prettyAt level) v w := by
  refine h.tells (tellsLists_block level) (fun _ => rfl) fun parts => ?_
  rw [toJson, Json.prettyAt, prettyItems_floats]

end Value

/-! ### Styles -/

namespace Style

variable {s t : Style}

theorem equal_get? (h : (s == t) = true) (p : Property) :
    Option.Rel Value.Equal (s.get? p) (t.get? p) := by
  have hslots : s.slots.isEqv t.slots (· == ·) = true := h
  have hvalues : (s.get? p == t.get? p) = true :=
    Vector.isEqv_iff_rel.mp hslots p.index p.index.isLt
  cases hs : s.get? p <;> cases ht : t.get? p <;> rw [hs, ht] at hvalues
  · exact .none
  · exact nomatch hvalues
  · exact nomatch hvalues
  · exact .some (Value.equal_of_beq hvalues)

/-- The entries of styles that compare equal are told apart if their values are. -/
theorem forall₂_entries (h : (s == t) = true) {value : Value → String}
    (hvalue : ∀ {v w : Value}, v.Equal w → Tells value v w) (colon : String) :
    List.Forall₂ (Tells fun entry => Json.quoted entry.1.name ++ colon ++ value entry.2)
      s.entries t.entries := by
  refine List.rel_filterMap (R := Eq) ?_ (List.forall₂_same.mpr fun _ _ => rfl)
  rintro p _ rfl
  have hvalues := equal_get? h p
  dsimp only
  generalize s.get? p = v at hvalues ⊢
  generalize t.get? p = w at hvalues ⊢
  cases hvalues with
  | none => exact .none
  | some hequal =>
    have hentry := (hvalue hequal).behind (Json.quoted p.name ++ colon)
    exact .some (hentry.trans (congrArg (Prod.mk p)) rfl rfl)

theorem eq_of_entries (h : s.entries = t.entries) : s = t := by
  rw [← ofEntries_entries s, h, ofEntries_entries]

/-- A layout that writes styles as lists of entries tells styles apart that compare equal. -/
theorem tells (h : (s == t) = true) {text : Style → String} {list : List String → String}
    (hlist : TellsLists list) (colon : String) {value : Value → String}
    (hvalue : ∀ {v w : Value}, v.Equal w → Tells value v w)
    (htext : ∀ s, text s = "\x7b" ++ list (s.entries.map fun entry =>
      Json.quoted entry.1.name ++ colon ++ value entry.2) ++ "\x7d") : Tells text s t := by
  have hentries := hlist (forall₂_entries h hvalue colon)
  exact ((hentries.behind "\x7b").append "\x7d").trans eq_of_entries (htext s) (htext t)

theorem tells_compact (h : (s == t) = true) : Tells (fun s => s.toJson.compact) s t := by
  refine tells h (tellsLists_separated ",") ":" Value.Equal.tells_compact fun s => ?_
  rw [toJson, Json.compact_object, Json.objectText, List.map_map, List.map_map]
  rfl

theorem prettyMembers_eq (level : Nat) : ∀ members : List (String × Json),
    Json.prettyMembers level members =
      members.map fun m => Json.quoted m.1 ++ ": " ++ m.2.prettyAt level
  | [] => rfl
  | (_, _) :: members => congrArg (_ :: ·) (prettyMembers_eq level members)

theorem tells_pretty (h : (s == t) = true) (level : Nat) :
    Tells (fun s => s.toJson.prettyAt level) s t := by
  refine tells h (tellsLists_block level) ": " (fun hequal => hequal.tells_pretty (level + 1))
    fun s => ?_
  rw [toJson, Json.prettyAt, prettyMembers_eq, List.map_map]
  rfl

/-- A zero in one style stands where the other one has the opposed zero. -/
def Opposed (s t : Style) : Prop :=
  ∃ p v w x y, s.get? p = some v ∧ t.get? p = some w ∧ (x, y) ∈ v.numbers.zip w.numbers ∧
    OpposedZeros x y

theorem not_opposed_iff (h : (s == t) = true) : ¬ s.Opposed t ↔ s = t := by
  constructor
  · intro hnone
    ext1 p
    have hvalues := equal_get? h p
    generalize hs : s.get? p = a at hvalues ⊢
    generalize ht : t.get? p = b at hvalues ⊢
    cases hvalues with
    | none => rfl
    | @some v w hequal =>
      rcases hequal.eq_or_opposed with hsame | ⟨x, y, hmem, hopposed⟩
      · rw [hsame]
      · exact absurd ⟨p, v, w, x, y, hs, ht, hmem, hopposed⟩ hnone
  · rintro rfl ⟨p, v, w, x, y, hs, ht, hmem, hopposed⟩
    obtain rfl : v = w := Option.some.inj (hs.symm.trans ht)
    exact hopposed.ne (eq_of_mem_zip_self hmem)

/-- Two styles that compare equal have the same text in a document, in one line or in several, exactly
if no zero in one of them stands where the other one has the opposed zero; and then they are the same
style. -/
theorem same_text_iff (h : (s == t) = true) :
    (s.toJson.compact = t.toJson.compact ↔ ¬ s.Opposed t) ∧
      (∀ level, s.toJson.prettyAt level = t.toJson.prettyAt level ↔ ¬ s.Opposed t) ∧
      (¬ s.Opposed t ↔ s = t) := by
  have hsame := not_opposed_iff h
  refine ⟨?_, fun level => ?_, hsame⟩
  · exact (tells_compact h).text_eq_iff.trans hsame.symm
  · exact (tells_pretty h level).text_eq_iff.trans hsame.symm

/-- Two dash patterns that end in opposed zeros: the styles are equal and their texts are not. -/
theorem same_text_iff_dashed :
    let s := (empty.set .lineWidth (.number 2)).set .lineDasharray (.dash [4, 0])
    let t := (empty.set .lineWidth (.number 2)).set .lineDasharray (.dash [4, -0])
    (s == t) = true ∧ s.Opposed t ∧ s.toJson.compact ≠ t.toJson.compact ∧
      (∀ level, s.toJson.prettyAt level ≠ t.toJson.prettyAt level) ∧ s ≠ t := by
  intro s t
  have hequal : (s == t) = true := rfl
  have hopposed : s.Opposed t :=
    ⟨.lineDasharray, _, _, 0, -0, rfl, rfl, .tail _ (.head _), .down⟩
  obtain ⟨hcompact, hpretty, hsame⟩ := same_text_iff hequal
  exact ⟨hequal, hopposed, fun h => hcompact.mp h hopposed,
    fun level h => (hpretty level).mp h hopposed, fun h => hsame.mpr h hopposed⟩

example : ((empty.set .lineWidth (.number 0)).toJson.compact,
    (empty.set .lineWidth (.number (-0))).toJson.compact) =
      ("\x7b\"lineWidth\":0.0\x7d", "\x7b\"lineWidth\":-0.0\x7d") := by decide

end Style

end Portrayal
