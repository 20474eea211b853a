import Mathlib.Data.List.Infix
import Portrayal.ServicePortrayal

/-!
How a label is aligned. An alignment is a vertical and a horizontal word in either order, of which
either may be missing, with blanks anywhere around them. Each of the two axes is what is left when
the first word of the other axis is taken out:

    align               without its vertical word    without its horizontal word
    "TOPLEFT"           "LEFT"                       "TOP"
    " RIGHT  MIDDLE"    " RIGHT  "                   " MIDDLE"
    "BASELINE"          ""                           "BASELINE"

That is right because no word of an axis begins inside a word of the other: not within it, not across
a blank, since words have none, and not across the joint with the word behind it. The last is a fact
about the seven words: "LEFT" ends with the first letter of "TOP", but no word begins with the second.

Main statement: what a label style sets, and the alignment that it is given.
-/

namespace Portrayal

namespace Text

/-! ### Trimming -/

/-- A text of nothing but blanks. -/
def Blank (cs : List Char) : Prop := ∀ c ∈ cs, isBlank c = true

/-- A text with no blanks in it. -/
def Solid (cs : List Char) : Prop := ∀ c ∈ cs, isBlank c = false

instance (cs : List Char) : Decidable (Blank cs) := List.decidableBAll _ cs

instance (cs : List Char) : Decidable (Solid cs) := List.decidableBAll _ cs

section Trimming

variable {cs word before after : List Char}

theorem Blank.append (hbefore : Blank before) (hafter : Blank after) : Blank (before ++ after) := by
  intro c hc
  exact (List.mem_append.mp hc).elim (hbefore c) (hafter c)

theorem Solid.dropWhile_eq (h : Solid cs) : cs.dropWhile isBlank = cs := by
  cases cs with
  | nil => rfl
  | cons c cs => exact List.dropWhile_cons_of_neg (by simp [h c List.mem_cons_self])

/-- Trimming takes the blanks off a word. -/
theorem Solid.trimChars_eq (hword : Solid word) (hbefore : Blank before) (hafter : Blank after) :
    trimChars (before ++ word ++ after) = word := by
  have hreverse : Solid word.reverse := by
    intro c hc
    exact hword c (List.mem_reverse.mp hc)
  rw [trimChars, List.append_assoc, List.dropWhile_append_of_pos hbefore]
  cases word with
  | nil =>
    rw [List.nil_append, ← List.append_nil after, List.dropWhile_append_of_pos hafter]
    rfl
  | cons c word =>
    have hc : ¬ isBlank c = true := by simp [hword c List.mem_cons_self]
    rw [List.cons_append, List.dropWhile_cons_of_neg hc, ← List.cons_append, List.reverse_append,
      List.dropWhile_append_of_pos fun c hc => hafter c (List.mem_reverse.mp hc),
      hreverse.dropWhile_eq, List.reverse_reverse]

end Trimming

/-! ### Where a token starts -/

/-- A token does not start inside a text that has another text behind it. -/
def Clear (token u v : List Char) : Prop := ∀ s, s ≠ [] → s <:+ u → ¬ token <+: s ++ v

section Tokens

variable {token u v w : List Char}

theorem clear_nil : Clear token [] v := fun _ hs hsuffix => absurd (List.suffix_nil.mp hsuffix) hs

theorem clear_cons_iff {c : Char} :
    Clear token (c :: u) v ↔ ¬ token <+: c :: (u ++ v) ∧ Clear token u v := by
  constructor
  · intro h
    exact ⟨h (c :: u) (List.cons_ne_nil c u) List.suffix_rfl,
      fun s hs hsuffix => h s hs (hsuffix.trans (List.suffix_cons c u))⟩
  · rintro ⟨hhere, hlater⟩ s hs hsuffix
    rcases List.suffix_cons_iff.mp hsuffix with rfl | hsuffix
    · exact hhere
    · exact hlater s hs hsuffix

theorem Clear.append (hu : Clear token u (w ++ v)) (hw : Clear token w v) :
    Clear token (u ++ w) v := by
  induction u with
  | nil => exact hw
  | cons c u ih =>
    obtain ⟨hhere, hlater⟩ := clear_cons_iff.mp hu
    rw [List.cons_append, clear_cons_iff]
    refine ⟨?_, ih hlater⟩
    rwa [List.append_assoc]

/-- What is clear of a token stands before the place where the token is found. -/
theorem Clear.splitAtFirst?_append (h : Clear token u v) :
    splitAtFirst? token (u ++ v) = (splitAtFirst? token v).map fun p => (u ++ p.1, p.2) := by
  induction u with
  | nil => cases h : splitAtFirst? token v <;> simp [h]
  | cons c u ih =>
    obtain ⟨hhere, hlater⟩ := clear_cons_iff.mp h
    have hstarts : token.isPrefixOf (c :: (u ++ v)) = false :=
      Bool.eq_false_iff.mpr fun hstarts => hhere (List.isPrefixOf_iff_prefix.mp hstarts)
    rw [List.cons_append, splitAtFirst?, hstarts, if_neg Bool.false_ne_true, ih hlater,
      Option.map_map]
    rfl

theorem splitAtFirst?_of_clear (htoken : token ≠ []) (h : Clear token u []) :
    splitAtFirst? token u = none := by
  have hnothing : splitAtFirst? token [] = none := by
    rw [splitAtFirst?, if_neg (by simpa using htoken)]
  rw [← List.append_nil u, h.splitAtFirst?_append, hnothing, Option.map_none]

theorem splitAtFirst?_token_append (htoken : token ≠ []) (v : List Char) :
    splitAtFirst? token (token ++ v) = some ([], v) := by
  obtain ⟨c, rest, rfl⟩ := List.exists_cons_of_ne_nil htoken
  have hstarts : (c :: rest).isPrefixOf (c :: (rest ++ v)) = true :=
    List.isPrefixOf_iff_prefix.mpr (List.prefix_append (c :: rest) v)
  rw [List.cons_append, splitAtFirst?, if_pos hstarts, ← List.cons_append, List.drop_left]

/-- A token that is found at the very start is what the text starts with. -/
theorem prefix_of_splitAtFirst? {v r : List Char} (h : splitAtFirst? token v = some ([], r)) :
    token <+: v := by
  cases v with
  | nil =>
    rw [splitAtFirst?] at h
    split at h
    · rename_i hempty
      rw [List.isEmpty_iff.mp hempty]
    · exact nomatch h
  | cons c v =>
    rw [splitAtFirst?] at h
    split at h
    · rename_i hstarts
      exact List.isPrefixOf_iff_prefix.mp hstarts
    · obtain ⟨p, -, hp⟩ := Option.map_eq_some_iff.mp h
      exact nomatch congrArg Prod.fst hp

/-- A token that does not start in the first part of a text, nor right behind it, is found later. -/
theorem Clear.length_lt {p : List Char × List Char} (h : Clear token u v) (hv : ¬ token <+: v)
    (hp : splitAtFirst? token (u ++ v) = some p) : u.length < p.1.length := by
  rw [h.splitAtFirst?_append] at hp
  obtain ⟨⟨before, after⟩, hsplit, rfl⟩ := Option.map_eq_some_iff.mp hp
  have hbefore : before ≠ [] := by
    rintro rfl
    exact hv (prefix_of_splitAtFirst? hsplit)
  have hlength := List.length_pos_of_ne_nil hbefore
  show u.length < (u ++ before).length
  rw [List.length_append]
  omega

end Tokens

/-! ### The leftmost token -/

section Leftmost

variable {best : List Char × List Char} {found hit : Option (List Char × List Char)}

/-- A split that is no better than another one: the same, or one that is found later. -/
def NoBetter (best : List Char × List Char) (hit : Option (List Char × List Char)) : Prop :=
  ∀ p, hit = some p → p = best ∨ best.1.length < p.1.length

theorem earlier_left (h : NoBetter best hit) : earlier (some best) hit = some best := by
  cases hit with
  | none => rfl
  | some p =>
    rcases h p rfl with rfl | hlater
    · exact if_neg (Nat.lt_irrefl _)
    · exact if_neg (Nat.lt_asymm hlater)

theorem earlier_right (h : NoBetter best found) : earlier found (some best) = some best := by
  cases found with
  | none => rfl
  | some p =>
    rcases h p rfl with rfl | hlater
    · exact if_neg (Nat.lt_irrefl _)
    · exact if_pos hlater

theorem NoBetter.earlier (hfound : NoBetter best found) (hhit : NoBetter best hit) :
    NoBetter best (earlier found hit) := by
  intro p hp
  cases found with
  | none => exact hhit p hp
  | some q =>
    cases hit with
    | none => exact hfound p hp
    | some r =>
      rw [Text.earlier] at hp
      split at hp
      · exact hhit p hp
      · exact hfound p hp

/-- The best of all hits is taken, wherever it stands among them. It is what is found already, or it
is still to come. -/
theorem foldl_earlier : ∀ {hits : List (Option (List Char × List Char))}
    {found : Option (List Char × List Char)}, found = some best ∨ some best ∈ hits →
    NoBetter best found → (∀ hit ∈ hits, NoBetter best hit) →
    hits.foldl earlier found = some best
  | [], found, hbest, _, _ => hbest.resolve_right List.not_mem_nil
  | hit :: hits, found, hbest, hfound, hhits => by
    have hhit := hhits hit List.mem_cons_self
    rw [List.foldl_cons]
    refine foldl_earlier ?_ (hfound.earlier hhit) fun h hh => hhits h (List.mem_cons_of_mem hit hh)
    rcases hbest with rfl | hbest
    · exact .inl (earlier_left hhit)
    · rcases List.mem_cons.mp hbest with rfl | hbest
      · exact .inl (earlier_right hfound)
      · exact .inr hbest

theorem foldl_earlier_none : ∀ {hits : List (Option (List Char × List Char))},
    (∀ hit ∈ hits, hit = none) → hits.foldl earlier none = none
  | [], _ => rfl
  | hit :: hits, h => by
    rw [List.foldl_cons, h hit List.mem_cons_self]
    exact foldl_earlier_none fun later hlater => h later (List.mem_cons_of_mem hit hlater)

end Leftmost

section Removal

variable {tokens : List String} {token s : String} {u v : List Char}

/-- The token that is taken out: none starts before it, and no other one starts with it. -/
theorem removeFirst_of_first (hs : s.toList = u ++ (token.toList ++ v)) (hmem : token ∈ tokens)
    (htoken : token.toList ≠ [])
    (hclear : ∀ t ∈ tokens, Clear t.toList u (token.toList ++ v))
    (honly : ∀ t ∈ tokens, t.toList <+: token.toList ++ v → t = token) :
    removeFirst tokens s = String.ofList (u ++ v) := by
  have hfound : splitAtFirst? token.toList s.toList = some (u, v) := by
    rw [hs, (hclear token hmem).splitAtFirst?_append, splitAtFirst?_token_append htoken,
      Option.map_some, List.append_nil]
  have hbest : (tokens.map fun t => splitAtFirst? t.toList s.toList).foldl earlier none =
      some (u, v) := by
    refine foldl_earlier (.inr ?_) nofun ?_
    · exact List.mem_map.mpr ⟨token, hmem, hfound⟩
    · intro hit hhit p hp
      obtain ⟨t, ht, rfl⟩ := List.mem_map.mp hhit
      by_cases hstarts : t.toList <+: token.toList ++ v
      · rw [honly t ht hstarts, hfound] at hp
        exact .inl (Option.some.inj hp).symm
      · rw [hs] at hp
        exact .inr ((hclear t ht).length_lt hstarts hp)
  rw [removeFirst, hbest]

theorem removeFirst_of_clear (htokens : ∀ t ∈ tokens, t.toList ≠ [])
    (hclear : ∀ t ∈ tokens, Clear t.toList s.toList []) : removeFirst tokens s = s := by
  have hnone : (tokens.map fun t => splitAtFirst? t.toList s.toList).foldl earlier none = none := by
    refine foldl_earlier_none fun hit hhit => ?_
    obtain ⟨t, ht, rfl⟩ := List.mem_map.mp hhit
    exact splitAtFirst?_of_clear (htokens t ht) (hclear t ht)
  rw [removeFirst, hnone]

end Removal

/-! ### Two families of words -/

/-- What is empty, or starts with a blank or with a token. -/
def Opens (tokens : List String) (v : List Char) : Prop :=
  ∀ c, v.head? = some c → isBlank c = true ∨ ∃ t ∈ tokens, t.toList.head? = some c

/-- Tokens that cannot be mistaken among words of another kind: all are without blanks, no token starts
with another one, and none starts inside a word, neither within it nor with a token behind it. -/
structure Apart (tokens words : List String) : Prop where
  token_ne : ∀ t ∈ tokens, t.toList ≠ []
  token_solid : ∀ t ∈ tokens, Solid t.toList
  word_solid : ∀ w ∈ words, Solid w.toList
  alone : ∀ t ∈ tokens, ∀ t' ∈ tokens, t.toList <+: t'.toList → t = t'
  within : ∀ w ∈ words, ∀ s ∈ w.toList.tails, s ≠ [] → ∀ t ∈ tokens, ¬ t.toList <+: s
  across : ∀ w ∈ words, ∀ s ∈ w.toList.tails, s ≠ [] → ∀ t ∈ tokens, ∀ t' ∈ tokens,
    ¬ s ++ t'.toList.take 1 <+: t.toList

/-- A text that is made of at most one token and at most one word, in either order, with any blanks
before, between and behind them. -/
inductive Arranged (token word : Option String) (cs : List Char) : Prop where
  | tokenFirst (before between after : List Char) (hbefore : Blank before)
      (hbetween : Blank between) (hafter : Blank after)
      (h : cs = before ++ (token.getD "").toList ++ between ++ (word.getD "").toList ++ after)
  | wordFirst (before between after : List Char) (hbefore : Blank before)
      (hbetween : Blank between) (hafter : Blank after)
      (h : cs = before ++ (word.getD "").toList ++ between ++ (token.getD "").toList ++ after)

theorem Arranged.swap {token word : Option String} {cs : List Char} (h : Arranged token word cs) :
    Arranged word token cs := by
  cases h with
  | tokenFirst before between after hbefore hbetween hafter h =>
    exact .wordFirst before between after hbefore hbetween hafter h
  | wordFirst before between after hbefore hbetween hafter h =>
    exact .tokenFirst before between after hbefore hbetween hafter h

/-- Without a token there is only the word, with blanks around it. -/
theorem Arranged.word_alone {word : Option String} {cs : List Char} (h : Arranged none word cs) :
    ∃ before after, Blank before ∧ Blank after ∧
      cs = before ++ (word.getD "").toList ++ after := by
  cases h with
  | tokenFirst before between after hbefore hbetween hafter h =>
    exact ⟨before ++ between, after, hbefore.append hbetween, hafter, by simpa using h⟩
  | wordFirst before between after hbefore hbetween hafter h =>
    exact ⟨before, between ++ after, hbefore, hbetween.append hafter, by simpa using h⟩

section Words

variable {tokens words : List String} {t w : String} {token word : Option String}
  {u v gap gap' : List Char}

theorem opens_nil : Opens tokens [] := nofun

theorem opens_token (ht : t ∈ tokens) (hne : t.toList ≠ []) : Opens tokens (t.toList ++ v) := by
  intro c hc
  refine .inr ⟨t, ht, ?_⟩
  rwa [List.head?_append_of_ne_nil _ hne] at hc

theorem Opens.blanks (hgap : Blank gap) (hv : Opens tokens v) : Opens tokens (gap ++ v) := by
  cases gap with
  | nil => exact hv
  | cons d gap =>
    rintro c hc
    obtain rfl : d = c := Option.some.inj hc
    exact .inl (hgap d List.mem_cons_self)

/-- Blanks are clear of every token, whatever stands behind them. -/
theorem clear_blanks (hne : t.toList ≠ []) (hsolid : Solid t.toList) (hgap : Blank gap)
    (v : List Char) : Clear t.toList gap v := by
  intro s hs hsuffix hstarts
  obtain ⟨c, rest, hc⟩ := List.exists_cons_of_ne_nil hne
  obtain ⟨d, s, rfl⟩ := List.exists_cons_of_ne_nil hs
  rw [hc, List.cons_append, List.cons_prefix_cons] at hstarts
  have hblank := hgap d (hsuffix.subset List.mem_cons_self)
  have hplain := hsolid c (hc ▸ List.mem_cons_self)
  rw [hstarts.1, hblank] at hplain
  exact nomatch hplain

/-- A word is clear of every token if a blank or a token stands behind it, or nothing at all. -/
theorem Apart.clear_word (h : Apart tokens words) (hw : w ∈ words) (ht : t ∈ tokens)
    (hv : Opens tokens v) : Clear t.toList w.toList v := by
  intro s hs hsuffix hstarts
  have htail : s ∈ w.toList.tails := (List.mem_tails s w.toList).mpr hsuffix
  -- a token that starts at `s` ends within the word, or it reaches into what stands behind it
  rcases List.prefix_or_prefix_of_prefix hstarts (List.prefix_append s v) with hin | hout
  · exact h.within w hw s htail hs t ht hin
  · obtain ⟨rest, hrest⟩ := hout
    rw [← hrest, List.prefix_append_right_inj] at hstarts
    cases rest with
    | nil =>
      refine h.within w hw s htail hs t ht ?_
      rw [← hrest, List.append_nil]
    | cons c rest =>
      obtain ⟨tail, rfl⟩ := hstarts
      rcases hv c rfl with hblank | ⟨t', ht', hhead⟩
      · have hplain := h.token_solid t ht c (hrest ▸ List.mem_append_right s List.mem_cons_self)
        rw [hblank] at hplain
        exact nomatch hplain
      · refine h.across w hw s htail hs t ht t' ht' ?_
        rw [← hrest, List.prefix_append_right_inj, List.take_one, hhead]
        exact List.prefix_append [c] rest

/-- A word with blanks around it, if there is one, is clear of every token. -/
theorem Apart.clear_around (h : Apart tokens words) (hword : ∀ w ∈ word, w ∈ words)
    (ht : t ∈ tokens) (hgap : Blank gap) (hgap' : Blank gap') (hv : Opens tokens v) :
    Clear t.toList (gap ++ (word.getD "").toList ++ gap') v := by
  have hne := h.token_ne t ht
  have hsolid := h.token_solid t ht
  have hmiddle : Clear t.toList (word.getD "").toList (gap' ++ v) := by
    cases word with
    | none => exact clear_nil
    | some w => exact h.clear_word (hword w rfl) ht (hv.blanks hgap')
  have hfront : Clear t.toList (gap ++ (word.getD "").toList) (gap' ++ v) :=
    (clear_blanks hne hsolid hgap _).append hmiddle
  exact hfront.append (clear_blanks hne hsolid hgap' v)

theorem Apart.trim_word (h : Apart tokens words) (hword : ∀ w ∈ word, w ∈ words)
    (hgap : Blank gap) (hgap' : Blank gap') {s : String}
    (hs : s.toList = gap ++ (word.getD "").toList ++ gap') : trim s = word.getD "" := by
  have hsolid : Solid (word.getD "").toList := by
    cases word with
    | none => exact nofun
    | some w => exact h.word_solid w (hword w rfl)
  rw [trim, hs, hsolid.trimChars_eq hgap hgap', String.ofList_toList]

/-- The token that a text is made of is found, and not the beginning of another one. -/
theorem Apart.removeFirst_token (h : Apart tokens words) (ht : t ∈ tokens)
    (hclear : ∀ t' ∈ tokens, Clear t'.toList u (t.toList ++ v)) {s : String}
    (hs : s.toList = u ++ (t.toList ++ v)) : removeFirst tokens s = String.ofList (u ++ v) := by
  refine removeFirst_of_first hs ht (h.token_ne t ht) hclear fun t' ht' hstarts => ?_
  -- of two tokens that start at one place, the shorter one is the beginning of the other
  rcases List.prefix_or_prefix_of_prefix hstarts (List.prefix_append t.toList v) with hle | hle
  · exact h.alone t' ht' t ht hle
  · exact (h.alone t ht t' ht' hle).symm

/-- Taking out the token leaves the word with blanks around it. -/
theorem Apart.trim_removeFirst (h : Apart tokens words) (htoken : ∀ t ∈ token, t ∈ tokens)
    (hword : ∀ w ∈ word, w ∈ words) {s : String} (hs : Arranged token word s.toList) :
    trim (removeFirst tokens s) = word.getD "" := by
  cases token with
  | none =>
    obtain ⟨gap, gap', hgap, hgap', hs⟩ := hs.word_alone
    have hkept : removeFirst tokens s = s := by
      refine removeFirst_of_clear h.token_ne fun t ht => ?_
      rw [hs]
      exact h.clear_around hword ht hgap hgap' opens_nil
    rw [hkept]
    exact h.trim_word hword hgap hgap' hs
  | some t =>
    have ht : t ∈ tokens := htoken t rfl
    cases hs with
    | tokenFirst before between after hbefore hbetween hafter hs =>
      have hleft : removeFirst tokens s =
          String.ofList (before ++ (between ++ (word.getD "").toList ++ after)) := by
        refine h.removeFirst_token ht (fun t' ht' => ?_) (by simpa using hs)
        exact clear_blanks (h.token_ne t' ht') (h.token_solid t' ht') hbefore _
      refine h.trim_word hword (hbefore.append hbetween) hafter ?_
      rw [hleft, String.toList_ofList, List.append_assoc, List.append_assoc, List.append_assoc]
    | wordFirst before between after hbefore hbetween hafter hs =>
      have hleft : removeFirst tokens s =
          String.ofList (before ++ (word.getD "").toList ++ between ++ after) := by
        refine h.removeFirst_token ht (fun t' ht' => ?_) (by simpa using hs)
        exact h.clear_around hword ht' hbefore hbetween (opens_token ht (h.token_ne t ht))
      refine h.trim_word hword hbefore (hbetween.append hafter) ?_
      rw [hleft, String.toList_ofList, List.append_assoc]

end Words

end Text

/-! ### The words of an alignment -/

/-- Where a text stands on its line. -/
inductive Vertical where
  | top
  | middle
  | baseline
  | bottom
  deriving DecidableEq, Repr

/-- Where a text stands beside its point. -/
inductive Horizontal where
  | left
  | right
  | center
  deriving DecidableEq, Repr

namespace Vertical

/-- The word for a place in an alignment. -/
def word : Vertical → String
  | top => "TOP"
  | middle => "MIDDLE"
  | baseline => "BASELINE"
  | bottom => "BOTTOM"

/-- The word for a place on the canvas. -/
def keyword : Vertical → String
  | top => "top"
  | middle => "middle"
  | baseline => "alphabetic"
  | bottom => "bottom"

end Vertical

namespace Horizontal

/-- The word for a place in an alignment. -/
def word : Horizontal → String
  | left => "LEFT"
  | right => "RIGHT"
  | center => "CENTER"

/-- The word for a place on the canvas. -/
def keyword : Horizontal → String
  | left => "left"
  | right => "right"
  | center => "center"

end Horizontal

namespace LabelStyle

theorem apart_vertical : Text.Apart verticalKeywords horizontalKeywords where
  token_ne := by decide
  token_solid := by decide
  word_solid := by decide
  alone := by decide
  within := by decide
  across := by decide

theorem apart_horizontal : Text.Apart horizontalKeywords verticalKeywords where
  token_ne := by decide
  token_solid := by decide
  word_solid := by decide
  alone := by decide
  within := by decide
  across := by decide

/-- A label style whose alignment names a place on the line, or none, and one beside the point, or
none. -/
def Aligned (s : LabelStyle) (v : Option Vertical) (h : Option Horizontal) : Prop :=
  Text.Arranged (v.map Vertical.word) (h.map Horizontal.word) s.align.toList

variable {s : LabelStyle} {v : Option Vertical} {h : Option Horizontal}

theorem mem_verticalKeywords : ∀ t ∈ v.map Vertical.word, t ∈ verticalKeywords := by
  intro t ht
  obtain ⟨place, -, rfl⟩ := Option.map_eq_some_iff.mp ht
  cases place <;> decide

theorem mem_horizontalKeywords : ∀ t ∈ h.map Horizontal.word, t ∈ horizontalKeywords := by
  intro t ht
  obtain ⟨place, -, rfl⟩ := Option.map_eq_some_iff.mp ht
  cases place <;> decide

theorem Aligned.horizontal_eq (hs : s.Aligned v h) :
    s.horizontal = (h.map Horizontal.keyword).getD "" := by
  rw [horizontal, apart_vertical.trim_removeFirst mem_verticalKeywords mem_horizontalKeywords hs]
  cases h with
  | none => rfl
  | some place => cases place <;> rfl

theorem Aligned.vertical_eq (hs : s.Aligned v h) :
    s.vertical = (v.map Vertical.keyword).getD "" := by
  rw [vertical, apart_horizontal.trim_removeFirst mem_horizontalKeywords mem_verticalKeywords
    hs.swap]
  cases v with
  | none => rfl
  | some place => cases place <;> rfl

/-! ### The style of a label -/

/-- An axis of the alignment always gets a value: the word for it, or the default one. -/
theorem alignInto_eq_set {p : Property} {default : Value}
    (hdefault : Kind.text.defaultStyle.get? p = some default) (style : Style) (keyword : String) :
    alignInto style p keyword =
      style.set p (if keyword.isEmpty then default else .text keyword) := by
  rw [alignInto, hdefault]
  split <;> rfl

/-- All that a label style is given, in order. -/
theorem style_eq (s : LabelStyle) :
    s.style = ((((((Style.empty.set .font (.text s.font)).set .textHeight (.number s.height)).set
      .textAlign (if s.horizontal.isEmpty then .text "center" else .text s.horizontal)).set
      .textBaseline (if s.vertical.isEmpty then .text "middle" else .text s.vertical)).set
      .haloRadius (.number (if s.outline then 1 else 0))).set
      .backColor (.color s.backColor.opaqueColor)).set
      .foreColor (.color s.foreColor.opaqueColor) := by
  unfold style
  dsimp only
  rw [alignInto_eq_set (p := .textAlign) rfl, alignInto_eq_set (p := .textBaseline) rfl]

theorem Aligned.get?_textAlign (hs : s.Aligned v h) :
    s.style.get? .textAlign = some (.text (h.elim "center" Horizontal.keyword)) := by
  simp only [style_eq, Style.get?_set, hs.horizontal_eq, reduceCtorEq, if_false, if_true]
  cases h with
  | none => rfl
  | some place => cases place <;> rfl

theorem Aligned.get?_textBaseline (hs : s.Aligned v h) :
    s.style.get? .textBaseline = some (.text (v.elim "middle" Vertical.keyword)) := by
  simp only [style_eq, Style.get?_set, hs.vertical_eq, reduceCtorEq, if_false, if_true]
  cases v with
  | none => rfl
  | some place => cases place <;> rfl

end LabelStyle

/-- A label style of the map service sets the same eight properties whatever is in it. Its text is
aligned as its alignment says, centered if that names no place beside the point, and in the middle if
it names none on the line. -/
theorem serviceStyle?_aligns (ctx : ServiceContext) (s : LabelStyle) :
    ∃ style, serviceStyle? ctx .text (.label s) = .silent (.ok style) ∧
      style.entries.map Prod.fst = [.font, .textHeight, .textAlign, .textBaseline, .haloRadius,
        .backColor, .foreColor, .globalAlpha] ∧
      ∀ v h, s.Aligned v h →
        style.get? .textAlign = some (.text (h.elim "center" Horizontal.keyword)) ∧
        style.get? .textBaseline = some (.text (v.elim "middle" Vertical.keyword)) := by
  refine ⟨_, rfl, ?_, ?_⟩
  · simp [s.style_eq, Style.entries, Property.all, Style.get?_set]
  · intro v h hs
    rw [Style.get?_set_of_ne (by decide), Style.get?_set_of_ne (by decide)]
    exact ⟨hs.get?_textAlign, hs.get?_textBaseline⟩

/-- A label to the right on the base line, with the words run together and a wide blank behind. -/
def sideways : LabelStyle := { align := "\t RIGHTBASELINE\u3000" }

theorem serviceStyle?_aligns_sideways :
    let ctx : ServiceContext := ⟨"", .empty⟩
    sideways.Aligned (some .baseline) (some .right) ∧
      ∃ style, serviceStyle? ctx .text (.label sideways) = .silent (.ok style) ∧
        style.get? .textAlign = some (.text "right") ∧
        style.get? .textBaseline = some (.text "alphabetic") := by
  intro ctx
  have haligned : sideways.Aligned (some .baseline) (some .right) :=
    .wordFirst ['\t', ' '] [] ['\u3000'] (by decide) (by decide) (by decide) rfl
  obtain ⟨style, hstyle, -, hplaces⟩ := serviceStyle?_aligns ctx sideways
  exact ⟨haligned, style, hstyle, hplaces _ _ haligned⟩

end Portrayal
