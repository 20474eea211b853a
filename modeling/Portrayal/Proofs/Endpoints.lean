import Portrayal.Proofs.Addresses

/-!
URLs built up step by step. A query goes behind a URL with the separator that the URL still lacks, and
a resource goes below its path with one slash:

    http://h/maps//   + /symbol.png    http://h/maps/symbol.png
                      + size=10        http://h/maps/symbol.png?size=10
                      + style=%7B%7D   http://h/maps/symbol.png?size=10&style=%7B%7D
    http://h/maps&    + size=10        http://h/maps&size=10
                      + style=%7B%7D   http://h/maps&size=10?style=%7B%7D

A query behind another one follows an `&`, so that appending one after another is appending them
joined. The last URL is the exception: it ends in the separator between queries and has none, so the
first query follows it at once, and only the second one finds that there is no query yet.

Main statements: what two queries make of a URL, one after another and joined; what a resource makes of
a URL, and a second resource below the first.
-/

namespace Portrayal.Url

/-! ### Queries one after another -/

/-- A text that ends in a separator, so that a query follows it at once. -/
def Awaits (s : String) : Prop := s.toList.getLast? = some '?' ∨ s.toList.getLast? = some '&'

/-- A URL that ends in the separator between queries and has no query. -/
def Stray (url : String) : Prop := url.toList.getLast? = some '&' ∧ '?' ∉ url.toList

instance (s : String) : Decidable (Awaits s) := inferInstanceAs (Decidable (_ ∨ _))

instance (url : String) : Decidable (Stray url) := inferInstanceAs (Decidable (_ ∧ _))

/-- What stands between a URL and a query behind it. -/
def separator (url : String) : String :=
  if Awaits url then "" else if '?' ∈ url.toList then "&" else "?"

section Queries

variable {url query first second : String}

theorem appendQuery_eq (hquery : query ≠ "") (url : String) :
    appendQuery url query = url ++ separator url ++ query := by
  rw [appendQuery, if_neg (mt String.isEmpty_iff.mp hquery)]
  by_cases hends : Awaits url
  · rw [separator, if_pos hends, String.append_empty]
    exact if_pos hends
  · rw [separator, if_neg hends]
    refine (if_neg hends).trans ?_
    split <;> rfl

/-- A text ends as its last part does that is not empty. -/
theorem getLast?_append_of_ne (hquery : query ≠ "") (before : String) :
    (before ++ query).toList.getLast? = query.toList.getLast? := by
  have hne : query.toList.getLast? ≠ none := by
    rwa [ne_eq, List.getLast?_eq_none_iff, String.toList_eq_nil_iff]
  obtain ⟨c, hc⟩ := Option.ne_none_iff_exists'.mp hne
  rw [String.toList_append, List.getLast?_append, hc, Option.some_or]

theorem awaits_append_iff (hquery : query ≠ "") (before : String) :
    Awaits (before ++ query) ↔ Awaits query := by
  rw [Awaits, Awaits, getLast?_append_of_ne hquery]

/-- A URL has a query once one is appended, unless it is stray and the query has no mark itself. -/
theorem mem_appendQuery_iff (hquery : query ≠ "") :
    '?' ∈ (appendQuery url query).toList ↔ ¬ (Stray url ∧ '?' ∉ query.toList) := by
  rw [appendQuery_eq hquery, String.toList_append, String.toList_append, List.mem_append,
    List.mem_append, separator, Stray]
  by_cases hmark : '?' ∈ url.toList
  · simp [hmark]
  · have hlast : url.toList.getLast? ≠ some '?' := fun h => hmark (List.mem_of_getLast? h)
    by_cases hstray : url.toList.getLast? = some '&' <;> simp [Awaits, hmark, hlast, hstray]

/-- The separator behind a query that does not end in one itself. -/
theorem separator_appendQuery (hquery : query ≠ "") (hends : ¬ Awaits query) (url : String) :
    separator (appendQuery url query) = if Stray url ∧ '?' ∉ query.toList then "?" else "&" := by
  have hawaits : ¬ Awaits (appendQuery url query) := by
    rwa [appendQuery_eq hquery, awaits_append_iff hquery]
  rw [separator, if_neg hawaits, if_congr (mem_appendQuery_iff hquery) rfl rfl, ite_not]

theorem appendQuery_joined (hfirst : first ≠ "") (second url : String) :
    appendQuery url (first ++ "&" ++ second) = appendQuery url first ++ "&" ++ second := by
  have hjoined : first ++ "&" ++ second ≠ "" := by simp
  rw [appendQuery_eq hjoined, appendQuery_eq hfirst]
  simp only [String.append_assoc]

theorem appendQuery_appendQuery (hfirst : first ≠ "") (hends : ¬ Awaits first)
    (hsecond : second ≠ "") (url : String) :
    appendQuery (appendQuery url first) second =
      appendQuery url first ++ (if Stray url ∧ '?' ∉ first.toList then "?" else "&") ++ second := by
  rw [appendQuery_eq hsecond (appendQuery url first), separator_appendQuery hfirst hends]

/-- A mark is added to a URL that has none, unless it is stray. -/
theorem count_separator (url : String) : (separator url).toList.count '?' =
    if '?' ∈ url.toList ∨ Stray url then 0 else 1 := by
  rw [separator]
  by_cases hmark : '?' ∈ url.toList
  · rw [if_pos hmark, if_pos (show '?' ∈ url.toList ∨ Stray url from .inl hmark)]
    split <;> rfl
  · have hlast : url.toList.getLast? ≠ some '?' := fun h => hmark (List.mem_of_getLast? h)
    by_cases hstray : url.toList.getLast? = some '&' <;>
      simp [Awaits, Stray, hmark, hlast, hstray]

theorem count_appendQuery (hquery : query ≠ "") (url : String) :
    (appendQuery url query).toList.count '?' =
      url.toList.count '?' + (separator url).toList.count '?' + query.toList.count '?' := by
  rw [appendQuery_eq hquery, String.toList_append, String.toList_append, List.count_append,
    List.count_append]

/-- Of two queries the second one brings a mark only behind a stray URL and a query without one. -/
theorem count_separator_appendQuery (hquery : query ≠ "") (hends : ¬ Awaits query) (url : String) :
    (separator (appendQuery url query)).toList.count '?' =
      if Stray url ∧ '?' ∉ query.toList then 1 else 0 := by
  rw [separator_appendQuery hquery hends]
  split <;> rfl

/-- A stray URL is followed by the first query at once. -/
theorem appendQuery_of_stray (hquery : query ≠ "") (hurl : Stray url) :
    appendQuery url query = url ++ query := by
  have hends : Awaits url := .inr hurl.1
  rw [appendQuery_eq hquery, separator, if_pos hends, String.append_empty]

/-- Two queries, of which the first is not empty and does not end in a separator, are appended one
after another exactly as they are appended joined by `&`, unless the URL is stray and neither it nor
the first query has a question mark. There the first query follows the URL at once, and the second one
begins with a question mark. In all, the URL gets no question mark as a separator if it has one, and
otherwise one, or none if it is stray and the first query brings one. -/
theorem appendQuery_in_turn (hfirst : first ≠ "") (hends : ¬ Awaits first) (hsecond : second ≠ "")
    (url : String) :
    (appendQuery (appendQuery url first) second = appendQuery url (first ++ "&" ++ second) ↔
        ¬ (Stray url ∧ '?' ∉ first.toList)) ∧
      (Stray url ∧ '?' ∉ first.toList → appendQuery url first = url ++ first ∧
        appendQuery (appendQuery url first) second = url ++ first ++ "?" ++ second) ∧
      (¬ (Stray url ∧ '?' ∉ first.toList) →
        appendQuery (appendQuery url first) second = appendQuery url first ++ "&" ++ second) ∧
      (appendQuery (appendQuery url first) second).toList.count '?' =
        url.toList.count '?' + first.toList.count '?' + second.toList.count '?' +
          if '?' ∈ url.toList ∨ Stray url ∧ '?' ∈ first.toList then 0 else 1 := by
  have htwice := appendQuery_appendQuery hfirst hends hsecond url
  refine ⟨?_, fun h => ?_, fun h => ?_, ?_⟩
  · rw [htwice, appendQuery_joined hfirst]
    by_cases h : Stray url ∧ '?' ∉ first.toList <;> simp [h]
  · have hbehind := appendQuery_of_stray hfirst h.1
    refine ⟨hbehind, ?_⟩
    rw [htwice, if_pos h, hbehind]
  · rw [htwice, if_neg h]
  · rw [count_appendQuery hsecond, count_appendQuery hfirst, count_separator,
      count_separator_appendQuery hfirst hends]
    by_cases hstray : Stray url
    · have hmark : '?' ∉ url.toList := hstray.2
      by_cases hquery : '?' ∈ first.toList
      · simp [hstray, hmark, hquery]
      · simp [hstray, hmark, hquery]
        omega
    · simp only [hstray, false_and, or_false, if_false, Nat.add_zero]
      omega

theorem appendQuery_in_turn_style :
    "size=10" ≠ "" ∧ ¬ Awaits "size=10" ∧ "style=%7B%7D" ≠ "" ∧
      appendQuery (appendQuery "http://h/maps?" "size=10") "style=%7B%7D" =
        appendQuery "http://h/maps?" ("size=10" ++ "&" ++ "style=%7B%7D") := by
  have hends : ¬ Awaits "size=10" := by decide
  refine ⟨by decide, hends, by decide, ?_⟩
  exact (appendQuery_in_turn (by decide) hends (by decide) "http://h/maps?").1.mpr (by decide)

/-- A stray URL: the query that is appended later begins a query of its own. -/
theorem not_in_turn_stray :
    "x" ≠ "" ∧ ¬ Awaits "x" ∧ "y" ≠ "" ∧
      appendQuery (appendQuery "a&" "x") "y" = "a&x?y" ∧
      appendQuery "a&" ("x" ++ "&" ++ "y") = "a&x&y" ∧
      appendQuery (appendQuery "a&" "x") "y" ≠ appendQuery "a&" ("x" ++ "&" ++ "y") := by
  decide +kernel

end Queries

/-! ### Resources below one another -/

/-- A resource that brings no query and no separator. -/
def IsResource (resource : String) : Prop :=
  '?' ∉ resource.toList ∧ resource.toList.getLast? ≠ some '&'

/-- A resource without the slashes it begins with. -/
structure Leaf (resource leaf : String) : Prop where
  slashes : ∃ slashes : List Char, resource.toList = slashes ++ leaf.toList ∧ ∀ c ∈ slashes, c = '/'
  trimmed : leaf.toList.head? ≠ some '/'

section Resources

variable {base path stem resource leaf next below : String} {query : Option String}

theorem dropWhile_slashes {slashes rest : List Char} (hslashes : ∀ c ∈ slashes, c = '/')
    (hrest : rest.head? ≠ some '/') : (slashes ++ rest).dropWhile (· == '/') = rest := by
  rw [List.dropWhile_append_of_pos fun c hc => beq_iff_eq.mpr (hslashes c hc)]
  cases rest with
  | nil => rfl
  | cons c rest =>
    refine List.dropWhile_cons_of_neg ?_
    rw [beq_iff_eq]
    rintro rfl
    exact hrest rfl

/-- A path has one stem. -/
theorem Stem.dropTrailingSlashes_eq (h : Stem path stem) : dropTrailingSlashes path = stem := by
  obtain ⟨slashes, hpath, hslashes⟩ := h.slashes
  have htrimmed : stem.toList.reverse.head? ≠ some '/' := by
    rw [List.head?_reverse]
    exact h.trimmed
  rw [dropTrailingSlashes, hpath, List.reverse_append, dropWhile_slashes _ htrimmed,
    List.reverse_reverse, String.ofList_toList]
  intro c hc
  exact hslashes c (List.mem_reverse.mp hc)

/-- A resource has one leaf. -/
theorem Leaf.dropLeadingSlashes_eq (h : Leaf resource leaf) : dropLeadingSlashes resource = leaf := by
  obtain ⟨slashes, hresource, hslashes⟩ := h.slashes
  rw [dropLeadingSlashes, hresource, dropWhile_slashes hslashes h.trimmed, String.ofList_toList]

theorem leaf_dropLeadingSlashes (resource : String) : Leaf resource (dropLeadingSlashes resource) where
  slashes := by
    refine ⟨resource.toList.takeWhile (· == '/'), ?_, ?_⟩
    · rw [dropLeadingSlashes, String.toList_ofList, List.takeWhile_append_dropWhile]
    · intro c hc
      exact beq_iff_eq.mp (List.mem_takeWhile_imp (p := (· == '/')) hc)
  trimmed := by
    rw [dropLeadingSlashes, String.toList_ofList]
    intro h
    have hhead := List.head?_dropWhile_not (· == '/') resource.toList
    rw [h] at hhead
    exact absurd hhead (by decide)

/-- Slashes in front of a text change nothing about its other characters. -/
theorem Leaf.isResource_iff (h : Leaf resource leaf) : IsResource resource ↔ IsResource leaf := by
  obtain ⟨slashes, hresource, hslashes⟩ := h.slashes
  have hmark : '?' ∉ slashes := fun hmem => absurd (hslashes _ hmem) (by decide)
  have hlast : slashes.getLast? ≠ some '&' := fun hmem =>
    absurd (hslashes _ (List.mem_of_getLast? hmem)) (by decide)
  rw [IsResource, IsResource, hresource, List.mem_append, or_iff_right hmark, List.getLast?_append]
  cases leaf.toList.getLast? <;> simp [hlast]

theorem joinPath_of_leaf (hparts : Parts base path query) (hstem : Stem path stem)
    (hleaf : Leaf resource leaf) (hresource : IsResource resource) :
    joinPath base resource = behind (stem ++ "/" ++ leaf) query := by
  rw [joinPath_eq hparts hresource.1 hresource.2, hstem.dropTrailingSlashes_eq,
    hleaf.dropLeadingSlashes_eq]

/-- A path with a query behind it is taken apart into them, but for a query that is empty. -/
theorem exists_parts_behind (hpath : '?' ∉ path.toList) (query : Option String) :
    ∃ query', Parts (behind path query) path query' ∧ ∀ p, behind p query' = behind p query := by
  cases query with
  | none => exact ⟨none, .bare hpath, fun _ => rfl⟩
  | some query =>
    by_cases hempty : query = ""
    · subst hempty
      exact ⟨none, .bare hpath, fun _ => rfl⟩
    · refine ⟨some query, ?_, fun _ => rfl⟩
      rw [behind, if_neg hempty]
      exact .queried hpath query

theorem Leaf.getLast?_ne {c : Char} (h : Leaf resource leaf)
    (hlast : resource.toList.getLast? ≠ some c) : leaf.toList.getLast? ≠ some c := by
  obtain ⟨slashes, hresource, -⟩ := h.slashes
  intro hc
  rw [hresource, List.getLast?_append, hc] at hlast
  exact hlast rfl

theorem IsResource.joined (hresource : IsResource resource) (hbelow : IsResource below) :
    IsResource (resource ++ "/" ++ below) := by
  constructor
  · rw [toList_append_mark '/' rfl, List.mem_append, List.mem_cons]
    rintro (h | h | h)
    · exact hresource.1 h
    · exact absurd h (by decide)
    · exact hbelow.1 h
  · by_cases hempty : below = ""
    · rw [hempty, toList_append_mark '/' rfl]
      simp
    · rw [getLast?_append_of_ne hempty]
      exact hbelow.2

/-! A resource that does not end in a slash is the end of a stem. One without a leaf leaves the stem as
it is, for the slash in front of it is dropped with the next resource. -/

theorem Stem.joined (hleaf : leaf ≠ "") (hlast : leaf.toList.getLast? ≠ some '/') (stem : String) :
    Stem (stem ++ "/" ++ leaf) (stem ++ "/" ++ leaf) where
  slashes := ⟨[], (List.append_nil _).symm, nofun⟩
  trimmed := by rwa [getLast?_append_of_ne hleaf]

theorem Stem.joined_empty (h : Stem path stem) : Stem (stem ++ "/" ++ "") stem where
  slashes := ⟨['/'], by simp, by simp⟩
  trimmed := h.trimmed

theorem Leaf.joined (h : Leaf resource leaf) (hleaf : leaf ≠ "") (below : String) :
    Leaf (resource ++ "/" ++ below) (leaf ++ "/" ++ below) where
  slashes := by
    obtain ⟨slashes, hresource, hslashes⟩ := h.slashes
    refine ⟨slashes, ?_, hslashes⟩
    rw [toList_append_mark '/' rfl, toList_append_mark '/' rfl, hresource, List.append_assoc]
  trimmed := by
    obtain ⟨c, rest, hc⟩ := List.exists_cons_of_ne_nil (mt String.toList_eq_nil_iff.mp hleaf)
    have hhead := h.trimmed
    rw [hc] at hhead
    rw [toList_append_mark '/' rfl, hc]
    exact hhead

theorem Leaf.joined_empty (h : Leaf resource "") (hbelow : Leaf next below) :
    Leaf (resource ++ "/" ++ below) below where
  slashes := by
    obtain ⟨slashes, hresource, hslashes⟩ := h.slashes
    refine ⟨slashes ++ ['/'], ?_, ?_⟩
    · rw [toList_append_mark '/' rfl, hresource]
      simp
    · intro c hc
      rcases List.mem_append.mp hc with hc | hc
      · exact hslashes c hc
      · exact List.mem_singleton.mp hc
  trimmed := hbelow.trimmed

/-- A second resource below a first one stands below the path and the first one. -/
theorem joinPath_joinPath (hparts : Parts base path query) (hstem : Stem path stem)
    (hleaf : Leaf resource leaf) (hresource : IsResource resource)
    (hlast : leaf.toList.getLast? ≠ some '/') (hbelow : Leaf next below)
    (hnext : IsResource next) :
    joinPath (joinPath base resource) next = joinPath base (resource ++ "/" ++ below) := by
  have hpath : '?' ∉ (stem ++ "/" ++ leaf).toList := by
    rw [← hleaf.dropLeadingSlashes_eq]
    exact unmarked_joined (hstem.unmarked hparts.path_unmarked) hresource.1
  have hjoined := hresource.joined (hbelow.isResource_iff.mp hnext)
  obtain ⟨query', hparts', hbehind⟩ := exists_parts_behind hpath query
  rw [← joinPath_of_leaf hparts hstem hleaf hresource] at hparts'
  by_cases hempty : leaf = ""
  · subst hempty
    rw [joinPath_of_leaf hparts' hstem.joined_empty hbelow hnext, hbehind,
      joinPath_of_leaf hparts hstem (hleaf.joined_empty hbelow) hjoined]
  · rw [joinPath_of_leaf hparts' (Stem.joined hempty hlast stem) hbelow hnext, hbehind,
      joinPath_of_leaf hparts hstem (hleaf.joined hempty below) hjoined]
    simp only [String.append_assoc]

/-- A resource joined to a URL stands behind the stem of its path and one slash, without the slashes
that it begins with, and the query of the URL stands behind both, if there is one that is not empty. So
nothing depends on the slashes at the joint; and a second resource below a first one that does not end
in a slash is the same as one resource of both. -/
theorem joinPath_joins (hresource : IsResource resource) (base : String) :
    ∃ path query stem leaf, Parts base path query ∧ Stem path stem ∧ Leaf resource leaf ∧
      joinPath base resource = behind (stem ++ "/" ++ leaf) query ∧
      (∀ base' path' resource', Parts base' path' query → Stem path' stem → Leaf resource' leaf →
        joinPath base' resource' = joinPath base resource) ∧
      ∀ next below, IsResource next → Leaf next below → resource.toList.getLast? ≠ some '/' →
        joinPath (joinPath base resource) next = joinPath base (resource ++ "/" ++ below) := by
  obtain ⟨path, query, hparts⟩ := exists_parts base
  have hstem := stem_dropTrailingSlashes path
  have hleaf := leaf_dropLeadingSlashes resource
  have hjoin := joinPath_of_leaf hparts hstem hleaf hresource
  refine ⟨path, query, _, _, hparts, hstem, hleaf, hjoin, ?_, ?_⟩
  · intro base' path' resource' hparts' hstem' hleaf'
    have hresource' := hleaf'.isResource_iff.mpr (hleaf.isResource_iff.mp hresource)
    rw [joinPath_of_leaf hparts' hstem' hleaf' hresource', hjoin]
  · intro next below hnext hbelow hlast
    exact joinPath_joinPath hparts hstem hleaf hresource (hleaf.getLast?_ne hlast) hbelow hnext

/-- A sheet below the maps of a URL with slashes at its end and a query, resource by resource. -/
theorem joinPath_joins_sheet :
    IsResource "/maps" ∧ IsResource "//World/sheet" ∧ Leaf "//World/sheet" "World/sheet" ∧
      joinPath (joinPath "http://h//?token=t" "/maps") "//World/sheet" =
        joinPath "http://h//?token=t" ("/maps" ++ "/" ++ "World/sheet") := by
  have hmaps : IsResource "/maps" := ⟨by decide, by decide⟩
  have hsheet : IsResource "//World/sheet" := ⟨by decide, by decide⟩
  have hleaf : Leaf "//World/sheet" "World/sheet" := ⟨⟨['/', '/'], rfl, by simp⟩, by decide⟩
  obtain ⟨path, query, stem, leaf, -, -, -, -, -, hbelow⟩ :=
    joinPath_joins hmaps "http://h//?token=t"
  exact ⟨hmaps, hsheet, hleaf, hbelow _ _ hsheet hleaf (by decide)⟩

example : joinPath "http://h//?token=t" "/maps/World/sheet" =
    "http://h/maps/World/sheet?token=t" := by decide +kernel

end Resources

end Portrayal.Url
