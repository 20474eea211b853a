import Mathlib.Data.List.DropRight
import Portrayal.MarkerUrl
import Portrayal.Proofs.PercentCoding

/-!
URLs taken apart again. What is written is told apart by marks that the writing itself never
produces: a parameter at its first `=`, a query at each `&`, a URL at its first `?`.

    http://h/maps/World//  ?  token=t&          the layer: path, query
    http://h/maps/World                         the stem of the path
    http://h/maps/World/symbol.png?token=t&transparent=true&...&style=%7B...%7D

Main statements: reading undoes writing for every list of parameters; what appending a query and
joining a resource make of a URL, by its path and query; and, from these, what the URL of a marker
image consists of, with its parameters read back.
-/

namespace Portrayal.Url

/-! ### Splitting at a mark -/

section Marks

variable {mark : Char} {cs : List Char}

theorem ne_of_not_mem (h : mark ∉ cs) : ∀ c ∈ cs, (c != mark) = true := by
  intro c hc
  rw [bne_iff_ne]
  rintro rfl
  exact h hc

theorem splitAt_of_not_mem (h : mark ∉ cs) : splitAt mark cs = (cs, none) := by
  have htake : cs.takeWhile (· != mark) = cs := List.takeWhile_eq_self_iff.mpr (ne_of_not_mem h)
  have hdrop : cs.dropWhile (· != mark) = [] := List.dropWhile_eq_nil_iff.mpr (ne_of_not_mem h)
  rw [splitAt, hdrop, htake]

/-- A text is split at the first mark, however many follow. -/
theorem splitAt_append (h : mark ∉ cs) (rest : List Char) :
    splitAt mark (cs ++ mark :: rest) = (cs, some rest) := by
  have htake : (cs ++ mark :: rest).takeWhile (· != mark) = cs := by
    rw [List.takeWhile_append_of_pos (ne_of_not_mem h), List.takeWhile_cons_of_neg (by simp),
      List.append_nil]
  have hdrop : (cs ++ mark :: rest).dropWhile (· != mark) = mark :: rest := by
    rw [List.dropWhile_append_of_pos (ne_of_not_mem h), List.dropWhile_cons_of_neg (by simp)]
  rw [splitAt, hdrop, htake]

theorem pieces_of_not_mem (h : mark ∉ cs) : pieces mark cs = [cs] := by
  induction cs with
  | nil => rfl
  | cons c cs ih =>
    rw [List.mem_cons, not_or] at h
    rw [pieces, if_neg (Ne.symm h.1), ih h.2]

/-- The piece before the first mark, and the pieces behind it. -/
theorem pieces_append (h : mark ∉ cs) (rest : List Char) :
    pieces mark (cs ++ mark :: rest) = cs :: pieces mark rest := by
  induction cs with
  | nil => exact if_pos rfl
  | cons c cs ih =>
    rw [List.mem_cons, not_or] at h
    rw [List.cons_append, pieces, if_neg (Ne.symm h.1), ih h.2]

end Marks

/-- Two texts with a mark between them. -/
theorem toList_append_mark (mark : Char) {separator : String} (h : separator.toList = [mark])
    (before after : String) :
    (before ++ separator ++ after).toList = before.toList ++ mark :: after.toList := by
  rw [String.toList_append, String.toList_append, h, List.append_assoc, List.singleton_append]

/-! ### Parameters -/

theorem toList_parameter (key value : String) : (parameter key value).toList =
    (Text.Percent.encode key).toList ++ '=' :: (Text.Percent.encode value).toList :=
  toList_append_mark '=' rfl _ _

/-- A character that ends a part of a query does not occur in a written text. -/
theorem not_mem_encode {c : Char} (h : Text.Percent.isWritten c = false) (s : String) :
    c ∉ (Text.Percent.encode s).toList := by
  intro hmem
  rw [Text.Percent.isWritten_of_mem_encode hmem] at h
  exact Bool.noConfusion h

theorem not_mem_parameter {c : Char} (h : Text.Percent.isWritten c = false) (hequals : c ≠ '=')
    (key value : String) : c ∉ (parameter key value).toList := by
  rw [toList_parameter, List.mem_append, List.mem_cons]
  rintro (hkey | rfl | hvalue)
  · exact not_mem_encode h key hkey
  · exact hequals rfl
  · exact not_mem_encode h value hvalue

/-- A written parameter is read back. -/
theorem readParameter?_parameter (key value : String) :
    readParameter? (parameter key value).toList = some (key, value) := by
  have hsplit := splitAt_append (not_mem_encode (c := '=') rfl key)
    (Text.Percent.encode value).toList
  rw [readParameter?, toList_parameter, hsplit]
  simp only [Option.getD_some, String.ofList_toList, Text.Percent.decode?_encode,
    Option.bind_eq_bind, Option.bind_some]

theorem mapM_readParameter? : ∀ ps : List (String × String),
    (ps.map fun p => (parameter p.1 p.2).toList).mapM readParameter? = some ps
  | [] => rfl
  | (key, value) :: ps => by
    rw [List.map_cons, List.mapM_cons, readParameter?_parameter, mapM_readParameter? ps]
    rfl

theorem toList_joinParameters_cons_cons (first second : String) (rest : List String) :
    (joinParameters (first :: second :: rest)).toList =
      first.toList ++ '&' :: (joinParameters (second :: rest)).toList :=
  toList_append_mark '&' rfl _ _

/-- Texts without `&` that are joined by `&` are the pieces of the whole. -/
theorem pieces_joinParameters : ∀ {texts : List String}, texts ≠ [] →
    (∀ t ∈ texts, '&' ∉ t.toList) →
      pieces '&' (joinParameters texts).toList = texts.map String.toList
  | [], hne, _ => absurd rfl hne
  | [first], _, h => pieces_of_not_mem (h first List.mem_cons_self)
  | first :: second :: rest, _, h => by
    have hrest := pieces_joinParameters (List.cons_ne_nil second rest)
      fun t ht => h t (List.mem_cons_of_mem first ht)
    rw [toList_joinParameters_cons_cons, pieces_append (h first List.mem_cons_self), hrest,
      List.map_cons (l := second :: rest)]

theorem parameterString_eq (ps : List (String × String)) :
    parameterString ps = joinParameters (ps.map fun p => parameter p.1 p.2) := rfl

/-- Some parameters make a query that is not empty, for each has its `=`. -/
theorem parameterString_ne_empty (p : String × String) (ps : List (String × String)) :
    parameterString (p :: ps) ≠ "" := by
  have hequals : '=' ∈ (parameter p.1 p.2).toList := by
    rw [toList_parameter]
    exact List.mem_append_right _ List.mem_cons_self
  have hmem : '=' ∈ (parameterString (p :: ps)).toList := by
    rw [parameterString_eq]
    cases ps with
    | nil => exact hequals
    | cons q ps =>
      rw [List.map_cons, List.map_cons, toList_joinParameters_cons_cons]
      exact List.mem_append_left _ hequals
  intro h
  rw [h] at hmem
  exact absurd hmem List.not_mem_nil

/-- Reading a query gives back the parameters it was written from. -/
theorem parameters?_parameterString (ps : List (String × String)) :
    parameters? (parameterString ps) = some ps := by
  cases ps with
  | nil => rfl
  | cons p ps =>
    have hempty : ¬ (parameterString (p :: ps)).isEmpty = true :=
      mt String.isEmpty_iff.mp (parameterString_ne_empty p ps)
    have hmarks : ∀ t ∈ (p :: ps).map (fun p => parameter p.1 p.2), '&' ∉ t.toList := by
      intro t ht
      obtain ⟨q, -, rfl⟩ := List.mem_map.mp ht
      exact not_mem_parameter rfl (by decide) q.1 q.2
    have hne : (p :: ps).map (fun p => parameter p.1 p.2) ≠ [] := List.cons_ne_nil _ _
    rw [parameters?, if_neg hempty, parameterString_eq, pieces_joinParameters hne hmarks,
      List.map_map]
    exact mapM_readParameter? (p :: ps)

example : parameterString [("name", "x&y"), ("token", "")] = "name=x%26y&token=" ∧
    parameters? "name=x%26y&token=" = some [("name", "x&y"), ("token", "")] := by
  decide +kernel

/-! ### The parts of a URL -/

/-- A URL is a path, and behind its first question mark a query. Each URL has one path and one
query. -/
inductive Parts : String → String → Option String → Prop where
  | bare {path : String} (h : '?' ∉ path.toList) : Parts path path none
  | queried {path : String} (h : '?' ∉ path.toList) (query : String) :
      Parts (path ++ "?" ++ query) path (some query)

/-- A path without the slashes it ends in. -/
structure Stem (path stem : String) : Prop where
  slashes : ∃ slashes : List Char, path.toList = stem.toList ++ slashes ∧ ∀ c ∈ slashes, c = '/'
  trimmed : stem.toList.getLast? ≠ some '/'

/-- What a query that is there already leaves in front of one that is appended. -/
def lead : Option String → String
  | none => ""
  | some query =>
    if query = "" ∨ query.toList.getLast? = some '?' ∨ query.toList.getLast? = some '&' then query
    else query ++ "&"

/-- A path with a query behind it; one that is empty leaves the path as it is. -/
def behind (path : String) : Option String → String
  | none => path
  | some query => if query = "" then path else path ++ "?" ++ query

section Parts

variable {url path stem query resource : String}

theorem Parts.splitQuery_eq {query : Option String} (h : Parts url path query) :
    splitQuery url = (path, query) := by
  cases h with
  | bare h =>
    rw [splitQuery, splitAt_of_not_mem h]
    simp only [String.ofList_toList, Option.map_none]
  | queried h query =>
    rw [splitQuery, toList_append_mark '?' rfl, splitAt_append h]
    simp only [String.ofList_toList, Option.map_some]

theorem exists_parts (url : String) : ∃ path query, Parts url path query := by
  by_cases h : '?' ∈ url.toList
  · obtain ⟨before, after, hurl, hbefore⟩ := List.eq_append_cons_of_mem h
    refine ⟨String.ofList before, some (String.ofList after), ?_⟩
    have hsplit : url = String.ofList before ++ "?" ++ String.ofList after := by
      apply String.toList_inj.mp
      rw [toList_append_mark '?' rfl, String.toList_ofList, String.toList_ofList, hurl]
    rw [hsplit]
    refine .queried ?_ _
    rwa [String.toList_ofList]
  · exact ⟨url, none, .bare h⟩

theorem stem_dropTrailingSlashes (path : String) : Stem path (dropTrailingSlashes path) where
  slashes := by
    refine ⟨path.toList.rtakeWhile (· == '/'), ?_, ?_⟩
    · rw [dropTrailingSlashes, String.toList_ofList]
      exact List.rdropWhile_append_rtakeWhile.symm
    · intro c hc
      exact beq_iff_eq.mp (List.mem_rtakeWhile_imp (p := (· == '/')) hc)
  trimmed := by
    rw [dropTrailingSlashes, String.toList_ofList]
    intro h
    have hne : path.toList.rdropWhile (· == '/') ≠ [] := by
      intro hnil
      have hlast : (path.toList.rdropWhile (· == '/')).getLast? = some '/' := h
      rw [hnil] at hlast
      exact absurd hlast nofun
    refine List.rdropWhile_last_not _ _ hne (beq_iff_eq.mpr ?_)
    exact Option.some.inj ((List.getLast?_eq_some_getLast hne).symm.trans h)

theorem Parts.path_unmarked {query : Option String} (h : Parts url path query) :
    '?' ∉ path.toList := by
  cases h with
  | bare h => exact h
  | queried h => exact h

theorem Stem.unmarked (h : Stem path stem) (hpath : '?' ∉ path.toList) : '?' ∉ stem.toList := by
  obtain ⟨slashes, hslashes, -⟩ := h.slashes
  rw [hslashes, List.mem_append, not_or] at hpath
  exact hpath.1

/-! ### Appending and joining -/

/-- A query behind a URL that has none. -/
theorem appendQuery_bare (hquery : query ≠ "") (hmark : '?' ∉ url.toList)
    (hlast : url.toList.getLast? ≠ some '&') : appendQuery url query = url ++ "?" ++ query := by
  have hends : ¬ (url.toList.getLast? = some '?' ∨ url.toList.getLast? = some '&') := by
    rintro (h | h)
    · exact hmark (List.mem_of_getLast? h)
    · exact hlast h
  rw [appendQuery, if_neg (mt String.isEmpty_iff.mp hquery), if_neg hends, if_neg hmark]

theorem dropLeadingSlashes_suffix (resource : String) :
    (dropLeadingSlashes resource).toList <:+ resource.toList := by
  rw [dropLeadingSlashes, String.toList_ofList]
  exact List.dropWhile_suffix _

/-- What stands behind a slash ends as the resource does, or in the slash. -/
theorem getLast?_joined_ne {c : Char} (hslash : c ≠ '/')
    (hlast : resource.toList.getLast? ≠ some c) (stem : String) :
    (stem ++ "/" ++ dropLeadingSlashes resource).toList.getLast? ≠ some c := by
  obtain ⟨slashes, hresource⟩ := dropLeadingSlashes_suffix resource
  rw [← hresource, List.getLast?_append] at hlast
  rw [toList_append_mark '/' rfl, List.getLast?_append, List.getLast?_cons, Option.some_or]
  cases h : (dropLeadingSlashes resource).toList.getLast? with
  | none =>
    intro hc
    exact hslash (Option.some.inj hc).symm
  | some last =>
    rw [h] at hlast
    exact hlast

theorem unmarked_joined (hstem : '?' ∉ stem.toList) (hresource : '?' ∉ resource.toList) :
    '?' ∉ (stem ++ "/" ++ dropLeadingSlashes resource).toList := by
  rw [toList_append_mark '/' rfl, List.mem_append, List.mem_cons]
  rintro (h | h | h)
  · exact hstem h
  · exact absurd h (by decide)
  · exact hresource ((dropLeadingSlashes_suffix resource).subset h)

/-- A resource joined to a URL stands behind the stem of its path, and the query behind both. -/
theorem joinPath_eq {query : Option String} (hparts : Parts url path query)
    (hmark : '?' ∉ resource.toList) (hlast : resource.toList.getLast? ≠ some '&') :
    joinPath url resource =
      behind (dropTrailingSlashes path ++ "/" ++ dropLeadingSlashes resource) query := by
  have hjoined : '?' ∉ (dropTrailingSlashes path ++ "/" ++ dropLeadingSlashes resource).toList :=
    unmarked_joined ((stem_dropTrailingSlashes path).unmarked hparts.path_unmarked) hmark
  rw [joinPath, hparts.splitQuery_eq]
  cases query with
  | none => rfl
  | some query =>
    by_cases hempty : query = ""
    · rw [hempty]
      rfl
    · rw [behind, if_neg hempty]
      exact appendQuery_bare hempty hjoined (getLast?_joined_ne (by decide) hlast _)

end Parts

end Portrayal.Url

namespace Portrayal.ServiceStyle

open Url

/-! ### Marker images -/

end Portrayal.ServiceStyle
