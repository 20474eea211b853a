import Portrayal.Text.Percent

/-!
Service URLs. A URL is split at its first question mark into path and query. Parameters are percent
coded, joined by `&`, and can be read back in order; a query is appended with whichever separator
the URL still lacks; a resource is joined to the path with one slash and the query kept behind it.
-/

namespace Portrayal.Url

/-- A parameter in its written form. -/
def parameter (key value : String) : String :=
  Text.Percent.encode key ++ "=" ++ Text.Percent.encode value

/-- Texts with `&` between them. -/
def joinParameters : List String → String
  | [] => ""
  | [p] => p
  | p :: rest => p ++ "&" ++ joinParameters rest

/-- Parameters as a query, without the question mark in front. -/
def parameterString (parameters : List (String × String)) : String :=
  joinParameters (parameters.map fun (key, value) => parameter key value)

/-- A URL with a query behind it. The separator is `?` when the URL has no query yet, `&` when it
has one, and nothing when it already ends in either; an empty query changes nothing. -/
def appendQuery (url query : String) : String :=
  if query.isEmpty then url
  else if url.toList.getLast? = some '?' ∨ url.toList.getLast? = some '&' then url ++ query
  else if '?' ∈ url.toList then url ++ "&" ++ query
  else url ++ "?" ++ query

/-- The characters before the first `mark`, and those after it if there is one. -/
def splitAt (mark : Char) (cs : List Char) : List Char × Option (List Char) :=
  match cs.dropWhile (· != mark) with
  | [] => (cs.takeWhile (· != mark), none)
  | _ :: after => (cs.takeWhile (· != mark), some after)

/-- A URL's path and, if there is a question mark, its query. -/
def splitQuery (url : String) : String × Option String :=
  let (path, query) := splitAt '?' url.toList
  (String.ofList path, query.map String.ofList)

/-- A text without slashes at its start. -/
def dropLeadingSlashes (s : String) : String := String.ofList (s.toList.dropWhile (· == '/'))

/-- A text without slashes at its end. -/
def dropTrailingSlashes (s : String) : String :=
  String.ofList (s.toList.reverse.dropWhile (· == '/')).reverse

/-- A resource below a base URL, with one slash at the joint; the query of the base stays behind. -/
def joinPath (base resource : String) : String :=
  let (path, query) := splitQuery base
  let joined := dropTrailingSlashes path ++ "/" ++ dropLeadingSlashes resource
  match query with
  | some query => appendQuery joined query
  | none => joined

/-- The pieces of a text between the occurrences of `mark`. -/
def pieces (mark : Char) : List Char → List (List Char)
  | [] => [[]]
  | c :: rest =>
    if c = mark then [] :: pieces mark rest
    else
      match pieces mark rest with
      | piece :: more => (c :: piece) :: more
      | [] => [[c]]

/-- A parameter read back: both halves of its first `=`, decoded. -/
def readParameter? (cs : List Char) : Option (String × String) := do
  let (key, value) := splitAt '=' cs
  let key ← Text.Percent.decode? (String.ofList key)
  let value ← Text.Percent.decode? (String.ofList (value.getD []))
  some (key, value)

/-- The parameters of a query in order; the empty query has none. -/
def parameters? (query : String) : Option (List (String × String)) :=
  if query.isEmpty then some [] else (pieces '&' query.toList).mapM readParameter?

end Portrayal.Url
