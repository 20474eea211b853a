import Portrayal.Proofs.Addresses

/-!
The text of a query. It is spelled from characters that stand for themselves, from separators and
from escapes, so every percent sign in it is the first of three characters:

    name=x%26y&token=      n a m e   =   x   %26   y   &   t o k e n   =

An escape is not told by its characters one by one, for the digits in it are also letters and digits
of their own; the text is therefore described from its start.

Main statement: a list of parameters, whatever is in them, is read back in order from its query, and
the query is spelled with the two separators between parameters and inside them.
-/

namespace Portrayal.Text.Percent

/-- The characters that stand for themselves. -/
def StandsAlone (c : Char) : Prop :=
  c.isAlphanum = true ∨ c ∈ ['-', '_', '.', '!', '~', '*', '\'', '(', ')']

/-- The digits of an escape. -/
def IsEscapeDigit (c : Char) : Prop := ('0' ≤ c ∧ c ≤ '9') ∨ ('A' ≤ c ∧ c ≤ 'F')

/-- A text of characters that stand for themselves, escapes, and some separators. -/
inductive Spelled (separators : List Char) : List Char → Prop where
  | nil : Spelled separators []
  | plain {c : Char} {rest : List Char} (h : StandsAlone c) (hrest : Spelled separators rest) :
      Spelled separators (c :: rest)
  | separator {c : Char} {rest : List Char} (h : c ∈ separators)
      (hrest : Spelled separators rest) : Spelled separators (c :: rest)
  | escape {high low : Char} {rest : List Char} (hhigh : IsEscapeDigit high)
      (hlow : IsEscapeDigit low) (hrest : Spelled separators rest) :
      Spelled separators ('%' :: high :: low :: rest)

section Spelled

variable {separators cs ds : List Char}

theorem Spelled.append (hcs : Spelled separators cs) (hds : Spelled separators ds) :
    Spelled separators (cs ++ ds) := by
  induction hcs with
  | nil => exact hds
  | plain h _ ih => exact .plain h ih
  | separator h _ ih => exact .separator h ih
  | escape hhigh hlow _ ih => exact .escape hhigh hlow ih

/-- Two texts with a separator between them. -/
theorem Spelled.joined {c : Char} (h : c ∈ separators) (hcs : Spelled separators cs)
    (hds : Spelled separators ds) : Spelled separators (cs ++ c :: ds) :=
  hcs.append (.separator h hds)

theorem isEscapeDigit_upperHexDigit : ∀ n < 16, IsEscapeDigit (upperHexDigit n) := by
  unfold IsEscapeDigit
  decide

theorem standsAlone_of_isPlain {byte : UInt8} (h : isPlain byte = true) :
    StandsAlone (Char.ofNat byte.toNat) := by
  rw [isPlain, Bool.or_eq_true, List.contains_iff_mem] at h
  exact h

/-- A written byte, with a spelled text behind it. -/
theorem Spelled.encodeByte_append (byte : UInt8) (hds : Spelled separators ds) :
    Spelled separators (encodeByte byte ++ ds) := by
  unfold encodeByte
  split
  · rename_i hplain
    exact .plain (standsAlone_of_isPlain hplain) hds
  · have hbyte : byte.toNat < 256 := byte.toNat_lt
    exact .escape (isEscapeDigit_upperHexDigit _ (by omega)) (isEscapeDigit_upperHexDigit _ (by omega))
      hds

theorem spelled_flatMap_encodeByte : ∀ bytes : List UInt8,
    Spelled separators (bytes.flatMap encodeByte)
  | [] => .nil
  | byte :: bytes => by
    rw [List.flatMap_cons]
    exact (spelled_flatMap_encodeByte bytes).encodeByte_append byte

/-- A written text has no separator at all, so it is spelled with any. -/
theorem spelled_encode (s : String) : Spelled separators (encode s).toList := by
  rw [toList_encode]
  exact spelled_flatMap_encodeByte _

end Spelled

end Portrayal.Text.Percent

namespace Portrayal.Url

open Text.Percent (Spelled spelled_encode)

theorem spelled_parameter (key value : String) :
    Spelled ['&', '='] (parameter key value).toList := by
  rw [toList_parameter]
  exact (spelled_encode key).joined (by decide) (spelled_encode value)

theorem spelled_joinParameters : ∀ {texts : List String},
    (∀ t ∈ texts, Spelled ['&', '='] t.toList) → Spelled ['&', '='] (joinParameters texts).toList
  | [], _ => .nil
  | [first], h => h first List.mem_cons_self
  | first :: second :: rest, h => by
    have hrest := spelled_joinParameters fun t ht => h t (List.mem_cons_of_mem first ht)
    rw [toList_joinParameters_cons_cons]
    exact (h first List.mem_cons_self).joined (by decide) hrest

/-- A query loses nothing of the parameters it is written from: splitting it at `&` and each piece
at its first `=` gives them back in order. All of it is letters, digits, the nine marks, the two
separators, and percent signs with two upper-case hexadecimal digits behind them. -/
theorem parameterString_loses_nothing (ps : List (String × String)) :
    parameters? (parameterString ps) = some ps ∧
      Spelled ['&', '='] (parameterString ps).toList := by
  refine ⟨parameters?_parameterString ps, ?_⟩
  rw [parameterString_eq]
  refine spelled_joinParameters fun t ht => ?_
  obtain ⟨p, -, rfl⟩ := List.mem_map.mp ht
  exact spelled_parameter p.1 p.2

example : parameterString [("", "a=b&c"), ("é?", "50% #+"), ("", "")] =
    "=a%3Db%26c&%C3%A9%3F=50%25%20%23%2B&=" := by decide +kernel

end Portrayal.Url
