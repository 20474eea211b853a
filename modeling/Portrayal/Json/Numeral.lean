import Portrayal.Decimal.Reading
import Portrayal.Json.Basic

/-!
Numbers in JSON text. A numeral is taken apart into sign, whole part, fraction and exponent. Without
fraction and exponent it is a whole number if 64 bits hold it. Otherwise the leading digits that fit
into 64 bits are rounded to a float, which is then scaled by one power of ten; that is the nearest
float as long as the digits and the power are exact, and may be its neighbour beyond that.
-/

namespace Portrayal.Json

/-- The parts of a numeral, with digits as characters. -/
structure Numeral where
  negative : Bool
  whole : List Char
  fraction : Option (List Char)
  /-- Whether the exponent is below zero, and its digits. -/
  exponent : Option (Bool × List Char)
  deriving DecidableEq, Repr

/-- The exponent of a numeral, if one follows; nothing may come after it. -/
def readExponent? : List Char → Option (Option (Bool × List Char))
  | [] => some none
  | mark :: cs =>
    if mark = 'e' ∨ mark = 'E' then
      let (negative, ds) :=
        match cs with
        | '+' :: ds => (false, ds)
        | '-' :: ds => (true, ds)
        | ds => (false, ds)
      if !ds.isEmpty && ds.all Char.isDigit then some (some (negative, ds)) else none
    else none

/-- The fraction and the exponent of a numeral, if they follow. -/
def readFraction? (cs : List Char) : Option (Option (List Char) × Option (Bool × List Char)) :=
  match cs with
  | '.' :: cs =>
    let ds := cs.takeWhile Char.isDigit
    if ds.isEmpty then none
    else (readExponent? (cs.dropWhile Char.isDigit)).map fun e => (some ds, e)
  | cs => (readExponent? cs).map fun e => (none, e)

/-- The parts of a word that is a numeral: no plus sign, no superfluous zero in front, digits on
both sides of the point. -/
def Numeral.ofChars? (cs : List Char) : Option Numeral :=
  let (negative, cs) :=
    match cs with
    | '-' :: rest => (true, rest)
    | cs => (false, cs)
  let whole := cs.takeWhile Char.isDigit
  if whole.isEmpty || (whole.head? == some '0' && whole.length != 1) then none
  else
    (readFraction? (cs.dropWhile Char.isDigit)).map fun (fraction, exponent) =>
      ⟨negative, whole, fraction, exponent⟩

/-- Appends digits to a number while the result stays below `2 ^ 64`: the number, and the digits
that were left over. -/
def appendDigits (n : Nat) : List Char → Nat × List Char
  | [] => (n, [])
  | d :: ds =>
    let next := 10 * n + (d.toNat - 0x30)
    if next < 0x10000000000000000 then appendDigits next ds else (n, d :: ds)

/-- A significand times a power of ten, or none when that is infinite. Division goes in steps of
`10 ^ 308`, and after two of them no significand below `2 ^ 64` is left. -/
def scaled? (significand : Nat) (exponent : Int) : Option Float :=
  let f := (UInt64.ofNat significand).toFloat
  let power (k : Nat) := Float.ofScientific 1 false k
  if 0 ≤ exponent then
    let k := exponent.toNat
    if k ≤ 308 then
      let x := f * power k
      if x.isInf then none else some x
    else if significand = 0 then some 0 else none
  else
    let k := (-exponent).toNat
    if k ≤ 308 then some (f / power k)
    else if k ≤ 616 then some (f / power 308 / power (k - 308))
    else some 0

/-- The document that a numeral denotes. -/
def Numeral.value (n : Numeral) : Json :=
  let (lead, dropped) := appendDigits 0 n.whole
  let signed (x : Option Float) : Json :=
    match x with
    | some x => float (if n.negative then -x else x)
    | none => unheld
  match n.fraction, n.exponent, dropped with
  | none, none, [] =>
    if !n.negative then integer lead
    else if lead = 0 ∨ 0x8000000000000000 < lead then signed (some (UInt64.ofNat lead).toFloat)
    else integer (-lead)
  | fraction, exponent, _ =>
    let fraction := fraction.getD []
    let (significand, unused) := appendDigits lead fraction
    let base : Int := dropped.length - (fraction.length - unused.length : Nat)
    match exponent with
    | none => signed (scaled? significand base)
    | some (below, ds) =>
      let size := Decimal.digitsValue ds
      if 0x80000000 ≤ size then
        if significand = 0 ∨ below then signed (some 0) else unheld
      else signed (scaled? significand (if below then base - size else base + size))

end Portrayal.Json
