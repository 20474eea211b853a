import Portrayal.Text.Blank

/-!
Reading a float from text. The form is an optional sign, then `inf`, `infinity` or `nan` in any
case, or digits with an optional point among or around them and an optional exponent. The result is
the float nearest to the decimal; too large a decimal is infinite and too small a one zero.
-/

namespace Portrayal.Decimal

/-- The value of a list of decimal digits. -/
def digitsValue (ds : List Char) : Nat :=
  ds.foldl (fun n d => 10 * n + (d.toNat - 0x30)) 0

/-- The float nearest to `digits * 10 ^ exponent`, without computing powers that cannot matter. -/
def nearest (digits : Nat) (exponent : Int) : Float :=
  let length := (Nat.toDigits 10 digits).length
  if digits = 0 then 0
  else if 400 < exponent + length then 1 / 0
  else if exponent + length < -400 then 0
  else Float.ofScientific digits (exponent < 0) exponent.natAbs

/-- Digits after an exponent mark, with an optional sign. Seven significant digits are kept: more
lie beyond every float for any text shorter than a million digits. -/
def readExponent? (cs : List Char) : Option Int :=
  let (negative, ds) :=
    match cs with
    | '+' :: ds => (false, ds)
    | '-' :: ds => (true, ds)
    | ds => (false, ds)
  if ds.isEmpty || !ds.all Char.isDigit then none
  else
    let size := digitsValue ((ds.dropWhile (· == '0')).take 7)
    some (if negative then -size else size)

/-- An unsigned decimal: digits, a point among or around them, an exponent. -/
def readUnsigned? (cs : List Char) : Option Float :=
  let whole := cs.takeWhile Char.isDigit
  let afterWhole := cs.dropWhile Char.isDigit
  let (fraction, rest) :=
    match afterWhole with
    | '.' :: ds => (ds.takeWhile Char.isDigit, ds.dropWhile Char.isDigit)
    | _ => ([], afterWhole)
  let digits := digitsValue (whole ++ fraction)
  if whole.isEmpty && fraction.isEmpty then none
  else
    match rest with
    | [] => some (nearest digits (-fraction.length))
    | mark :: rest =>
      if mark = 'e' ∨ mark = 'E' then
        (readExponent? rest).map fun e => nearest digits (e - fraction.length)
      else none

/-- An unsigned float: a name of a value that is not finite, or a decimal. -/
def readMagnitude? (cs : List Char) : Option Float :=
  let name := String.ofList (cs.map Char.toLower)
  if name = "inf" ∨ name = "infinity" then some (1 / 0)
  else if name = "nan" then some (0 / 0)
  else readUnsigned? cs

/-- The float that a text denotes, without blanks around it. -/
def readFloat? (s : String) : Option Float :=
  match s.toList with
  | '-' :: cs => (readMagnitude? cs).map fun x => -x
  | '+' :: cs => readMagnitude? cs
  | cs => readMagnitude? cs

end Portrayal.Decimal
