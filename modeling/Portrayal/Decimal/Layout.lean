import Portrayal.Decimal.Shortest

/-!
How a float is written. The digits are always the shortest ones; a `Layout` says where positional
writing ends, whether a whole number keeps a point, how the exponent looks and what stands for the
values that are not finite.
-/

namespace Portrayal.Decimal

/-- The decisions that turn digits into text. -/
structure Layout where
  /-- The powers of ten of the first digit that are written positionally. -/
  positional : Int → Bool
  /-- Whether a positional whole number ends in a point and a zero. -/
  keepPoint : Bool
  /-- Whether the upper one of two equally near decimals is taken, and else the even one. -/
  tieUp : Bool
  /-- The text for what is not a number. -/
  nan : String
  /-- The text for infinity. -/
  infinity : String
  /-- The text for infinity below zero. -/
  minusInfinity : String

/-- Digits with a point in them: the first digit has the weight `10 ^ leading`. -/
def positionalChars (digits : List Char) (leading : Int) (keepPoint : Bool) : List Char :=
  let whole := (leading + 1).toNat
  if leading < 0 then
    ['0', '.'] ++ List.replicate (-leading - 1).toNat '0' ++ digits
  else if digits.length ≤ whole then
    digits ++ List.replicate (whole - digits.length) '0' ++ (if keepPoint then ['.', '0'] else [])
  else digits.take whole ++ ['.'] ++ digits.drop whole

/-- Digits with a point after the first one and a signed exponent. -/
def exponentChars (digits : List Char) (leading : Int) : List Char :=
  let fraction := digits.drop 1
  digits.take 1 ++ (if fraction.isEmpty then [] else '.' :: fraction) ++ ['e'] ++
    [if leading < 0 then '-' else '+'] ++ Nat.toDigits 10 leading.natAbs

/-- A positive decimal in a layout. -/
def Layout.chars (l : Layout) (s : Scientific) : List Char :=
  let digits := Nat.toDigits 10 s.digits
  let leading := s.exponent + digits.length - 1
  if l.positional leading then positionalChars digits leading l.keepPoint
  else exponentChars digits leading

/-- The weight of the sign bit of a float: `2 ^ 63`. -/
def signWeight : Nat := 0x8000000000000000

/-- The bits of infinity without the sign. -/
def infinityBits : Nat := 0x7ff0000000000000

/-- A float in a layout. The sign bit is always shown, also that of zero. -/
def Layout.text (l : Layout) (x : Float) : String :=
  let bits := x.toBits.toNat
  let negative := signWeight ≤ bits
  let magnitude := bits % signWeight
  if infinityBits < magnitude then l.nan
  else if magnitude = infinityBits then (if negative then l.minusInfinity else l.infinity)
  else
    let digits :=
      if magnitude = 0 then l.chars ⟨0, 0⟩ else l.chars (shortest magnitude l.tieUp)
    String.ofList ((if negative then ['-'] else []) ++ digits)

/-- Plain writing: all digits positionally, no exponent, no point behind a whole number; of two
equally near decimals the upper one. -/
def plain : Layout where
  positional _ := true
  keepPoint := false
  tieUp := true
  nan := "NaN"
  infinity := "inf"
  minusInfinity := "-inf"

end Portrayal.Decimal

/-- A float in plain writing. -/
def Float.plainText (x : Float) : String := Portrayal.Decimal.plain.text x
