/-!
The shortest decimal that reads back as a given float. A positive float is `m * 2 ^ q`; the reals
that round to it form an interval around it, closed when `m` is even and open otherwise. For one
digit, two digits and so on, the two neighbours of the float on the grid of decimals with that many
digits are tested against the interval. The first grid with a hit wins, and of two hits the nearer
one. Everything is compared in whole numbers over one denominator.
-/

namespace Portrayal.Decimal

/-- A positive decimal `digits * 10 ^ exponent`. -/
structure Scientific where
  digits : Nat
  exponent : Int
  deriving DecidableEq, Repr

/-- A positive float and the two ends of its interval, over the common denominator `scale`. -/
structure Interval where
  low : Nat
  middle : Nat
  high : Nat
  scale : Nat
  /-- Whether the two ends round to the float as well. -/
  closed : Bool

/-- The number of fractions that share an exponent field: `2 ^ 52`. -/
def fractionCount : Nat := 0x10000000000000

/-- The interval of the finite positive float whose bits, without the sign, are `bits`. Below a power
of two the floats are twice as dense, so the lower end is nearer there. -/
def Interval.ofBits (bits : Nat) : Interval :=
  let field := bits / fractionCount
  let fraction := bits % fractionCount
  let m := if field = 0 then fraction else fraction + fractionCount
  let q : Int := (if field = 0 then 1 else field : Nat) - 1075
  let below := if fraction = 0 ∧ 1 < field then 1 else 2
  let up := Nat.pow 2 (q - 2).toNat
  { low := (4 * m - below) * up
    middle := 4 * m * up
    high := (4 * m + 2) * up
    scale := Nat.pow 2 (2 - q).toNat
    closed := m % 2 == 0 }

/-- Whether `n / d` lies in the interval once both are brought over one denominator; `shift` is the
factor that the ends still lack. -/
def Interval.contains (i : Interval) (point shift : Nat) : Bool :=
  if i.closed then i.low * shift ≤ point && point ≤ i.high * shift
  else i.low * shift < point && point < i.high * shift

/-- The power of ten of the first digit of `n / d`: how often ten goes into it, or how often it has
to be multiplied by ten to reach one. The search ends after `fuel` tenfold steps. -/
def leadingExponent (n d : Nat) : Nat → Int
  | 0 => 0
  | fuel + 1 =>
    if n < d then leadingExponent (10 * n) d fuel - 1
    else if 10 * d ≤ n then leadingExponent n (10 * d) fuel + 1
    else 0

/-- The best decimal whose last digit has weight `10 ^ exponent`, if one lies in the interval. Of
two at the same distance, `tieUp` asks for the upper one and else the even one is taken. -/
def Interval.onGrid? (i : Interval) (tieUp : Bool) (exponent : Int) : Option Scientific :=
  let shift := Nat.pow 10 (-exponent).toNat
  let unit := i.scale * Nat.pow 10 exponent.toNat
  let value := i.middle * shift
  let floor := value / unit
  let down := i.contains (floor * unit) shift
  let up := i.contains ((floor + 1) * unit) shift
  let rest := value % unit
  let upward := unit < 2 * rest || (2 * rest == unit && (tieUp || floor % 2 == 1))
  if up && (!down || upward) then some ⟨floor + 1, exponent⟩
  else if down then some ⟨floor, exponent⟩
  else none

/-- The first grid with a hit, from `count` fewer digits than seventeen on. -/
def Interval.search (i : Interval) (tieUp : Bool) (leading : Int) : Nat → Scientific
  | 0 => ⟨0, 0⟩
  | count + 1 =>
    match i.onGrid? tieUp (leading - (17 - (count + 1 : Nat))) with
    | some s => s
    | none => i.search tieUp leading count

/-- A decimal without trailing zero digits; `fuel` bounds how many are taken off. -/
def Scientific.reduce (s : Scientific) : Nat → Scientific
  | 0 => s
  | fuel + 1 =>
    if s.digits % 10 = 0 ∧ s.digits ≠ 0 then
      Scientific.reduce ⟨s.digits / 10, s.exponent + 1⟩ fuel
    else s

/-- The shortest decimal that reads back as the finite positive float with these bits. -/
def shortest (bits : Nat) (tieUp : Bool) : Scientific :=
  let i := Interval.ofBits bits
  (i.search tieUp (leadingExponent i.middle i.scale 400) 17).reduce 20

end Portrayal.Decimal
