/-!
# Binary floating point numbers

Numbers with a fraction are kept with 53 binary digits and an exponent, as
`mantissa * 2 ^ exponent`. A number written in decimal is rounded to the
nearest such number, and of two equally near ones to the one with an even
mantissa. It is written with the fewest decimal digits that are rounded to
the same number again, and among those with the digits nearest to it.

All of this is done with whole numbers, so nothing is rounded on the way.
-/

namespace ImportPolicy.Document

/-- A floating point number. -/
inductive Real where
  | nan
  | infinite (negative : Bool)
  /-- The number `mantissa * 2 ^ exponent`, perhaps negated. -/
  | finite (negative : Bool) (mantissa : Nat) (exponent : Int)
  deriving DecidableEq, Repr

namespace Real

/-- The least exponent. -/
def leastExponent : Int := -1074

/-- The exponent from which on a number is infinite. -/
def exponentLimit : Int := 972

/-- The number of binary digits of a mantissa. -/
def precision : Nat := 53

/-- A quotient rounded to the nearest whole number, of two equally near ones
to the even one. -/
def roundDiv (numerator denominator : Nat) : Nat :=
  let q := numerator / denominator
  let r := numerator % denominator
  if 2 * r < denominator then q
  else if denominator < 2 * r then q + 1
  else if q % 2 = 0 then q else q + 1

/-- The quotient `numerator / denominator` divided by `2 ^ exponent` and
rounded. -/
def scaled (numerator denominator : Nat) (exponent : Int) : Nat :=
  if exponent < 0 then roundDiv (numerator * Nat.pow 2 exponent.natAbs) denominator
  else roundDiv numerator (denominator * Nat.pow 2 exponent.natAbs)

/-- The number nearest to a quotient that is not zero. -/
def ofQuotient (negative : Bool) (numerator denominator : Nat) : Real :=
  -- the quotient lies between `2 ^ (size - 1)` and `2 ^ (size + 1)`
  let size : Int := (Nat.log2 numerator : Int) - (Nat.log2 denominator : Int)
  let attempt (exponent : Int) : Nat × Int :=
    let exponent := max exponent leastExponent
    (scaled numerator denominator exponent, exponent)
  let (mantissa, exponent) :=
    match attempt (size - precision) with
    | (m, e) => if m < Nat.pow 2 precision then (m, e) else attempt (size - precision + 1)
  let (mantissa, exponent) :=
    if mantissa = Nat.pow 2 precision then (Nat.pow 2 (precision - 1), exponent + 1)
    else (mantissa, exponent)
  if exponent ≥ exponentLimit then .infinite negative else .finite negative mantissa exponent

/-- The number nearest to `digits * 10 ^ exponent`. Numbers far outside the
range of what can be kept are not computed. -/
def ofDecimal (negative : Bool) (digits : Nat) (exponent : Int) : Real :=
  let size : Int := (Nat.toDigits 10 digits).length + exponent
  if digits = 0 ∨ size < -400 then .finite negative 0 0
  else if size > 400 then .infinite negative
  else if exponent < 0 then ofQuotient negative digits (Nat.pow 10 exponent.natAbs)
  else ofQuotient negative (digits * Nat.pow 10 exponent.natAbs) 1

/-- Whether a number is zero. -/
def isZero : Real → Bool
  | .finite _ 0 _ => true
  | _ => false

/-- Decimal digits and the place of the point: the number is
`0.digits * 10 ^ point`. -/
structure Shortest where
  /-- The digits. -/
  digits : List Char
  /-- The place of the point. -/
  point : Int

/-- The number `numerator / denominator` on the grid of the multiples of
`10 ^ place`: the nearest multiple below it or at it, and whether the one
above is nearer, or equally near and even. -/
def onGrid (numerator denominator : Nat) (place : Int) : Nat × Bool :=
  let (n, d) :=
    if place < 0 then (numerator * Nat.pow 10 place.natAbs, denominator)
    else (numerator, denominator * Nat.pow 10 place.natAbs)
  let q := n / d
  let r := n % d
  (q, d < 2 * r || (d == 2 * r && q % 2 == 1))

/-- Finds the coarsest grid with a multiple that is rounded to the given
number. -/
def search (target : Real) (numerator denominator : Nat) :
    Nat → Int → Nat × Int
  | 0, place => ((onGrid numerator denominator place).1, place)
  | n + 1, place =>
    let (low, above) := onGrid numerator denominator place
    let good (m : Nat) : Bool := m ≠ 0 && ofDecimal false m place = target
    let near := if above then low + 1 else low
    let far := if above then low else low + 1
    if good near then (near, place)
    else if good far then (far, place)
    else search target numerator denominator n (place - 1)

/-- The shortest digits of `mantissa * 2 ^ exponent`, which is not zero. -/
def shortest (mantissa : Nat) (exponent : Int) : Shortest :=
  let (numerator, denominator) :=
    if exponent < 0 then (mantissa, Nat.pow 2 exponent.natAbs)
    else (mantissa * Nat.pow 2 exponent.natAbs, 1)
  -- a power of ten above the number; both lengths are off by at most one
  let top : Int := (Nat.toDigits 10 numerator).length - (Nat.toDigits 10 denominator).length + 1
  let (m, place) := search (.finite false mantissa exponent) numerator denominator 20 top
  let digits := Nat.toDigits 10 m
  let kept := (digits.reverse.dropWhile (· = '0')).reverse
  { digits := kept, point := digits.length + place }

/-- How numbers are written: with a point where it falls among sixteen
digits or at most four zeros before them, and with an exponent of at least
two digits otherwise. -/
def showDigits (s : Shortest) : List Char :=
  let count := s.digits.length
  if -4 < s.point && s.point ≤ 16 then
    if s.point ≤ 0 then '0' :: '.' :: List.replicate s.point.natAbs '0' ++ s.digits
    else if s.point.toNat < count then
      s.digits.take s.point.toNat ++ '.' :: s.digits.drop s.point.toNat
    else s.digits ++ List.replicate (s.point.toNat - count) '0' ++ ['.', '0']
  else
    let exponent := s.point - 1
    let fraction := match s.digits.drop 1 with
      | [] => []
      | more => '.' :: more
    let power := Nat.toDigits 10 exponent.natAbs
    s.digits.take 1 ++ fraction ++ 'e' :: (if exponent < 0 then '-' else '+')
      :: List.replicate (2 - power.length) '0' ++ power

/-- A number as it is written in messages. -/
def toText : Real → String
  | .nan => "nan"
  | .infinite negative => if negative then "-inf" else "inf"
  | .finite negative mantissa exponent =>
    let body := if mantissa = 0 then ['0', '.', '0'] else showDigits (shortest mantissa exponent)
    String.ofList (if negative then '-' :: body else body)

end Real

end ImportPolicy.Document
