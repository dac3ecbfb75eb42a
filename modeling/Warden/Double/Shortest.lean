import Warden.Double
/-!
# The shortest digits of a double

Every double other than zero owns an interval of the reals that round to it: halfway to each
neighbour, where the neighbour below a power of two is twice as close. The ends belong to it when
its significand is even, and always for a subnormal double.

The shortest digits are found on decimal grids whose first place is that of the interval's upper
end: for one, two, … places, the two grid points around the double are tried, the first grid
with a point in the interval wins, and of two such points the nearer one, a tie going to the even
last digit.
Eighteen places always suffice, since seventeen significant digits name every double.

A double is written positionally when its first digit stands between the fifth place after the
point and the sixteenth place before it, with at least one digit after the point: `0.00001`,
`123.456`, `10.0`. Any other double is written in scientific notation, one digit, the other
digits after a point and a signed exponent: `1e+16`, `9.999e-6`, `5e-324`. Zero is `0.0`, and a
negative double, zero included, has a minus sign.

Main statement: `text_neg` (the other sign only adds or drops the minus sign).
-/

namespace Warden.Double

/-- **Digits and their place**: the value `digits · 10 ^ place`. -/
structure Decimal where
  digits : Nat
  place : Int
  deriving DecidableEq, Repr

/-- `10 ^ e` as a ratio of natural numbers. -/
def powTen (e : Int) : Nat × Nat :=
  if 0 ≤ e then (Nat.pow 10 e.toNat, 1) else (1, Nat.pow 10 (-e).toNat)

/-- The number of decimal digits of a natural number. -/
def digitCount (n : Nat) : Nat :=
  (Nat.toDigits 10 n).length

/-- The least `k` with `num / den < 10 ^ k`, for positive `num` and `den`. -/
def decimalPlace (num den : Nat) : Int :=
  let k : Int := (digitCount num : Int) - digitCount den
  let (a, b) := powTen k
  if num * b < den * a then k else k + 1

/-- **The rounding interval of a double**: its lower end, value and upper end as numerators over
one denominator, and whether the ends belong to it. -/
structure Interval where
  low : Nat
  value : Nat
  high : Nat
  den : Nat
  closed : Bool

/-- The rounding interval of a double other than zero. -/
def interval (d : Double) : Interval :=
  let (a, b) := powTwo (d.exponent - 2)
  let m := d.significand
  let below := if m = Nat.pow 2 52 then 1 else 2
  ⟨(4 * m - below) * a, 4 * m * a, (4 * m + 2) * a, b, m % 2 == 0 || decide (m < Nat.pow 2 52)⟩

/-- The grid point at or below the double, with `n` places from the place `k`. -/
def floorAt (i : Interval) (k : Int) (n : Nat) : Decimal :=
  let (a, b) := powTen (k - n)
  ⟨i.value * b / (a * i.den), k - n⟩

/-- The grid point to take with `n` places from the place `k`, if one lies in the interval. -/
def pick (i : Interval) (k : Int) (n : Nat) : Option Decimal :=
  let (a, b) := powTen (k - n)
  let unit := a * i.den
  let v := i.value * b
  let c := v / unit
  let inside (c : Nat) : Bool :=
    if i.closed then decide (i.low * b ≤ c * unit ∧ c * unit ≤ i.high * b)
    else decide (i.low * b < c * unit ∧ c * unit < i.high * b)
  let down := inside c
  let up := inside (c + 1)
  let twice := 2 * (v - c * unit)
  if up && (!down || decide (unit < twice) || (decide (unit = twice) && c % 2 == 1)) then
    some ⟨c + 1, k - n⟩
  else if down then some ⟨c, k - n⟩
  else none

/-- **The shortest digits of a double** other than zero. -/
def shortest (d : Double) : Decimal :=
  let i := d.interval
  let k := decimalPlace i.high i.den
  ((List.range 18).findSome? fun n => pick i k (n + 1)).getD (floorAt i k 18)

/-- The number of digits before the point: the value lies in `[10 ^ (k - 1), 10 ^ k)`. -/
def Decimal.pointPlace (x : Decimal) : Int :=
  (digitCount x.digits : Int) + x.place

/-- **Digits written positionally**, with the zeros their place needs. -/
def Decimal.positional (x : Decimal) : String :=
  let ds := Nat.toDigits 10 x.digits
  let p := x.pointPlace
  if p ≤ 0 then "0." ++ String.ofList (List.replicate (-p).toNat '0' ++ ds)
  else if p < ds.length then String.ofList (ds.take p.toNat ++ '.' :: ds.drop p.toNat)
  else String.ofList (ds ++ List.replicate (p.toNat - ds.length) '0' ++ ['.', '0'])

/-- **Digits in scientific notation**: the first digit, the others after a point, and the
exponent with its sign. -/
def Decimal.scientific (x : Decimal) : String :=
  let ds := Nat.toDigits 10 x.digits
  let e := x.pointPlace - 1
  let mantissa := match ds with
    | d :: rest@(_ :: _) => d :: '.' :: rest
    | ds => ds
  String.ofList mantissa ++ (if e < 0 then "e-" else "e+") ++ toString e.natAbs

/-- Digits as a double is written: positionally from `1e-5` up to below `1e16`, else in
scientific notation. -/
def Decimal.written (x : Decimal) : String :=
  if -5 < x.pointPlace ∧ x.pointPlace ≤ 16 then x.positional else x.scientific

/-- The text of a magnitude: `0.0` for zero, else its shortest digits as a double is written. -/
def magnitude (d : Double) : String :=
  if d.isZero then "0.0" else d.shortest.written

/-- **The text of a double**, with a minus sign when it is negative. -/
def text (d : Double) : String :=
  (if d.negative then "-" else "") ++ d.magnitude

/-! ### Laws -/

theorem magnitude_neg (d : Double) : d.neg.magnitude = d.magnitude := rfl

theorem text_neg (d : Double) :
    d.neg.text = (if d.negative then "" else "-") ++ d.magnitude := by
  rw [text, magnitude_neg]
  cases h : d.negative <;> simp [neg, h]

/-- A tenth, a third, `1e16`, `1e-5` and the digits just below it, the least subnormal, and two
doubles halfway between their two nearest seventeen-digit neighbours. -/
example : (round false 1 10).text = "0.1" ∧ (round false 1 3).text = "0.3333333333333333" ∧
    (ofNat (10 ^ 16)).text = "1e+16" ∧ (ofNat (10 ^ 15)).text = "1000000000000000.0" ∧
    (round false 1 (10 ^ 5)).text = "0.00001" ∧ (round false 9999 (10 ^ 9)).text = "9.999e-6" ∧
    (⟨true, 1, -1074⟩ : Double).text = "-5e-324" ∧ (zero true).text = "-0.0" ∧
    (round false 8773495498113277 4).text = "2193373874528319.2" ∧
    (round false (4 * 2 ^ 50 + 3) 4).text = "1125899906842624.8" := by
  decide +kernel

end Warden.Double
