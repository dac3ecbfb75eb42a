/-!
# Doubles

A double is a binary floating-point number of 53 significant bits: a sign and a magnitude
`significand · 2 ^ exponent`. Rounding a ratio of natural numbers gives the double nearest to
it, a tie going to the even significand. Its significand lies below `2 ^ 53` and, unless the
exponent is the least one `-1074` (zero and the subnormal doubles), at least `2 ^ 52`, so each
value has one form. A rounded value whose exponent passes `971` lies at or beyond half a unit
above the largest double and stands for infinity.

Products and quotients of doubles are their exact values rounded once.

Main statement: `round_zero` (zero rounds to zero, keeping its sign).
-/

namespace Warden

/-- **A double**: a sign and the magnitude `significand · 2 ^ exponent`. -/
structure Double where
  negative : Bool
  significand : Nat
  exponent : Int
  deriving DecidableEq, Repr

namespace Double

/-- The least exponent of a significand. -/
def minExponent : Int := -1074

/-- The greatest exponent of a significand: `(2 ^ 53 - 1) · 2 ^ 971` is the largest double. -/
def maxExponent : Int := 971

/-- Zero with a sign. -/
def zero (negative : Bool) : Double :=
  ⟨negative, 0, minExponent⟩

/-- Whether the magnitude is zero. -/
def isZero (d : Double) : Bool :=
  d.significand == 0

/-- Whether the double stands for infinity. -/
def isInfinite (d : Double) : Bool :=
  decide (maxExponent < d.exponent)

/-- The double with the other sign. -/
def neg (d : Double) : Double :=
  { d with negative := !d.negative }

/-- Divides `n` by `d`, rounding to the nearest integer and a tie to the even one. -/
def divNearestEven (n d : Nat) : Nat :=
  let q := n / d
  let r := n % d
  if d < 2 * r ∨ (2 * r = d ∧ q % 2 = 1) then q + 1 else q

/-- `2 ^ e` as a ratio of natural numbers. -/
def powTwo (e : Int) : Nat × Nat :=
  if 0 ≤ e then (Nat.pow 2 e.toNat, 1) else (1, Nat.pow 2 (-e).toNat)

/-- The greatest `k` with `2 ^ k ≤ num / den`, for positive `num` and `den`. -/
def log2Ratio (num den : Nat) : Int :=
  let k : Int := (num.log2 : Int) - den.log2
  let (a, b) := powTwo k
  if den * a ≤ num * b then k else k - 1

/-- `num / (den · 2 ^ e)` rounded to the nearest integer, a tie to the even one. -/
def scaledRound (num den : Nat) (e : Int) : Nat :=
  let (a, b) := powTwo e
  divNearestEven (num * b) (den * a)

/-- **The double nearest `num / den`**, with a sign; a tie goes to the even significand. -/
def round (negative : Bool) (num den : Nat) : Double :=
  if num = 0 then zero negative
  else
    let e := max (log2Ratio num den - 52) minExponent
    let m := scaledRound num den e
    if m = Nat.pow 2 53 then ⟨negative, Nat.pow 2 52, e + 1⟩ else ⟨negative, m, e⟩

/-- The double nearest a natural number. -/
def ofNat (n : Nat) : Double :=
  round false n 1

/-- The magnitude as a ratio of natural numbers. -/
def ratio (d : Double) : Nat × Nat :=
  let (a, b) := powTwo d.exponent
  (d.significand * a, b)

/-- **The product**, rounded once. -/
def mul (x y : Double) : Double :=
  let (a, b) := x.ratio
  let (c, e) := y.ratio
  round (x.negative != y.negative) (a * c) (b * e)

/-- **The quotient** by a double that is not zero, rounded once. -/
def div (x y : Double) : Double :=
  let (a, b) := x.ratio
  let (c, e) := y.ratio
  round (x.negative != y.negative) (a * e) (b * c)

/-! ### Laws -/

@[simp] theorem round_zero (negative : Bool) (den : Nat) : round negative 0 den = zero negative := by
  simp [round]

@[simp] theorem negative_round (negative : Bool) (num den : Nat) :
    (round negative num den).negative = negative := by
  unfold round
  split
  · rfl
  · dsimp only
    split <;> rfl

theorem powTwo_of_nonneg {e : Int} (h : 0 ≤ e) : powTwo e = (Nat.pow 2 e.toNat, 1) := by
  simp [powTwo, h]

/-- A power of two is a double with significand `2 ^ 52`; a third rounds to the nearest
significand, and `10 ^ 23`, halfway between two doubles, to the even one. -/
example : ofNat (2 ^ 60) = ⟨false, 2 ^ 52, 8⟩ ∧ round false 1 3 = ⟨false, 6004799503160661, -54⟩ ∧
    ofNat (10 ^ 23) = ⟨false, 5960464477539062, 24⟩ := by
  decide +kernel

end Double

end Warden
