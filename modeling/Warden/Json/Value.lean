import Warden.Double
/-!
# JSON values

A JSON value as the schema tools read and write it. Objects keep their members in the order
written, duplicates included, because reading must see a key that is given twice. A number
keeps the text it was written in, which is how it is written back, and the value the reader
gives it, which is how messages name it.

## Failures

A text fails to read for one of three reasons: it ends before a value is complete, it is not
well-formed JSON (or is nested too deeply, or has text after the value), or it is well-formed
but does not have the expected shape.

## Numbers

A number is an optional minus, an integer part without a superfluous leading zero, an optional
fraction of at least one digit and an optional exponent of at least one digit with an optional
sign. A number that stops early at the end of the text fails with `eof`; any other malformed
number fails with `malformed`.

A number written without fraction or exponent is a natural number when it has no minus sign and
fits 64 bits, and a negative integer when it lies in `[-2 ^ 63, 0)`. Every other number, `-0`
included, is a double. Its significand keeps 64 bits: an integer part that no longer fits only
raises the decimal exponent, and digits past that point are ignored. The double is the nearest
double of the significand, multiplied by the nearest double of `10 ^ e` for `0 ≤ e ≤ 308`, or
divided by the nearest double of `10 ^ k` for `e = -k`, at most `10 ^ 308` at a time and
stopping at zero; each step rounds once. A non-zero significand with an exponent above 308, or
whose product rounds to infinity, is out of range and fails with `malformed`. An exponent too
large for 32 bits is out of range when it is positive and the significand is not zero, and
gives zero otherwise.

Main statement: `fromParts_zero` (a zero significand gives zero at every exponent).
-/

namespace Warden.Json

/-! ### Why a text was not read -/

/-- **Why a JSON text was not read.** -/
inductive Failure
  /-- The text ended inside a value, or holds no value at all. -/
  | eof
  /-- The text is not well-formed. -/
  | malformed
  /-- The text is well-formed but the value has the wrong shape. -/
  | data
  deriving DecidableEq, Repr

/-- The word for a failure. -/
def Failure.name : Failure → String
  | .eof => "eof"
  | .malformed => "syntax"
  | .data => "data"

/-! ### Numbers -/

/-- **The value of a JSON number.** -/
inductive Number
  /-- A natural number that fits 64 bits. -/
  | natural (n : Nat)
  /-- The negative integer `-n`, for `0 < n ≤ 2 ^ 63`. -/
  | negative (n : Nat)
  /-- Any other number, as a double. -/
  | double (d : Double)
  deriving DecidableEq, Repr

/-- The largest 64-bit significand. -/
def maxSignificand : Nat := Nat.pow 2 64 - 1

/-- The largest exponent a 32-bit integer holds. -/
def exponentLimit : Nat := Nat.pow 2 31 - 1

/-- The double nearest `10 ^ k`. -/
def powerOfTen (k : Nat) : Double :=
  Double.ofNat (Nat.pow 10 k)

/-- **Divides by `10 ^ k`**, at most `10 ^ 308` at a time, stopping at zero. -/
def scaleDown (f : Double) (k : Nat) : Double :=
  if k ≤ 308 then f.div (powerOfTen k)
  else if f.isZero then f
  else scaleDown (f.div (powerOfTen 308)) (k - 308)
termination_by k
decreasing_by omega

/-- **The double of a significand times `10 ^ e`**, or `none` when it is out of range. -/
def fromParts (negative : Bool) (significand : Nat) (e : Int) : Option Double :=
  let f := Double.ofNat significand
  let d :=
    if 0 ≤ e then
      if e ≤ 308 then some (f.mul (powerOfTen e.toNat))
      else if f.isZero then some f else none
    else some (scaleDown f (-e).toNat)
  match d with
  | some d => if d.isInfinite then none else some (if negative then d.neg else d)
  | none => none

/-- The value of a number written without fraction or exponent whose digits fit 64 bits. -/
def integer (negative : Bool) (n : Nat) : Number :=
  if !negative then .natural n
  else if n = 0 then .double (Double.zero true)
  else if n ≤ Nat.pow 2 63 then .negative n
  else .double (Double.ofNat n).neg

/-- The value of a decimal digit. -/
def digit? (c : Char) : Option Nat :=
  if '0' ≤ c ∧ c ≤ '9' then some (c.toNat - 48) else none

/-- Skips digits. -/
def skipDigits : List Char → List Char
  | c :: cs => if (digit? c).isSome then skipDigits cs else c :: cs
  | [] => []

/-- **Reads exponent digits** into `e` while it fits 32 bits; `ok` is false once it no longer
fits. -/
def exponentDigits : Nat → List Char → Bool × Nat × List Char
  | e, c :: cs =>
    match digit? c with
    | some d => if exponentLimit < e * 10 + d then (false, e, skipDigits cs) else exponentDigits (e * 10 + d) cs
    | none => (true, e, c :: cs)
  | e, [] => (true, e, [])

/-- The double of a significand and exponent with the rest of the text; out of range fails. -/
def ofParts (negative : Bool) (significand : Nat) (e : Int) (rest : List Char) :
    Except Failure (Number × List Char) :=
  match fromParts negative significand e with
  | some d => .ok (.double d, rest)
  | none => .error .malformed

/-- Reads an exponent after `e` or `E`, for a significand and the exponent so far. -/
def exponent (negative : Bool) (significand : Nat) (before : Int) (s : List Char) :
    Except Failure (Number × List Char) :=
  let (positive, s) := match s with
    | '+' :: r => (true, r)
    | '-' :: r => (false, r)
    | r => (true, r)
  match s with
  | [] => .error .eof
  | c :: cs =>
    match digit? c with
    | none => .error .malformed
    | some d =>
      match exponentDigits d cs with
      | (false, _, rest) =>
        if significand ≠ 0 ∧ positive then .error .malformed
        else .ok (.double (Double.zero negative), rest)
      | (true, e, rest) =>
        ofParts negative significand (if positive then before + e else before - e) rest

/-- Ends a number that has a fraction or an exponent. -/
def finish (negative : Bool) (significand : Nat) (e : Int) :
    List Char → Except Failure (Number × List Char)
  | c :: cs => if c = 'e' ∨ c = 'E' then exponent negative significand e cs
    else ofParts negative significand e (c :: cs)
  | [] => ofParts negative significand e []

/-- **Reads fraction digits**: each digit joins the significand and lowers the exponent, until
the significand would not fit 64 bits; the remaining digits are skipped. -/
def fractionDigits : Nat → Int → Nat → List Char → Nat × Int × Nat × List Char
  | m, e, n, c :: cs =>
    match digit? c with
    | some d =>
      if maxSignificand < m * 10 + d then (m, e, n + 1, skipDigits cs)
      else fractionDigits (m * 10 + d) (e - 1) (n + 1) cs
    | none => (m, e, n, c :: cs)
  | m, e, n, [] => (m, e, n, [])

/-- Reads a fraction after the point. -/
def fraction (negative : Bool) (significand : Nat) (e : Int) (s : List Char) :
    Except Failure (Number × List Char) :=
  match fractionDigits significand e 0 s with
  | (_, _, 0, []) => .error .eof
  | (_, _, 0, _ :: _) => .error .malformed
  | (m, e', _, rest) => finish negative m e' rest

/-- **Reads integer digits** into the significand while it fits 64 bits; each digit after that
raises the exponent. -/
def integerDigits : Nat → Nat → List Char → Nat × Nat × List Char
  | m, e, c :: cs =>
    match digit? c with
    | some d =>
      if e = 0 ∧ m * 10 + d ≤ maxSignificand then integerDigits (m * 10 + d) 0 cs
      else integerDigits m (e + 1) cs
    | none => (m, e, c :: cs)
  | m, e, [] => (m, e, [])

/-- Continues a number after its integer part. -/
def afterInteger (negative : Bool) (m : Nat) (e : Nat) :
    List Char → Except Failure (Number × List Char)
  | '.' :: cs => fraction negative m e cs
  | c :: cs =>
    if c = 'e' ∨ c = 'E' then exponent negative m e cs
    else if e = 0 then .ok (integer negative m, c :: cs)
    else ofParts negative m e (c :: cs)
  | [] => if e = 0 then .ok (integer negative m, []) else ofParts negative m e []

/-- **Reads a number** after its minus sign, if it has one, and returns its value and the rest
of the text. -/
def readNumber (negative : Bool) : List Char → Except Failure (Number × List Char)
  | [] => .error .eof
  | '0' :: cs =>
    match cs with
    | c :: _ => if (digit? c).isSome then .error .malformed else afterInteger negative 0 0 cs
    | [] => .ok (integer negative 0, [])
  | c :: cs =>
    match digit? c with
    | some d => let (m, e, rest) := integerDigits d 0 cs; afterInteger negative m e rest
    | none => .error .malformed

/-! ### Laws -/

theorem powerOfTen_negative (k : Nat) : (powerOfTen k).negative = false :=
  Double.negative_round false _ _

theorem scaleDown_zero (negative : Bool) (k : Nat) :
    scaleDown (Double.zero negative) k = Double.zero negative := by
  induction k using Nat.strongRecOn with
  | ind k ih =>
    rw [scaleDown]
    by_cases hk : k ≤ 308
    · simp [hk, Double.div, Double.ratio, Double.zero, powerOfTen_negative]
    · simp [hk, Double.isZero, Double.zero]

theorem fromParts_zero (negative : Bool) (e : Int) :
    fromParts negative 0 e = some (Double.zero negative) := by
  have h0 : Double.ofNat 0 = Double.zero false := by simp [Double.ofNat]
  unfold fromParts
  rw [h0]
  by_cases he : 0 ≤ e
  · by_cases hl : e ≤ 308
    · cases negative <;>
        simp [he, hl, Double.mul, Double.ratio, Double.zero, powerOfTen_negative,
          Double.isInfinite, Double.minExponent, Double.maxExponent, Double.neg]
    · cases negative <;>
        simp [he, hl, Double.isZero, Double.zero, Double.isInfinite, Double.minExponent,
          Double.maxExponent, Double.neg]
  · simp only [he, if_false, scaleDown_zero]
    cases negative <;>
      simp [Double.zero, Double.isInfinite, Double.minExponent, Double.maxExponent, Double.neg]

end Warden.Json

/-! ### Values -/

namespace Warden

/-- **A JSON value.** -/
inductive Json
  | null
  | bool (b : Bool)
  | num (text : String) (value : Json.Number)
  | str (s : String)
  | arr (items : List Json)
  | obj (members : List (String × Json))
  deriving Repr

namespace Json

/-- A list of texts as a JSON array. -/
def strs (xs : List String) : Json :=
  .arr (xs.map .str)

/-- An optional text as a JSON text or `null`. -/
def optStr : Option String → Json
  | some s => .str s
  | none => .null

end Json

end Warden
