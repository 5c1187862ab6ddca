/-!
# Binary floating point

Finite numbers of 53 binary digits with exponents as wide as eleven bits allow. All arithmetic is
exact arithmetic on natural numbers followed by one rounding to the nearest such number, an exact
half going to the even neighbour.
-/

namespace Tapewalk

/-- The quotient of two natural numbers, rounded to the nearest integer, a half to the even one. -/
def roundDiv (num den : Nat) : Nat :=
  let q := num / den
  let twice := 2 * (num % den)
  if twice < den then q
  else if den < twice then q + 1
  else q + q % 2

/-- The magnitude `m * 2 ^ q`. -/
structure Binary64 where
  m : Nat
  q : Int
  deriving DecidableEq, Repr, Inhabited

namespace Binary64

/-- Digits of a significand. -/
def precision : Nat := 53

/-- The least exponent, that of the numbers next to zero. -/
def minExponent : Int := -1074

/-- The greatest exponent; what needs a greater one is out of range. -/
def maxExponent : Int := 971

/-- No magnitude at all. -/
def zero : Binary64 := ⟨0, minExponent⟩

/-- Whether the magnitude is zero. -/
def isZero (x : Binary64) : Bool := x.m == 0

/-- `⌊log₂ (num / den)⌋` for positive numbers. -/
def logRatio (num den : Nat) : Int :=
  let guess : Int := (num.log2 : Int) - den.log2
  if den * Nat.pow 2 guess.toNat ≤ num * Nat.pow 2 (-guess).toNat then guess else guess - 1

/-- The number of a significand that was rounded and may have got a digit too many by it. -/
def ofRounded (m : Nat) (q : Int) : Binary64 :=
  if m = Nat.pow 2 precision then ⟨Nat.pow 2 (precision - 1), q + 1⟩ else ⟨m, q⟩

/-- The number nearest to `num / den`; `none` if it is out of range. -/
def ofRatio (num den : Nat) : Option Binary64 :=
  if num = 0 then some zero
  else
    let q := max minExponent (logRatio num den - (precision - 1 : Nat))
    let m := roundDiv (num * Nat.pow 2 (-q).toNat) (den * Nat.pow 2 q.toNat)
    let x := ofRounded m q
    if x.q ≤ maxExponent then some x else none

/-- The number nearest to a natural number. -/
def ofNat (n : Nat) : Option Binary64 := ofRatio n 1

/-- The product of two numbers, rounded. -/
def mul (x y : Binary64) : Option Binary64 :=
  let e := x.q + y.q
  ofRatio (x.m * y.m * Nat.pow 2 e.toNat) (Nat.pow 2 (-e).toNat)

/-- The quotient of two numbers, rounded. -/
def div (x y : Binary64) : Option Binary64 :=
  let e := x.q - y.q
  ofRatio (x.m * Nat.pow 2 e.toNat) (y.m * Nat.pow 2 (-e).toNat)

/-- The greatest number whose square is at most `n`, for an `n` of twice as many binary digits as
the given number of them. -/
def floorSqrt : (digits : Nat) → (n : Nat) → Nat
  | 0, _ => 0
  | digits + 1, n =>
    let r := 2 * floorSqrt digits (n / 4)
    if (r + 1) * (r + 1) ≤ n then r + 1 else r

/-- The square root, rounded. The root of a natural number is never halfway between two others, and
it is below the half iff the number is at most `r * r + r`. -/
def sqrt (x : Binary64) : Binary64 :=
  if x.isZero then x
  else
    let least := 2 * (precision - 1) - x.m.log2
    let shift := if (x.q - least) % 2 = 0 then least else least + 1
    let n := x.m * Nat.pow 2 shift
    let r := floorSqrt precision n
    ofRounded (if n ≤ r * r + r then r else r + 1) ((x.q - shift) / 2)

/-- The number without its fraction. -/
def floor (x : Binary64) : Nat := x.m * Nat.pow 2 x.q.toNat / Nat.pow 2 (-x.q).toNat

/-- Powers of ten are rounded before they are used; the last one in range is `10 ^ 308`. -/
def maxTen : Nat := 308

/-- Divides by `10 ^ k`, a whole `10 ^ 308` at a time, and stops early at zero. -/
def divTen (x : Binary64) (k : Nat) : Option Binary64 := do
  if k ≤ maxTen then
    x.div (← ofNat (Nat.pow 10 k))
  else if x.isZero then
    pure x
  else
    divTen (← x.div (← ofNat (Nat.pow 10 maxTen))) (k - maxTen)
termination_by k
decreasing_by simp_all [maxTen]; omega

/-- The number that the decimal `significand * 10 ^ e` is read as: significand and power of ten are
rounded first, and their product or quotient once more. -/
def ofDecimal (significand : Nat) (e : Int) : Option Binary64 := do
  let x ← ofNat significand
  if e < 0 then x.divTen (-e).toNat
  else if e.toNat ≤ maxTen then x.mul (← ofNat (Nat.pow 10 e.toNat))
  else if x.isZero then pure x
  else none

end Binary64

end Tapewalk
