import Tapewalk.Decimal.Binary64
import Tapewalk.Text.Digits

/-!
# Shortest decimals

The decimal with the fewest digits among those that round to a given binary number and, of these,
the one nearest to it.
-/

namespace Tapewalk

/-- The number `digits * 10 ^ exponent`. -/
structure Decimal where
  digits : Nat
  exponent : Int
  deriving DecidableEq, Repr, Inhabited

namespace Decimal

/-- Compares `a * 10 ^ i` with `b * 2 ^ j`. -/
def compareScaled (a : Nat) (i : Int) (b : Nat) (j : Int) : Ordering :=
  compare (a * Nat.pow 10 i.toNat * Nat.pow 2 (-j).toNat)
    (b * Nat.pow 2 j.toNat * Nat.pow 10 (-i).toNat)

/-- The decimal lies between the halfway points to the neighbours of `x`. The points themselves
belong to `x` if its significand is even, and the gap below a power of two is half as wide. -/
def roundsTo (d : Decimal) (x : Binary64) : Bool :=
  let narrow := x.m == Nat.pow 2 (Binary64.precision - 1) && Binary64.minExponent < x.q
  let low := compareScaled d.digits d.exponent (4 * x.m - if narrow then 1 else 2) (x.q - 2)
  let high := compareScaled d.digits d.exponent (4 * x.m + 2) (x.q - 2)
  let ends := x.m % 2 == 0
  (low == .gt || (ends && low == .eq)) && (high == .lt || (ends && high == .eq))

/-- The least `k` from `start` on, within `fuel` tries, with `x < 10 ^ k`. -/
def scaleFrom (x : Binary64) : (fuel : Nat) → (start : Int) → Int
  | 0, k => k
  | fuel + 1, k => if compareScaled 1 k x.m x.q == .gt then k else scaleFrom x fuel (k + 1)

/-- The least `k` with `x < 10 ^ k`. -/
def scale (x : Binary64) : Int := scaleFrom x 650 (-330)

/-- The neighbour of `x` on the grid of multiples of `10 ^ k` that rounds to `x`, if one does; of
two the nearer, and of two equally near the even one. -/
def onGrid (x : Binary64) (k : Int) : Option Decimal :=
  let num := x.m * Nat.pow 2 x.q.toNat * Nat.pow 10 (-k).toNat
  let den := Nat.pow 2 (-x.q).toNat * Nat.pow 10 k.toNat
  let below : Decimal := ⟨num / den, k⟩
  let above : Decimal := ⟨num / den + 1, k⟩
  let nearest : Decimal := ⟨roundDiv num den, k⟩
  if nearest.roundsTo x then some nearest
  else if below.roundsTo x then some below
  else if above.roundsTo x then some above
  else none

/-- Moves trailing zeros into the exponent, `fuel` of them at most. -/
def stripZeros : (fuel : Nat) → Decimal → Decimal
  | 0, d => d
  | fuel + 1, d =>
    if d.digits ≠ 0 ∧ d.digits % 10 = 0 then stripZeros fuel ⟨d.digits / 10, d.exponent + 1⟩ else d

/-- The decimal with the fewest digits that rounds to `x`, found on the coarsest grid that has one.
Seventeen digits always suffice. -/
def shortest (x : Binary64) : Decimal :=
  if x.isZero then ⟨0, 0⟩
  else
    let k := scale x
    let found := (List.range 17).findSome? fun n => onGrid x (k - (n + 1 : Nat))
    stripZeros 20 (found.getD ⟨x.m * Nat.pow 5 (-x.q).toNat * Nat.pow 2 x.q.toNat, min 0 x.q⟩)

/-- Plain notation, with a fraction of at least one digit, for magnitudes from `10 ^ (-5)` up to
`10 ^ 16`, and one digit before the point with a signed exponent for all others. -/
def toText (d : Decimal) : List Char :=
  let ds := Digits.decimal d.digits
  let e : Int := d.exponent + (ds.length - 1 : Nat)
  if -5 ≤ e ∧ e < 16 ∨ d.digits = 0 then
    if e < 0 then
      '0' :: '.' :: List.replicate ((-e).toNat - 1) '0' ++ ds
    else
      let whole := ds.take (e.toNat + 1)
      let fraction := ds.drop (e.toNat + 1)
      whole ++ List.replicate (e.toNat + 1 - whole.length) '0' ++ '.' ::
        (if fraction.isEmpty then ['0'] else fraction)
  else
    let sign := if e < 0 then '-' else '+'
    let fraction := ds.drop 1
    ds.take 1 ++ (if fraction.isEmpty then [] else '.' :: fraction) ++
      'e' :: sign :: Digits.decimal e.natAbs

end Decimal

end Tapewalk
