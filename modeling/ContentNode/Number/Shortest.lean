import ContentNode.Number.Binary64

/-!
# Shortest decimal digits

Among the decimals that round to a double, the ones with the fewest digits, and
of those the nearest to the double itself.  One decimal grid after the other is
tried, from one digit up: on each grid only the two neighbours of the double can
qualify.  An exact tie goes to the even digit.
-/

namespace ContentNode.Number.Shortest

/-- A decimal `digits * 10 ^ exponent`. -/
structure Decimal where
  digits : Nat
  exponent : Int
deriving DecidableEq

/-- `n * 10 ^ e` as a fraction. -/
def ratio (n : Nat) : Int → Nat × Nat
  | .ofNat e => (n * Nat.pow 10 e, 1)
  | .negSucc e => (n, Nat.pow 10 (e + 1))

/-- The reals that round to a double, in units of a quarter of the distance to
its larger neighbour: the value, and how far the interval reaches below and
above it.  The ends belong to it when the significand is even. -/
structure Interval where
  value : Nat
  below : Nat
  above : Nat
  /-- The unit is `2 ^ exponent`. -/
  exponent : Int
  closed : Bool

/-- The interval of a positive double. -/
def Interval.of (x : Binary64) : Interval :=
  let (significand, exponent) := x.parts
  let narrow := significand = Binary64.hiddenBit ∧ -1074 < exponent
  { value := 4 * significand
    below := if narrow then 1 else 2
    above := 2
    exponent := exponent - 2
    closed := significand % 2 = 0 }

/-- Whether `n / d` lies between `low` and `high`, the ends included if `closed`. -/
def within (n d low high : Nat) (closed : Bool) : Bool :=
  if closed then low * d ≤ n && n ≤ high * d else low * d < n && n < high * d

/-- The decimals of the grid `10 ^ power` next to the double that round to it,
nearest first. -/
def onGrid (i : Interval) (power : Int) : Option Decimal :=
  -- One step of the grid is `gn / gd` units.
  let (tn, td) := ratio 1 power
  let (gn, gd) := Binary64.scaled tn td i.exponent
  let lower := i.value * gd / gn
  let hit (k : Nat) : Bool :=
    k ≠ 0 && within (k * gn) gd (i.value - i.below) (i.value + i.above) i.closed
  let distanceLower := i.value * gd - lower * gn
  let distanceUpper := (lower + 1) * gn - i.value * gd
  match hit lower, hit (lower + 1) with
  | false, false => none
  | true, false => some ⟨lower, power⟩
  | false, true => some ⟨lower + 1, power⟩
  | true, true =>
    if distanceLower < distanceUpper ∨ (distanceLower = distanceUpper ∧ lower % 2 = 0) then
      some ⟨lower, power⟩
    else some ⟨lower + 1, power⟩

/-- The first grid with a hit, from `10 ^ power` down to finer ones. -/
def search (i : Interval) : Nat → Int → Decimal
  | 0, power => ⟨0, power⟩
  | steps + 1, power =>
    match onGrid i power with
    | some decimal => decimal
    | none => search i steps (power - 1)

/-- A decimal without trailing zeros in its digits. -/
def strip : Nat → Decimal → Decimal
  | 0, d => d
  | steps + 1, d =>
    if d.digits ≠ 0 ∧ d.digits % 10 = 0 then strip steps ⟨d.digits / 10, d.exponent + 1⟩ else d

/-- The shortest decimal that reads back as a positive finite double.  No double
exceeds `10 ^ 309`, and none needs a grid finer than `10 ^ (-342)`. -/
def decimal (x : Binary64) : Decimal :=
  let i := Interval.of x
  -- The largest power of ten not above the value is at most `power`.
  let power : Int := ((Nat.log2 i.value : Int) + i.exponent + 1) * 30103 / 100000 + 1
  strip 400 (search i 24 power)

end ContentNode.Number.Shortest
