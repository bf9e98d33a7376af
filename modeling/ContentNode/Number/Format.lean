import ContentNode.Number.Shortest

/-!
# Writing doubles

Every format writes the shortest digits that read back.  Formats differ in
where positional notation ends.
-/

namespace ContentNode.Number.Format

/-- The digits of a natural number. -/
def digits (n : Nat) : List Char := Nat.toDigits 10 n

/-- Digits in positional notation, with at least one digit on each side of the
point. -/
def positional (d : Shortest.Decimal) : List Char :=
  let ds := digits d.digits
  match d.exponent with
  | .ofNat e => ds ++ List.replicate e '0' ++ ['.', '0']
  | .negSucc e =>
    let places := e + 1
    if ds.length ≤ places then
      ['0', '.'] ++ List.replicate (places - ds.length) '0' ++ ds
    else
      ds.take (ds.length - places) ++ ['.'] ++ ds.drop (ds.length - places)

/-- Digits in scientific notation, with the sign of the exponent always
written. -/
def scientific (d : Shortest.Decimal) : List Char :=
  let ds := digits d.digits
  let exponent : Int := d.exponent + (ds.length - 1 : Nat)
  let mantissa :=
    match ds with
    | [] => []
    | [c] => [c]
    | c :: rest => c :: '.' :: rest
  let sign := if exponent < 0 then '-' else '+'
  mantissa ++ ['e', sign] ++ digits exponent.natAbs

/-- The sign of a double, if it is written. -/
def sign (x : Binary64) : List Char := if x.isNegative then ['-'] else []

/-- The magnitude of a finite double, positional where its first digit stands
for a power of ten that satisfies `isPositional`. -/
def magnitude (isPositional : Int → Bool) (x : Binary64) : List Char :=
  if x.isZero then ['0', '.', '0']
  else
    let d := Shortest.decimal x
    let leading : Int := d.exponent + ((digits d.digits).length - 1 : Nat)
    if isPositional leading then positional d else scientific d

/-- A finite double: positional from `1e-5` up to below `1e16`. -/
def general (x : Binary64) : String :=
  String.ofList (sign x ++ magnitude (fun p => -5 ≤ p && p < 16) x)

/-- A double that is always positional; infinities and undefined values are
named. -/
def plain (x : Binary64) : String :=
  if x.isFinite then String.ofList (sign x ++ magnitude (fun _ => true) x)
  else if x.isInfinite then String.ofList (sign x ++ ['i', 'n', 'f'])
  else "NaN"

end ContentNode.Number.Format
