import TypedPath.Decimal.Basic

/-! Binary floating-point numbers, kept as exact integers: rounding to a format, and the shortest
decimal that rounds back. -/
namespace TypedPath

/-- The finite numbers of a format are `m * 2 ^ q` with `m < 2 ^ precision` and `least ≤ q ≤
greatest`. -/
structure FloatFormat where
  precision : Nat
  least : Int
  greatest : Int
  deriving Repr, DecidableEq

namespace FloatFormat

def single : FloatFormat := ⟨24, -149, 104⟩
def double : FloatFormat := ⟨53, -1074, 971⟩

end FloatFormat

inductive Floating
  | finite (negative : Bool) (mantissa : Nat) (exponent : Int)
  | infinite (negative : Bool)
  | notANumber
  deriving Repr, DecidableEq, Inhabited

namespace Floating

variable (format : FloatFormat)

/-- The quotient to the nearest integer; a half goes to the even neighbour. -/
def roundDiv (num den : Nat) : Nat :=
  let q := num / den
  let r := num % den
  if 2 * r < den then q else if den < 2 * r then q + 1 else q + q % 2

/-- `num / den` divided by `2 ^ q`, as a fraction. -/
def scaled (num den : Nat) (q : Int) : Nat × Nat :=
  if 0 ≤ q then (num, den <<< q.toNat) else (num <<< (-q).toNat, den)

/-- The number of the format nearest to `num / den`; a half goes to the even mantissa. -/
def ofRatio (negative : Bool) (num den : Nat) : Floating :=
  if num = 0 then finite negative 0 format.least
  else
    let e : Int := (Nat.log2 num : Int) - Nat.log2 den
    let (a, b) := scaled num den e
    let top := if a < b then e - 1 else e
    let q := max (top - format.precision + 1) format.least
    let (a, b) := scaled num den q
    let m := roundDiv a b
    let (m, q) := if m = 1 <<< format.precision then (m / 2, q + 1) else (m, q)
    if format.greatest < q then infinite negative else finite negative m q

/-- The number of the format nearest to a decimal. Beyond 400 places either way nothing but zero
and infinity is left. -/
def ofDecimal (negative : Bool) (d : Decimal) : Floating :=
  let n := d.coefficient.natAbs
  let places : Int := (Decimal.digits n).length + d.exponent
  if n = 0 ∨ places < -400 then finite negative 0 format.least
  else if 400 < places then infinite negative
  else if 0 ≤ d.exponent then ofRatio format negative (n * Decimal.pow10 d.exponent.toNat) 1
  else ofRatio format negative n (Decimal.pow10 (-d.exponent).toNat)

def parse? (s : String) : Option Floating :=
  let (negative, unsigned) := match s.toList with
    | '-' :: cs => (true, String.ofList cs)
    | '+' :: cs => (false, String.ofList cs)
    | cs => (false, String.ofList cs)
  match unsigned with
  | "NaN" => some notANumber
  | "Inf" => some (infinite negative)
  | t => if t.startsWith "-" || t.startsWith "+" then none
    else (Decimal.parse? t).map (ofDecimal format negative)

/-- The decimals on the grid of `10 ^ k` next to `value / den`, if they lie between the bounds. Of
two the nearer is taken, and of two equally near the even one. -/
def gridPoint? (lower value upper den : Nat) (closed : Bool) (k : Int) : Option Decimal :=
  let unit := if 0 ≤ k then den * Decimal.pow10 k.toNat else den
  let scale := if 0 ≤ k then 1 else Decimal.pow10 (-k).toNat
  let inside (c : Nat) : Bool :=
    if closed then lower * scale ≤ c * unit && c * unit ≤ upper * scale
    else lower * scale < c * unit && c * unit < upper * scale
  let below := value * scale / unit
  let half := 2 * (value * scale % unit)
  let up := unit < half || (unit == half && below % 2 == 1)
  match inside below, inside (below + 1) with
  | true, true => some ⟨if up then below + 1 else below, k⟩
  | true, false => some ⟨below, k⟩
  | false, true => some ⟨below + 1, k⟩
  | false, false => none

/-- Tries the grids from `10 ^ k` downwards, `tries` of them. -/
def firstGridPoint (lower value upper den : Nat) (closed : Bool) : Nat → Int → Decimal
  | 0, k => ⟨value * Decimal.pow10 (-k).toNat / den, k⟩
  | tries + 1, k =>
    match gridPoint? lower value upper den closed k with
    | some d => d
    | none => firstGridPoint lower value upper den closed tries (k - 1)

/-- The decimal with the fewest digits that rounds back to the positive number `m * 2 ^ q`, and the
nearest of those. -/
def shortest (m : Nat) (q : Int) : Decimal :=
  let low := if m = 1 <<< (format.precision - 1) ∧ format.least < q then 4 * m - 1 else 4 * m - 2
  let (scale, den) : Nat × Nat :=
    if 2 ≤ q then (1 <<< (q - 2).toNat, 1) else (1, 1 <<< (2 - q).toNat)
  let value := 4 * m * scale
  let top : Int := (Decimal.digits value).length - (Decimal.digits den).length + 1
  firstGridPoint (low * scale) value ((4 * m + 2) * scale) den (m % 2 = 0) 25 top

/-- The shortest decimal of a finite number. -/
def decimal? : Floating → Option Decimal
  | finite negative m q =>
    if m = 0 then some ⟨0, 0⟩
    else
      let d := shortest format m q
      some ⟨if negative then -d.coefficient else d.coefficient, d.exponent⟩
  | _ => none

/-- The words for a number that is not finite. -/
def specialText : Floating → String
  | notANumber => "NaN"
  | infinite true => "-Inf"
  | _ => "+Inf"

end Floating

end TypedPath
