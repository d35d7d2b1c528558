import TypedPath.Decimal.Basic

/-! Notation with an exponent for numbers that are very large or very small. -/
namespace TypedPath

/-- Which numbers are written without an exponent: those whose first digit stands for at least
`10 ^ least` and less than `10 ^ most`. An exponent has at least `width` digits. -/
structure ExponentRule where
  least : Int
  most : Int
  width : Nat
  deriving Repr, DecidableEq

namespace Decimal

/-- The digits of a number without zeros at the end. -/
def significant (d : Decimal) : List Char := trimZeros (digits d.coefficient.natAbs)

/-- The power of ten that the first digit stands for. -/
def magnitude (d : Decimal) : Int := (digits d.coefficient.natAbs).length + d.exponent - 1

def exponentText (width : Nat) (e : Int) : String :=
  let ds := digits e.natAbs
  (if e < 0 then "-" else "+") ++ String.ofList (List.replicate (width - ds.length) '0' ++ ds)

/-- One digit before the point, and the power of ten behind. -/
def scientific (d : Decimal) (width : Nat) : String :=
  let mantissa := match d.significant with
    | first :: c :: rest => first :: '.' :: c :: rest
    | ds => ds
  (if d.coefficient < 0 then "-" else "") ++ String.ofList mantissa ++ "e"
    ++ exponentText width d.magnitude

def textBy (r : ExponentRule) (d : Decimal) : String :=
  if d.coefficient = 0 ∨ r.least ≤ d.magnitude ∧ d.magnitude < r.most then d.text
  else d.scientific r.width

end Decimal

end TypedPath
