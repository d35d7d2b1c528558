/-! Exact decimal numbers and their plain notation: no exponent, no redundant zero. -/
namespace TypedPath

/-- The number `coefficient * 10 ^ exponent`. -/
structure Decimal where
  coefficient : Int
  exponent : Int
  deriving Repr, DecidableEq, Inhabited

namespace Decimal

def digits (n : Nat) : List Char := Nat.toDigits 10 n

/-- `10 ^ n`. -/
def pow10 (n : Nat) : Nat := Nat.pow 10 n

/-- Drops the zeros at the end. -/
def trimZeros (cs : List Char) : List Char := (cs.reverse.dropWhile (· = '0')).reverse

/-- The plain notation of `n / 10 ^ places`. -/
def fractionText (n places : Nat) : List Char :=
  let fraction := trimZeros (digits (pow10 places + n % pow10 places)).tail
  digits (n / pow10 places) ++ if fraction = [] then [] else '.' :: fraction

def chars (d : Decimal) : List Char :=
  let magnitude :=
    if 0 ≤ d.exponent then digits (d.coefficient.natAbs * pow10 d.exponent.toNat)
    else fractionText d.coefficient.natAbs (-d.exponent).toNat
  if d.coefficient < 0 then '-' :: magnitude else magnitude

def text (d : Decimal) : String := String.ofList d.chars

/-- The number that a row of digits denotes. -/
def digitsValue (cs : List Char) : Nat := cs.foldl (fun n c => 10 * n + (c.toNat - '0'.toNat)) 0

/-- Reads an optional sign and a non-empty row of digits. -/
def signed? : List Char → Option Int
  | '-' :: cs => if cs ≠ [] ∧ cs.all Char.isDigit then some (-(digitsValue cs : Int)) else none
  | '+' :: cs => if cs ≠ [] ∧ cs.all Char.isDigit then some (digitsValue cs) else none
  | cs => if cs ≠ [] ∧ cs.all Char.isDigit then some (digitsValue cs) else none

/-- Reads digits with at most one point among them and shifts them by `shift` places. -/
def unsigned? (cs : List Char) (shift : Int) : Option Decimal :=
  let whole := cs.takeWhile Char.isDigit
  match cs.dropWhile Char.isDigit with
  | [] => if whole = [] then none else some ⟨digitsValue whole, shift⟩
  | '.' :: fraction =>
    if fraction.all Char.isDigit ∧ whole ++ fraction ≠ [] then
      some ⟨digitsValue (whole ++ fraction), shift - fraction.length⟩
    else none
  | _ => none

/-- Reads decimal notation: an optional sign, digits with an optional point, an optional exponent.
-/
def parse? (s : String) : Option Decimal := do
  let cs := s.toList
  let mark (c : Char) : Bool := c = 'e' || c = 'E'
  let shift ← match cs.dropWhile (!mark ·) with
    | [] => some 0
    | _ :: e => signed? e
  match cs.takeWhile (!mark ·) with
  | '-' :: m => (unsigned? m shift).map fun d => ⟨-d.coefficient, d.exponent⟩
  | '+' :: m => unsigned? m shift
  | m => unsigned? m shift

end Decimal

end TypedPath
