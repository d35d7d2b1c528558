import TypedPath.Schema.Expr
import TypedPath.Text.Pattern

/-! Constraints on values without parts: which kinds they allow, and which of them contradict each
other. -/
namespace TypedPath

namespace Decimal

/-- The coefficients of two numbers at the smaller of their exponents. -/
def aligned (a b : Decimal) : Int × Int :=
  let e := min a.exponent b.exponent
  (a.coefficient * pow10 (a.exponent - e).toNat, b.coefficient * pow10 (b.exponent - e).toNat)

def lt (a b : Decimal) : Bool := (aligned a b).1 < (aligned a b).2

def le (a b : Decimal) : Bool := (aligned a b).1 ≤ (aligned a b).2

def sameValue (a b : Decimal) : Bool := (aligned a b).1 = (aligned a b).2

def neg (a : Decimal) : Decimal := ⟨-a.coefficient, a.exponent⟩

/-- The greatest integer that is not above a number. -/
def floor (a : Decimal) : Int :=
  if 0 ≤ a.exponent then a.coefficient * pow10 a.exponent.toNat
  else a.coefficient / pow10 (-a.exponent).toNat

def ceil (a : Decimal) : Int := -(floor a.neg)

end Decimal

namespace Schema

namespace Atom

def kind : Atom → BasicKind
  | null => .null
  | bool _ => .bool
  | number true _ => .integer
  | number false _ => .float
  | text _ => .string
  | bytes _ => .bytes

def sameValue : Atom → Atom → Bool
  | number i a, number j b => i = j && a.sameValue b
  | a, b => a = b

/-- Whether a text fits a pattern, or does not if `wanted` is false. Patterns that are not
understood do both. -/
def fitsPattern (text pattern : String) (wanted : Bool) : Bool :=
  (Text.Pattern.parse? pattern).all fun p => p.occursIn text = wanted

/-- Whether the first value stands in a relation to the second. -/
def satisfies (a : Atom) (r : Relation) (b : Atom) : Bool :=
  let ordered (less equal : Bool) : Bool := match r with
    | .less => less
    | .lessOrEqual => less || equal
    | .greater => !less && !equal
    | .greaterOrEqual => !less
    | .notEqual => !equal
    | .like | .unlike => true
  match a, b with
  | number _ x, number _ y => ordered (x.lt y) (x.sameValue y)
  | text x, text y | bytes x, bytes y =>
    match r with
    | .like => fitsPattern x y true
    | .unlike => fitsPattern x y false
    | _ => ordered (x < y) (x = y)
  | a, b => if r = .notEqual then !a.sameValue b else false

end Atom

namespace Relation

/-- The kinds that a bound allows. -/
def kinds (r : Relation) (a : Atom) : Kinds :=
  match a with
  | .number .. => .number
  | .null => if r = .notEqual then Kinds.all.without .null else .only .null
  | a => .only a.kind

/-- Whether no number lies between a bound from below and one from above. -/
def excludesAll (integral : Bool) (lower : Relation) (a : Decimal) (upper : Relation)
    (b : Decimal) : Bool :=
  let closed : Bool := lower = .greaterOrEqual && upper = .lessOrEqual
  if integral then
    let least := if lower = .greaterOrEqual then a.ceil else a.floor + 1
    let greatest := if upper = .lessOrEqual then b.floor else b.ceil - 1
    greatest < least
  else if closed then b.lt a
  else b.le a

def isLower (r : Relation) : Bool := r = .greater || r = .greaterOrEqual

def isUpper (r : Relation) : Bool := r = .less || r = .lessOrEqual

end Relation

namespace Expr

/-- Whole numbers between two bounds. -/
def integers (low high : Option Int) : Expr :=
  let limit (r : Relation) (n : Int) : Expr := bound r (atom (.number true ⟨n, 0⟩))
  let bounds := (low.map (limit .greaterOrEqual)).toList ++ (high.map (limit .lessOrEqual)).toList
  bounds.foldl both (kinds (.only .integer))

/-- Numbers up to a greatest magnitude. -/
def floats (greatest : Decimal) : Expr :=
  both (bound .greaterOrEqual (atom (.number false greatest.neg)))
    (bound .lessOrEqual (atom (.number false greatest)))

/-- The types that every schema knows by name. -/
def predeclared? : String → Option Expr
  | "bool" => some (kinds (.only .bool))
  | "string" => some (kinds (.only .string))
  | "bytes" => some (kinds (.only .bytes))
  | "int" => some (kinds (.only .integer))
  | "float" => some (kinds (.only .float))
  | "number" => some (kinds .number)
  | "uint" => some (integers (some 0) none)
  | "uint8" => some (integers (some 0) (some 0xff))
  | "uint16" => some (integers (some 0) (some 0xffff))
  | "uint32" => some (integers (some 0) (some 0xffffffff))
  | "uint64" => some (integers (some 0) (some 0xffffffffffffffff))
  | "uint128" => some (integers (some 0) (some 0xffffffffffffffffffffffffffffffff))
  | "int8" => some (integers (some (-0x80)) (some 0x7f))
  | "int16" => some (integers (some (-0x8000)) (some 0x7fff))
  | "int32" => some (integers (some (-0x80000000)) (some 0x7fffffff))
  | "int64" => some (integers (some (-0x8000000000000000)) (some 0x7fffffffffffffff))
  | "int128" =>
    some (integers (some (-0x80000000000000000000000000000000))
      (some 0x7fffffffffffffffffffffffffffffff))
  | "rune" => some (integers (some 0) (some 0x10ffff))
  | "float32" => some (floats ⟨340282346638528859811704183484516925440, 0⟩)
  | "float64" => some (floats ⟨1797693134862315708145274237317043567981, 269⟩)
  | _ => none

end Expr

end Schema

end TypedPath
