import TypedPath.Error
import TypedPath.Text.Normal
import TypedPath.Text.Quoted

/-! Literals: values from outside that stand in a path as text. -/
namespace TypedPath

inductive IntegerType
  | int
  | int8
  | int16
  | int32
  | int64
  | uint
  | uint8
  | uint16
  | uint32
  | uint64
  deriving Repr, DecidableEq

namespace IntegerType

def name : IntegerType → String
  | int => "int"
  | int8 => "int8"
  | int16 => "int16"
  | int32 => "int32"
  | int64 => "int64"
  | uint => "uint"
  | uint8 => "uint8"
  | uint16 => "uint16"
  | uint32 => "uint32"
  | uint64 => "uint64"

def all : List IntegerType :=
  [int, int8, int16, int32, int64, uint, uint8, uint16, uint32, uint64]

def least : IntegerType → Int
  | int | int64 => -0x8000000000000000
  | int8 => -0x80
  | int16 => -0x8000
  | int32 => -0x80000000
  | _ => 0

def greatest : IntegerType → Int
  | int | int64 => 0x7fffffffffffffff
  | int8 => 0x7f
  | int16 => 0x7fff
  | int32 => 0x7fffffff
  | uint | uint64 => 0xffffffffffffffff
  | uint8 => 0xff
  | uint16 => 0xffff
  | uint32 => 0xffffffff

/-- Whether an integer is of a type. -/
def holds (t : IntegerType) (i : Int) : Bool := t.least ≤ i && i ≤ t.greatest

end IntegerType

/-- A value from outside. `other` is a value that no path can hold, known by its type alone. -/
inductive Value
  | text (value : String)
  | integer (type : IntegerType) (value : Int)
  | single (value : Floating)
  | double (value : Floating)
  | decimal (value : Decimal)
  | bool (value : Bool)
  | absent
  | other (type : String)
  deriving Repr, Inhabited

namespace Value

/-- The decimal for a finite number. -/
def floatingText (format : FloatFormat) (x : Floating) : Except Error String :=
  match x.decimal? format with
  | some d => .ok d.text
  | none => .error (.cause (.notFinite x))

/-- The shape of a literal and the text that stands for it. Texts are brought to their normal form,
so that equal texts give equal paths. -/
def literal : Value → Except Error (Shape × String)
  | text s => .ok (.string, Text.quote (Text.normalize s))
  | integer _ i => .ok (.integer, Decimal.text ⟨i, 0⟩)
  | single x => (floatingText .single x).map fun t => (.number, t)
  | double x => (floatingText .double x).map fun t => (.number, t)
  | decimal d => .ok (.number, d.text)
  | bool b => .ok (.bool, if b then "true" else "false")
  | absent => .error (.cause .noLiteral)
  | other t => .error (.cause (.unsupportedLiteral t))

end Value

/-- The literal of a value as a node. -/
def Node.ofValue (v : Value) : Except Error Node :=
  v.literal.map fun (s, t) => .identifier s t

end TypedPath
