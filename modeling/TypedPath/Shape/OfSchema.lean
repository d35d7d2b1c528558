import TypedPath.Schema.View
import TypedPath.Shape.Record

/-! The shape that a schema describes. A list gives an array or a set, a struct gives a record, and
a struct whose fields are only given by a pattern gives a map. -/
namespace TypedPath

/-- Why a schema value has no shape. `invalid` is a value that is no valid schema in the first
place. -/
inductive ConversionFault
  | invalid
  | unsupported (fault : SchemaFault)
  deriving Repr, DecidableEq

/-- How many levels a shape may have below its root. -/
def depthLimit : Nat := 32

namespace Schema.View

variable {σ : Type} (v : View σ)

def fault (message : String) : ConversionFault := .unsupported ⟨v.path, message, v.position⟩

def tooDeep : ConversionFault :=
  v.fault ("nesting deeper than " ++ toString depthLimit ++ " levels (recursive definition?)")

def unsupportedKind : ConversionFault := v.fault ("unsupported type kind: " ++ v.kinds.text)

end Schema.View

/-- Kinds by the way in which they are given a shape. -/
inductive ShapeClass
  | leaf (shape : Shape)
  | list
  | struct
  | unsupported
  deriving Repr

/-- The class of a set of kinds, where `hint` tells timestamps and unknown values apart. -/
def Schema.Kinds.shapeClass (hint : String) (kinds : Schema.Kinds) : ShapeClass :=
  let k := kinds.apartFromNull
  if k = .only .string then .leaf (if hint = "timestamp" then .timestamp else .string)
  else if k = .only .integer then .leaf .integer
  else if k = .only .float ∨ k = .number then .leaf .number
  else if k = .only .bool then .leaf .bool
  else if k = .only .bytes then .leaf .binary
  else if k = .only .null then .leaf .nothing
  else if k = .all then .leaf (.dynamic (if hint = "unknown" then "unknown" else "any"))
  else if k = .only .list then .list
  else if k = .only .struct then .struct
  else .unsupported

namespace Shape

open Schema

variable {σ : Type} (look : σ → View σ)

/-- The members of a record, each with the shape that `convert` gives it. -/
def membersOf (convert : String → σ → Except ConversionFault Shape) :
    List (Schema.Field σ) → Except ConversionFault (List (Member Shape))
  | [] => .ok []
  | f :: rest => do
    let shape ← convert f.hint f.value
    let members ← membersOf convert rest
    return ⟨f.name, shape, f.optional || (look f.value).kinds.isNullable, f.doc⟩ :: members

/-- The shape of a value with at most `room` levels from here on. -/
def ofLevels : Nat → String → σ → Except ConversionFault Shape
  | 0, _, value => .error (look value).tooDeep
  | room + 1, hint, value =>
    let v := look value
    match v.kinds.shapeClass hint with
    | .leaf s => .ok s
    | .list => do
      let items ← ofLevels room "" v.item
      return if hint = "set" then .set items else .array items
    | .struct => do
      let fields ← match v.fields with
        | some fields => .ok fields
        | none => .error .invalid
      let members ← membersOf look (ofLevels room) fields
      match members, v.pattern with
      | [], some item => return .map (← ofLevels room "" item)
      | members, _ =>
        match newRecord v.recordName members with
        | .ok s => return s
        | .error f => .error (v.fault (f.message v.recordName))
    | .unsupported => .error v.unsupportedKind

/-- The shape of a value, which has at most `depthLimit` levels below the value itself. -/
def ofSchema (value : σ) : Except ConversionFault Shape :=
  if (look value).invalid then .error .invalid
  else ofLevels look (depthLimit + 1) "" value

end Shape

end TypedPath
