import TypedPath.Error
import TypedPath.Schema.Kinds

/-! What is seen of a value of a schema. The value itself may unfold without end, since a definition
can refer to itself; a view shows one level of it. -/
namespace TypedPath.Schema

/-- A regular or an optional field of a struct. -/
structure Field (σ : Type) where
  name : String
  optional : Bool
  hint : String
  doc : String
  value : σ

/-- One level of a value. `invalid` tells that the value is an error in the schema. `fields` is
absent if they cannot be listed, and `pattern` is the value of any field that has no declaration of
its own. -/
structure View (σ : Type) where
  invalid : Bool
  kinds : Kinds
  path : String
  position : Option Position
  recordName : String
  fields : Option (List (Field σ))
  item : σ
  pattern : Option σ

end TypedPath.Schema
