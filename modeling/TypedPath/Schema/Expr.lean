import TypedPath.Error
import TypedPath.Schema.Kinds

/-! Schemas as they are written: expressions that constrain values, and the declarations of structs.
-/
namespace TypedPath.Schema

inductive LabelKind
  | regular
  | definition
  | hidden
  | hiddenDefinition
  deriving Repr, DecidableEq

/-- The label of a field. Only regular fields are part of the data that a struct describes. -/
structure Label where
  kind : LabelKind
  name : String
  deriving Repr, DecidableEq

namespace Label

/-- The label that a name stands for when it is written without quotes. -/
def ofName (name : String) : Label :=
  match name.toList with
  | '_' :: '#' :: _ => ⟨.hiddenDefinition, name⟩
  | '#' :: _ => ⟨.definition, name⟩
  | '_' :: _ => ⟨.hidden, name⟩
  | _ => ⟨.regular, name⟩

def isRegular (l : Label) : Bool := l.kind = .regular

/-- Whether a value that is referred to by this label is closed. -/
def isClosing (l : Label) : Bool := l.kind = .definition || l.kind = .hiddenDefinition

end Label

/-- Whether a field has to be there, must be given, or may be left out. -/
inductive Presence
  | regular
  | required
  | optional
  deriving Repr, DecidableEq

namespace Presence

/-- The stronger of two presences. -/
def join : Presence → Presence → Presence
  | regular, _ | _, regular => regular
  | required, _ | _, required => required
  | optional, optional => optional

end Presence

/-- A single value without parts. -/
inductive Atom
  | null
  | bool (value : Bool)
  | number (integral : Bool) (value : Decimal)
  | text (value : String)
  | bytes (value : String)
  deriving Repr, DecidableEq

inductive Relation
  | less
  | lessOrEqual
  | greater
  | greaterOrEqual
  | notEqual
  | like
  | unlike
  deriving Repr, DecidableEq

/-- What a declaration says about a field beside its value: where it stands and where its value
starts, the comment above it and the hints behind it. -/
structure Origin where
  position : Position
  valuePosition : Position
  comment : List String := []
  hints : List (String × String) := []
  deriving Repr, DecidableEq

mutual

inductive Expr
  | top
  | bottom
  | atom (value : Atom)
  | kinds (kinds : Kinds)
  | bound (relation : Relation) (operand : Expr)
  | minus (operand : Expr)
  | reference (name : String) (position : Position)
  | select (operand : Expr) (label : Label) (position : Position)
  | both (left right : Expr)
  | either (alternatives : List (Bool × Expr))
  | struct (decls : List Decl) (position : Position)
  | list (items : List Expr) (rest : Option (Position × Option Expr))
  | closed (operand : Expr) (position : Position)

/-- A declaration in a struct. A field is `visible` if other declarations can refer to it by name.
-/
inductive Decl
  | field (label : Label) (visible : Bool) (presence : Presence) (value : Expr) (origin : Origin)
  | pattern (filter value : Expr) (origin : Origin)
  | rest (position : Position)
  | embed (value : Expr)
  | binding (name : String) (value : Expr)

end

instance : Inhabited Expr := ⟨.top⟩

namespace Decl

def label? : Decl → Option Label
  | field l .. => some l
  | _ => none

/-- The name by which other declarations can refer to this one. -/
def visibleName? : Decl → Option String
  | field l true .. => some l.name
  | binding n _ => some n
  | _ => none

end Decl

/-- A file of a schema, made of `size` tokens. -/
structure File where
  package : Option String
  position : Option Position
  decls : List Decl
  size : Nat

end TypedPath.Schema
