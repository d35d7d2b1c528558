import TypedPath.Decimal.Floating
import TypedPath.Node.Violation

/-! Errors as causes with the path of contexts in which they arose. The wording is all in
`Error.message`; the class of an error is found by `Error.is`. -/
namespace TypedPath

structure Position where
  file : String
  line : Nat
  column : Nat
  deriving Repr, DecidableEq

def Position.text (p : Position) : String :=
  p.file ++ ":" ++ toString p.line ++ ":" ++ toString p.column

/-- Where in a query an error arose. -/
inductive Context
  | step (position : Nat)
  | field (name : String)
  | index (index : Int)
  | key (key : String)
  | narrowing (shape : String)
  | filter
  | item
  | arrayItem
  | mapItem
  | and
  | or
  | not
  | operator (name : String)
  | comparison (family : Family) (operator : Operator)
  | note (text : String)
  deriving Repr, DecidableEq

def Context.text : Context → String
  | step i => "step " ++ toString i
  | field name => "field " ++ Text.escaped name
  | index i => "index " ++ toString i
  | key k => "key " ++ Text.escaped k
  | narrowing s => "as " ++ s
  | filter => "filter"
  | item => "item"
  | arrayItem => "array item"
  | mapItem => "map item"
  | and => "and"
  | or => "or"
  | not => "not"
  | operator name => name
  | comparison f op => f.text ++ " " ++ op.symbol
  | note t => t

/-- How a query breaks the form that a document asks for. -/
inductive Malformation
  | selectAndWhere
  | neitherSelectNorWhere
  | stepForm
  | pathWithoutOperator
  | predicateForm
  | severalOperators
  deriving Repr, DecidableEq

def Malformation.message : Malformation → String
  | selectAndWhere => "select and where are mutually exclusive"
  | neitherSelectNorWhere => "one of select or where is required"
  | stepForm => "exactly one of field, index, key, filter, as is required"
  | pathWithoutOperator => "path given without a comparison operator"
  | predicateForm => "predicate needs exactly one of and, or, not or a comparison"
  | severalOperators => "comparison needs exactly one operator"

/-- Why an operation failed. -/
inductive Cause
  | absentShape
  | arrayWithoutItems
  | setWithoutItems
  | mapWithoutItems
  | notFinite (value : Floating)
  | noLiteral
  | unsupportedLiteral (type : String)
  | missingOperand (type : NodeType)
  | operandFamily (want got : Family) (shape : Shape)
  | wrongType (expected : NodeType) (got : Option NodeType)
  | notFilterable (got : Option NodeType)
  | operatorUnsupported (got : Option NodeType)
  | noField (record : Shape) (name : String)
  | negativeIndex (index : Int)
  | emptyMapKey
  | noStruct
  | noPredicate
  | noCondition
  | unsupportedNode (type : Option NodeType)
  | violation (violation : Violation)
  | noSchema
  | noQueries
  | unnamedQuery (position : Nat)
  | duplicateQuery (name : String)
  | malformed (trail : List Context) (reason : Malformation)
  | unknownShape (name : String)
  | emptyStep
  | operatorCount
  deriving Repr

namespace Cause

def sentinel : Cause → Sentinel
  | absentShape | arrayWithoutItems | setWithoutItems | mapWithoutItems => .unsupportedShape
  | notFinite _ | noLiteral | unsupportedLiteral _ | missingOperand _ | operandFamily ..
  | wrongType .. | notFilterable _ | operatorUnsupported _ => .typeMismatch
  | noField .. | negativeIndex _ | emptyMapKey => .invalidKey
  | noStruct | noPredicate | noCondition | unsupportedNode _ => .invalidExpression
  | violation v => v.sentinel
  | noSchema | noQueries | unnamedQuery _ | duplicateQuery _ | malformed .. | unknownShape _
  | emptyStep | operatorCount => .invalidDocument

def detail : Cause → String
  | absentShape => "nil shape"
  | arrayWithoutItems => "array without item shape"
  | setWithoutItems => "set without item shape"
  | mapWithoutItems => "map without item shape"
  | notFinite x => "non-finite number " ++ x.specialText
  | noLiteral => "nil literal"
  | unsupportedLiteral t => "unsupported literal type " ++ t
  | missingOperand t => "nil " ++ NodeType.label (some t) ++ " operand"
  | operandFamily want got s =>
    "expected " ++ want.text ++ " operand, got " ++ got.text ++ " (" ++ s.text ++ ")"
  | wrongType t got => "expected " ++ NodeType.label (some t) ++ ", got " ++ NodeType.label got
  | notFilterable got => "cannot filter " ++ NodeType.label got
  | operatorUnsupported got =>
    "value does not support this operator (" ++ NodeType.label got ++ ")"
  | noField r name => "record " ++ r.text ++ " has no field " ++ Text.escaped name
  | negativeIndex i => "negative index " ++ toString i
  | emptyMapKey => "empty map key"
  | noStruct => "nil struct"
  | noPredicate => "nil filter predicate"
  | noCondition => "filter predicate returned no condition"
  | unsupportedNode t => "unsupported node type " ++ NodeType.label t
  | violation v => v.message
  | noSchema => "schema is required"
  | noQueries => "queries list is required and must be non-empty"
  | unnamedQuery i => "query " ++ toString i ++ ": name is required"
  | duplicateQuery name => "duplicate query name " ++ Text.escaped name
  | malformed trail reason => ": ".intercalate (trail.map (·.text) ++ [reason.message])
  | unknownShape name => "unknown shape " ++ Text.escaped name
  | emptyStep => "empty step"
  | operatorCount => "comparison needs exactly one operator"

def message : Cause → String
  | violation v => v.message
  | c => c.sentinel.message ++ ": " ++ c.detail

/-- Whether a cause stands behind its class alone, and not behind a second cause beside it. -/
def isSimple : Cause → Bool
  | operatorUnsupported _ | malformed .. => false
  | _ => true

end Cause

structure LoadFault where
  code : String
  message : String
  position : Option Position := none
  deriving Repr, DecidableEq

def LoadFault.text (f : LoadFault) : String :=
  match f.position with
  | some p => p.text ++ ": " ++ f.code ++ ": " ++ f.message
  | none => f.code ++ ": " ++ f.message

structure SchemaFault where
  path : String
  message : String
  position : Option Position := none
  deriving Repr, DecidableEq

def SchemaFault.text (f : SchemaFault) : String :=
  match f.position with
  | some p => p.text ++ ": " ++ f.path ++ ": " ++ f.message
  | none => f.path ++ ": " ++ f.message

/-- An error of any layer. `fault` is a broken expression, which stops the program before there is
anything to say of it. -/
inductive Error
  | sentinel (sentinel : Sentinel)
  | plain (message : String)
  | cause (cause : Cause)
  | within (context : Context) (error : Error)
  | query (name : String) (error : Error)
  | load (fault : LoadFault)
  | schema (fault : SchemaFault)
  | exit (code : Int) (message : String) (error : Option Error)
  | all (errors : List Error)
  | fault
  deriving Repr, Inhabited

namespace Error

mutual

def message : Error → String
  | sentinel s => s.message
  | plain m => m
  | cause c => c.message
  | within c e => c.text ++ ": " ++ e.message
  | query name e => "query " ++ Text.escaped name ++ ": " ++ e.message
  | load f => f.text
  | schema f => f.text
  | exit _ m none => m
  | exit _ m (some e) => m ++ ": " ++ e.message
  | all es => "\n".intercalate (messages es)
  | fault => ""

def messages : List Error → List String
  | [] => []
  | e :: es => e.message :: messages es

end

mutual

/-- The classes found in an error, the outermost first. -/
def sentinels : Error → List Sentinel
  | sentinel s => [s]
  | cause c => [c.sentinel]
  | within _ e | query _ e | exit _ _ (some e) => e.sentinels
  | all es => sentinelsOfAll es
  | _ => []

def sentinelsOfAll : List Error → List Sentinel
  | [] => []
  | e :: es => e.sentinels ++ sentinelsOfAll es

end

/-- Whether an error is of a class. -/
def is (e : Error) (s : Sentinel) : Bool := s ∈ e.sentinels

mutual

/-- The first loading fault in an error. -/
def loadFault? : Error → Option LoadFault
  | load f => some f
  | within _ e | query _ e | exit _ _ (some e) => e.loadFault?
  | all es => loadFaultOfAll? es
  | _ => none

def loadFaultOfAll? : List Error → Option LoadFault
  | [] => none
  | e :: es => e.loadFault?.or (loadFaultOfAll? es)

end

mutual

/-- The exit code of the first error in `e` that carries one. -/
def exitCode? : Error → Option Int
  | exit code _ _ => some code
  | within _ e | query _ e => e.exitCode?
  | all es => exitCodeOfAll? es
  | _ => none

def exitCodeOfAll? : List Error → Option Int
  | [] => none
  | e :: es => e.exitCode?.or (exitCodeOfAll? es)

end

/-- An error without an exit code of its own ends the program with code one. -/
def exitCode (e : Error) : Int := e.exitCode?.getD 1

/-- The error directly behind an error. -/
def unwrap? : Error → Option Error
  | within _ e | query _ e => some e
  | exit _ _ e => e
  | cause c => if c.isSimple then some (sentinel c.sentinel) else none
  | _ => none

/-- The code that reports show for an error. -/
def code (e : Error) : String :=
  match e.loadFault? with
  | some f => f.code
  | none =>
    if e.is .invalidDocument then "E110"
    else if e.is .typeMismatch then "E111"
    else if e.is .invalidKey then "E112"
    else if e.is .invalidExpression then "E113"
    else if e.is .unsupportedShape then "E114"
    else "E001"

/-- The error behind the name of the query it is reported for. -/
def ofQuery : Error → Error
  | query _ e => e
  | e => e

/-- An error with the context in which it arose. A program that is stopped does not come to name
it. -/
def inside (c : Context) : Error → Error
  | fault => fault
  | e => within c e

end Error

/-- Names the context of an error. -/
def inContext {α : Type} (c : Context) (r : Except Error α) : Except Error α :=
  r.mapError (·.inside c)

end TypedPath
