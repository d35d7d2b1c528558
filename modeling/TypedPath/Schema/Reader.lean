import TypedPath.Schema.Expr
import TypedPath.Schema.Token
import TypedPath.Text.Normal

/-! Reads files and expressions of a schema from lexemes. -/
namespace TypedPath.Schema

abbrev Read := StateT (List Lexeme) Option

namespace Read

def peek : Read (Option Token) := do return (← get).head?.map (·.token)

def next : Read Lexeme := do
  match ← get with
  | l :: rest =>
    set rest
    return l
  | [] => failure

def atMark (symbol : String) : Read Bool := do return (← peek) = some (.mark symbol)

def accept (symbol : String) : Read Bool := do
  if ← atMark symbol then
    let _ ← next
    return true
  else return false

def expect (symbol : String) : Read Unit := do
  if !(← accept symbol) then failure

def position : Read Position := do
  match ← get with
  | l :: _ => return l.position
  | [] => failure

/-- A label and how it is written, if the lexemes from here on start a field. -/
def labelAt? (ls : List Lexeme) : Option (Label × Bool) :=
  let followed : Bool := match ls.drop 1 with
    | ⟨.mark ":", _, _⟩ :: _ => true
    | ⟨.mark "?", _, _⟩ :: ⟨.mark ":", _, _⟩ :: _ => true
    | ⟨.mark "!", _, _⟩ :: ⟨.mark ":", _, _⟩ :: _ => true
    | _ => false
  match ls with
  | ⟨.name n, _, _⟩ :: _ => if followed then some (.ofName (Text.normalize n), true) else none
  | ⟨.text s, _, _⟩ :: _ => if followed then some (⟨.regular, Text.normalize s⟩, false) else none
  | _ => none

/-- Whether a colon stands behind the bracket that closes the outermost of `depth` open ones. -/
def colonBehind : Nat → List Lexeme → Bool
  | _, [] => false
  | depth, ⟨.mark s, _, _⟩ :: rest =>
    if s = "[" then colonBehind (depth + 1) rest
    else if s = "]" then
      if depth ≤ 1 then rest.head?.map (·.token) = some (.mark ":")
      else colonBehind (depth - 1) rest
    else colonBehind depth rest
  | depth, _ :: rest => colonBehind depth rest

/-- The hints from here on. -/
def hints : Nat → Read (List (String × String))
  | 0 => failure
  | fuel + 1 => do
    match ← peek with
    | some (.hint name body) =>
      let _ ← next
      return (name, body) :: (← hints fuel)
    | _ => return []

/-- A comma, or the end of the declarations. -/
def declarationEnd : Read Unit := do
  if !(← accept ",") then
    match ← peek with
    | none | some (.mark "\x7d") => return
    | _ => failure

def relation? : String → Option Relation
  | "<" => some .less
  | "<=" => some .lessOrEqual
  | ">" => some .greater
  | ">=" => some .greaterOrEqual
  | "!=" => some .notEqual
  | "=~" => some .like
  | "!~" => some .unlike
  | _ => none

def nameExpr (name : String) (position : Position) : Expr :=
  match name with
  | "_" => .top
  | "true" => .atom (.bool true)
  | "false" => .atom (.bool false)
  | "null" => .atom .null
  | n => .reference (Text.normalize n) position

def isReserved (name : String) : Bool :=
  (['_', '_'].isPrefixOf name.toList) || name = "for" || name = "if" || name = "let" || name = "in"

mutual

/-- Alternatives, of which some may be marked as defaults. -/
def expr : Nat → Read Expr
  | 0 => failure
  | fuel + 1 => do
    match ← alternatives fuel with
    | [(false, e)] => return e
    | [(true, _)] => return .bottom
    | es => return .either es

def alternatives : Nat → Read (List (Bool × Expr))
  | 0 => failure
  | fuel + 1 => do
    let marked ← accept "*"
    let e ← if marked then unary fuel else conjunction fuel
    if ← accept "|" then
      return (marked, e) :: (← alternatives fuel)
    else return [(marked, e)]

def conjunction : Nat → Read Expr
  | 0 => failure
  | fuel + 1 => do
    let e ← unary fuel
    if ← accept "&" then
      return .both e (← conjunction fuel)
    else return e

def unary : Nat → Read Expr
  | 0 => failure
  | fuel + 1 => do
    match ← peek with
    | some (.mark "-") =>
      let _ ← next
      return .minus (← unary fuel)
    | some (.mark "+") =>
      let _ ← next
      unary fuel
    | some (.mark s) =>
      match relation? s with
      | some r =>
        let _ ← next
        return .bound r (← unary fuel)
      | none => selections fuel (← operand fuel)
    | _ => selections fuel (← operand fuel)

/-- The selections behind an operand. -/
def selections : Nat → Expr → Read Expr
  | 0, _ => failure
  | fuel + 1, e => do
    if ← accept "." then
      let l ← next
      match l.token with
      | .name n => selections fuel (.select e (.ofName (Text.normalize n)) l.position)
      | .text s => selections fuel (.select e ⟨.regular, Text.normalize s⟩ l.position)
      | _ => failure
    else if ← accept "(" then
      match e with
      | .reference "close" p =>
        let inner ← expr fuel
        let _ ← accept ","
        expect ")"
        selections fuel (.closed inner p)
      | _ => failure
    else return e

def operand : Nat → Read Expr
  | 0 => failure
  | fuel + 1 => do
    let l ← next
    match l.token with
    | .name n => if isReserved n then failure else return nameExpr n l.position
    | .text s => return .atom (.text s)
    | .bytes s => return .atom (.bytes s)
    | .number integral d => return .atom (.number integral d)
    | .bottom => return .bottom
    | .mark "(" =>
      let e ← expr fuel
      expect ")"
      return e
    | .mark "[" =>
      let (items, rest) ← listItems fuel
      return .list items rest
    | .mark "\x7b" =>
      let ds ← decls fuel
      expect "\x7d"
      return .struct ds l.position
    | _ => failure

/-- The items of a list up to its closing bracket. -/
def listItems : Nat → Read (List Expr × Option (Position × Option Expr))
  | 0 => failure
  | fuel + 1 => do
    if ← accept "]" then return ([], none)
    else if ← atMark "..." then
      let l ← next
      let item ← if (← atMark "]") || (← atMark ",") then pure none else some <$> expr fuel
      let _ ← accept ","
      expect "]"
      return ([], some (l.position, item))
    else
      let e ← expr fuel
      if ← accept "," then
        let (items, rest) ← listItems fuel
        return (e :: items, rest)
      else
        expect "]"
        return ([e], none)

/-- The declarations up to the end of a struct or a file. -/
def decls : Nat → Read (List Decl)
  | 0 => failure
  | fuel + 1 => do
    match ← get with
    | [] | ⟨.mark "\x7d", _, _⟩ :: _ => return []
    | ⟨.mark "...", p, _⟩ :: rest =>
      set rest
      declarationEnd
      return .rest p :: (← decls fuel)
    | ⟨.hint .., _, _⟩ :: rest =>
      set rest
      declarationEnd
      decls fuel
    | ⟨.name "let", _, _⟩ :: ⟨.name n, _, _⟩ :: ⟨.mark "=", _, _⟩ :: rest =>
      set rest
      let e ← expr fuel
      declarationEnd
      return .binding (Text.normalize n) e :: (← decls fuel)
    | l :: _ =>
      let d ← match ← field? fuel l.comment with
        | some d => pure d
        | none => .embed <$> expr fuel
      declarationEnd
      return d :: (← decls fuel)

/-- A field, or a pattern for fields, if one stands here. -/
def field? : Nat → List String → Read (Option Decl)
  | 0, _ => failure
  | fuel + 1, comment => do
    let start ← position
    match labelAt? (← get) with
    | some (label, visible) =>
      if label.name = "_" || (visible && ['_', '_'].isPrefixOf label.name.toList) then failure
      let _ ← next
      let presence ← if ← accept "?" then pure .optional
        else if ← accept "!" then pure .required
        else pure .regular
      expect ":"
      let (value, origin) ← fieldValue fuel start comment
      return some (.field label visible presence value origin)
    | none =>
      if (← atMark "[") && colonBehind 0 (← get) then
        expect "["
        let ([filter], none) ← listItems fuel | failure
        expect ":"
        let (value, origin) ← fieldValue fuel start comment
        return some (.pattern filter value origin)
      else return none

/-- The value of a field. Another field in its place is a struct with that field alone, to which the
comment then belongs. -/
def fieldValue : Nat → Position → List String → Read (Expr × Origin)
  | 0, _, _ => failure
  | fuel + 1, start, comment => do
    let p ← position
    match ← field? fuel comment with
    | some d => return (.struct [d] p, ⟨start, p, [], []⟩)
    | none =>
      let e ← expr fuel
      let hs ← hints (fuel + 1)
      return (e, ⟨start, p, comment, hs⟩)

end

/-- The name of the package, if a clause at the start gives one. -/
def packageClause : Read (Option String) := do
  match ← get with
  | ⟨.name "package", _, _⟩ :: ⟨.name n, _, _⟩ :: rest =>
    set rest
    declarationEnd
    return some n
  | ⟨.name "package", _, _⟩ :: _ => failure
  | _ => return none

/-- Enough steps to read any row of lexemes. -/
def enough (ls : List Lexeme) : Nat := 16 * (ls.length + 1)

def file : Read File := do
  let ls ← get
  let package ← packageClause
  let ds ← decls (enough ls)
  if (← get).isEmpty then return ⟨package, ls.head?.map (·.position), ds, ls.length⟩ else failure

end Read

/-- Reads a file, if it is well formed. -/
def File.parse? (name text : String) : Option File := do
  let ls ← lexemes? name text
  return (← Read.file.run ls).1

end TypedPath.Schema
