import TypedPath.Schema.Reader
import TypedPath.Schema.Value

/-! Paths from the root of a schema to a value in it. -/
namespace TypedPath.Schema

/-- Whether a name can be written without quotes. -/
def isIdentifier (name : String) : Bool :=
  match name.toList with
  | [] => false
  | c :: cs => !Text.isDecimalDigit c && (c :: cs).all Token.continuesName

def escapedLabelChar (c : Char) : String :=
  let s := Text.escapeChar c
  if ['\\', 'x'].isPrefixOf s.toList then "\\u" ++ Text.hex 4 c.toNat else s

/-- A label as it stands in a path. -/
def Label.text (l : Label) : String :=
  if l.isRegular && (!isIdentifier l.name || l.name.toList.head? = some '_') then
    "\"" ++ String.join (l.name.toList.map escapedLabelChar) ++ "\""
  else l.name

def Selector.text : Selector → String
  | label l => l.text
  | index i => "[" ++ toString i ++ "]"
  | anyItem | anyField | inner => "[_]"

/-- A path as text. A place in a list follows without a dot. -/
def pathText (path : List Selector) : String :=
  path.foldl (fun text s => match s with
    | .index _ => text ++ s.text
    | s => if text = "" then s.text else text ++ "." ++ s.text) ""

/-- What is left of a text behind its end: at most the comma that stands for a line break. -/
def isPathEnd : List Lexeme → Bool
  | [] => true
  | [l] => l.token = .mark ","
  | _ => false

/-- A selector for a token: a name, a quoted label or a place in a list. Hidden fields have none. -/
def Token.selector? : Token → Option Selector
  | .name n =>
    let l := Label.ofName n
    if l.kind = .hidden ∨ l.kind = .hiddenDefinition then none else some (.label l)
  | .text s => some (.label ⟨.regular, Text.normalize s⟩)
  | .number true d => if 0 ≤ d.coefficient then some (.index d.floor.toNat) else none
  | _ => none

/-- Reads the selectors behind the first: a field behind a dot, or a place in brackets. -/
def selectorsBehind? : List Lexeme → Option (List Selector)
  | ⟨.mark ".", _, _⟩ :: ⟨.name n, _, _⟩ :: rest => do
    return (← Token.selector? (.name n)) :: (← selectorsBehind? rest)
  | ⟨.mark ".", _, _⟩ :: ⟨.text s, _, _⟩ :: rest => do
    return (← Token.selector? (.text s)) :: (← selectorsBehind? rest)
  | ⟨.mark "[", _, _⟩ :: ⟨.text s, _, _⟩ :: ⟨.mark "]", _, _⟩ :: rest => do
    return (← Token.selector? (.text s)) :: (← selectorsBehind? rest)
  | ⟨.mark "[", _, _⟩ :: ⟨.number i d, _, _⟩ :: ⟨.mark "]", _, _⟩ :: rest => do
    return (← Token.selector? (.number i d)) :: (← selectorsBehind? rest)
  | rest => if isPathEnd rest then some [] else none

/-- Reads a path. -/
def path? (text : String) : Option (List Selector) := do
  if text = "" then return []
  if (Text.trimmed text).endsWith "," then failure
  match ← lexemes? "" text with
  | [] => failure
  | first :: rest => return (← first.token.selector?) :: (← selectorsBehind? rest)

end TypedPath.Schema
