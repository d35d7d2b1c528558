import TypedPath.Decimal.Scientific
import TypedPath.Text.Escaped

/-! Structured data in reports, as JSON and as plain text. -/
namespace TypedPath

inductive Data
  | absent
  | bool (value : Bool)
  | number (value : Decimal)
  | text (value : String)
  | list (items : List Data)
  | object (fields : List (String × Data))
  deriving Repr, Inhabited

namespace Data

def isAbsent : Data → Bool
  | absent => true
  | _ => false

/-- A character in a JSON text. What could be mistaken for markup is written by its code. -/
def jsonChar (c : Char) : String :=
  match c with
  | '"' => "\\\""
  | '\\' => "\\\\"
  | '\n' => "\\n"
  | '\r' => "\\r"
  | '\t' => "\\t"
  | '\x08' => "\\b"
  | '\x0c' => "\\f"
  | c =>
    if c.toNat < 0x20 ∨ c = '<' ∨ c = '>' ∨ c = '&' ∨ c.toNat = 0x2028 ∨ c.toNat = 0x2029 then
      "\\u" ++ Text.hex 4 c.toNat
    else c.toString

/-- JSON has an exponent where the plain notation would be longer than twenty digits or so. -/
def jsonNumber : ExponentRule := { least := -6, most := 21, width := 1 }

/-- A line of text has an exponent from a million on. -/
def plainNumber : ExponentRule := { least := -4, most := 6, width := 2 }

def jsonText (s : String) : String := "\"" ++ String.join (s.toList.map jsonChar) ++ "\""

/-- How the parts of a list or an object are set off: nothing, or a line of its own for each, with
`some n` the number of levels around. -/
abbrev Layout := Option Nat

namespace Layout

def inner (l : Layout) : Layout := l.map (· + 1)

def newline (l : Layout) : String :=
  match l with
  | none => ""
  | some n => "\n" ++ String.ofList (List.replicate (2 * n) ' ')

def colon (l : Layout) : String := if l.isSome then ": " else ":"

/-- Parts between brackets. -/
def enclose (l : Layout) (left right : String) (parts : List String) : String :=
  if parts.isEmpty then left ++ right
  else left ++ l.inner.newline ++ ("," ++ l.inner.newline).intercalate parts ++ l.newline ++ right

end Layout

mutual

/-- The JSON of data. -/
def json (l : Layout) : Data → String
  | absent => "null"
  | bool b => if b then "true" else "false"
  | number d => d.textBy jsonNumber
  | text s => jsonText s
  | list items => l.enclose "[" "]" (jsonItems l.inner items)
  | object fields => l.enclose "\x7b" "\x7d" (jsonFields l.inner fields)

def jsonItems (l : Layout) : List Data → List String
  | [] => []
  | d :: rest => d.json l :: jsonItems l rest

def jsonFields (l : Layout) : List (String × Data) → List String
  | [] => []
  | f :: rest => jsonField l f :: jsonFields l rest

def jsonField (l : Layout) : String × Data → String
  | (name, d) => jsonText name ++ l.colon ++ d.json l

end

/-- JSON on one line. -/
def compact (d : Data) : String := d.json none

/-- JSON with every part on a line of its own. -/
def indented (d : Data) : String := d.json (some 0)

mutual

/-- Data in a line of text. -/
def plain : Data → String
  | absent => "<nil>"
  | bool b => if b then "true" else "false"
  | number d => d.textBy plainNumber
  | text s => s
  | list items => "[" ++ " ".intercalate (plainItems items) ++ "]"
  | object fields => "map[" ++ " ".intercalate (plainFields fields) ++ "]"

def plainItems : List Data → List String
  | [] => []
  | d :: rest => d.plain :: plainItems rest

def plainFields : List (String × Data) → List String
  | [] => []
  | f :: rest => plainField f :: plainFields rest

def plainField : String × Data → String
  | (name, d) => name ++ ":" ++ d.plain

end

/-- A field that is left out if there is nothing in it. -/
def optionalField (name : String) (d : Data) : List (String × Data) :=
  if d.isAbsent then [] else [(name, d)]

end Data

end TypedPath
