/-! Places in a text, and the classes of characters that the YAML format tells apart. -/
namespace TypedPath.Yaml

def isBreak (c : Char) : Bool :=
  c = '\n' || c = '\r' || c.toNat = 0x85 || c.toNat = 0x2028 || c.toNat = 0x2029

def isBlank (c : Char) : Bool := c = ' ' || c = '\t'

/-- A blank, a line break or the end of the text. -/
def isBlankOrEnd : Option Char → Bool
  | some c => isBlank c || isBreak c
  | none => true

def isBreakOrEnd : Option Char → Bool
  | some c => isBreak c
  | none => true

/-- The characters of anchor and directive names. -/
def isWordChar (c : Char) : Bool := c.isAlphanum || c = '_' || c = '-'

/-- The characters that a text may hold at all. -/
def isAllowed (c : Char) : Bool :=
  let n := c.toNat
  n = 0x09 || n = 0x0a || n = 0x0d || (0x20 ≤ n && n ≤ 0x7e) || n = 0x85
    || (0xa0 ≤ n && n ≤ 0xfffd) || 0x10000 ≤ n

/-- A place in a text: what follows it, and where it stands. -/
structure Cursor where
  rest : List Char
  line : Nat := 0
  column : Nat := 0
  index : Nat := 0
  deriving Repr, Inhabited

namespace Cursor

variable (c : Cursor)

def peek (n : Nat := 0) : Option Char := c.rest[n]?

def at? (ch : Char) : Bool := c.rest.head? = some ch

def skip : Cursor :=
  match c.rest with
  | [] => c
  | _ :: rest => { c with rest := rest, column := c.column + 1, index := c.index + 1 }

def skipMany : Nat → Cursor → Cursor
  | 0, c => c
  | n + 1, c => skipMany n c.skip

/-- Passes one line break, which may be two characters long. -/
def skipLine : Cursor :=
  match c.rest with
  | '\r' :: '\n' :: rest => ⟨rest, c.line + 1, 0, c.index + 2⟩
  | _ :: rest => ⟨rest, c.line + 1, 0, c.index + 1⟩
  | [] => c

/-- The text that a line break stands for. -/
def breakText : List Char :=
  match c.rest with
  | ch :: _ =>
    if ch.toNat = 0x2028 ∨ ch.toNat = 0x2029 then [ch] else if isBreak ch then ['\n'] else []
  | [] => []

def skipWhile (p : Char → Bool) : Cursor :=
  let n := (c.rest.takeWhile p).length
  { c with rest := c.rest.drop n, column := c.column + n, index := c.index + n }

/-- Whether a line with three dashes or three dots starts here. -/
def atDocumentMark : Bool :=
  c.column = 0 && (match c.rest with
    | '-' :: '-' :: '-' :: _ | '.' :: '.' :: '.' :: _ => isBlankOrEnd (c.peek 3)
    | _ => false)

end Cursor

end TypedPath.Yaml
