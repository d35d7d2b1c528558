import TypedPath.Error
import TypedPath.Text.Letter

/-! Tokens of a schema text. A line break behind something that can end a declaration counts as a
comma, and the comment right above a token is kept with it. -/
namespace TypedPath.Schema

inductive Token
  | name (text : String)
  | text (value : String)
  | bytes (value : String)
  | number (integral : Bool) (value : Decimal)
  | mark (symbol : String)
  | hint (name body : String)
  | bottom
  deriving Repr, DecidableEq

/-- A token with its place, and the lines of the comment right above it. -/
structure Lexeme where
  token : Token
  position : Position
  comment : List String := []
  deriving Repr

namespace Token

/-- Whether a line break behind a token counts as a comma. -/
def endsDeclaration : Token → Bool
  | mark s => [")", "]", "\x7d", "?", "..."].contains s
  | _ => true

/-- Whether a character can stand in a name, at its start or further on. -/
def startsName (c : Char) : Bool := Text.isLetter c || c = '_' || c = '$'

def continuesName (c : Char) : Bool := startsName c || Text.isDecimalDigit c

/-- Reads a name: letters and digits behind `#`, `_` or `_#`. -/
def nameAt? (cs : List Char) : Option (String × List Char) :=
  let (start, rest) := match cs with
    | '_' :: '#' :: rest => (['_', '#'], rest)
    | '#' :: rest => (['#'], rest)
    | rest => ([], rest)
  match rest with
  | c :: _ =>
    if startsName c then
      some (String.ofList (start ++ rest.takeWhile continuesName), rest.dropWhile continuesName)
    else if start = ['#'] then some ("#", rest)
    else none
  | [] => if start = ['#'] then some ("#", rest) else none

/-- Symbols, a longer one before its beginnings. -/
def symbols : List String :=
  ["...", "!=", "=~", "!~", "==", "<=", ">=", "&&", "||", ":", ",", ".", "(", ")", "[", "]",
    "\x7b", "\x7d", "?", "!", "=", "<", ">", "&", "|", "*", "/", "+", "-"]

def markAt? (cs : List Char) : Option (Token × List Char) :=
  (symbols.find? fun s => s.toList.isPrefixOf cs).map fun s => (mark s, cs.drop s.length)

/-! Numbers -/

def digitValue (c : Char) : Nat :=
  if c.isDigit then c.toNat - '0'.toNat
  else if 'a' ≤ c ∧ c ≤ 'f' then c.toNat - 'a'.toNat + 10
  else if 'A' ≤ c ∧ c ≤ 'F' then c.toNat - 'A'.toNat + 10
  else 16

/-- Digits to a base, with underscores between them. -/
def basedNumber? (base : Nat) (cs : List Char) : Option (Token × List Char) :=
  let isDigit (c : Char) : Bool := c = '_' || digitValue c < base
  let digits := (cs.takeWhile isDigit).filter (· ≠ '_')
  if digits = [] then none
  else some (number true ⟨digits.foldl (fun n c => base * n + digitValue c) 0, 0⟩,
    cs.dropWhile isDigit)

/-- The factor that a letter behind a number stands for. -/
def multiplier (cs : List Char) : Option (Nat × List Char) :=
  match cs with
  | c :: rest =>
    match ['K', 'M', 'G', 'T', 'P'].findIdx? (· = c) with
    | some i =>
      match rest with
      | 'i' :: rest => some (Nat.pow 1024 (i + 1), rest)
      | rest => some (Nat.pow 1000 (i + 1), rest)
    | none => none
  | [] => none

def decimalNumber? (cs : List Char) : Option (Token × List Char) :=
  let isDigit (c : Char) : Bool := c = '_' || c.isDigit
  let whole := (cs.takeWhile isDigit).filter (· ≠ '_')
  let rest := cs.dropWhile isDigit
  let (fraction, rest, pointed) : List Char × List Char × Bool := match rest with
    | '.' :: c :: r =>
      if c.isDigit then
        (((c :: r).takeWhile isDigit).filter (· ≠ '_'), (c :: r).dropWhile isDigit, true)
      else ([], rest, false)
    | rest => ([], rest, false)
  let (exponent, rest, raised) : Int × List Char × Bool := match rest with
    | e :: r =>
      let (sign, r) : Int × List Char := match r with
        | '-' :: r => (-1, r)
        | '+' :: r => (1, r)
        | r => (1, r)
      let digits := r.takeWhile Char.isDigit
      if (e = 'e' ∨ e = 'E') ∧ digits ≠ [] then
        (sign * Decimal.digitsValue digits, r.dropWhile Char.isDigit, true)
      else (0, rest, false)
    | [] => (0, rest, false)
  let d : Decimal := ⟨Decimal.digitsValue (whole ++ fraction), exponent - fraction.length⟩
  match whole with
  | '0' :: _ :: _ => none
  | _ =>
    match multiplier rest with
    | some (m, rest) => some (number true ⟨d.coefficient * m, d.exponent⟩, rest)
    | none => some (number (!pointed && !raised) d, rest)

def numberAt? : List Char → Option (Token × List Char)
  | '0' :: 'x' :: cs | '0' :: 'X' :: cs => basedNumber? 16 cs
  | '0' :: 'b' :: cs => basedNumber? 2 cs
  | '0' :: 'o' :: cs => basedNumber? 8 cs
  | cs => decimalNumber? cs

/-! Quoted text -/

/-- A delimiter of quoted text: how many quotes of which sort, and how many `#` around them. -/
structure Quoting where
  quote : Char
  width : Nat
  hashes : Nat

namespace Quoting

variable (q : Quoting)

def closing : List Char := List.replicate q.width q.quote ++ List.replicate q.hashes '#'

def escapeStart : List Char := '\\' :: List.replicate q.hashes '#'

/-- The character with the code that the first `width` digits give. -/
def coded? (base width : Nat) (cs : List Char) : Option (Char × List Char) :=
  let digits := cs.take width
  if digits.length = width ∧ digits.all (digitValue · < base) then
    some (Char.ofNat (digits.foldl (fun n c => base * n + digitValue c) 0), cs.drop width)
  else none

/-- The character that an escape stands for. -/
def escapeAt? : List Char → Option (Char × List Char)
  | [] => none
  | c :: rest =>
    if c = '\\' ∨ c = '/' ∨ c = q.quote then some (c, rest)
    else match c with
      | 'a' => some ('\x07', rest)
      | 'b' => some ('\x08', rest)
      | 'f' => some ('\x0c', rest)
      | 'n' => some ('\n', rest)
      | 'r' => some ('\r', rest)
      | 't' => some ('\t', rest)
      | 'v' => some ('\x0b', rest)
      | 'u' => coded? 16 4 rest
      | 'U' => coded? 16 8 rest
      | 'x' => if q.quote = '\x27' then coded? 16 2 rest else none
      | c => if q.quote = '\x27' ∧ c.isDigit then coded? 8 3 (c :: rest) else none

/-- The text up to the closing delimiter, and what follows that. -/
def contentAt? : Nat → List Char → Option (List Char × List Char)
  | 0, _ => none
  | fuel + 1, cs =>
    if q.closing.isPrefixOf cs then some ([], cs.drop q.closing.length)
    else if q.escapeStart.isPrefixOf cs then do
      let (c, rest) ← q.escapeAt? (cs.drop q.escapeStart.length)
      let (content, rest) ← contentAt? fuel rest
      return (c :: content, rest)
    else match cs with
      | [] => none
      | c :: rest =>
        if c = '\n' ∧ q.width = 1 then none
        else (contentAt? fuel rest).map fun r => (c :: r.1, r.2)

end Quoting

/-- A text over several lines without its first break, its last line and the indent of that line. -/
def unindented (cs : List Char) : Option (List Char) := do
  let lines := cs.splitOn '\n'
  let first ← lines.head?
  let indent ← lines.getLast?
  if first.any (· ≠ '\r') || indent.any (fun c => c ≠ ' ' && c ≠ '\t') then failure
  let body := (lines.drop 1).dropLast
  if body.any fun l => l ≠ [] && !indent.isPrefixOf l then failure
  return List.intercalate ['\n'] (body.map (·.drop indent.length))

/-- Reads quoted text of any form. -/
def quotedAt? (cs : List Char) : Option (Token × List Char) := do
  let hashes := (cs.takeWhile (· = '#')).length
  let cs := cs.drop hashes
  let quote ← cs.head?
  if quote ≠ '"' ∧ quote ≠ '\x27' then failure
  let wrap (content : List Char) : Token :=
    if quote = '"' then text (String.ofList content) else bytes (String.ofList content)
  if (List.replicate 3 quote).isPrefixOf cs then do
    let (content, rest) ← Quoting.contentAt? ⟨quote, 3, hashes⟩ (cs.length + 1) (cs.drop 3)
    return (wrap (← unindented content), rest)
  else do
    let (content, rest) ← Quoting.contentAt? ⟨quote, 1, hashes⟩ (cs.length + 1) (cs.drop 1)
    return (wrap content, rest)

/-! Hints -/

/-- The bracket that closes another. -/
def partner : Char → Option Char
  | '(' => some ')'
  | '[' => some ']'
  | '\x7b' => some '\x7d'
  | _ => none

/-- What follows the bracket that closes the innermost of `brackets`, the outermost last. -/
def balancedAt? : Nat → List Char → List Char → Option (List Char)
  | 0, _, _ => none
  | _, [], cs => some cs
  | _, _, [] => none
  | fuel + 1, bracket :: brackets, c :: rest =>
    if c = '"' ∨ c = '\x27' then do
      let (_, rest) ← quotedAt? (c :: rest)
      balancedAt? fuel (bracket :: brackets) rest
    else match partner c with
      | some close => balancedAt? fuel (close :: bracket :: brackets) rest
      | none =>
        if c = bracket then balancedAt? fuel brackets rest
        else if c = ')' ∨ c = ']' ∨ c = '\x7d' then none
        else balancedAt? fuel (bracket :: brackets) rest

/-- Reads a hint such as `@name(body)` behind its `@`. -/
def hintAt? (cs : List Char) : Option (Token × List Char) := do
  let name := cs.takeWhile continuesName
  match cs.dropWhile continuesName with
  | '(' :: inner =>
    let rest ← balancedAt? (inner.length + 1) [')'] inner
    let body := inner.take (inner.length - rest.length - 1)
    return (hint (String.ofList name) (String.ofList body), rest)
  | _ => failure

/-- Reads the token at the start of a text. -/
def at? (cs : List Char) : Option (Token × List Char) :=
  match cs with
  | '_' :: '|' :: '_' :: rest => some (bottom, rest)
  | '@' :: rest => hintAt? rest
  | '"' :: _ | '\x27' :: _ | '#' :: '"' :: _ | '#' :: '\x27' :: _ | '#' :: '#' :: _ => quotedAt? cs
  | '.' :: d :: _ => if d.isDigit then numberAt? cs else markAt? cs
  | c :: _ =>
    if c.isDigit then numberAt? cs
    else match nameAt? cs with
      | some (n, rest) => some (name n, rest)
      | none => markAt? cs
  | [] => none

end Token

/-- A place in a text and the lexemes before it, the latest first. `comments` are the comments since
the last lexeme with their lines, the latest first. -/
structure Scan where
  rest : List Char
  line : Nat := 1
  column : Nat := 1
  lexemes : List Lexeme := []
  comments : List (Nat × String) := []

namespace Scan

variable (s : Scan)

/-- Passes over characters. -/
def pass : List Char → Scan → Scan
  | [], s => s
  | c :: cs, s =>
    if c = '\n' then pass cs { s with line := s.line + 1, column := 1 }
    else pass cs { s with column := s.column + c.utf8Size }

def advance (rest : List Char) : Scan :=
  { pass (s.rest.take (s.rest.length - rest.length)) s with rest := rest }

def commaDue : Bool :=
  match s.lexemes with
  | l :: _ => l.token.endsDeclaration
  | [] => false

/-- The comments of the lines right above `line`, the topmost first. -/
def commentAbove : Nat → List (Nat × String) → List String
  | _, [] => []
  | line, (l, text) :: rest => if l + 1 = line then commentAbove l rest ++ [text] else []

def push (file : String) (token : Token) : Scan :=
  { s with
    lexemes := ⟨token, ⟨file, s.line, s.column⟩, commentAbove s.line s.comments⟩ :: s.lexemes,
    comments := [] }

/-- The comma that a line break stands for. -/
def pushComma (file : String) : Scan :=
  { s with lexemes := ⟨.mark ",", ⟨file, s.line, s.column⟩, []⟩ :: s.lexemes }

/-- A comment beside a token is not a comment above the next. -/
def addComment (text : String) : Scan :=
  let beside : Bool := match s.lexemes with
    | l :: _ => l.position.line = s.line
    | [] => false
  if beside then s else { s with comments := (s.line, text) :: s.comments }

end Scan

/-- The lexemes from a place on. -/
def scanFrom (file : String) : Nat → Scan → Option (List Lexeme)
  | 0, _ => none
  | fuel + 1, s =>
    match s.rest with
    | [] => some (if s.commaDue then s.pushComma file else s).lexemes.reverse
    | '\n' :: rest =>
      scanFrom file fuel ((if s.commaDue then s.pushComma file else s).advance rest)
    | ' ' :: rest | '\t' :: rest | '\r' :: rest => scanFrom file fuel (s.advance rest)
    | '/' :: '/' :: rest =>
      let s := if s.commaDue then s.pushComma file else s
      let text := rest.takeWhile (· ≠ '\n')
      scanFrom file fuel ((s.addComment (String.ofList text)).advance (rest.dropWhile (· ≠ '\n')))
    | cs =>
      match Token.at? cs with
      | some (token, rest) => scanFrom file fuel ((s.push file token).advance rest)
      | none => none

/-- The lexemes of a text, unless some of it is no token at all. -/
def lexemes? (file text : String) : Option (List Lexeme) :=
  let cs := match text.toList with
    | '\ufeff' :: cs => cs
    | cs => cs
  scanFrom file (cs.length + 1) { rest := cs }

end TypedPath.Schema
