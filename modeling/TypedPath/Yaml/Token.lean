import TypedPath.Yaml.ScalarText

/-! Tokens of a YAML text. Indentation is turned into start and end tokens here, and a key that is
not marked as one is recognised by the colon behind it. -/
namespace TypedPath.Yaml

inductive TokenKind
  | streamEnd
  | version (major minor : String)
  | tagHandle (handle start : String)
  | documentStart
  | documentEnd
  | blockSequence
  | blockMapping
  | blockEnd
  | flowSequence
  | flowSequenceEnd
  | flowMapping
  | flowMappingEnd
  | blockEntry
  | flowEntry
  | key
  | value
  | standIn (name : String)
  | anchor (name : String)
  | tag (handle suffix : String)
  | scalar (text : String) (plain : Bool)
  deriving Repr, DecidableEq, Inhabited

structure Token where
  kind : TokenKind
  line : Nat
  deriving Repr, Inhabited

/-- A token that turns out to be a key if a colon follows. -/
structure KeyCandidate where
  required : Bool
  position : Nat
  place : Cursor
  deriving Inhabited

/-- The tokens read so far and what is needed to read on. `keys` holds a candidate for every level
of flow collections, the innermost first. -/
structure Scan where
  cursor : Cursor
  tokens : Array Token := #[]
  indent : Int := -1
  indents : List Int := []
  keyAllowed : Bool := true
  flowLevel : Nat := 0
  keys : List (Option KeyCandidate) := [none]
  deriving Inhabited

namespace Scan

variable (s : Scan)

def emit (kind : TokenKind) : Scan :=
  { s with tokens := s.tokens.push ⟨kind, s.cursor.line⟩ }

/-- Gives up the candidate for a key. A candidate that had to be one is an error. -/
def dropKey : Option Scan :=
  match s.keys with
  | some k :: rest => if k.required then none else some { s with keys := none :: rest }
  | _ => some s

/-- Notes that the next token may be a key. -/
def noteKey : Option Scan :=
  if s.keyAllowed then
    s.dropKey.map fun s =>
      let required := s.flowLevel = 0 && s.indent = s.cursor.column
      { s with keys := some ⟨required, s.tokens.size, s.cursor⟩ :: s.keys.tail }
  else some s

/-- The candidate for a key, unless it is too far behind. -/
def currentKey : Option (Option KeyCandidate) :=
  match s.keys with
  | some k :: _ =>
    if k.place.line < s.cursor.line ∨ k.place.index + 1024 < s.cursor.index then
      if k.required then none else some none
    else some (some k)
  | _ => some none

/-- Closes the blocks that are indented deeper than `column`. -/
def closeBlocks (column : Int) : Scan :=
  if s.flowLevel > 0 then s
  else close s.indents s
where
  close : List Int → Scan → Scan
    | [], s => s
    | outer :: rest, s =>
      if column < s.indent then
        close rest { s.emit .blockEnd with indent := outer, indents := rest }
      else s

/-- Opens a block at `column` with a token at the given position among the tokens. -/
def openBlock (column : Nat) (position : Nat) (token : Token) : Scan :=
  if s.flowLevel = 0 ∧ s.indent < column then
    { s with
      tokens := s.tokens.insertIdxIfInBounds position token
      indent := column
      indents := s.indent :: s.indents }
  else s

/-- Passes comment lines and what lies between them. -/
def passComments : Nat → Cursor → Cursor
  | 0, c => c
  | fuel + 1, c =>
    if c.at? '#' then
      let c := c.skipWhile (!isBreak ·)
      let ahead := passBlankLines (c.rest.length + 1) c
      if ahead.at? '#' then passComments fuel ahead else c
    else c
where
  passBlankLines : Nat → Cursor → Cursor
    | 0, c => c
    | fuel + 1, c =>
      match c.peek with
      | some ch =>
        if isBlank ch then passBlankLines fuel c.skip
        else if isBreak ch then passBlankLines fuel c.skipLine
        else c
      | none => c

/-- Passes blanks, comments and line breaks in front of a token. -/
def passGap : Nat → Scan → Scan
  | 0, s => s
  | fuel + 1, s =>
    let c := s.cursor
    let c := if c.column = 0 ∧ c.peek.any (·.toNat = 0xfeff) then c.skip else c
    let tabs := s.flowLevel > 0 || !s.keyAllowed
    let c := c.skipWhile fun ch => ch = ' ' || (tabs && ch = '\t')
    let c := passComments (c.rest.length + 1) c
    match c.peek with
    | some ch =>
      if isBreak ch then
        passGap fuel
          { s with cursor := c.skipLine, keyAllowed := s.keyAllowed || s.flowLevel = 0 }
      else { s with cursor := c }
    | none => { s with cursor := c }

/-- Passes a comment behind a token on the same line. -/
def passLineComment : Scan :=
  let c := s.cursor.skipWhile isBlank
  if c.at? '#' then { s with cursor := c.skipWhile (!isBreak ·) } else s

/-- Takes `n` characters as one token. -/
def take (n : Nat) (kind : TokenKind) : Scan :=
  let s := s.emit kind
  { s with cursor := s.cursor.skipMany n }

def streamEnd : Option Scan :=
  let c := s.cursor
  let c := if c.column = 0 then c else { c with line := c.line + 1, column := 0 }
  let s := { s with cursor := c }
  (s.closeBlocks (-1)).dropKey.map fun s => { s.emit .streamEnd with keyAllowed := false }

def documentMark (kind : TokenKind) : Option Scan :=
  (s.closeBlocks (-1)).dropKey.map fun s => { s.take 3 kind with keyAllowed := false }

def flowStart (kind : TokenKind) : Option Scan :=
  s.noteKey.map fun s =>
    { s.take 1 kind with
      flowLevel := s.flowLevel + 1, keys := none :: s.keys, keyAllowed := true }

def flowEnd (kind : TokenKind) : Option Scan :=
  s.dropKey.map fun s =>
    { s.take 1 kind with
      flowLevel := s.flowLevel - 1
      keys := if s.flowLevel = 0 then s.keys else s.keys.tail
      keyAllowed := false }

def flowEntry : Option Scan :=
  s.dropKey.map fun s => { s.take 1 .flowEntry with keyAllowed := true }

def blockEntry : Option Scan :=
  if s.flowLevel = 0 ∧ !s.keyAllowed then none
  else
    let s := s.openBlock s.cursor.column s.tokens.size ⟨.blockSequence, s.cursor.line⟩
    s.dropKey.map fun s => { s.take 1 .blockEntry with keyAllowed := true }

def explicitKey : Option Scan :=
  if s.flowLevel = 0 ∧ !s.keyAllowed then none
  else
    let s := s.openBlock s.cursor.column s.tokens.size ⟨.blockMapping, s.cursor.line⟩
    s.dropKey.map fun s => { s.take 1 .key with keyAllowed := s.flowLevel = 0 }

def value : Option Scan :=
  match s.currentKey with
  | none => none
  | some (some k) =>
    let s := { s with tokens := s.tokens.insertIdxIfInBounds k.position ⟨.key, k.place.line⟩ }
    let s := s.openBlock k.place.column k.position ⟨.blockMapping, k.place.line⟩
    some { s.take 1 .value with keys := none :: s.keys.tail, keyAllowed := false }
  | some none =>
    if s.flowLevel = 0 ∧ !s.keyAllowed then none
    else
      let s := { s with keys := none :: s.keys.tail }
      let s := s.openBlock s.cursor.column s.tokens.size ⟨.blockMapping, s.cursor.line⟩
      some { s.take 1 .value with keyAllowed := s.flowLevel = 0 }

/-- An anchor or an alias. -/
def named (kind : String → TokenKind) : Option Scan := do
  let s ← s.noteKey
  let name := s.cursor.skip.rest.takeWhile isWordChar
  let after := s.cursor.skipMany (name.length + 1)
  let ends := match after.peek with
    | some ch => isBlank ch || isBreak ch || "?:,]\x7d%@\x60".toList.contains ch
    | none => true
  if name = [] ∨ !ends then none
  else some { s.take (name.length + 1) (kind (String.ofList name)) with keyAllowed := false }

def isUriChar (c : Char) : Bool :=
  isWordChar c || ";/?:@&=+$,.!~*()[]%\x27".toList.contains c

/-- The text of a tag, in which a percent sign and two hexadecimal digits stand for a character. -/
def uriText : List Char → Option (List Char)
  | [] => some []
  | '%' :: a :: b :: rest => do
    let n ← hexValue? [a, b]
    return Char.ofNat n :: (← uriText rest)
  | '%' :: _ => none
  | c :: rest => (uriText rest).map (c :: ·)

def tag : Option Scan := do
  let s ← s.noteKey
  let rest := s.cursor.rest
  let finish (n : Nat) (handle suffix : List Char) : Option Scan := do
    let suffix ← uriText suffix
    if !isBlankOrEnd (s.cursor.peek n) then none
    else
      let s := s.take n (.tag (String.ofList handle) (String.ofList suffix))
      some { s with keyAllowed := false }
  match rest with
  | '!' :: '<' :: more =>
    let uri := more.takeWhile isUriChar
    if uri = [] ∨ (more.drop uri.length).head? ≠ some '>' then none
    else finish (uri.length + 3) [] uri
  | _ =>
    let word := rest.tail.takeWhile isWordChar
    let more := rest.drop (word.length + 1)
    if more.head? = some '!' then
      let uri := more.tail.takeWhile isUriChar
      if uri = [] then none
      else finish (word.length + 2 + uri.length) ('!' :: (word ++ ['!'])) uri
    else
      let uri := rest.tail.takeWhile isUriChar
      if uri = [] then finish 1 [] ['!'] else finish (uri.length + 1) ['!'] uri

/-- A directive line. -/
def directive : Option Scan := do
  let s ← (s.closeBlocks (-1)).dropKey
  let c := s.cursor.skip
  let name := c.rest.takeWhile isWordChar
  let c := (c.skipMany name.length)
  if name = [] ∨ !isBlankOrEnd c.peek then none
  let c := c.skipWhile isBlank
  let (kind, c) ← match String.ofList name with
    | "YAML" =>
      let major := c.rest.takeWhile Char.isDigit
      let c := c.skipMany major.length
      if major = [] ∨ !c.at? '.' then none
      else
        let c := c.skip
        let minor := c.rest.takeWhile Char.isDigit
        if minor = [] then none
        else some (TokenKind.version (String.ofList major) (String.ofList minor),
          c.skipMany minor.length)
    | "TAG" =>
      let handle := c.rest.takeWhile fun ch => isWordChar ch || ch = '!'
      let c := c.skipMany handle.length
      if handle.head? ≠ some '!' ∨ handle.getLast? ≠ some '!' ∨ !c.peek.any isBlank then none
      else
        let c := c.skipWhile isBlank
        let start := c.rest.takeWhile isUriChar
        let c := c.skipMany start.length
        if start = [] ∨ !isBlankOrEnd c.peek then none
        else some (TokenKind.tagHandle (String.ofList handle) (String.ofList start), c)
    | _ => none
  let c := c.skipWhile isBlank
  let c := if c.at? '#' then c.skipWhile (!isBreak ·) else c
  if !isBreakOrEnd c.peek then none
  let s := s.emit kind
  return { s with cursor := if c.rest = [] then c else c.skipLine, keyAllowed := false }

def quotedScalar (quote : Char) : Option Scan := do
  let s ← s.noteKey
  let (c, text) ← quotedText quote s.cursor
  return { s.emit (.scalar text false) with cursor := c, keyAllowed := false }

def plainScalar : Option Scan := do
  let s ← s.noteKey
  let (c, text, afterBreak) ← plainText (s.flowLevel > 0) (s.indent + 1).toNat s.cursor
  return { s.emit (.scalar text true) with cursor := c, keyAllowed := afterBreak }

def blockScalar (literal : Bool) : Option Scan := do
  let s ← s.dropKey
  let (c, text) ← blockText literal s.indent s.cursor
  return { s.emit (.scalar text false) with cursor := c, keyAllowed := true }

/-- Whether a plain scalar can start with `ch` when `next` follows. -/
def startsPlain (flow : Bool) (ch : Char) (next : Option Char) : Bool :=
  if ch = '-' then !next.any isBlank
  else if ch = '?' || ch = ':' then !flow && !isBlankOrEnd next
  else !",[]\x7b\x7d#&*!|>\x27\"%@\x60".toList.contains ch

/-- Reads the next token. Behind the end of the text there are only more ends. -/
def next : Option Scan :=
  let s := s.passGap (s.cursor.rest.length + 1)
  let s := s.closeBlocks s.cursor.column
  let flow := s.flowLevel > 0
  let c := s.cursor
  match c.peek with
  | none => s.streamEnd
  | some ch =>
    let afterBlank := isBlankOrEnd (c.peek 1)
    if c.column = 0 ∧ ch = '%' then s.directive
    else if c.atDocumentMark then s.documentMark (if ch = '-' then .documentStart else .documentEnd)
    else if ch = '-' ∧ afterBlank then s.blockEntry
    else
      Option.map passLineComment
        (match ch with
        | '[' => s.flowStart .flowSequence
        | '\x7b' => s.flowStart .flowMapping
        | ']' => s.flowEnd .flowSequenceEnd
        | '\x7d' => s.flowEnd .flowMappingEnd
        | ',' => s.flowEntry
        | '*' => s.named .standIn
        | '&' => s.named .anchor
        | '!' => s.tag
        | '\x27' => s.quotedScalar '\x27'
        | '"' => s.quotedScalar '"'
        | _ =>
          if ch = '?' ∧ (flow ∨ afterBlank) then s.explicitKey
          else if ch = ':' ∧ (flow ∨ afterBlank) then s.value
          else if ch = '|' ∧ !flow then s.blockScalar true
          else if ch = '>' ∧ !flow then s.blockScalar false
          else if startsPlain flow ch (c.peek 1) then s.plainScalar
          else none)

/-- Reads tokens up to the end of the text. The flag tells whether the end was reached. -/
def all : Nat → Scan → Array Token × Bool
  | 0, s => (s.tokens, false)
  | fuel + 1, s =>
    match s.next with
    | none => (s.tokens, false)
    | some s => if s.tokens.back?.any (·.kind = .streamEnd) then (s.tokens, true) else s.all fuel

end Scan

/-- The tokens of a text up to its end or to the first place that is none, and which of the two it
is. -/
def tokens (text : String) : Array Token × Bool :=
  let chars := match text.toList with
    | c :: rest => if c.toNat = 0xfeff then rest else c :: rest
    | [] => []
  if chars.all isAllowed then Scan.all (chars.length + 1) { cursor := { rest := chars } }
  else (#[], false)

end TypedPath.Yaml
