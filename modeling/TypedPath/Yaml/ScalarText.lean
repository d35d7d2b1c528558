import TypedPath.Yaml.Cursor

/-! The texts of scalars: plain, quoted and block scalars with their rules for joining lines. -/
namespace TypedPath.Yaml

/-- The text of a scalar while it is read. Texts stand in reverse. -/
structure ScalarText where
  text : List Char := []
  blanks : List Char := []
  firstBreak : List Char := []
  laterBreaks : List Char := []
  afterBreak : Bool := false
  deriving Inhabited

namespace ScalarText

variable (t : ScalarText)

/-- Line breaks read so far as they enter the text: a single one becomes a space. -/
def foldedBreaks : List Char :=
  if t.firstBreak = ['\n'] then
    if t.laterBreaks = [] then [' '] else t.laterBreaks
  else t.laterBreaks ++ t.firstBreak

/-- Adds what separates the words read so far from the next one. -/
def joined : ScalarText :=
  if t.afterBreak then { text := t.foldedBreaks ++ t.text }
  else { text := t.blanks ++ t.text }

def push (c : Char) : ScalarText := { t with text := c :: t.text }

/-- Passes a line break. -/
def newline (c : Cursor) : ScalarText :=
  if t.afterBreak then { t with laterBreaks := c.breakText ++ t.laterBreaks }
  else { t with blanks := [], firstBreak := c.breakText, afterBreak := true }

def result : String := String.ofList t.text.reverse

end ScalarText

/-- Passes blanks and line breaks inside a scalar. A tab in front of column `indent` is refused. -/
def scalarGap (indent : Nat) : Nat → Cursor → ScalarText → Option (Cursor × ScalarText)
  | 0, c, t => some (c, t)
  | fuel + 1, c, t =>
    match c.peek with
    | some ch =>
      if isBlank ch then
        if t.afterBreak then
          if c.column < indent ∧ ch = '\t' then none else scalarGap indent fuel c.skip t
        else scalarGap indent fuel c.skip { t with blanks := ch :: t.blanks }
      else if isBreak ch then scalarGap indent fuel c.skipLine (t.newline c)
      else some (c, t)
    | none => some (c, t)

/-- Whether a plain scalar ends at this place. -/
def endsPlain (flow : Bool) (c : Cursor) : Bool :=
  match c.peek with
  | some ':' => isBlankOrEnd (c.peek 1)
  | some ch => flow && ",?[]\x7b\x7d".toList.contains ch
  | none => true

/-- Reads a plain scalar. `fresh` is set at its start and behind every gap. -/
def plainFrom (flow : Bool) (indent : Nat) :
    Nat → Bool → Cursor → ScalarText → Option (Cursor × ScalarText)
  | 0, _, c, t => some (c, t)
  | fuel + 1, fresh, c, t =>
    if fresh ∧ (c.atDocumentMark ∨ c.at? '#') then some (c, t)
    else match c.peek with
      | none => some (c, t)
      | some ch =>
        if isBlank ch || isBreak ch then
          match scalarGap indent (c.rest.length + 1) c t with
          | none => none
          | some (c, t) =>
            if !flow && c.column < indent then some (c, t)
            else plainFrom flow indent fuel true c t
        else if endsPlain flow c then some (c, t)
        else
          plainFrom flow indent fuel false c.skip (t.joined.push ch)

/-- The text of a plain scalar, and whether it was left behind a line break. -/
def plainText (flow : Bool) (indent : Nat) (c : Cursor) : Option (Cursor × String × Bool) :=
  (plainFrom flow indent (c.rest.length + 1) true c {}).map fun (c, t) =>
    (c, t.result, t.afterBreak)

def hexValue? (cs : List Char) : Option Nat :=
  cs.foldl (fun acc ch => do
    let n ← acc
    let d ←
      if ch.isDigit then some (ch.toNat - '0'.toNat)
      else if 'a' ≤ ch ∧ ch ≤ 'f' then some (ch.toNat - 'a'.toNat + 10)
      else if 'A' ≤ ch ∧ ch ≤ 'F' then some (ch.toNat - 'A'.toNat + 10)
      else none
    return 16 * n + d) (some 0)

/-- A character given by `width` hexadecimal digits. -/
def codeEscape? (width : Nat) (rest : List Char) : Option (Char × Nat) := do
  if rest.length < width then none
  let n ← hexValue? (rest.take width)
  if n > 0x10ffff ∨ (0xd800 ≤ n ∧ n ≤ 0xdfff) then none
  else some (Char.ofNat n, width)

/-- The character behind a backslash, and how many characters spell it. -/
def escape? : List Char → Option (Char × Nat)
  | ch :: rest =>
    match ch with
    | '0' => some (Char.ofNat 0, 1)
    | 'a' => some (Char.ofNat 0x07, 1)
    | 'b' => some (Char.ofNat 0x08, 1)
    | 't' | '\t' => some ('\t', 1)
    | 'n' => some ('\n', 1)
    | 'v' => some (Char.ofNat 0x0b, 1)
    | 'f' => some (Char.ofNat 0x0c, 1)
    | 'r' => some ('\r', 1)
    | 'e' => some (Char.ofNat 0x1b, 1)
    | ' ' => some (' ', 1)
    | '"' => some ('"', 1)
    | '\x27' => some ('\x27', 1)
    | '\\' => some ('\\', 1)
    | 'N' => some (Char.ofNat 0x85, 1)
    | '_' => some (Char.ofNat 0xa0, 1)
    | 'L' => some (Char.ofNat 0x2028, 1)
    | 'P' => some (Char.ofNat 0x2029, 1)
    | 'x' => (codeEscape? 2 rest).map fun (c, n) => (c, n + 1)
    | 'u' => (codeEscape? 4 rest).map fun (c, n) => (c, n + 1)
    | 'U' => (codeEscape? 8 rest).map fun (c, n) => (c, n + 1)
    | _ => none
  | [] => none

/-- Reads a quoted scalar behind its opening quote. -/
def quotedFrom (quote : Char) : Nat → Cursor → ScalarText → Option (Cursor × ScalarText)
  | 0, _, _ => none
  | fuel + 1, c, t =>
    if c.atDocumentMark then none
    else match c.rest with
      | [] => none
      | ch :: rest =>
        if isBlank ch || isBreak ch then
          match scalarGap 0 (c.rest.length + 1) c t with
          | none => none
          | some (c, t) => quotedFrom quote fuel c t.joined
        else if ch = quote then
          if quote = '\x27' ∧ rest.head? = some '\x27' then
            quotedFrom quote fuel (c.skipMany 2) (t.push '\x27')
          else some (c.skip, t)
        else if quote = '"' ∧ ch = '\\' then
          match rest with
          | next :: _ =>
            if isBreak next then
              match scalarGap 0 (c.rest.length + 1) c.skip.skipLine
                { t with afterBreak := true } with
              | none => none
              | some (c, t) =>
                quotedFrom quote fuel c { text := t.laterBreaks ++ t.text }
            else match escape? rest with
              | none => none
              | some (e, n) => quotedFrom quote fuel (c.skipMany (n + 1)) (t.push e)
          | [] => none
        else quotedFrom quote fuel c.skip (t.push ch)

def quotedText (quote : Char) (c : Cursor) : Option (Cursor × String) :=
  (quotedFrom quote (c.rest.length + 1) c.skip {}).map fun (c, t) => (c, t.result)

/-- What a block scalar does with the line breaks at its end. -/
inductive Chomping
  | strip
  | clip
  | keep
  deriving DecidableEq, Inhabited

/-- Reads the indicators behind `|` or `>`: chomping and depth of indentation, in either order. -/
def blockHeader (c : Cursor) : Option (Cursor × Chomping × Nat) :=
  let chomping (c : Cursor) : Cursor × Chomping :=
    if c.at? '+' then (c.skip, .keep) else if c.at? '-' then (c.skip, .strip) else (c, .clip)
  let digit (c : Cursor) : Option (Cursor × Nat) :=
    match c.peek with
    | some ch =>
      if ch = '0' then none
      else if ch.isDigit then some (c.skip, ch.toNat - '0'.toNat)
      else some (c, 0)
    | none => some (c, 0)
  match chomping c with
  | (c, .clip) => (digit c).map fun (c, n) => let (c, k) := chomping c; (c, k, n)
  | (c, k) => (digit c).map fun (c, n) => (c, k, n)

/-- Passes the indentation and the empty lines in front of a line of a block scalar. `widest` is the
deepest indentation seen so far. -/
def blockGap (indent : Nat) : Nat → Nat → List Char → Cursor → Option (Cursor × List Char × Nat)
  | 0, widest, breaks, c => some (c, breaks, widest)
  | fuel + 1, widest, breaks, c =>
    let spaces := (c.rest.takeWhile (· = ' ')).length
    let c := c.skipMany (if indent = 0 then spaces else min spaces (indent - c.column))
    let widest := max widest c.column
    if (indent = 0 ∨ c.column < indent) ∧ c.at? '\t' then none
    else match c.peek with
      | some ch =>
        if isBreak ch then blockGap indent fuel widest (c.breakText ++ breaks) c.skipLine
        else some (c, breaks, widest)
      | none => some (c, breaks, widest)

/-- Reads the lines of a block scalar. -/
def blockLines (literal : Bool) (indent : Nat) :
    Nat → Bool → List Char → List Char → List Char → Cursor →
    Option (Cursor × List Char × List Char × List Char)
  | 0, _, text, first, later, c => some (c, text, first, later)
  | fuel + 1, leadingBlank, text, first, later, c =>
    if c.column ≠ indent ∨ c.rest = [] then some (c, text, first, later)
    else
      let blank := c.rest.head?.any isBlank
      let text :=
        if !literal && !leadingBlank && !blank && first = ['\n'] then
          if later = [] then ' ' :: text else text
        else first ++ text
      let line := c.rest.takeWhile (!isBreak ·)
      let text := line.reverse ++ (later ++ text)
      let c := c.skipMany line.length
      let first := c.breakText
      match blockGap indent (c.rest.length + 1) 0 [] c.skipLine with
      | none => none
      | some (c, later, _) => blockLines literal indent fuel blank text first later c

/-- The text of a block scalar in a block of indentation `parent`, which is -1 at the top. -/
def blockText (literal : Bool) (parent : Int) (c : Cursor) : Option (Cursor × String) := do
  let (c, chomping, increment) ← blockHeader c.skip
  let c := c.skipWhile isBlank
  let c := if c.at? '#' then c.skipWhile (!isBreak ·) else c
  if !isBreakOrEnd c.peek then none
  let c := if c.rest = [] then c else c.skipLine
  let given : Nat := if increment = 0 then 0 else (max parent 0).toNat + increment
  let (c, breaks, widest) ← blockGap given (c.rest.length + 1) 0 [] c
  let indent := if given = 0 then max widest (max (parent + 1).toNat 1) else given
  let (c, text, first, later) ←
    blockLines literal indent (c.rest.length + 1) false [] [] breaks c
  let text := if chomping = .strip then text else first ++ text
  let text := if chomping = .keep then later ++ text else text
  return (c, String.ofList text.reverse)

end TypedPath.Yaml
