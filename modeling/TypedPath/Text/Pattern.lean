/-! Patterns for text: characters and classes of them, one after the other, alternatives,
repetition, and marks for the ends of the text. A text is matched one character at a time by what is
left of the pattern behind it. -/
namespace TypedPath.Text

/-- A class of characters: those in some ranges, or all others. -/
structure CharClass where
  others : Bool := false
  ranges : List (Nat × Nat)
  deriving Repr, DecidableEq

namespace CharClass

def contains (k : CharClass) (c : Char) : Bool :=
  (k.ranges.any fun r => r.1 ≤ c.toNat && c.toNat ≤ r.2) != k.others

def only (c : Char) : CharClass := { ranges := [(c.toNat, c.toNat)] }

def everything : CharClass := { others := true, ranges := [] }

def digit : CharClass := { ranges := [(0x30, 0x39)] }

def word : CharClass := { ranges := [(0x30, 0x39), (0x41, 0x5a), (0x5f, 0x5f), (0x61, 0x7a)] }

def space : CharClass := { ranges := [(0x09, 0x0a), (0x0c, 0x0d), (0x20, 0x20)] }

def complement (k : CharClass) : CharClass := { k with others := !k.others }

end CharClass

inductive Pattern
  | never
  | nothing
  | start
  | stop
  | one (characters : CharClass)
  | next (first second : Pattern)
  | either (first second : Pattern)
  | repeated (pattern : Pattern)
  deriving Repr, DecidableEq

namespace Pattern

/-- Whether a pattern fits no text at a place, which may be the start or the end of the whole. -/
def fitsNothing (atStart atStop : Bool) : Pattern → Bool
  | never | one _ => false
  | nothing | repeated _ => true
  | start => atStart
  | stop => atStop
  | next p q => p.fitsNothing atStart atStop && q.fitsNothing atStart atStop
  | either p q => p.fitsNothing atStart atStop || q.fitsNothing atStart atStop

def joined : Pattern → Pattern → Pattern
  | never, _ | _, never => never
  | nothing, q => q
  | p, nothing => p
  | p, q => next p q

def choice (p q : Pattern) : Pattern :=
  if p = never ∨ p = q then q else if q = never then p else either p q

/-- What is left of a pattern behind a character. -/
def behind (atStart : Bool) (c : Char) : Pattern → Pattern
  | never | nothing | start | stop => never
  | one k => if k.contains c then nothing else never
  | next p q =>
    let first := joined (p.behind atStart c) q
    if p.fitsNothing atStart false then choice first (q.behind atStart c) else first
  | either p q => choice (p.behind atStart c) (q.behind atStart c)
  | repeated p => joined (p.behind atStart c) (repeated p)

/-- Whether a pattern fits a text from here to its end. -/
def fits (atStart : Bool) (p : Pattern) : List Char → Bool
  | [] => p.fitsNothing atStart true
  | c :: rest => (p.behind atStart c).fits false rest

def anything : Pattern := repeated (one .everything)

/-- Whether a pattern fits some part of a text. -/
def occursIn (p : Pattern) (text : String) : Bool :=
  (next anything (next p anything)).fits true text.toList

/-- A pattern a number of times. -/
def times (p : Pattern) : Nat → Pattern
  | 0 => nothing
  | n + 1 => joined p (p.times n)

/-- A pattern up to a number of times. -/
def upTo (p : Pattern) : Nat → Pattern
  | 0 => nothing
  | n + 1 => choice nothing (joined p (p.upTo n))

/-! How patterns are written -/

/-- The class that a letter behind a backslash stands for. -/
def namedClass? : Char → Option CharClass
  | 'd' => some .digit
  | 'D' => some CharClass.digit.complement
  | 'w' => some .word
  | 'W' => some CharClass.word.complement
  | 's' => some .space
  | 'S' => some CharClass.space.complement
  | _ => none

/-- The character that another stands for behind a backslash. -/
def escaped? : Char → Option Char
  | 'n' => some '\n'
  | 't' => some '\t'
  | 'r' => some '\r'
  | 'f' => some '\x0c'
  | 'v' => some '\x0b'
  | 'a' => some '\x07'
  | c => if c.isAlphanum || 0x80 ≤ c.toNat then none else some c

/-- Reads the inside of a class in brackets. -/
def classRanges? : Nat → List Char → Option (List (Nat × Nat) × List Char)
  | 0, _ => none
  | fuel + 1, cs => do
    let (low, rest) ← match cs with
      | '\\' :: c :: rest =>
        match namedClass? c with
        | some k => if k.others then none else some (Sum.inr k.ranges, rest)
        | none => (escaped? c).map fun c => (Sum.inl c.toNat, rest)
      | '[' :: ':' :: _ => none
      | c :: rest => some (Sum.inl c.toNat, rest)
      | [] => none
    let (ranges, rest) ← match low, rest with
      | .inr ranges, rest => some (ranges, rest)
      | .inl a, '-' :: ']' :: rest => some ([(a, a)], '-' :: ']' :: rest)
      | .inl a, '-' :: '\\' :: c :: rest => (escaped? c).map fun b => ([(a, b.toNat)], rest)
      | .inl a, '-' :: b :: rest => some ([(a, b.toNat)], rest)
      | .inl a, rest => some ([(a, a)], rest)
    if ranges.any fun r => r.2 < r.1 then none
    else match rest with
      | ']' :: rest => return (ranges, rest)
      | rest =>
        let (more, rest) ← classRanges? fuel rest
        return (ranges ++ more, rest)

/-- Reads a class behind its opening bracket. -/
def readClass (others : Bool) (cs : List Char) : Option (Pattern × List Char) :=
  (classRanges? (cs.length + 1) cs).map fun (ranges, rest) =>
    (one { others := others, ranges := ranges }, rest)

/-- Reads a number of times in braces. -/
def bounds? (cs : List Char) : Option (Nat × Option (Option Nat) × List Char) :=
  let number (ds : List Char) : Option Nat :=
    if ds = [] ∨ !ds.all Char.isDigit then none
    else some (ds.foldl (fun n c => 10 * n + (c.toNat - '0'.toNat)) 0)
  let inside := cs.takeWhile (· ≠ '\x7d')
  match cs.dropWhile (· ≠ '\x7d') with
  | [] => none
  | _ :: rest => do
    let least ← number (inside.takeWhile (· ≠ ','))
    match inside.dropWhile (· ≠ ',') with
    | [] => return (least, none, rest)
    | [_] => return (least, some none, rest)
    | _ :: most => return (least, some (some (← number most)), rest)

/-- The most times that a bound in braces can ask for. -/
def greatestBound : Nat := 1000

/-- Applies the marks for repetition behind a part of a pattern. -/
def withRepetition? (p : Pattern) (cs : List Char) : Option (Pattern × List Char) :=
  let eager (cs : List Char) : List Char := match cs with
    | '?' :: rest => rest
    | rest => rest
  let single (q : Pattern) (rest : List Char) : Option (Pattern × List Char) :=
    match eager rest with
    | '*' :: _ | '+' :: _ | '?' :: _ => none
    | rest => some (q, rest)
  match cs with
  | '*' :: rest => single (repeated p) rest
  | '+' :: rest => single (joined p (repeated p)) rest
  | '?' :: rest => single (choice nothing p) rest
  | '\x7b' :: rest =>
    match bounds? rest with
    | none => some (p, cs)
    | some (least, most, rest) =>
      if greatestBound < least then none
      else match most with
        | none => single (p.times least) rest
        | some none => single (joined (p.times least) (repeated p)) rest
        | some (some n) =>
          if greatestBound < n ∨ n < least then none
          else single (joined (p.times least) (p.upTo (n - least))) rest
  | rest => some (p, rest)

mutual

def readChoice : Nat → List Char → Option (Pattern × List Char)
  | 0, _ => none
  | fuel + 1, cs => do
    let (p, rest) ← readSequence fuel cs
    match rest with
    | '|' :: rest =>
      let (q, rest) ← readChoice fuel rest
      return (choice p q, rest)
    | rest => return (p, rest)

def readSequence : Nat → List Char → Option (Pattern × List Char)
  | 0, _ => none
  | fuel + 1, cs =>
    match cs with
    | [] => some (nothing, [])
    | '|' :: _ | ')' :: _ => some (nothing, cs)
    | cs => do
      let (p, rest) ← readPart fuel cs
      let (p, rest) ← withRepetition? p rest
      let (q, rest) ← readSequence fuel rest
      return (joined p q, rest)

def readPart : Nat → List Char → Option (Pattern × List Char)
  | 0, _ => none
  | fuel + 1, cs =>
    match cs with
    | '(' :: '?' :: ':' :: rest => readGroup fuel rest
    | '(' :: '?' :: _ => none
    | '(' :: rest => readGroup fuel rest
    | '[' :: '^' :: rest => readClass true rest
    | '[' :: rest => readClass false rest
    | '\\' :: c :: rest =>
      match namedClass? c with
      | some k => some (one k, rest)
      | none =>
        if c = 'A' then some (start, rest)
        else if c = 'z' then some (stop, rest)
        else (escaped? c).map fun c => (one (.only c), rest)
    | '^' :: rest => some (start, rest)
    | '$' :: rest => some (stop, rest)
    | '.' :: rest => some (one { others := true, ranges := [(0x0a, 0x0a)] }, rest)
    | '*' :: _ | '+' :: _ | '?' :: _ | ['\\'] | [] => none
    | c :: rest => some (one (.only c), rest)

def readGroup : Nat → List Char → Option (Pattern × List Char)
  | 0, _ => none
  | fuel + 1, cs => do
    match ← readChoice fuel cs with
    | (p, ')' :: rest) => return (p, rest)
    | _ => none

end

/-- Reads a pattern. Flags, named groups and classes by name are not understood. -/
def parse? (s : String) : Option Pattern :=
  match readChoice (4 * s.length + 4) s.toList with
  | some (p, []) => some p
  | _ => none

end Pattern

end TypedPath.Text
