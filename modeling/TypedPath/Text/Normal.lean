import TypedPath.Text.Normal.Data

/-! Canonical composition of text, with a limit on the length of a run of marks.

Two spellings of one text, such as a letter with an accent written as one or as two code points,
get the same normal form. A run of more than thirty marks is broken by a joiner. -/
namespace TypedPath.Text.Normal

def combiningClass (c : Nat) : Nat :=
  if c < 0x300 then 0
  else ((combiningRanges.find? fun r => r.1 ≤ c && c ≤ r.2.1).map (·.2.2)).getD 0

/-- Hangul syllables are spelled by rule: a leading consonant, a vowel and an optional tail. -/
def syllableBase : Nat := 0xac00
def leadBase : Nat := 0x1100
def vowelBase : Nat := 0x1161
def tailBase : Nat := 0x11a7
def vowelCount : Nat := 21
def tailCount : Nat := 28
def leadCount : Nat := 19

def isSyllable (c : Nat) : Bool :=
  syllableBase ≤ c && c < syllableBase + leadCount * vowelCount * tailCount

def spellSyllable (c : Nat) : List Nat :=
  let i := c - syllableBase
  let lead := leadBase + i / (vowelCount * tailCount)
  let vowel := vowelBase + i % (vowelCount * tailCount) / tailCount
  if i % tailCount = 0 then [lead, vowel] else [lead, vowel, tailBase + i % tailCount]

/-- The full canonical spelling of a code point. Spellings nest at most `depth` deep. -/
def spell (depth : Nat) (c : Nat) : List Nat :=
  match depth with
  | 0 => [c]
  | depth + 1 =>
    if c < 0xc0 then [c]
    else if isSyllable c then spellSyllable c
    else match singletons.lookup c with
      | some d => spell depth d
      | none => match (compositions ++ expansions).find? (·.1 = c) with
        | some (_, a, b) => spell depth a ++ spell depth b
        | none => [c]

/-- The deepest nesting of spellings in the data. -/
def spellDepth : Nat := 8

/-- Puts a mark in front of a spelled text, behind the marks of a lower class. -/
def place (c : Nat) : List Nat → List Nat
  | [] => [c]
  | d :: rest =>
    if combiningClass d ≠ 0 && combiningClass d < combiningClass c then d :: place c rest
    else c :: d :: rest

def reorder (cs : List Nat) : List Nat := cs.foldr place []

/-- The code point that two adjacent ones make, if any. -/
def pair? (a b : Nat) : Option Nat :=
  if leadBase ≤ a && a < leadBase + leadCount && vowelBase ≤ b && b < vowelBase + vowelCount then
    some (syllableBase + ((a - leadBase) * vowelCount + (b - vowelBase)) * tailCount)
  else if isSyllable a && (a - syllableBase) % tailCount = 0 && tailBase < b
      && b < tailBase + tailCount then
    some (a + (b - tailBase))
  else (compositions.find? fun p => p.2.1 = a && p.2.2 = b).map (·.1)

/-- Composes behind an open starter. `marks` are the marks kept behind it, the latest first. -/
def composeFrom (starter : Nat) (marks : List Nat) : List Nat → List Nat
  | [] => starter :: marks.reverse
  | c :: rest =>
    let open? := match marks with
      | [] => true
      | m :: _ => combiningClass m < combiningClass c
    match if open? then pair? starter c else none with
    | some p => composeFrom p marks rest
    | none =>
      if combiningClass c = 0 then starter :: (marks.reverse ++ composeFrom c [] rest)
      else composeFrom starter (c :: marks) rest

def compose : List Nat → List Nat
  | [] => []
  | c :: rest => if combiningClass c = 0 then composeFrom c [] rest else c :: compose rest

/-- Whether a code point may attach to the text before it. -/
def attaches (c : Nat) : Bool :=
  combiningClass c ≠ 0
    || (vowelBase ≤ c && c < vowelBase + vowelCount)
    || (tailBase < c && c < tailBase + tailCount)
    || (0x300 ≤ c && compositions.any fun p => p.2.2 = c)

/-- How many code points at the start and at the end of a code point's spelling are marks. -/
def marksOf (c : Nat) : Nat × Nat :=
  match markCounts.find? fun r => r.1 ≤ c && c ≤ r.2.1 with
  | some (_, _, lead, trail) => (lead, trail)
  | none =>
    let s := spell spellDepth c
    ((s.takeWhile attaches).length, (s.reverse.takeWhile attaches).length)

/-- The longest run of marks that is left whole. -/
def maxMarks : Nat := 30

/-- The combining grapheme joiner, which breaks a run of marks. -/
def joiner : Nat := 0x34f

/-- Breaks every run of more than `maxMarks` marks, `run` of which are already behind. -/
def breakRuns (run : Nat) : List Nat → List Nat
  | [] => []
  | c :: rest =>
    let (lead, trail) := marksOf c
    if run + lead > maxMarks then joiner :: c :: breakRuns (if lead = 0 then trail else lead) rest
    else c :: breakRuns (if lead = 0 then trail else run + lead) rest

def ofCodes (cs : List Nat) : List Nat :=
  compose (reorder ((breakRuns 0 cs).flatMap (spell spellDepth)))

end TypedPath.Text.Normal

namespace TypedPath.Text

/-- The normal form of a text. Text below U+0300 is its own normal form. -/
def normalize (s : String) : String :=
  if s.toList.all (·.toNat < 0x300) then s
  else String.ofList ((Normal.ofCodes (s.toList.map Char.toNat)).map Char.ofNat)

end TypedPath.Text
