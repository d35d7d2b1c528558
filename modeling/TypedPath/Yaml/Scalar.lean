import TypedPath.Literal

/-! The values of scalars: what a plain scalar stands for, by its text and its tag. -/
namespace TypedPath.Yaml

/-- The number that digits denote in a base, if they are digits of it. -/
def digitsIn? (base : Nat) (cs : List Char) : Option Nat :=
  if cs = [] then none
  else cs.foldl (fun acc ch => do
    let n ← acc
    let d ←
      if ch.isDigit then some (ch.toNat - '0'.toNat)
      else if ch.isAlpha then some (ch.toLower.toNat - 'a'.toNat + 10)
      else none
    if d < base then some (base * n + d) else none) (some 0)

/-- An optional sign in front of digits of a base. -/
def signedIn? (base : Nat) : List Char → Option Int
  | '-' :: cs => (digitsIn? base cs).map fun n => -(n : Int)
  | '+' :: cs => (digitsIn? base cs).map fun n => (n : Int)
  | cs => (digitsIn? base cs).map fun n => (n : Int)

/-- Digits behind the mark of their base; a zero in front marks base eight. -/
def unsigned? (cs : List Char) : Option Nat :=
  match cs with
  | '0' :: b :: c :: rest =>
    match b.toLower with
    | 'b' => digitsIn? 2 (c :: rest)
    | 'o' => digitsIn? 8 (c :: rest)
    | 'x' => digitsIn? 16 (c :: rest)
    | _ => digitsIn? 8 (b :: c :: rest)
  | '0' :: rest => if rest = [] then some 0 else digitsIn? 8 rest
  | _ => digitsIn? 10 cs

def integer? (cs : List Char) : Option Value :=
  let inRange (negative : Bool) (n : Nat) : Option Value :=
    let i : Int := if negative then -n else n
    if IntegerType.int.holds i then some (.integer .int i) else none
  match cs with
  | '-' :: rest => (unsigned? rest).bind (inRange true)
  | '+' :: rest => (unsigned? rest).bind (inRange false)
  | _ => (unsigned? cs).bind fun n =>
    (inRange false n).or
      (if IntegerType.uint64.holds n then some (.integer .uint64 n) else none)

/-- Digits of a base behind a mark, which may carry a sign of their own. -/
def marked? (mark : Char) (base : Nat) (cs : List Char) : Option Value :=
  match cs with
  | '0' :: m :: rest =>
    if m = mark then
      (signedIn? base rest).bind fun n =>
        if IntegerType.int.holds n then some (.integer .int n)
        else if IntegerType.uint64.holds n && rest.head?.any Char.isDigit then
          some (.integer .uint64 n)
        else none
    else none
  | '-' :: '0' :: m :: rest =>
    if m = mark then
      (digitsIn? base rest).bind fun n =>
        if IntegerType.int.holds (-n) then some (.integer .int (-n)) else none
    else none
  | _ => none

/-- Whether a text is a decimal number with an optional sign, fraction and exponent. -/
def isDecimal (cs : List Char) : Bool :=
  let cs := match cs with
    | '-' :: rest | '+' :: rest => rest
    | _ => cs
  let whole := cs.takeWhile Char.isDigit
  let afterWhole := cs.dropWhile Char.isDigit
  let (ok, afterFraction) := match afterWhole with
    | '.' :: rest =>
      (whole ≠ [] || rest.head?.any Char.isDigit, rest.dropWhile Char.isDigit)
    | _ => (whole ≠ [], afterWhole)
  ok && (match afterFraction with
    | [] => true
    | e :: rest =>
      let rest := match rest with
        | '-' :: r | '+' :: r => r
        | _ => rest
      (e = 'e' || e = 'E') && rest ≠ [] && rest.all Char.isDigit)

/-- A decimal number, unless it is too large. -/
def double? (cs : List Char) : Option Value :=
  if isDecimal cs then
    match Floating.parse? .double (String.ofList cs) with
    | some (.finite s m q) => some (.double (.finite s m q))
    | _ => none
  else none

/-- Removes underscores, each of which must stand between digits. -/
def withoutSeparators? : List Char → Option (List Char)
  | a :: '_' :: b :: rest =>
    if a.isDigit ∧ b.isDigit then (withoutSeparators? (b :: rest)).map (a :: ·) else none
  | c :: rest => if c = '_' then none else (withoutSeparators? rest).map (c :: ·)
  | [] => some []

/-- One or two digits at the start of a text. -/
def shortNumber? : List Char → Option (Nat × List Char)
  | a :: b :: rest =>
    if !a.isDigit then none
    else if b.isDigit then some (Decimal.digitsValue [a, b], rest)
    else some (Decimal.digitsValue [a], b :: rest)
  | [a] => if a.isDigit then some (Decimal.digitsValue [a], []) else none
  | [] => none

def daysIn (year month : Nat) : Nat :=
  if month = 2 then
    if year % 4 = 0 ∧ (year % 100 ≠ 0 ∨ year % 400 = 0) then 29 else 28
  else if month = 4 ∨ month = 6 ∨ month = 9 ∨ month = 11 then 30 else 31

/-- A date at the start of a text. -/
def date? (cs : List Char) : Option (List Char) := do
  let year := cs.takeWhile Char.isDigit
  let rest := cs.dropWhile Char.isDigit
  if year.length ≠ 4 ∨ rest.head? ≠ some '-' then none
  let (month, rest) ← shortNumber? rest.tail
  if month < 1 ∨ 12 < month ∨ rest.head? ≠ some '-' then none
  let (day, rest) ← shortNumber? rest.tail
  if day < 1 ∨ daysIn (Decimal.digitsValue year) month < day then none else some rest

/-- A time of day at the start of a text, with an optional fraction of a second. -/
def time? (cs : List Char) : Option (List Char) := do
  let (hour, rest) ← shortNumber? cs
  if 24 ≤ hour ∨ rest.head? ≠ some ':' then none
  let (minute, rest) ← shortNumber? rest.tail
  if 60 ≤ minute ∨ rest.head? ≠ some ':' then none
  let (second, rest) ← shortNumber? rest.tail
  if 60 ≤ second then none
  match rest with
  | p :: d :: _ =>
    if (p = '.' ∨ p = ',') ∧ d.isDigit then some (rest.tail.dropWhile Char.isDigit) else some rest
  | _ => some rest

/-- A time zone that ends a text. -/
def isZone : List Char → Bool
  | ['Z'] => true
  | [s, a, b, ':', c, d] =>
    (s = '+' || s = '-') && [a, b, c, d].all Char.isDigit
      && Decimal.digitsValue [a, b] ≤ 24 && Decimal.digitsValue [c, d] ≤ 60
  | _ => false

def isTimestamp (cs : List Char) : Bool :=
  match date? cs with
  | none => false
  | some [] => true
  | some (c :: rest) =>
    if c = 'T' || c = 't' then (time? rest).any isZone
    else c = ' ' && time? (rest.dropWhile (· = ' ')) = some []

/-- The words with a meaning of their own. -/
def wordValue? : String → Option (String × Value)
  | "true" | "True" | "TRUE" => some ("!!bool", .bool true)
  | "false" | "False" | "FALSE" => some ("!!bool", .bool false)
  | "" | "~" | "null" | "Null" | "NULL" => some ("!!null", .absent)
  | ".nan" | ".NaN" | ".NAN" => some ("!!float", .double .notANumber)
  | ".inf" | ".Inf" | ".INF" | "+.inf" | "+.Inf" | "+.INF" =>
    some ("!!float", .double (.infinite false))
  | "-.inf" | "-.Inf" | "-.INF" => some ("!!float", .double (.infinite true))
  | _ => none

/-- The tag and the value of a number or a timestamp. -/
def numberValue? (timestamps : Bool) (text : String) : Option (String × Value) :=
  let cs := text.toList
  match cs.head? with
  | some '.' =>
    ((withoutSeparators? cs).bind double?).map fun v => ("!!float", v)
  | some c =>
    if c.isDigit || c = '-' || c = '+' then
      if timestamps && isTimestamp cs then some ("!!timestamp", .other "time.Time")
      else
        let plain := cs.filter (· ≠ '_')
        match integer? plain with
        | some v => some ("!!int", v)
        | none =>
          match double? plain with
          | some v => some ("!!float", v)
          | none =>
            ((marked? 'b' 2 plain).or (marked? 'o' 8 plain)).map fun v => ("!!int", v)
    else none
  | none => none

/-- The tag and the value of a scalar without a tag. -/
def plainValue (text : String) : String × Value :=
  ((wordValue? text).or (numberValue? true text)).getD ("!!str", .text text)

/-- The value of a scalar with a tag. A text that does not fit its tag is an error. -/
def taggedValue? (tag text : String) : Option Value :=
  if tag = "!!str" ∨ tag = "!!merge" ∨ tag = "!!binary" then some (.text text)
  else
    let (found, value) :=
      ((wordValue? text).or (numberValue? (tag = "!!timestamp") text)).getD ("!!str", .text text)
    if found = tag then some value
    else match value with
      | .integer .int i =>
        if tag = "!!float" then some (.double (Floating.ofDecimal .double (i < 0) ⟨i, 0⟩)) else none
      | _ => none

end TypedPath.Yaml
