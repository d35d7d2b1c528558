import TypedPath.Command.Flag

/-! Command lines: which command is meant, and what its flags say. A word that is no command may be
close to the name of one. -/
namespace TypedPath.Arguments

variable (flags : List Flag)

def long? (name : String) : Option Flag := flags.find? (·.name = name)

def short? (c : Char) : Option Flag := flags.find? (·.short = some c)

/-- A character in quotes. One beyond ASCII stands for its first byte. -/
def quotedChar (c : Char) : String :=
  let n := c.toNat
  let first := match c.utf8Size with
    | 1 => n
    | 2 => 0xc0 + n / 64
    | 3 => 0xe0 + n / 4096
    | _ => 0xf0 + n / 262144
  let shown := Char.ofNat first
  "\x27" ++ (if shown = '\x27' then "\\\x27" else if shown = '"' then "\""
    else Text.escapeChar shown) ++ "\x27"

/-- What an argument leaves open: nothing, or a flag that takes the next argument as its value.
`missing` is the complaint if there is none. -/
inductive Reading
  | done (options : Options)
  | wants (flag : Flag) (missing : Error) (options : Options)

/-- Reads a flag by its name, behind two dashes. -/
def readLong (cs : List Char) (o : Options) : Except Error Reading :=
  let argument := "--" ++ String.ofList cs
  let name := String.ofList (cs.takeWhile (· ≠ '='))
  if name = "" ∨ cs.head? = some '-' then .error (.plain ("bad flag syntax: " ++ argument))
  else match long? flags name, cs.dropWhile (· ≠ '=') with
    | none, _ => .error (.plain ("unknown flag: --" ++ name))
    | some f, _ :: value => (o.set f (String.ofList value)).map .done
    | some f, [] =>
      if f.isSwitch then (o.set f "true").map .done
      else .ok (.wants f (.plain ("flag needs an argument: " ++ argument)) o)

/-- Letters with which test runners mark flags of their own, which are left alone. -/
def testMark : List Char := "test.".toList

/-- Reads flags by their letters, behind one dash. A letter that needs a value takes what follows.
-/
def readShort : List Char → Options → Except Error Reading
  | [], o => .ok (.done o)
  | c :: rest, o =>
    let place := quotedChar c ++ " in -" ++ String.ofList (c :: rest)
    if testMark.isPrefixOf (c :: rest) then .ok (.done o)
    else match short? flags c with
    | none => .error (.plain ("unknown shorthand flag: " ++ place))
    | some f =>
      match rest with
      | '=' :: v :: value => (o.set f (String.ofList (v :: value))).map .done
      | rest =>
        if f.isSwitch then (o.set f "true").bind (readShort rest)
        else if rest = [] then .ok (.wants f (.plain ("flag needs an argument: " ++ place)) o)
        else (o.set f (String.ofList rest)).map .done

/-- Whether an argument holds flags. A single dash does not. -/
def isFlag (a : String) : Bool :=
  match a.toList with
  | '-' :: _ :: _ => true
  | _ => false

/-- Reads the flags in one argument. -/
def read (a : String) (o : Options) : Except Error Reading :=
  match a.toList with
  | '-' :: '-' :: cs => readLong flags cs o
  | _ :: cs => readShort flags cs o
  | [] => .ok (.done o)

/-- Reads flags and the other arguments, in any order. Two dashes end the flags. -/
def parse : List String → Options → Except Error (Options × List String)
  | [], o => .ok (o, [])
  | a :: rest, o =>
    if a = "--" then .ok (o, rest)
    else if isFlag a then
      match read flags a o, rest with
      | .error e, _ => .error e
      | .ok (.wants _ missing _), [] => .error missing
      | .ok (.wants f _ o), value :: rest => (o.set f value).bind (parse rest)
      | .ok (.done o), rest => parse rest o
    else (parse rest o).map fun (o, others) => (o, a :: others)

/-- Whether an argument is a flag that takes the next argument as its value, going by the flags of
every command: one that is not known there is taken to need a value. -/
def takesNext (a : String) : Bool :=
  match a.toList with
  | '-' :: '-' :: cs =>
    !cs.contains '=' && !(long? Flag.shared (String.ofList cs)).any (·.isSwitch)
  | ['-', c] =>
    c.toNat < 0x80 && c ≠ '=' && !(short? Flag.shared c).any (·.isSwitch)
  | _ => false

/-- The first argument that names a command. A flag that waits for its value hides what is left if
that is no more than the value. -/
def commandWord? : List String → Option String
  | [] => none
  | a :: rest =>
    if a = "--" then none
    else if takesNext a then
      match rest with
      | _ :: b :: more => commandWord? (b :: more)
      | _ => none
    else if a = "" ∨ a.toList.head? = some '-' then commandWord? rest
    else some a

/-- The arguments without the word for the command. -/
def dropWord (word : String) : List String → List String
  | [] => []
  | a :: rest =>
    if a = "--" then a :: rest
    else if takesNext a then
      match rest with
      | b :: more => a :: b :: dropWord word more
      | [] => [a]
    else if a = word then rest
    else a :: dropWord word rest

/-- The distances from a word with one more letter in front, given those without it. There is one
entry for each rest of the other word, the longest first. -/
def nextDistances {α : Type} [DecidableEq α] (a : α) : List α → List Nat → List Nat
  | b :: bs, d :: rest =>
    match nextDistances a bs rest, rest with
    | n :: more, diagonal :: _ =>
      (if a = b then diagonal else 1 + min diagonal (min d n)) :: n :: more
    | more, _ => more
  | _, ds => ds.map (· + 1)

/-- The distances from a word to the ends of another, the whole of it first. -/
def distances {α : Type} [DecidableEq α] : List α → List α → List Nat
  | [], bs => (List.range (bs.length + 1)).reverse
  | a :: as, bs => nextDistances a bs (distances as bs)

/-- The least number of letters to insert, drop or exchange to get from one word to the other. -/
def editDistance {α : Type} [DecidableEq α] (as bs : List α) : Nat := (distances as bs).headD 0

/-- Whether a word may have been meant for the name of a command. -/
def resembles (word name : String) : Bool :=
  let bytes (s : String) : List UInt8 := s.toLower.toUTF8.toList
  editDistance (bytes word) (bytes name) ≤ 2 || (bytes word).isPrefixOf (bytes name)

/-- The complaint about a word that is no command. -/
def unknownCommand (word : String) : Error :=
  let meant := Help.offeredNames.filter (resembles word)
  .plain ("unknown command " ++ Text.escaped word ++ " for " ++ Text.escaped Help.programName
    ++ if meant.isEmpty then ""
      else "\n\nDid you mean this?\n" ++ String.join (meant.map fun n => "\t" ++ n ++ "\n"))

end TypedPath.Arguments
