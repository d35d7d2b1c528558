import TypedPath.Query.Form
import TypedPath.Yaml.Node

/-! Reads query documents from YAML. What does not fit is collected, so that all of it is reported.
-/
namespace TypedPath

/-- A part of a document that does not fit. -/
inductive DecodeFault
  | unknownField (line : Nat) (name type : String)
  | repeatedField (line : Nat) (name type : String)
  | repeatedKey (line : Nat) (key : String) (firstLine : Nat)
  | mismatch (line : Nat) (tag : String) (text : Option String) (type : String)
  deriving Repr, DecidableEq

/-- A text of more than ten bytes is cut to its first seven. A character that is cut is shown as one
replacement character for each of its bytes that are left. -/
def shortened (s : String) : String :=
  if s.utf8ByteSize ≤ 10 then s
  else String.ofList (cut 7 s.toList) ++ "..."
where
  cut : Nat → List Char → List Char
    | _, [] => []
    | room, c :: rest =>
      if c.utf8Size ≤ room then c :: cut (room - c.utf8Size) rest
      else List.replicate room (Char.ofNat 0xfffd)

namespace DecodeFault

def message : DecodeFault → String
  | unknownField line name type =>
    "line " ++ toString line ++ ": field " ++ name ++ " not found in type " ++ type
  | repeatedField line name type =>
    "line " ++ toString line ++ ": field " ++ name ++ " already set in type " ++ type
  | repeatedKey line key first =>
    "line " ++ toString line ++ ": mapping key " ++ Text.escaped key
      ++ " already defined at line " ++ toString first
  | mismatch line tag text type =>
    "line " ++ toString line ++ ": cannot unmarshal " ++ tag
      ++ (match text with
        | some t => " \x60" ++ shortened t ++ "\x60"
        | none => "")
      ++ " into " ++ type

end DecodeFault

namespace Yaml.Node

/-- What a node shows in the message that it does not fit. -/
def mismatch (n : Node) (type : String) : DecodeFault :=
  match n with
  | scalar line tag text => .mismatch line tag (some text) type
  | n =>
    .mismatch n.line n.tag (if n.tag = "!!seq" ∨ n.tag = "!!map" then none else some "") type

/-- The text by which a key is told apart from others of its sort. -/
def keyText : Node → Nat × String
  | scalar _ _ text => (0, text)
  | sequence .. => (1, "")
  | mapping .. => (2, "")
  | standIn _ name _ | cycle _ name => (3, name)

/-- The keys of a mapping that occur more than once. -/
def repeatedKeys : List (Node × Node) → List DecodeFault
  | [] => []
  | (k, _) :: rest =>
    (rest.filter fun e => e.1.keyText = k.keyText).map (fun e =>
      .repeatedKey e.1.line e.1.keyText.2 k.line) ++ repeatedKeys rest

def isMerge : Node → Bool
  | scalar _ tag text => tag = "!!merge" && text = "<<"
  | _ => false

end Yaml.Node

/-- One thing met while the fields of a record are read. -/
inductive Reading
  | field (line : Nat) (name : String) (value : Yaml.Node) (repeated : Bool)
  | fault (fault : DecodeFault)
  | broken

/-- Decoding collects faults, the latest first, and has no result on a document that is broken. -/
abbrev Decode := StateT (List DecodeFault) Option

namespace Decode

def report (f : DecodeFault) : Decode Unit := modify (f :: ·)

/-- Reports the repeated keys of a mapping, and tells whether there are none. -/
def checkKeys (entries : List (Yaml.Node × Yaml.Node)) : Decode Bool := do
  let faults := Yaml.Node.repeatedKeys entries
  faults.forM report
  return faults.isEmpty

/-- A node without the aliases in front of it. -/
def target : Nat → Yaml.Node → Decode Yaml.Node
  | 0, _ => failure
  | fuel + 1, n =>
    match n with
    | .standIn _ _ t => target fuel t
    | .cycle .. => failure
    | n => return n

/-- The value of a scalar. -/
def scalarValue (tag text : String) : Decode Value :=
  match Yaml.taggedValue? tag text with
  | some v => return v
  | none => failure

/-- A text. Null leaves it unset. -/
def text? (n : Yaml.Node) : Decode (Option String) := do
  match ← target n.depth n with
  | .scalar _ tag text =>
    let v ← scalarValue tag text
    return if v.isAbsent then none else some text
  | .mapping line tag entries =>
    if ← checkKeys entries then report ((Yaml.Node.mapping line tag entries).mismatch "string")
    return none
  | n =>
    report (n.mismatch "string")
    return none

/-- The whole part of a number as a 64-bit integer. What lies below the range is the least of them.
-/
def truncated (x : Floating) : Option Int :=
  match x with
  | .finite negative m q =>
    let whole : Nat := if 0 ≤ q then m <<< q.toNat else m >>> (-q).toNat
    let least := IntegerType.int.least
    if negative then some (max (-whole) least)
    else if IntegerType.int.holds whole then some whole
    else if whole = -least then some least
    else none
  | .infinite true => some IntegerType.int.least
  | _ => none

def integer? (n : Yaml.Node) : Decode (Option Int) := do
  match ← target n.depth n with
  | .scalar line tag text =>
    let v ← scalarValue tag text
    let i := match v with
      | .integer .int i => some i
      | .double x => truncated x
      | _ => none
    if i.isNone ∧ !v.isAbsent then report ((Yaml.Node.scalar line tag text).mismatch "int")
    return i
  | .mapping line tag entries =>
    if ← checkKeys entries then report ((Yaml.Node.mapping line tag entries).mismatch "int")
    return none
  | n =>
    report (n.mismatch "int")
    return none

/-- What the name of a key is read as: nothing for null, and a fault for a collection. -/
def keyReading (n : Yaml.Node) : Except Reading (Option String) :=
  match ((text? n).run []) with
  | none => .error .broken
  | some (name, []) => .ok name
  | some (_, f :: _) => .error (.fault f)

/-- The fields of a mapping, its own before the ones merged into it. `merged` are the names that a
merged mapping may no longer set. -/
def fieldsOf : Nat → Option (List String) → List (Yaml.Node × Yaml.Node) →
    List Reading × Option (List String)
  | 0, merged, _ => ([.broken], merged)
  | fuel + 1, merged, entries =>
    match Yaml.Node.repeatedKeys entries with
    | f :: rest => ((f :: rest).map .fault, merged)
    | [] =>
      let own := entries.foldl (fun (acc : List Reading × Option (List String) × List String) e =>
        let (readings, merged, seen) := acc
        if e.1.isMerge then acc
        else match keyReading e.1 with
          | .error r => (r :: readings, merged, seen)
          | .ok none => acc
          | .ok (some name) =>
            if merged.any (·.contains name) then acc
            else (.field e.1.line name e.2 (seen.contains name) :: readings,
              merged.map (name :: ·), name :: seen)) ([], merged, [])
      let (readings, merged, seen) := own
      let readings := readings.reverse
      match entries.find? (·.1.isMerge) with
      | none => (readings, merged)
      | some (_, source) =>
        let names := merged.getD seen
        let mergeOne (acc : List Reading × List String) (n : Yaml.Node) :
            List Reading × List String :=
          match (target n.depth n).run [] with
          | some (.mapping _ _ entries, _) =>
            let (more, names) := fieldsOf fuel (some acc.2) entries
            (acc.1 ++ more, names.getD acc.2)
          | _ => (acc.1 ++ [.broken], acc.2)
        let (more, names) := match source with
          | .sequence _ _ items => items.foldl mergeOne ([], names)
          | n => mergeOne ([], names) n
        (readings ++ more, merged.map fun _ => names)

/-- Reads a record field by field. Null and anything but a mapping give none. -/
def record? {α : Type} (type : String) (empty : α)
    (set : String → Yaml.Node → α → Option (Decode α)) (n : Yaml.Node) : Decode (Option α) := do
  match ← target n.depth n with
  | .mapping _ _ entries =>
    let mut result := empty
    for r in (fieldsOf (n.depth + 1) none entries).1 do
      match r with
      | .broken => failure
      | .fault f => report f
      | .field line name value repeated =>
        match set name value result with
        | none => report (.unknownField line name type)
        | some next =>
          if repeated then report (.repeatedField line name type)
          else result ← next
    return some result
  | .scalar line tag text =>
    let v ← scalarValue tag text
    if !v.isAbsent then report ((Yaml.Node.scalar line tag text).mismatch type)
    return none
  | n =>
    report (n.mismatch type)
    return none

/-- Reads a list. Items that give nothing are left out. -/
def list {α : Type} (type : String) (item : Yaml.Node → Decode (Option α)) (n : Yaml.Node) :
    Decode (List α) := do
  match ← target n.depth n with
  | .sequence _ _ items =>
    let results ← items.mapM item
    return results.filterMap id
  | .scalar line tag text =>
    let v ← scalarValue tag text
    if !v.isAbsent then report ((Yaml.Node.scalar line tag text).mismatch type)
    return []
  | .mapping line tag entries =>
    if ← checkKeys entries then report ((Yaml.Node.mapping line tag entries).mismatch type)
    return []
  | n =>
    report (n.mismatch type)
    return []

/-- Whether every key of a mapping is a text. -/
def hasTextKeys (entries : List (Yaml.Node × Yaml.Node)) : Bool :=
  entries.all fun e => e.1.tag = "!!str" || e.1.tag = "!!merge"

/-- Any value. Collections are kept by their type alone, but are still checked. -/
def value : Nat → Yaml.Node → Decode Value
  | 0, _ => failure
  | fuel + 1, n => do
    match ← target n.depth n with
    | .scalar _ tag text => scalarValue tag text
    | .sequence _ _ items =>
      items.forM fun i => do let _ ← value fuel i
      return .other "[]interface \x7b\x7d"
    | .mapping _ _ entries =>
      if ← checkKeys entries then
        entries.forM fun e => do
          let _ ← value fuel e.1
          let _ ← value fuel e.2
        return .other (if hasTextKeys entries then "map[string]interface \x7b\x7d"
          else "map[interface \x7b\x7d]interface \x7b\x7d")
      else return .absent
    | _ => failure

def valueOf (n : Yaml.Node) : Decode Value := value (n.depth + 1) n

mutual

def step? : Nat → Yaml.Node → Decode (Option Step)
  | 0, _ => failure
  | fuel + 1, n =>
    record? "querydoc.Step" ({} : Step) (fun name v s => match name with
      | "field" => some do return { s with field := (← text? v).getD s.field }
      | "index" => some do return { s with index := ← integer? v }
      | "key" => some do return { s with key := (← text? v).getD s.key }
      | "filter" => some do return { s with filter := ← predicate? fuel v }
      | "as" => some do return { s with narrowTo := (← text? v).getD s.narrowTo }
      | _ => none) n

def predicate? : Nat → Yaml.Node → Decode (Option Predicate)
  | 0, _ => failure
  | fuel + 1, n =>
    record? "querydoc.Predicate" ({} : Predicate) (fun name v p => match name with
      | "and" => some do
        return { p with all := ← list "[]querydoc.Predicate" (predicate? fuel) v }
      | "or" => some do
        return { p with any := ← list "[]querydoc.Predicate" (predicate? fuel) v }
      | "not" => some do return { p with negated := ← predicate? fuel v }
      | "path" => some do return { p with path := ← list "[]querydoc.Step" (step? fuel) v }
      | "equals" => some do return { p with equals := ← valueOf v }
      | "not_equals" => some do return { p with notEquals := ← valueOf v }
      | "gt" => some do return { p with greater := ← valueOf v }
      | "gte" => some do return { p with greaterOrEqual := ← valueOf v }
      | "lt" => some do return { p with less := ← valueOf v }
      | "lte" => some do return { p with lessOrEqual := ← valueOf v }
      | "match" => some do return { p with pattern := (← text? v).getD p.pattern }
      | _ => none) n

end

def query? (n : Yaml.Node) : Decode (Option Query) :=
  record? "querydoc.Query" ({} : Query) (fun name v q => match name with
    | "name" => some do return { q with name := (← text? v).getD q.name }
    | "description" => some do return { q with description := (← text? v).getD q.description }
    | "select" => some do
      return { q with select := ← list "[]querydoc.Step" (step? (v.depth + 1)) v }
    | "where" => some do return { q with filterBy := ← predicate? (v.depth + 1) v }
    | _ => none) n

def document (n : Yaml.Node) : Decode Document := do
  let d ← record? "querydoc.Document" ({} : Document) (fun name v d => match name with
    | "schema" => some do return { d with schema := (← text? v).getD d.schema }
    | "queries" => some do return { d with queries := ← list "[]querydoc.Query" query? v }
    | _ => none) n
  return d.getD {}

end Decode

/-- Why a text is no query document. -/
inductive DocumentError
  | syntaxError
  | empty
  | faults (faults : List DecodeFault)
  | form (error : Error)

namespace DocumentError

/-- The wording of an error. That of a text that is not YAML at all is left open. -/
def message : DocumentError → String
  | syntaxError => "failed to parse YAML"
  | empty => "failed to parse YAML: EOF"
  | faults fs =>
    "failed to parse YAML: yaml: unmarshal errors:"
      ++ String.join (fs.map fun f => "\n  " ++ f.message)
  | form e => e.message

end DocumentError

namespace Document

/-- Reads and checks a query document. -/
def parse (text : String) : Except DocumentError Document :=
  match Yaml.parse? text with
  | none => .error .syntaxError
  | some none => .error .empty
  | some (some n) =>
    match (Decode.document n).run [] with
    | none => .error .syntaxError
    | some (_, f :: faults) => .error (.faults (f :: faults).reverse)
    | some (d, []) =>
      match d.formError? with
      | some e => .error (.form e)
      | none => .ok d

end Document

end TypedPath
