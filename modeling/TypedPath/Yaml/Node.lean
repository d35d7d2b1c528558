import TypedPath.Yaml.Scalar
import TypedPath.Yaml.Token

/-! The tree of a YAML document. Only the first document of a text is read. -/
namespace TypedPath.Yaml

/-- A node, with the line it starts on and its tag. An alias holds the node it stands for; a `cycle`
is an alias inside the very node it stands for. -/
inductive Node
  | scalar (line : Nat) (tag : String) (text : String)
  | sequence (line : Nat) (tag : String) (items : List Node)
  | mapping (line : Nat) (tag : String) (entries : List (Node × Node))
  | standIn (line : Nat) (name : String) (target : Node)
  | cycle (line : Nat) (name : String)
  deriving Repr, Inhabited

namespace Node

def line : Node → Nat
  | scalar l _ _ | sequence l _ _ | mapping l _ _ | standIn l _ _ | cycle l _ => l

/-- The tag of the value of a node. -/
def tag : Node → String
  | scalar _ t _ | sequence _ t _ | mapping _ t _ => t
  | standIn _ _ target => target.tag
  | cycle _ _ => ""

mutual

/-- How deep a node is nested, aliases included. -/
def depth : Node → Nat
  | sequence _ _ items => depthOfItems items + 1
  | mapping _ _ entries => depthOfEntries entries + 1
  | standIn _ _ target => target.depth + 1
  | _ => 1

def depthOfItems : List Node → Nat
  | [] => 0
  | n :: rest => max n.depth (depthOfItems rest)

def depthOfEntries : List (Node × Node) → Nat
  | [] => 0
  | e :: rest => max (depthOfEntry e) (depthOfEntries rest)

def depthOfEntry : Node × Node → Nat
  | (k, v) => max k.depth v.depth

end

end Node

/-- The place in a row of tokens, with the anchors met so far, the latest first. A node whose end is
not yet reached has an anchor without a node. -/
structure Place where
  position : Nat := 0
  anchors : List (String × Option Node) := []
  handles : List (String × String) := [("!", "!"), ("!!", "tag:yaml.org,2002:")]

/-- The tokens of a text. Unless they are complete, there is an error behind the last. -/
structure Source where
  tokens : Array Token
  complete : Bool

abbrev Read := StateT Place Option

namespace Source

variable (src : Source)

/-- The next token. Two tokens behind it are always read before it is used. -/
def peek : Read Token := do
  let i := (← get).position
  if src.complete || i + 2 < src.tokens.size then
    return src.tokens[i]?.getD ⟨.streamEnd, 0⟩
  else failure

def skip : Read Unit := modify fun p => { p with position := p.position + 1 }

def accept (kind : TokenKind) : Read Bool := do
  if (← src.peek).kind = kind then
    skip
    return true
  else return false

end Source

def emptyScalar (line : Nat) : Node := .scalar (line + 1) "!!null" ""

/-- The short form of a tag. -/
def shortTag (tag : String) : String :=
  if tag.startsWith "tag:yaml.org,2002:" then "!!" ++ (tag.drop 18).toString else tag

/-- The tag of a scalar that has none of its own. -/
def scalarTag (text : String) (plain : Bool) : String :=
  if !plain then "!!str" else if text = "<<" then "!!merge" else (plainValue text).1

/-- Anchor and tag in front of a node, in either order, and the line of the first of them. -/
structure Properties where
  anchor : Option String := none
  tag : Option String := none
  line : Option Nat := none

/-- The tag that a handle and a suffix spell. -/
def fullTag (handle suffix : String) : Read String := do
  if handle = "" then return suffix
  match (← get).handles.lookup handle with
  | some start => return start ++ suffix
  | none => failure

namespace Source

variable (src : Source)

def readAnchor (p : Properties) : Read Properties := do
  let t ← src.peek
  match t.kind with
  | .anchor name =>
    skip
    return { p with anchor := some name, line := p.line.or (some t.line) }
  | _ => return p

def readTag (p : Properties) : Read Properties := do
  let t ← src.peek
  match t.kind with
  | .tag handle suffix =>
    skip
    return { p with tag := some (← fullTag handle suffix), line := p.line.or (some t.line) }
  | _ => return p

def readProperties : Read Properties := do
  match (← src.peek).kind with
  | .anchor _ => src.readTag (← src.readAnchor {})
  | _ => src.readAnchor (← src.readTag {})

end Source

/-- The explicit tag of a node, or else the given one. -/
def Properties.tagOr (p : Properties) (default : String) : String :=
  match p.tag with
  | some t => if t = "" ∨ t = "!" then default else shortTag t
  | none => default

/-- Notes the start of a node with an anchor, and gives the number of that anchor. -/
def openAnchor (p : Properties) : Read (Option Nat) := do
  match p.anchor with
  | none => return none
  | some name =>
    let place ← get
    set { place with anchors := (name, none) :: place.anchors }
    return some place.anchors.length

/-- Notes the end of a node with an anchor. -/
def closeAnchor (number : Option Nat) (n : Node) : Read Node := do
  match number with
  | none => return n
  | some i =>
    modify fun place =>
      { place with
        anchors := (place.anchors.reverse.modify i fun a => (a.1, some n)).reverse }
    return n

/-- A node of which there is only an anchor or a tag. -/
def emptyNode (p : Properties) (line : Nat) : Read Node := do
  if p.anchor.isSome || p.tag.isSome then
    closeAnchor (← openAnchor p) (.scalar line (p.tagOr "!!null") "")
  else failure

namespace Source

variable (src : Source)

/-- Passes the comma in front of any item but the first, and tells whether an item follows. -/
def flowContinues (first : Bool) (close : TokenKind) : Read Bool := do
  if ← src.accept close then return false
  else if first then return true
  else if ← src.accept .flowEntry then
    if ← src.accept close then return false else return true
  else failure

mutual

/-- Reads a node. Block collections are refused inside flow collections, and a sequence may stand at
the indentation of the key in front of it. -/
def node (block indentless : Bool) : Nat → Read Node
  | 0 => failure
  | fuel + 1 => do
    let t ← src.peek
    match t.kind with
    | .standIn name =>
      skip
      match (← get).anchors.lookup name with
      | some (some target) => return .standIn (t.line + 1) name target
      | some none => return .cycle (t.line + 1) name
      | none => failure
    | _ =>
      let p ← src.readProperties
      let t ← src.peek
      let line := p.line.getD t.line + 1
      let collection (default : String) (body : Read Node) : Read Node := do
        let number ← openAnchor p
        closeAnchor number (match ← body with
          | .sequence _ _ items => .sequence line (p.tagOr default) items
          | .mapping _ _ entries => .mapping line (p.tagOr default) entries
          | n => n)
      match t.kind with
      | .scalar text plain =>
        skip
        closeAnchor (← openAnchor p) (.scalar line (p.tagOr (scalarTag text plain)) text)
      | .flowSequence =>
        skip
        collection "!!seq" do return .sequence 0 "" (← flowItems true fuel)
      | .flowMapping =>
        skip
        collection "!!map" do return .mapping 0 "" (← flowEntries true fuel)
      | .blockEntry =>
        if indentless then
          collection "!!seq" do return .sequence 0 "" (← blockItems true fuel)
        else emptyNode p line
      | .blockSequence =>
        if block then
          skip
          collection "!!seq" do return .sequence 0 "" (← blockItems false fuel)
        else emptyNode p line
      | .blockMapping =>
        if block then
          skip
          collection "!!map" do return .mapping 0 "" (← blockEntries fuel)
        else emptyNode p line
      | _ => emptyNode p line

/-- The items of a block sequence, which ends by itself if it is not indented. -/
def blockItems (indentless : Bool) : Nat → Read (List Node)
  | 0 => failure
  | fuel + 1 => do
    let t ← src.peek
    if t.kind = .blockEntry then
      skip
      let next ← src.peek
      let ends := match next.kind with
        | .blockEntry | .blockEnd => true
        | .key | .value => indentless
        | _ => false
      let item ← if ends then pure (emptyScalar t.line) else node true false fuel
      return item :: (← blockItems indentless fuel)
    else if indentless then return []
    else if t.kind = .blockEnd then
      skip
      return []
    else failure

/-- A value behind a colon, or an empty one. -/
def blockValue : Nat → Read Node
  | 0 => failure
  | fuel + 1 => do
    let t ← src.peek
    if t.kind = .value then
      skip
      match (← src.peek).kind with
      | .key | .value | .blockEnd => return emptyScalar t.line
      | _ => node true true fuel
    else return emptyScalar t.line

def blockEntries : Nat → Read (List (Node × Node))
  | 0 => failure
  | fuel + 1 => do
    let t ← src.peek
    if t.kind = .key then
      skip
      let key ← match (← src.peek).kind with
        | .key | .value | .blockEnd => pure (emptyScalar t.line)
        | _ => node true true fuel
      let value ← blockValue fuel
      return (key, value) :: (← blockEntries fuel)
    else if t.kind = .blockEnd then
      skip
      return []
    else failure

/-- A value behind a colon in a flow collection, or an empty one. -/
def flowValue (close : TokenKind) : Nat → Read Node
  | 0 => failure
  | fuel + 1 => do
    if ← src.accept .value then
      let t ← src.peek
      if t.kind = .flowEntry ∨ t.kind = close then return emptyScalar t.line
      else node false false fuel
    else return emptyScalar (← src.peek).line

def flowItems (first : Bool) : Nat → Read (List Node)
  | 0 => failure
  | fuel + 1 => do
    if ← src.flowContinues first .flowSequenceEnd then
      let t ← src.peek
      let item ←
        if t.kind = .key then do
          skip
          let next ← src.peek
          let key ← match next.kind with
            | .value | .flowEntry | .flowSequenceEnd => do
              skip
              pure (emptyScalar next.line)
            | _ => node false false fuel
          let value ← flowValue .flowSequenceEnd fuel
          pure (.mapping (t.line + 1) "!!map" [(key, value)])
        else node false false fuel
      return item :: (← flowItems false fuel)
    else return []

def flowEntries (first : Bool) : Nat → Read (List (Node × Node))
  | 0 => failure
  | fuel + 1 => do
    if ← src.flowContinues first .flowMappingEnd then
      if ← src.accept .key then
        let t ← src.peek
        let key ← match t.kind with
          | .value | .flowEntry | .flowMappingEnd => pure (emptyScalar t.line)
          | _ => node false false fuel
        let value ← flowValue .flowMappingEnd fuel
        return (key, value) :: (← flowEntries false fuel)
      else
        let key ← node false false fuel
        let value := emptyScalar (← src.peek).line
        return (key, value) :: (← flowEntries false fuel)
    else return []

end

/-- Reads directives, of which there is at most one version. -/
def directives (versioned : Bool) : Nat → Read Bool
  | 0 => failure
  | fuel + 1 => do
    match (← src.peek).kind with
    | .version major minor =>
      let isOne (s : String) : Bool := Decimal.digitsValue s.toList = 1
      if versioned ∨ !isOne major ∨ !isOne minor then
        failure
      else
        skip
        let _ ← directives true fuel
        return true
    | .tagHandle handle start =>
      let place ← get
      set { place with handles := (handle, start) :: place.handles }
      skip
      let _ ← directives versioned fuel
      return true
    | _ => return false

/-- Reads the first document, if there is one. -/
def document : Read (Option Node) := do
  let fuel := 4 * src.tokens.size + 4
  let marked ← src.directives false fuel
  let t ← src.peek
  match t.kind with
  | .streamEnd => if marked then failure else return none
  | .documentStart =>
    skip
    let t ← src.peek
    match t.kind with
    | .version .. | .tagHandle .. | .documentStart | .documentEnd | .streamEnd =>
      return some (emptyScalar t.line)
    | _ =>
      let n ← src.node true false fuel
      let _ ← src.peek
      return some n
  | _ =>
    if marked then failure
    else
      let n ← src.node true false fuel
      let _ ← src.peek
      return some n

end Source

/-- The first document of a text: no answer if the text is not YAML, and none inside if it is empty.
-/
def parse? (text : String) : Option (Option Node) :=
  let (tokens, complete) := tokens text
  ((Source.document ⟨tokens, complete⟩).run {}).map (·.1)

end TypedPath.Yaml
