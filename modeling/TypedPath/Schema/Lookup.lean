import TypedPath.Schema.Evaluation
import TypedPath.Schema.Path
import TypedPath.Schema.View

/-! Views of values with the comments above their declarations, and the values at a path. -/
namespace TypedPath.Schema

/-- A line of a comment without the space in front and the white space behind. -/
def commentLine (s : String) : String :=
  let cs := match s.toList with
    | ' ' :: cs => cs
    | cs => cs
  String.ofList (cs.reverse.dropWhile fun c => c = ' ' || c = '\t' || c = '\n' || c = '\r').reverse

/-- Leaves one of several empty lines in a row. -/
def squeeze : List String → List String
  | "" :: "" :: rest => squeeze ("" :: rest)
  | l :: rest => l :: squeeze rest
  | [] => []

def commentText (lines : List String) : String :=
  Text.trimmed ("\n".intercalate (squeeze (lines.map commentLine)))

/-- The texts of several comments, each once. -/
def commentTexts (comments : List (List String)) : String :=
  "\n".intercalate (((comments.map commentText).filter (· ≠ "")).eraseDups)

/-- What a value comes to: nothing, something unknown, one thing, or a choice. -/
inductive Outcome
  | impossible
  | unknown
  | one (leaves : List Conjunct)
  | choice (alternatives : List Alternative)

namespace Value

/-- The value of what is missing at a place. -/
def missing (path : List Selector) : Value := ⟨path, [{ expr := .bottom, frames := [] }]⟩

def outcome (steps : Nat) (v : Value) : Outcome :=
  let judged := (alternatives steps [] v).map fun a => (judge steps v a.leaves, a)
  match judged.filter (·.1 ≠ .impossible) with
  | [] => .impossible
  | [(.unknown, _)] => .unknown
  | [(_, a)] => .one a.leaves
  | as => .choice (as.map (·.2))

/-- Where a value stands: at its declaration, or at one of its expressions if there are several. -/
def position? (v : Value) : Option Position :=
  match v.conjuncts with
  | [c] => c.origin.map (·.position)
  | cs =>
    let hasFields (c : Conjunct) : Bool := !c.decls.isEmpty
    let isAtom (c : Conjunct) : Bool := c.atom?.isSome
    let last := ((cs.filterMap (·.origin)).getLast?).map (·.valuePosition)
    match (cs.find? isAtom).or (cs.find? hasFields) with
    | some c => (c.origin.map (·.valuePosition)).or last
    | none => last

/-- The label by which an expression refers to a field. -/
def referenceLabel? (frames : List Frame) : Expr → Option Label
  | .reference n _ => do
    let (f, _) ← frameOf? n frames
    if (bindingOf? n f.decls).isSome then none else some (.ofName n)
  | .select e l _ => (referenceLabel? frames e).map fun _ => l
  | _ => none

def definitionName? (l : Label) : Option String :=
  if l.kind = .definition then some (l.name.drop 1).toString else none

/-- The definition that a value refers to, or else the definition that it is. -/
def recordName (v : Value) : String :=
  let referred := match v.conjuncts with
    | [c] => (referenceLabel? c.frames c.expr).bind definitionName?
    | _ => none
  let own := match v.path.getLast? with
    | some (.label l) => definitionName? l
    | _ => none
  (referred.or own).getD ""

def doc (v : Value) : String := commentTexts ((v.conjuncts.filterMap (·.origin)).map (·.comment))

/-- What the first hint about the shape says. -/
def shapeHint (v : Value) : String :=
  match ((v.conjuncts.filterMap (·.origin)).flatMap (·.hints)).find? (·.1 = "shape") with
  | some (_, body) => Text.trimmed body
  | none => ""

/-- The regular fields of a value that is decided, in the order of their declarations. -/
def fieldsOf (steps : Nat) (v : Value) (ls : List Conjunct) : List (Field Value) :=
  let vertex : Value := ⟨v.path, ls⟩
  ((mergedLabels (Leaves.labelRows ls)).filter (·.isRegular)).filterMap fun l => do
    let (presence, w) ← fieldAt steps vertex ls l
    let closed := presence ≠ .optional
      && !Leaves.allowed (patternFits steps vertex (some l)) (some l) ls
    let w := if closed then missing w.path else w
    return ⟨l.name, presence = .optional, w.shapeHint, w.doc, w⟩

/-- The value of fields that are not declared, if there can be any. -/
def anyField? (steps : Nat) (v : Value) (ls : List Conjunct) : Option Value :=
  let vertex : Value := ⟨v.path, ls⟩
  if !Leaves.allowed (patternFits steps vertex none) none ls then none
  else match patternConjuncts steps vertex ls none with
    | [] => none
    | cs => some ⟨v.path ++ [.anyField], cs⟩

/-- The struct that a choice stands for, if one of its alternatives is the default. -/
def defaultStruct? (as : List Alternative) : Option (List Conjunct) :=
  match as.filter (·.mark = .default) with
  | [a] => if (Leaves.kinds a.leaves).contains .struct then some a.leaves else none
  | _ => none

/-- One level of a value. -/
def view (steps : Nat) (v : Value) : View Value :=
  let blank : View Value :=
    { invalid := false, kinds := .empty, path := pathText v.path, position := v.position?,
      recordName := v.recordName, fields := none, item := missing v.path, pattern := none }
  match v.outcome steps with
  | .impossible | .unknown => { blank with invalid := true }
  | .one ls =>
    { blank with
      kinds := Leaves.kinds ls
      fields := some (v.fieldsOf steps ls)
      item := (Leaves.anyItem? ls ⟨v.path, ls⟩).getD blank.item
      pattern := v.anyField? steps ls }
  | .choice as =>
    { blank with
      kinds := (as.map fun a => Leaves.kinds a.leaves).foldl Kinds.union .empty
      fields := (defaultStruct? as).map (v.fieldsOf steps) }

/-- A part of a value that is sure to be there. -/
def part? (steps : Nat) (v : Value) (ls : List Conjunct) : Selector → Option Value
  | .label l =>
    match fieldAt steps ⟨v.path, ls⟩ ls l with
    | some (.regular, w) => some w
    | _ => none
  | .index i =>
    if i < Leaves.length ls then some (Leaves.element ls ⟨v.path, ls⟩ i) else none
  | _ => none

/-- The value at a path. -/
def lookup? (steps : Nat) (v : Value) : List Selector → Option Value
  | [] => some v
  | s :: rest =>
    match v.outcome steps with
    | .one ls => (v.part? steps ls s).bind fun w => w.lookup? steps rest
    | _ => none

end Value

end TypedPath.Schema
