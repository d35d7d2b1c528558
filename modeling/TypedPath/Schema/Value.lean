import TypedPath.Schema.Scope

/-! Values of a schema. A value is what several expressions, its conjuncts, say of one place. What
it comes to is worked out one level at a time: references are followed, alternatives are listed, and
what is left are conjuncts that are settled. -/
namespace TypedPath.Schema

/-- A step down from a value: into a field, to the place of a list, to any item of a list, to any
field that is not declared, or into a value that has no place of its own. -/
inductive Selector
  | label (label : Label)
  | index (index : Nat)
  | anyItem
  | anyField
  | inner
  deriving Repr, DecidableEq

/-- Whether a step leads to a part that is worked out together with the whole. What any item or any
field is like is worked out when it is asked for. -/
def Selector.isOwn : Selector → Bool
  | label _ | index _ => true
  | anyItem | anyField | inner => false

/-- Whether a place is another one or a part that is worked out together with it. -/
def isOwnPart (whole part : List Selector) : Bool :=
  whole.isPrefixOf part && (part.drop whole.length).all (·.isOwn)

/-- A restriction to the fields that are declared under one reference to a definition. Fields beside
an embedded definition are declared with it, so `host` names the struct it is embedded in. A
restriction that is `deep` holds of the fields' values too. -/
structure Closing where
  id : Position
  host : Option Position
  deep : Bool
  deriving Repr, DecidableEq

/-- A reference that was followed, from which place and to which. -/
structure Link where
  reference : Position
  node : List Selector
  target : List Selector := []
  deriving Repr, DecidableEq

/-- How a conjunct came to its place. It is `cyclic` if it came by the same reference twice or back
to a place that it is part of, and `found` if that was noticed at this place. -/
structure Trail where
  links : List Link := []
  cyclic : Bool := false
  found : Bool := false
  closings : List Closing := []
  hosts : List Position := []
  host : Option Position := none
  deriving Repr, DecidableEq

namespace Trail

/-- The trail of the fields below. -/
def descend (t : Trail) : Trail :=
  { t with
    found := false
    closings := (t.closings.filter (·.deep)).map ({ · with host := none })
    hosts := []
    host := none }

def close (t : Trail) (id : Position) (deep : Bool) : Trail :=
  { t with closings := ⟨id, t.host, deep⟩ :: t.closings }

/-- Enters the struct at `position`, whose embedded values share its fields. -/
def enter (t : Trail) (position : Position) : Trail :=
  { t with hosts := position :: t.hosts, host := t.host.or (some position) }

/-- Whether a reference was followed from a place. -/
def hasLink (t : Trail) (reference : Position) (node : List Selector) : Bool :=
  t.links.any fun l => l.reference = reference && l.node = node

/-- Follows a link. `back` tells that it leads back to a place that it is part of. -/
def follow (t : Trail) (link : Link) (back : Bool) : Trail :=
  let again := back || t.links.any (·.reference = link.reference)
  { t with
    links := link :: t.links
    cyclic := t.cyclic || again
    found := t.found || again }

end Trail

mutual

/-- An expression with the structs around it, the innermost first. -/
structure Conjunct where
  expr : Expr
  frames : List Frame
  origin : Option Origin := none
  trail : Trail := {}
  settled : Bool := false

/-- A struct around an expression, and the value that it is part of. -/
structure Frame where
  decls : List Decl
  vertex : Value

/-- All that is said of the place at `path`. -/
structure Value where
  path : List Selector
  conjuncts : List Conjunct

end

instance : Inhabited Value := ⟨⟨[], []⟩⟩

/-- Whether an alternative is a default. Without any mark, nothing is said about it. -/
inductive Mark
  | unmarked
  | default
  | other
  deriving Repr, DecidableEq

def Mark.both : Mark → Mark → Mark
  | .other, _ | _, .other => .other
  | .default, _ | _, .default => .default
  | .unmarked, .unmarked => .unmarked

/-- One way to choose among alternatives everywhere in a value: what is then left. -/
structure Alternative where
  leaves : List Conjunct
  mark : Mark := .unmarked

namespace Alternative

/-- Nothing said at all. -/
def nothing : List Alternative := [{ leaves := [] }]

/-- Every choice of the first with every choice of the second. -/
def combine (as bs : List Alternative) : List Alternative :=
  as.flatMap fun a => bs.map fun b => ⟨a.leaves ++ b.leaves, a.mark.both b.mark⟩

/-- The choices of an alternative that is marked as a default, or is not. -/
def marked (isDefault : Bool) (as : List Alternative) : List Alternative :=
  if isDefault ∧ !as.any (·.mark = .default) then as.map ({ · with mark := .default }) else as

/-- Where some alternative is a default, those without a mark are none. -/
def settleMarks (as : List Alternative) : List Alternative :=
  if as.any (·.mark = .default) then
    as.map fun a => if a.mark = .unmarked then { a with mark := .other } else a
  else as

end Alternative

namespace Conjunct

/-- An expression that is known not to be worked out any further. -/
def leaf (c : Conjunct) (e : Expr) : Conjunct := { c with expr := e, settled := true }

/-- A value that is not known, since it may be left out. -/
def unknown : Expr := .either []

def isUnknown (c : Conjunct) : Bool :=
  match c.expr with
  | .either _ => true
  | _ => false

/-- Whether a struct literal can only be a struct. One that embeds values may be any of them. -/
def isStructOnly (ds : List Decl) : Bool :=
  ds.any (fun
    | .field l .. => l.isRegular
    | .pattern .. => true
    | _ => false)
  || !ds.any (fun
    | .embed _ => true
    | _ => false)

/-- The kinds that a settled conjunct allows. -/
def kinds (c : Conjunct) : Kinds :=
  match c.expr with
  | .bottom => .empty
  | .atom a => .only a.kind
  | .kinds k => k
  | .bound r (.atom a) => r.kinds a
  | .struct ds _ => if isStructOnly ds then .only .struct else .all
  | .list .. => .only .list
  | _ => .all

def atom? (c : Conjunct) : Option Atom :=
  match c.expr with
  | .atom a => some a
  | _ => none

def bound? (c : Conjunct) : Option (Relation × Atom) :=
  match c.expr with
  | .bound r (.atom a) => some (r, a)
  | _ => none

def decls (c : Conjunct) : List Decl :=
  match c.expr with
  | .struct ds _ => ds
  | _ => []

def list? (c : Conjunct) : Option (List Expr × Option (Position × Option Expr)) :=
  match c.expr with
  | .list items rest => some (items, rest)
  | _ => none

end Conjunct

/-! What settled conjuncts say together -/

abbrev Leaves := List Conjunct

namespace Leaves

variable (ls : List Conjunct)

def kinds : Kinds := ls.foldl (fun k c => k.inter c.kinds) .all

def isUnknown : Bool := ls.any (·.isUnknown)

/-- Two values that differ, or a value out of bounds. -/
def valueConflict : Bool :=
  let atoms := ls.filterMap (·.atom?)
  let bounds := ls.filterMap (·.bound?)
  atoms.any fun a =>
    atoms.any (fun b => !a.sameValue b) || bounds.any fun b => !a.satisfies b.1 b.2

/-- Bounds between which nothing lies. -/
def boundConflict : Bool :=
  let integral := !(kinds ls).contains .float
  let bounds := ls.filterMap (·.bound?)
  bounds.any fun low => bounds.any fun high =>
    match low, high with
    | (l, .number _ a), (h, .number _ b) => l.isLower && h.isUpper && l.excludesAll integral a h b
    | _, _ => false

/-- Lists of different lengths. -/
def lengthConflict : Bool :=
  let lists := ls.filterMap (·.list?)
  lists.any fun a => a.2.isNone && lists.any fun b =>
    if b.2.isNone then a.1.length ≠ b.1.length else a.1.length < b.1.length

/-- A value that contains itself: every conjunct has come by a reference that leads back to it. -/
def isEndless : Bool := ls.any (·.trail.found) && ls.all (·.trail.cyclic)

/-- Whether no value can be all that is said, apart from what is said of its fields and items. -/
def isContradictory : Bool :=
  (kinds ls).isEmpty || valueConflict ls || boundConflict ls || lengthConflict ls || isEndless ls

/-- How many places the lists have. -/
def length : Nat := (ls.filterMap (·.list?)).foldl (fun n l => max n l.1.length) 0

/-- The expression for one place of a list. -/
def itemAt (items : List Expr) (rest : Option (Position × Option Expr)) (i : Nat) : Option Expr :=
  match items[i]? with
  | some e => some e
  | none => rest.bind (·.2)

/-- The value at one place of a list. -/
def element (vertex : Value) (i : Nat) : Value :=
  ⟨vertex.path ++ [.index i], ls.filterMap fun c => do
    let (items, rest) ← c.list?
    let e ← itemAt items rest i
    return ⟨e, c.frames, none, c.trail.descend, false⟩⟩

/-- The value of any further item, if more items are allowed. -/
def anyItem? (vertex : Value) : Option Value :=
  let lists := ls.filter (·.list?.isSome)
  let rests := lists.filterMap fun c => do
    let (_, rest) ← c.list?
    let (p, e) ← rest
    return ({ expr := e.getD .top, frames := c.frames, origin := some ⟨p, p, [], []⟩,
              trail := c.trail.descend } : Conjunct)
  if rests.length = lists.length ∧ lists ≠ [] then some ⟨vertex.path ++ [.anyItem], rests⟩ else none

/-- The conjuncts for a field that are declared under its label. -/
def declared (vertex : Value) (label : Label) : List (Presence × Conjunct) :=
  ls.flatMap fun c => c.decls.filterMap fun
    | .field l _ presence value origin =>
      if l = label then
        some (presence, ⟨value, ⟨c.decls, vertex⟩ :: c.frames, some origin, c.trail.descend, false⟩)
      else none
    | _ => none

/-- The labels of each struct, in the order of their declarations. -/
def labelRows : List (List Label) :=
  (ls.map fun c => c.decls.filterMap (·.label?)).filter (· ≠ [])

end Leaves

/-! The order of labels -/

/-- How often each label stands behind another. -/
def waitingIn (rows : List (List Label)) (l : Label) : Nat :=
  (rows.map fun r => (r.tail.filter (· = l)).length).foldl (· + ·) 0

/-- Takes labels from the front of a row while none of them stands behind another in some row. -/
def takeFree (taken : List Label) (others : List (List Label)) :
    List Label → List Label × List Label
  | [] => (taken, [])
  | l :: row =>
    if 0 < waitingIn ((l :: row) :: others) l then (taken, l :: row)
    else takeFree (if taken.contains l then taken else taken ++ [l]) others row

/-- One pass over all rows. -/
def takeFreeRows (taken : List Label) (before : List (List Label)) :
    List (List Label) → List Label × List (List Label)
  | [] => (taken, before)
  | row :: rows =>
    let (taken, row) := takeFree taken (before ++ rows) row
    takeFreeRows taken (before ++ [row]) rows

/-- Merges rows of labels, so that a label comes before those behind it in some row. Where rows
disagree, the first row that is left decides. -/
def mergeRows : Nat → List Label → List (List Label) → List Label
  | 0, taken, _ => taken
  | fuel + 1, taken, rows =>
    let (taken, rows) := takeFreeRows taken [] rows
    match rows.filter (· ≠ []) with
    | [] => taken
    | (l :: row) :: rest =>
      mergeRows fuel (if taken.contains l then taken else taken ++ [l])
        (row :: rest.map fun r => if r.head? = some l then r else r.filter (· ≠ l))
    | rows => mergeRows fuel taken rows

def mergedLabels (rows : List (List Label)) : List Label :=
  mergeRows (rows.flatten.length + 1) [] rows

end TypedPath.Schema
