import TypedPath.Schema.Value

/-! What a value comes to. The functions here call each other as references lead from one value to
the next, so they take a number of steps that bounds how far they go. -/
namespace TypedPath.Schema

/-- What a reference leads to: the value of a field, an expression that is bound to a name, a field
that may be left out, or nothing. `closing` tells whether the way leads through a definition. -/
inductive Target
  | field (value : Value) (closing : Bool)
  | expression (expr : Expr) (frames : List Frame)
  | unknown
  | missing

/-- Whether a value can be all that is said of it. An unknown value is no contradiction, and neither
is a struct with such a field. -/
inductive Verdict
  | possible
  | unknown
  | impossible
  deriving DecidableEq

/-- The struct around an expression that declares a name, with the structs around it in turn. -/
def frameOf? (name : String) : List Frame → Option (Frame × List Frame)
  | [] => none
  | f :: outer =>
    if (f.decls.filterMap (·.visibleName?)).contains name then some (f, outer)
    else frameOf? name outer

def bindingOf? (name : String) (ds : List Decl) : Option Expr :=
  ds.findSome? fun
    | .binding n e => if n = name then some e else none
    | _ => none

/-- The struct of a frame by itself, as far as its own declarations go. -/
def Frame.literal (f : Frame) (outer : List Frame) : List Conjunct :=
  [{ expr := .struct f.decls ⟨"", 0, 0⟩, frames := outer, settled := true }]

/-- Whether a struct declares a field, admits any field, or has a pattern that `fits`. -/
def Conjunct.admits (fits : Conjunct → Expr → Bool) (label : Option Label) (c : Conjunct) : Bool :=
  c.decls.any fun
    | .field l .. => some l = label
    | .rest _ => true
    | .pattern filter _ _ => fits c filter
    | _ => false

/-- Whether every restriction to declared fields admits a field. -/
def Leaves.allowed (fits : Conjunct → Expr → Bool) (label : Option Label) (ls : List Conjunct) :
    Bool :=
  (ls.flatMap (·.trail.closings)).all fun closing =>
    ls.any fun c =>
      (c.trail.closings.any (·.id = closing.id)
        || (match closing.host with
          | some h => c.trail.hosts.contains h
          | none => false))
      && c.admits fits label

/-- Whether a place is worked out before another: what is declared first comes first, and what any
item or any field is like comes last. -/
def isBefore (frames : List Frame) (a b : List Selector) : Bool :=
  !b.all (·.isOwn) || match a.head?, b.head?, frames.getLast? with
    | some (.label l), some (.label m), some f =>
      let labels := f.decls.filterMap (·.label?)
      labels.idxOf l < labels.idxOf m
    | _, _, _ => false

/-- Whether a reference to `target` leads back from a place to one that it is part of: to `target`
itself, or to a copy of it that came there by an earlier reference. -/
def leadsBack (frames : List Frame) (trail : Trail) (node target : List Selector) : Bool :=
  isOwnPart target node
    || trail.links.any fun l =>
      l.target = target && l.node ≠ node && isOwnPart l.node node && isBefore frames target l.node

mutual

/-- The ways to choose among the alternatives of a conjunct at a place. `active` are the places
whose conjuncts are being worked out; a reference that leads back to one of them says nothing new.
-/
def expand : Nat → List (List Selector) → Value → Conjunct → List Alternative
  | 0, _, _, c => [{ leaves := [c.leaf .bottom] }]
  | fuel + 1, active, node, c =>
    if c.settled then [{ leaves := [c] }]
    else match c.expr with
      | .both l r =>
        Alternative.combine (expand fuel active node { c with expr := l })
          (expand fuel active node { c with expr := r })
      | .either es =>
        Alternative.settleMarks (es.flatMap fun e =>
          Alternative.marked e.1 (expand fuel active node { c with expr := e.2 }))
      | .closed e p => expand fuel active node { c with expr := e, trail := c.trail.close p false }
      | .minus e =>
        match single fuel active node { c with expr := e } with
        | some (.number i d) => [{ leaves := [c.leaf (.atom (.number i d.neg))] }]
        | _ => [{ leaves := [c.leaf .bottom] }]
      | .bound r e =>
        match single fuel active node { c with expr := e } with
        | some a => [{ leaves := [c.leaf (.bound r (.atom a))] }]
        | none => [{ leaves := [c.leaf .bottom] }]
      | .struct ds p =>
        let embedded := ds.filterMap fun
          | .embed e => some e
          | _ => none
        let trail := if embedded.isEmpty then c.trail else c.trail.enter p
        let own : Alternative := { leaves := [{ c with trail := trail, settled := true }] }
        embedded.foldl (fun as e => Alternative.combine as (expand fuel active node
          { c with expr := e, frames := ⟨ds, node⟩ :: c.frames, trail := trail })) [own]
      | .reference _ p | .select _ _ p =>
        match target fuel active node c.frames c.expr with
        | .field v closing =>
          if v.path = node.path ∨ c.trail.hasLink p node.path then Alternative.nothing
          else
            let back := leadsBack c.frames c.trail node.path v.path
            let trail := c.trail.follow ⟨p, node.path, v.path⟩ back
            let trail := if closing then trail.close p true else trail
            v.conjuncts.foldl (fun as d => Alternative.combine as (expand fuel active node
              { d with trail := trail })) Alternative.nothing
        | .expression e frames =>
          if c.trail.hasLink p node.path then Alternative.nothing
          else expand fuel active node
            { c with expr := e, frames := frames, trail := c.trail.follow ⟨p, node.path, []⟩ false }
        | .unknown => [{ leaves := [c.leaf Conjunct.unknown] }]
        | .missing => [{ leaves := [c.leaf .bottom] }]
      | _ => [{ leaves := [c.leaf c.expr] }]

/-- The single value that a conjunct comes to, if it does. -/
def single : Nat → List (List Selector) → Value → Conjunct → Option Atom
  | 0, _, _, _ => none
  | fuel + 1, active, node, c =>
    match expand fuel active node c with
    | [a] => a.leaves.findSome? (·.atom?)
    | _ => none

/-- The ways to choose among all alternatives of a value. -/
def alternatives : Nat → List (List Selector) → Value → List Alternative
  | 0, _, _ => []
  | fuel + 1, active, v =>
    if active.contains v.path then Alternative.nothing
    else v.conjuncts.foldl (fun as c =>
      Alternative.combine as (expand fuel (v.path :: active) v c)) Alternative.nothing

/-- What is left of a value once its alternatives are decided, by contradictions or by a default. -/
def decided? : Nat → List (List Selector) → Value → Option (List Conjunct)
  | 0, _, _ => none
  | fuel + 1, active, v =>
    match alternatives fuel active v with
    | [a] => some a.leaves
    | as =>
      match as.filter fun a => judge fuel v a.leaves ≠ .impossible with
      | [a] => some a.leaves
      | as =>
        match as.filter (·.mark = .default) with
        | [a] => some a.leaves
        | _ => none

/-- Whether a pattern for labels fits a label. Of the labels that are not declared, only a pattern
for all labels is known to fit. -/
def patternFits : Nat → Value → Option Label → Conjunct → Expr → Bool
  | 0, _, _, _, _ => false
  | fuel + 1, vertex, label, c, filter =>
    let place : Value := ⟨vertex.path ++ [.inner],
      [{ expr := filter, frames := ⟨c.decls, vertex⟩ :: c.frames }]⟩
    (alternatives fuel [] place).any fun a =>
      (Leaves.kinds a.leaves).contains .string && match label with
        | some l =>
          l.isRegular
            && !Leaves.isContradictory ({ c with expr := .atom (.text l.name) } :: a.leaves)
        | none => a.leaves.all fun leaf => leaf.atom?.isNone && leaf.bound?.isNone

/-- The value that patterns give to a field, or to any field that is not declared. A struct that
admits all fields says nothing of those for which it has no pattern. -/
def patternConjuncts : Nat → Value → List Conjunct → Option Label → List Conjunct
  | 0, _, _, _ => []
  | fuel + 1, vertex, ls, label =>
    ls.flatMap fun c =>
      let fitting := c.decls.filterMap fun
        | .pattern filter value origin =>
          if patternFits fuel vertex label c filter then
            some { expr := value, frames := ⟨c.decls, vertex⟩ :: c.frames, origin := some origin,
                   trail := c.trail.descend }
          else none
        | _ => none
      let open? := c.decls.findSome? fun
        | .rest p => some p
        | _ => none
      match label, fitting, open? with
      | none, [], some p =>
        [{ expr := .top, frames := c.frames, origin := some ⟨p, p, [], []⟩,
           trail := c.trail.descend }]
      | _, fitting, _ => fitting

/-- A field of a value, if it has a declaration. -/
def fieldAt : Nat → Value → List Conjunct → Label → Option (Presence × Value)
  | 0, _, _, _ => none
  | fuel + 1, vertex, ls, label =>
    match Leaves.declared ls vertex label with
    | [] => none
    | ds =>
      let presence := ds.foldl (fun p d => p.join d.1) .optional
      some (presence, ⟨vertex.path ++ [.label label],
        ds.map (·.2) ++ patternConjuncts fuel vertex ls (some label)⟩)

/-- What an expression refers to. -/
def target : Nat → List (List Selector) → Value → List Frame → Expr → Target
  | 0, _, _, _, _ => .missing
  | fuel + 1, active, node, frames, e =>
    match e with
    | .reference name _ =>
      match frameOf? name frames with
      | some (frame, outer) =>
        match bindingOf? name frame.decls with
        | some bound => .expression bound (frame :: outer)
        | none =>
          let label := Label.ofName name
          let ls := if active.contains frame.vertex.path then frame.literal outer
            else (decided? fuel active frame.vertex).getD (frame.literal outer)
          match fieldAt fuel frame.vertex ls label with
          | some (.optional, _) => .unknown
          | some (_, v) => .field v label.isClosing
          | none => .missing
      | none =>
        match Expr.predeclared? name with
        | some e => .expression e []
        | none => .missing
    | .select operand label _ =>
      match target fuel active node frames operand with
      | .field v closing => selected fuel active v closing label
      | .expression e frames =>
        selected fuel active ⟨node.path ++ [.inner], [{ expr := e, frames := frames }]⟩ false label
      | t => t
    | e => .expression e frames

/-- The field that is selected from a value. -/
def selected : Nat → List (List Selector) → Value → Bool → Label → Target
  | 0, _, _, _, _ => .missing
  | fuel + 1, active, v, closing, label =>
    match decided? fuel active v with
    | none => .unknown
    | some ls =>
      match fieldAt fuel v ls label with
      | some (.optional, _) => .unknown
      | some (_, w) => .field w (closing || label.isClosing)
      | none =>
        if closing ∨ ls.any (fun c => !c.trail.closings.isEmpty) then .missing else .unknown

/-- Whether a value can be all that is left of it. Optional fields may be impossible, but no other
field or item may. -/
def judge : Nat → Value → List Conjunct → Verdict
  | 0, _, _ => .impossible
  | fuel + 1, v, ls =>
    if Leaves.isContradictory ls then .impossible
    else
      let vertex : Value := ⟨v.path, ls⟩
      let labels := (Leaves.labelRows ls).flatten.eraseDups
      let fieldFails (l : Label) : Bool :=
        match fieldAt fuel vertex ls l with
        | some (.optional, _) | none => false
        | some (_, w) =>
          (l.isRegular && !Leaves.allowed (patternFits fuel vertex (some l)) (some l) ls)
            || verdict fuel w = .impossible
      let elementFails (i : Nat) : Bool := verdict fuel (Leaves.element ls vertex i) = .impossible
      if labels.any fieldFails || (List.range (Leaves.length ls)).any elementFails then .impossible
      else if Leaves.isUnknown ls then .unknown
      else .possible

/-- Whether there can be a value. -/
def verdict : Nat → Value → Verdict
  | 0, _ => .impossible
  | fuel + 1, v =>
    let verdicts := (alternatives fuel [] v).map fun a => judge fuel v a.leaves
    if verdicts.contains .possible then .possible
    else if verdicts.contains .unknown then .unknown
    else .impossible

end

end TypedPath.Schema
