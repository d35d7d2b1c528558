import TypedPath.Proofs.Node.Rendering

/-! Sound expressions: every part is there, every key is usable and every operand is of a family
that its place takes. A sound expression passes its check and has a path. -/
namespace TypedPath

theorem Operator.ofSymbol?_symbol (op : Operator) : ofSymbol? op.symbol = some op := by
  cases op <;> decide

namespace Node

variable {n m : Node}

/-- The nodes directly below a node. -/
def children : Node → List Node
  | hole _ | identifier .. | item _ => []
  | field _ n _ | arrayElement _ n _ | mapElement _ n _ => [n]
  | comparison _ left right => [left, right]
  | conjunction operands | disjunction operands => operands
  | negation n | stringMatch n _ => [n]
  | filter parent condition => [parent, condition]
  | accessor _ _ n => [n]

/-- `m` is `n` or stands somewhere below it. -/
inductive StandsIn (m : Node) : Node → Prop
  | here : StandsIn m m
  | under {n k : Node} : k ∈ n.children → StandsIn m k → StandsIn m n

/-- The sides of a comparison are of one family that has an order if the operator asks for it. -/
structure Comparable (op : Operator) (left right : Shape) : Prop where
  same : left.family = right.family
  comparable : left.family ≠ .other
  ordered : op.isOrdering = true → left.family = .numeric

/-- Expressions with nothing wrong in them. Only arrays and maps are filtered. -/
inductive Sound : Node → Prop
  | identifier {value : String} (s : Shape) : value ≠ "" → Sound (identifier s value)
  | field {parent : Node} {name : String} (s : Shape) :
      Sound parent → name ≠ "" → Sound (field s parent name)
  | arrayElement {parent : Node} {index : Int} (s : Shape) :
      Sound parent → 0 ≤ index → Sound (arrayElement s parent index)
  | mapElement {parent : Node} {key : String} (s : Shape) :
      Sound parent → key ≠ "" → Sound (mapElement s parent key)
  | comparison {left right : Node} {op : Operator} {s t : Shape} :
      Sound left → Sound right → left.shape? = some s → right.shape? = some t →
      Comparable op s t → Sound (comparison op.symbol left right)
  | conjunction {operands : List Node} : operands ≠ [] → (∀ n ∈ operands, Sound n) →
      (∀ n ∈ operands, n.shape? = some .bool) → Sound (conjunction operands)
  | disjunction {operands : List Node} : operands ≠ [] → (∀ n ∈ operands, Sound n) →
      (∀ n ∈ operands, n.shape? = some .bool) → Sound (disjunction operands)
  | negation {operand : Node} :
      Sound operand → operand.shape? = some .bool → Sound (negation operand)
  | stringMatch {operand : Node} {pattern : String} {s : Shape} :
      Sound operand → operand.shape? = some s → s.family = .string → pattern ≠ "" →
      Sound (stringMatch operand pattern)
  | filter {parent condition : Node} {s : Shape} : Sound parent → Sound condition →
      (parent.shape? = some (.array s) ∨ parent.shape? = some (.map s)) →
      condition.shape? = some .bool → Sound (filter parent condition)
  | item (s : Shape) : Sound (item s)
  | accessor {expression : Node} (t : Accessor) (s : Shape) :
      Sound expression → Sound (accessor t s expression)

theorem Sound.isHole_eq (h : n.Sound) : n.isHole = false := by
  cases h <;> rfl

theorem Sound.whole (h : n.Sound) : n.Whole := by
  induction h with
  | identifier s _ => exact .identifier s _
  | field s _ _ ih => exact .field s _ ih
  | arrayElement s _ _ ih => exact .arrayElement s _ ih
  | mapElement s _ _ ih => exact .mapElement s _ ih
  | comparison _ _ _ _ _ ihl ihr => exact .comparison _ ihl ihr
  | conjunction _ _ _ ih => exact .conjunction ih
  | disjunction _ _ _ ih => exact .disjunction ih
  | negation _ _ ih => exact .negation ih
  | stringMatch _ _ _ _ ih => exact .stringMatch _ ih
  | filter _ _ _ _ ihp ihc => exact .filter ihp ihc
  | item s => exact .item s
  | accessor t s _ ih => exact .accessor t s ih

theorem Sound.child (h : n.Sound) (hm : m ∈ n.children) : m.Sound := by
  cases h <;> simp only [children, List.mem_cons, List.not_mem_nil, or_false] at hm
  case comparison hl hr _ _ _ => rcases hm with rfl | rfl <;> assumption
  case filter => rcases hm with rfl | rfl <;> assumption
  case conjunction h _ => exact h m hm
  case disjunction h _ => exact h m hm
  all_goals (subst hm; assumption)

theorem Sound.of_standsIn (h : n.Sound) (hm : StandsIn m n) : m.Sound := by
  induction hm with
  | here => exact h
  | under hk _ ih => exact ih (h.child hk)

/-- A boolean operand gives rise to no problem of its own. -/
theorem booleanProblems_eq (hs : n.shape? = some .bool) : n.booleanProblems = some [] := by
  simp [booleanProblems, problemsOfShape, hs, Shape.family]

theorem operandViolations_eq {ns : List Node} (kind : NodeKind)
    (hv : ∀ n ∈ ns, n.violations = some []) (hs : ∀ n ∈ ns, n.shape? = some .bool) :
    operandViolations kind ns = some [] := by
  induction ns with
  | nil => rfl
  | cons n rest ih =>
    have hb := booleanProblems_eq (hs n (by simp))
    have hr := ih (fun m hm => hv m (by simp [hm])) (fun m hm => hs m (by simp [hm]))
    simp [operandViolations, hv n (by simp), hb, hr]

theorem Comparable.problems_eq {op : Operator} {s t : Shape} (h : Comparable op s t) :
    comparisonProblems op.symbol s t = [] := by
  have ho : ¬((Operator.ofSymbol? op.symbol).any (·.isOrdering) ∧ s.family ≠ .numeric) := by
    rintro ⟨ho, hn⟩
    rw [Operator.ofSymbol?_symbol] at ho
    exact hn (h.ordered ho)
  rw [comparisonProblems, if_neg h.comparable, if_neg (not_not_intro h.same), if_neg ho]

theorem Sound.violations_eq (h : n.Sound) : n.violations = some [] := by
  induction h with
  | identifier s hv => simp [violations, hv]
  | field s _ hn ih => simp [violations, ih, hn]
  | arrayElement s _ hi ih => simp [violations, ih, Int.not_lt.mpr hi]
  | mapElement s _ hk ih => simp [violations, ih, hk]
  | comparison hl hr hs ht hc ihl ihr =>
    have hp := hc.problems_eq
    simp [violations, ihl, ihr, sidesProblems, hl.isHole_eq, hr.isHole_eq, hs, ht, hp,
      Operator.ofSymbol?_symbol]
  | @conjunction operands hne _ hs ih =>
    have hv := operandViolations_eq .and ih hs
    cases operands with
    | nil => exact absurd rfl hne
    | cons n rest => simpa [violations] using hv
  | @disjunction operands hne _ hs ih =>
    have hv := operandViolations_eq .or ih hs
    cases operands with
    | nil => exact absurd rfl hne
    | cons n rest => simpa [violations] using hv
  | negation _ hs ih => simp [violations, ih, booleanProblems_eq hs]
  | stringMatch ho hs hf hp ih =>
    simp [violations, ih, problemsOfShape, ho.isHole_eq, hs, hf, hp]
  | @filter parent _ _ hp _ hs hb ihp ihc =>
    have hf : parent.problemsOfShape filterProblems = some [] := by
      rcases hs with hs | hs <;> simp [problemsOfShape, hp.isHole_eq, hs, filterProblems]
    simp [violations, ihp, ihc, hf, booleanProblems_eq hb]
  | item s => rfl
  | accessor t s he ih => simp [violations, he.isHole_eq, ih]

theorem Sound.validate_eq (h : n.Sound) : n.validate = .ok () := by
  simp [validate, h.violations_eq]

theorem Sound.compile_eq (h : n.Sound) : n.compile = .ok n.render :=
  h.whole.compile_eq h.validate_eq

theorem Sound.render_ne_empty (h : n.Sound) : n.render ≠ "" := by
  induction h with
  | identifier s hv => simpa [render] using hv
  | accessor t s _ ih => simpa [render] using ih
  | _ => simp [render]

end Node

end TypedPath
