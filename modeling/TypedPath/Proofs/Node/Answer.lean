import Mathlib.Data.List.Basic
import TypedPath.Proofs.Node.Tree

/-! When the check of an expression answers. It asks for the shapes of operands, and one kind of
node is there and yet has no shape to be told. -/
namespace TypedPath

/-- The types whose nodes keep their shape. A condition is boolean, whether it is there or not. -/
def NodeType.KeepsShape (t : NodeType) : Prop :=
  t ∉ [.comparison, .conjunction, .disjunction, .negation, .stringMatch]

namespace Node

variable {n k : Node}

/-- The nodes whose shape the check of a node asks for, holes left aside. A comparison asks for both
sides or for none. -/
def asked : Node → List Node
  | comparison _ left right => if left.isHole || right.isHole then [] else [left, right]
  | conjunction operands | disjunction operands => operands
  | negation n | stringMatch n _ => [n]
  | filter parent condition => [parent, condition]
  | _ => []

/-- Filters of a hole whose type keeps its shape, also through further filters. -/
inductive Unreadable : Node → Prop
  | filter {t : NodeType} (condition : Node) :
      t.KeepsShape → Unreadable (filter (hole (some t)) condition)
  | nested {parent : Node} (condition : Node) :
      Unreadable parent → Unreadable (filter parent condition)

theorem mem_children_of_asked (h : k ∈ n.asked) : k ∈ n.children := by
  cases n with
  | comparison op left right =>
    rw [asked] at h
    split at h
    · cases h
    · exact h
  | conjunction | disjunction | negation | stringMatch | filter => exact h
  | _ => cases h

theorem Unreadable.standsIn (h : n.Unreadable) :
    ∃ t condition, StandsIn (Node.filter (hole (some t)) condition) n := by
  induction h with
  | filter condition _ => exact ⟨_, condition, .here⟩
  | nested _ _ ih =>
    obtain ⟨t, condition, h⟩ := ih
    exact ⟨t, condition, .under (by simp [children]) h⟩

theorem shape?_hole {t : NodeType} : (hole (some t)).shape? = none ↔ t.KeepsShape := by
  cases t <;> simp [shape?, NodeType.KeepsShape]

/-- Of the nodes that are there, these alone have no shape to be told. -/
theorem unreadable_iff : n.Unreadable ↔ n.isHole = false ∧ n.shape? = none := by
  constructor
  · intro h
    induction h with
    | filter _ ht => exact ⟨rfl, shape?_hole.mpr ht⟩
    | nested _ h ih =>
      refine ⟨rfl, ?_⟩
      cases h <;> exact ih.2
  · induction n using induction_children with
    | h n ih =>
      rintro ⟨hh, hs⟩
      cases n with
      | hole => cases hh
      | filter parent condition =>
        cases parent with
        | hole t =>
          cases t with
          | none => cases hs
          | some t => exact .filter _ (shape?_hole.mp hs)
        | _ => exact .nested _ (ih _ (by simp [children]) ⟨rfl, hs⟩)
      | _ => cases hs

theorem problemsOfShape_eq_none {problems : Shape → List Problem} :
    n.problemsOfShape problems = none ↔ n.Unreadable := by
  rw [problemsOfShape, unreadable_iff]
  cases n.isHole <;> simp

theorem booleanProblems_eq_none : n.booleanProblems = none ↔ n.Unreadable :=
  problemsOfShape_eq_none

theorem sidesProblems_eq_none {op : String} {left right : Node} :
    sidesProblems op left right = none ↔ ∃ k ∈ (comparison op left right).asked, k.Unreadable := by
  rw [sidesProblems, asked]
  cases hl : left.isHole <;> cases hr : right.isHole <;> cases hs : left.shape? <;>
    cases ht : right.shape? <;> simp [unreadable_iff, hl, hr, hs, ht]

theorem operandViolations_eq_none {kind : NodeKind} {ns : List Node} :
    operandViolations kind ns = none ↔
      (∃ n ∈ ns, n.Unreadable) ∨ ∃ n ∈ ns, n.violations = none := by
  induction ns with
  | nil => simp [operandViolations]
  | cons n rest ih =>
    simp only [List.exists_mem_cons_iff, ← booleanProblems_eq_none (n := n)]
    cases hv : n.violations <;> cases hb : n.booleanProblems <;>
      cases hr : operandViolations kind rest <;> simp_all [operandViolations]

/-- A node has no answer if a shape that it asks for cannot be told, or if a node directly below has
none. -/
theorem violations_eq_none_step : n.violations = none ↔
    (∃ k ∈ n.asked, k.Unreadable) ∨ ∃ k ∈ n.children, k.violations = none := by
  cases n with
  | hole | identifier | item => simp [violations, asked, children]
  | field s parent name | arrayElement s parent index | mapElement s parent key =>
    cases hp : parent.violations <;> simp [violations, asked, children, hp]
  | comparison op left right =>
    rw [← sidesProblems_eq_none]
    cases hl : left.violations <;> cases hr : right.violations <;>
      cases hs : sidesProblems op left right <;> simp [violations, children, hl, hr, hs]
  | conjunction ns | disjunction ns =>
    cases ns with
    | nil => simp [violations, asked, children]
    | cons n rest =>
      rw [violations]
      · exact operandViolations_eq_none
      · simp
  | negation k =>
    simp only [asked, children, List.mem_singleton, exists_eq_left, ← booleanProblems_eq_none]
    cases hv : k.violations <;> cases hb : k.booleanProblems <;> simp [violations, hv, hb]
  | stringMatch k pattern =>
    have hk : k.problemsOfShape (fun s => if s.family = .string then [] else [.matchOf s.family])
        = none ↔ k.Unreadable := problemsOfShape_eq_none
    simp only [asked, children, List.mem_singleton, exists_eq_left, ← hk, violations]
    cases k.violations <;> cases k.problemsOfShape _ <;> simp
  | filter parent condition =>
    have hp : parent.problemsOfShape filterProblems = none ↔ parent.Unreadable :=
      problemsOfShape_eq_none
    have hc : condition.booleanProblems = none ↔ condition.Unreadable := booleanProblems_eq_none
    simp only [asked, children, List.exists_mem_cons_iff, List.not_mem_nil, false_and, exists_false,
      or_false, ← hp, ← hc]
    cases hv : parent.violations <;> cases hf : parent.problemsOfShape filterProblems <;>
      cases hw : condition.violations <;> cases hb : condition.booleanProblems <;>
      simp [violations, hv, hf, hw, hb]
  | accessor t s e => cases e <;> simp [violations, asked, children, isHole]

/-- The check gives no answer exactly if some node in the expression asks for a shape that cannot be
told. -/
theorem violations_eq_none_iff : n.violations = none ↔
    ∃ m, StandsIn m n ∧ ∃ k ∈ m.asked, k.Unreadable := by
  induction n using induction_children with
  | h n ih =>
    rw [violations_eq_none_step, exists_standsIn_iff]
    exact or_congr_right (exists_congr fun k => and_congr_right fun hk => ih k hk)

/-- No filter of a typed hole, no question without an answer. -/
theorem exists_violations (h : ∀ t condition, ¬StandsIn (filter (hole (some t)) condition) n) :
    ∃ vs, n.violations = some vs := by
  rw [← Option.ne_none_iff_exists']
  intro hn
  obtain ⟨m, hm, k, hk, hu⟩ := violations_eq_none_iff.mp hn
  obtain ⟨t, condition, ht⟩ := hu.standsIn
  have hkm : StandsIn k m := .under (mem_children_of_asked hk) .here
  exact h t condition ((ht.trans hkm).trans hm)

theorem exists_violations_child {vs : List Violation} (h : n.violations = some vs)
    (hk : k ∈ n.children) : ∃ ws, k.violations = some ws := by
  rw [← Option.ne_none_iff_exists']
  intro hn
  rw [violations_eq_none_step.mpr (.inr ⟨k, hk, hn⟩)] at h
  cases h

end Node

end TypedPath
