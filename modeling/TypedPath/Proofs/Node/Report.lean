import Mathlib.Tactic.MkIffOfInductiveProp
import TypedPath.Proofs.Node.Accessor
import TypedPath.Proofs.Node.Answer

/-! What the check of an expression reports: the flaws of all nodes that stand in it, and nothing
else. -/
namespace TypedPath

theorem Operator.ofSymbol?_eq_some {text : String} {op : Operator} :
    ofSymbol? text = some op ↔ op.symbol = text := by
  constructor
  · intro h
    simpa using List.find?_some h
  · rintro rfl
    exact ofSymbol?_symbol op

namespace Node

variable {n k : Node} {s t : Shape} {c : Sentinel} {vs : List Violation} {ps : List Problem}

/-- A node that is there and has the shape `s`. -/
def HasShape (n : Node) (s : Shape) : Prop := n.isHole = false ∧ n.shape? = some s

/-- What is wrong with a node itself, by the class that it is reported under. The shape of a hole
does not matter: that it is missing is all there is to report. -/
@[mk_iff]
inductive Flawed : Node → Sentinel → Prop
  | missing (t : Option NodeType) : Flawed (hole t) .invalidExpression
  | emptyIdentifier (s : Shape) : Flawed (identifier s "") .invalidExpression
  | unknownOperator {op : String} (left right : Node) (h : ∀ o : Operator, o.symbol ≠ op) :
      Flawed (comparison op left right) .invalidExpression
  | noConjuncts : Flawed (conjunction []) .invalidExpression
  | noDisjuncts : Flawed (disjunction []) .invalidExpression
  | emptyPattern (operand : Node) : Flawed (stringMatch operand "") .invalidExpression
  | noExpression (t : Accessor) (s : Shape) (type : Option NodeType) :
      Flawed (accessor t s (hole type)) .invalidExpression
  | filterOfShapeless {parent : Node} (condition : Node) (h : parent.HasShape .absent) :
      Flawed (filter parent condition) .invalidExpression
  | emptyName (s : Shape) (parent : Node) : Flawed (field s parent "") .invalidKey
  | emptyKey (s : Shape) (parent : Node) : Flawed (mapElement s parent "") .invalidKey
  | negativeIndex {i : Int} (s : Shape) (parent : Node) (h : i < 0) :
      Flawed (arrayElement s parent i) .invalidKey
  | notComparable {left right : Node} {s t : Shape} (op : String) (hl : left.HasShape s)
      (hr : right.HasShape t) (h : s.family = .other) :
      Flawed (comparison op left right) .typeMismatch
  | familiesDiffer {left right : Node} {s t : Shape} (op : String) (hl : left.HasShape s)
      (hr : right.HasShape t) (h : s.family ≠ t.family) :
      Flawed (comparison op left right) .typeMismatch
  | notOrdered {left right : Node} {s t : Shape} {o : Operator} (hl : left.HasShape s)
      (hr : right.HasShape t) (ho : o.isOrdering = true)
      (h : s.family ≠ .numeric ∨ t.family ≠ .numeric) :
      Flawed (comparison o.symbol left right) .typeMismatch
  | conjunct {ns : List Node} {n : Node} {s : Shape} (hn : n ∈ ns) (hs : n.HasShape s)
      (h : s.family ≠ .bool) : Flawed (conjunction ns) .typeMismatch
  | disjunct {ns : List Node} {n : Node} {s : Shape} (hn : n ∈ ns) (hs : n.HasShape s)
      (h : s.family ≠ .bool) : Flawed (disjunction ns) .typeMismatch
  | negated {operand : Node} {s : Shape} (hs : operand.HasShape s) (h : s.family ≠ .bool) :
      Flawed (negation operand) .typeMismatch
  | matched {operand : Node} {s : Shape} (pattern : String) (hs : operand.HasShape s)
      (h : s.family ≠ .string) : Flawed (stringMatch operand pattern) .typeMismatch
  | filtered {parent : Node} {s : Shape} (condition : Node) (hs : parent.HasShape s)
      (hne : s ≠ .absent) (h : ∀ t, ¬s.Holds t) : Flawed (filter parent condition) .typeMismatch
  | condition {condition : Node} {s : Shape} (parent : Node) (hs : condition.HasShape s)
      (h : s.family ≠ .bool) : Flawed (filter parent condition) .typeMismatch

/-- The classes of what a check finds. -/
def classes (vs : List Violation) : List Sentinel := vs.map (·.sentinel)

@[simp] theorem classes_append (vs ws : List Violation) :
    classes (vs ++ ws) = classes vs ++ classes ws := List.map_append

@[simp] theorem classes_inNode (kind : NodeKind) (ps : List Problem) :
    classes (ps.map (.inNode kind)) = ps.map (·.sentinel) := by
  rw [classes, List.map_map]
  rfl

@[simp] theorem mem_classes_singleton {v : Violation} : c ∈ classes [v] ↔ c = v.sentinel := by
  simp [classes]

theorem mem_classes_if {p : Prop} [Decidable p] {v : Violation} :
    c ∈ classes (if p then [v] else []) ↔ p ∧ c = v.sentinel := by
  split <;> simp_all [classes]

theorem mem_sentinel_unless {p : Prop} [Decidable p] {q : Problem} :
    c ∈ (if p then [] else [q]).map (·.sentinel) ↔ ¬p ∧ c = q.sentinel := by
  split <;> simp_all

theorem mem_problemsOfShape {problems : Shape → List Problem}
    (h : n.problemsOfShape problems = some ps) : c ∈ ps.map (·.sentinel) ↔
      ∃ s, n.HasShape s ∧ c ∈ (problems s).map (·.sentinel) := by
  rw [problemsOfShape] at h
  cases hh : n.isHole with
  | true =>
    rw [hh, if_pos rfl, Option.some.injEq] at h
    subst h
    simp [HasShape, hh]
  | false =>
    rw [hh] at h
    obtain ⟨s, hs, rfl⟩ := Option.map_eq_some_iff.mp h
    simp [HasShape, hh, hs]

theorem mem_booleanProblems (h : n.booleanProblems = some ps) : c ∈ ps.map (·.sentinel) ↔
    ∃ s, n.HasShape s ∧ s.family ≠ .bool ∧ c = .typeMismatch := by
  simp only [mem_problemsOfShape h, mem_sentinel_unless]
  rfl

theorem mem_sidesProblems {op : String} {left right : Node}
    (h : sidesProblems op left right = some ps) : c ∈ ps.map (·.sentinel) ↔
      ∃ s t, left.HasShape s ∧ right.HasShape t ∧
        c ∈ (comparisonProblems op s t).map (·.sentinel) := by
  rw [sidesProblems] at h
  split at h
  case isTrue hh =>
    cases h
    simp only [List.map_nil, List.not_mem_nil, false_iff]
    rintro ⟨_, _, hl, hr, -⟩
    simp [hl.1, hr.1] at hh
  case isFalse hh =>
    simp only [Option.bind_eq_bind, Option.bind_eq_some_iff, Option.pure_def,
      Option.some.injEq] at h
    obtain ⟨s, hs, t, ht, rfl⟩ := h
    rw [Bool.or_eq_true, not_or, Bool.not_eq_true, Bool.not_eq_true] at hh
    constructor
    · intro hc
      exact ⟨s, t, ⟨hh.1, hs⟩, ⟨hh.2, ht⟩, hc⟩
    · rintro ⟨s', t', ⟨-, hs'⟩, ⟨-, ht'⟩, hc⟩
      cases hs.symm.trans hs'
      cases ht.symm.trans ht'
      exact hc

theorem mem_comparisonProblems {op : String} :
    c ∈ (comparisonProblems op s t).map (·.sentinel) ↔
      (s.family = .other ∨ s.family ≠ t.family ∨ ∃ o : Operator, o.symbol = op ∧
        o.isOrdering = true ∧ (s.family ≠ .numeric ∨ t.family ≠ .numeric)) ∧
      c = .typeMismatch := by
  have ho : (Operator.ofSymbol? op).any (·.isOrdering) = true ↔
      ∃ o : Operator, o.symbol = op ∧ o.isOrdering = true := by
    simp [Option.any_eq_true, Operator.ofSymbol?_eq_some]
  rw [comparisonProblems]
  split_ifs with hother hdiffer hordering
  · simp [hother, Problem.sentinel]
  · simp [hdiffer, Problem.sentinel]
  -- From here on the families agree, so it is enough that the check looks at one side only.
  · rw [ho] at hordering
    grind [Problem.sentinel]
  · rw [ho] at hordering
    grind

theorem mem_filterProblems : c ∈ (filterProblems s).map (·.sentinel) ↔
    s = .absent ∧ c = .invalidExpression ∨
      s ≠ .absent ∧ (∀ t, ¬s.Holds t) ∧ c = .typeMismatch := by
  cases s <;> simp [filterProblems, Problem.sentinel, Shape.Holds, Shape.IsListOf]

/-- The check of a node answers, and a report of the class `c` is among what it finds. -/
def Reports (n : Node) (c : Sentinel) : Prop := ∃ vs, n.violations = some vs ∧ c ∈ classes vs

theorem reports_eq (h : n.violations = some vs) : n.Reports c ↔ c ∈ classes vs := by
  simp [Reports, h]

theorem mem_operandViolations {kind : NodeKind} {ns : List Node}
    (h : operandViolations kind ns = some vs) : c ∈ classes vs ↔
      (∃ n ∈ ns, ∃ s, n.HasShape s ∧ s.family ≠ .bool ∧ c = .typeMismatch) ∨
        ∃ n ∈ ns, n.Reports c := by
  induction ns generalizing vs with
  | nil =>
    cases h
    simp [classes]
  | cons n rest ih =>
    simp only [operandViolations, Option.bind_eq_bind, Option.bind_eq_some_iff, Option.pure_def,
      Option.some.injEq] at h
    obtain ⟨ws, hw, ps, hp, us, hu, rfl⟩ := h
    simp only [classes_append, classes_inNode, List.mem_append, ← reports_eq hw,
      mem_booleanProblems hp, ih hu, List.exists_mem_cons_iff]
    simp only [or_assoc, or_left_comm]

theorem flawed_comparison {op : String} {left right : Node} :
    (comparison op left right).Flawed c ↔
      (∀ o : Operator, o.symbol ≠ op) ∧ c = .invalidExpression ∨
        ∃ s t, left.HasShape s ∧ right.HasShape t ∧
          c ∈ (comparisonProblems op s t).map (·.sentinel) := by
  simp only [mem_comparisonProblems]
  constructor
  · intro h
    cases h with
    | unknownOperator _ _ h => exact .inl ⟨h, rfl⟩
    | notComparable _ hl hr h => exact .inr ⟨_, _, hl, hr, .inl h, rfl⟩
    | familiesDiffer _ hl hr h => exact .inr ⟨_, _, hl, hr, .inr (.inl h), rfl⟩
    | notOrdered hl hr ho h => exact .inr ⟨_, _, hl, hr, .inr (.inr ⟨_, rfl, ho, h⟩), rfl⟩
  · rintro (⟨h, rfl⟩ | ⟨s, t, hl, hr, h | h | ⟨o, rfl, ho, h⟩, rfl⟩)
    · exact .unknownOperator _ _ h
    · exact .notComparable _ hl hr h
    · exact .familiesDiffer _ hl hr h
    · exact .notOrdered hl hr ho h

theorem reports_comparison {op : String} {left right : Node}
    (h : (comparison op left right).violations = some vs) :
    (comparison op left right).Reports c ↔
      (comparison op left right).Flawed c ∨ left.Reports c ∨ right.Reports c := by
  have ho : (∀ o : Operator, o.symbol ≠ op) ↔ ¬(Operator.ofSymbol? op).isSome := by
    simp [Option.eq_none_iff_forall_ne_some, Operator.ofSymbol?_eq_some]
  rw [reports_eq h]
  simp only [violations, Option.bind_eq_bind, Option.bind_eq_some_iff, Option.pure_def,
    Option.some.injEq] at h
  obtain ⟨ws, hw, us, hu, ps, hp, rfl⟩ := h
  simp only [classes_append, classes_inNode, List.mem_append, mem_sentinel_unless, ← ho,
    ← reports_eq hw, ← reports_eq hu, mem_sidesProblems hp, flawed_comparison]
  simp only [Problem.sentinel, or_assoc, or_left_comm, or_comm]

theorem reports_stringMatch {pattern : String} (h : (stringMatch k pattern).violations = some vs) :
    (stringMatch k pattern).Reports c ↔ (stringMatch k pattern).Flawed c ∨ k.Reports c := by
  rw [reports_eq h]
  simp only [violations, Option.bind_eq_bind, Option.bind_eq_some_iff, Option.pure_def,
    Option.some.injEq] at h
  obtain ⟨ws, hw, ps, hp, rfl⟩ := h
  simp only [classes_append, classes_inNode, mem_classes_if, List.mem_append, ← reports_eq hw,
    mem_problemsOfShape hp, mem_sentinel_unless]
  simp [flawed_iff, Violation.sentinel, Problem.sentinel, or_assoc, or_left_comm, or_comm]

theorem reports_filter {parent condition : Node}
    (h : (filter parent condition).violations = some vs) :
    (filter parent condition).Reports c ↔
      (filter parent condition).Flawed c ∨ parent.Reports c ∨ condition.Reports c := by
  rw [reports_eq h]
  simp only [violations, Option.bind_eq_bind, Option.bind_eq_some_iff, Option.pure_def,
    Option.some.injEq] at h
  obtain ⟨ws, hw, ps, hp, us, hu, qs, hq, rfl⟩ := h
  simp only [classes_append, classes_inNode, List.mem_append, ← reports_eq hw, ← reports_eq hu,
    mem_problemsOfShape hp, mem_filterProblems, mem_booleanProblems hq]
  simp [flawed_iff, and_or_left, exists_or, or_assoc, or_left_comm, or_comm]

theorem reports_accessor {t : Accessor} {e : Node} (h : (accessor t s e).violations = some vs) :
    (accessor t s e).Reports c ↔ (accessor t s e).Flawed c ∨ e.Reports c := by
  rw [reports_eq h]
  cases he : e.isHole with
  | true =>
    cases e with
    | hole type =>
      -- The hole is not visited. The report of the accessor has the class that its own would have.
      cases h
      simp [flawed_iff, Reports, violations, Violation.sentinel, Problem.sentinel]
    | _ => cases he
  | false =>
    have hv : e.violations = some vs := by simpa [violations, he] using h
    have hne : ∀ type, e ≠ hole type := by
      rintro type rfl
      cases he
    simp [flawed_iff, reports_eq hv, hne]

/-- A node reports its own flaws and what the nodes directly below it report. -/
theorem reports_step (h : n.violations = some vs) :
    n.Reports c ↔ n.Flawed c ∨ ∃ k ∈ n.children, k.Reports c := by
  cases n with
  | hole t => simp [Reports, violations, flawed_iff, children, Violation.sentinel]
  | identifier s value =>
    simp [Reports, violations, mem_classes_if, flawed_iff, children, Violation.sentinel,
      Problem.sentinel]
  | item s => simp [Reports, violations, classes, flawed_iff, children]
  | field s parent name | arrayElement s parent i | mapElement s parent key =>
    rw [reports_eq h]
    simp only [violations, Option.bind_eq_bind, Option.bind_eq_some_iff, Option.pure_def,
      Option.some.injEq] at h
    obtain ⟨ws, hw, rfl⟩ := h
    simp [mem_classes_if, flawed_iff, children, Violation.sentinel, Problem.sentinel, reports_eq hw]
  | conjunction ns | disjunction ns =>
    cases ns with
    | nil => simp [Reports, violations, flawed_iff, children, Violation.sentinel, Problem.sentinel]
    | cons n rest =>
      rw [reports_eq h]
      rw [violations] at h
      · rw [mem_operandViolations h]
        simp [flawed_iff, children]
      · simp
  | negation k =>
    rw [reports_eq h]
    simp only [violations, Option.bind_eq_bind, Option.bind_eq_some_iff, Option.pure_def,
      Option.some.injEq] at h
    obtain ⟨ws, hw, ps, hp, rfl⟩ := h
    simp only [classes_append, classes_inNode, List.mem_append, ← reports_eq hw,
      mem_booleanProblems hp]
    simp [flawed_iff, children, or_comm]
  | comparison => simpa [children] using reports_comparison h
  | stringMatch => simpa [children] using reports_stringMatch h
  | filter => simpa [children] using reports_filter h
  | accessor => simpa [children] using reports_accessor h

/-- If the check answers at all, it reports the flaws of all nodes that stand in the expression. -/
theorem reports_iff (h : n.violations = some vs) :
    n.Reports c ↔ ∃ m, StandsIn m n ∧ m.Flawed c := by
  induction n using induction_children generalizing vs with
  | h n ih =>
    rw [reports_step h, exists_standsIn_iff]
    refine or_congr_right (exists_congr fun k => and_congr_right fun hk => ?_)
    -- No check is skipped for what another one found: all nodes below have been checked.
    obtain ⟨ws, hw⟩ := exists_violations_child h hk
    exact ih k hk hw

theorem is_violations :
    (Error.all (vs.map fun v => .cause (.violation v))).is c = true ↔ c ∈ classes vs := by
  rw [Error.is, decide_eq_true_iff, Error.sentinels]
  induction vs with
  | nil => rfl
  | cons v vs ih => simp [Error.sentinelsOfAll, Error.sentinels, Cause.sentinel, ih, classes]

theorem validate_is : (∃ e, n.validate = .error e ∧ e.is c = true) ↔ n.Reports c := by
  rw [validate]
  cases hv : n.violations with
  | none => simp [Reports, hv, Error.is, Error.sentinels]
  | some vs =>
    rw [reports_eq hv, ← is_violations]
    cases vs with
    | nil => simp [Error.is, Error.sentinels, Error.sentinelsOfAll]
    | cons v vs => simp

theorem validate_eq_fault : n.validate = .error .fault ↔ n.violations = none := by
  rw [validate]
  split <;> simp_all

theorem validate_eq_ok : n.validate = .ok () ↔ n.violations = some [] := by
  rw [validate]
  split <;> simp_all

theorem not_reports_of_valid (h : n.validate = .ok ()) : ¬n.Reports c := by
  simp [reports_eq (validate_eq_ok.mp h), classes]

/-- Without a filter of a typed hole, the check answers. Then it reports a class exactly if some
node that stands in the expression has a flaw of that class. -/
theorem validate_reports_iff (h : ∀ t condition, ¬StandsIn (filter (hole (some t)) condition) n) :
    n.validate ≠ .error .fault ∧
      (∀ c, (∃ e, n.validate = .error e ∧ e.is c = true) ↔ ∃ m, StandsIn m n ∧ m.Flawed c) ∧
      (n.validate = .ok () ↔ ∀ m c, StandsIn m n → ¬m.Flawed c) := by
  obtain ⟨vs, hv⟩ := exists_violations h
  have hr : ∀ c, n.Reports c ↔ ∃ m, StandsIn m n ∧ m.Flawed c := fun c => reports_iff hv
  refine ⟨by simp [validate_eq_fault, hv], fun c => validate_is.trans (hr c), ?_⟩
  constructor
  · intro ho m c hm hf
    exact not_reports_of_valid ho ((hr c).mpr ⟨m, hm, hf⟩)
  · intro hn
    cases vs with
    | nil => exact validate_eq_ok.mpr hv
    | cons v vs =>
      obtain ⟨m, hm, hf⟩ := (hr v.sentinel).mp ((reports_eq hv).mpr (by simp [classes]))
      exact absurd hf (hn m _ hm)

/-- A filter of a filter of nothing, by a field without a name. -/
def spoiled : Node :=
  negation (filter (filter (hole none) (item .bool)) (field .absent (item .nothing) ""))

theorem spoiled_reports_each_class :
    (∀ t condition, ¬StandsIn (filter (hole (some t)) condition) spoiled) ∧
      ∀ c ∈ [Sentinel.invalidExpression, .invalidKey, .typeMismatch],
        ∃ e, spoiled.validate = .error e ∧ e.is c = true := by
  have hf : ∀ t condition, ¬StandsIn (filter (hole (some t)) condition) spoiled := by
    intro t condition h
    -- The only hole below a filter is that of the inner one, and it has no type.
    rcases h with _ | ⟨hk, h⟩
    cases List.mem_singleton.mp hk
    rcases h with _ | ⟨hk, h⟩
    simp only [children, List.mem_cons, List.not_mem_nil, or_false] at hk
    rcases hk with rfl | rfl
    · rcases h with _ | ⟨hk, h⟩
      simp only [children, List.mem_cons, List.not_mem_nil, or_false] at hk
      rcases hk with rfl | rfl <;> rcases h with _ | ⟨hk, -⟩ <;> cases hk
    · rcases h with _ | ⟨hk, h⟩
      cases List.mem_singleton.mp hk
      rcases h with _ | ⟨hk, -⟩
      cases hk
  have hr := (validate_reports_iff hf).2.1
  have hfilter : StandsIn (filter (filter (hole none) (item .bool))
      (field .absent (item .nothing) "")) spoiled := .under (List.mem_singleton_self _) .here
  have hfield : StandsIn (field .absent (item .nothing) "") spoiled :=
    .trans (.under (List.mem_cons_of_mem _ (List.mem_singleton_self _)) .here) hfilter
  refine ⟨hf, ?_⟩
  simp only [List.forall_mem_cons, List.not_mem_nil, false_imp_iff, implies_true, and_true]
  refine ⟨(hr _).mpr ⟨_, hfilter, ?_⟩, (hr _).mpr ⟨_, hfield, ?_⟩, (hr _).mpr ⟨_, hfilter, ?_⟩⟩
  · exact .filterOfShapeless _ ⟨rfl, rfl⟩
  · exact .emptyName _ _
  · exact .condition _ ⟨rfl, rfl⟩ (by decide)

end Node

end TypedPath
