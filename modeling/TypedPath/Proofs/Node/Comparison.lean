import TypedPath.Proofs.Node.Compile
import TypedPath.Proofs.Node.Completeness

/-! Comparisons are checked twice: by the type of the accessor when one is asked for, and by the
shapes of both sides when an expression is validated. The two checks agree, since every accessor
keeps a shape of the family that its type stands for. -/
namespace TypedPath.Node

variable {n m x : Node} {s u : Shape} {t : Accessor} {op : Operator}

/-- What any call returns that does not fail. Nothing is asked of the shapes, conditions, patterns
and operands that are given to it. -/
inductive Returned : Node → Prop
  | root {s : Shape} {n : Node} (h : ofShape s = .ok n) : Returned n
  | call {n m : Node} {c : Call} (hn : Returned n) (h : c.on n = .ok m) : Returned m
  | current {n : Node} (hn : Returned n) (h : n.IsCollection) : Returned n.current
  | narrow {n m : Node} {s : Shape} (hn : Returned n) (h : n.narrow s = .ok m) : Returned m
  | literal {v : Value} {n : Node} (h : ofValue v = .ok n) : Returned n
  | compare {n m : Node} {op : Operator} {x : Operand} (hn : Returned n)
      (h : n.compare op x = .ok m) : Returned m
  | matching {n : Node} (hn : Returned n) (pattern : String) : Returned (n.matching pattern)
  | allOf (ns : List Node) : Returned (allOf ns)
  | anyOf (ns : List Node) : Returned (anyOf ns)
  | noneOf (n : Node) : Returned n.noneOf
  | negated {n : Node} (hn : Returned n) : Returned n.negated

theorem isView_truth (e : Node) : e.truth.IsView := ⟨.bool, e, rfl, rfl⟩

theorem IsView.narrow (hn : n.IsView) (h : n.narrow s = .ok m) : m.IsView := by
  obtain ⟨_, e, -, rfl⟩ := hn
  obtain ⟨-, hc, rfl⟩ := narrow_eq_ok.mp h
  exact ⟨s, _, hc, rfl⟩

theorem IsView.compare {x : Operand} (hn : n.IsView) (h : n.compare op x = .ok m) :
    m.IsView := by
  obtain ⟨_, e, hs, rfl⟩ := hn
  obtain ⟨right, _, -, -, -, rfl⟩ := (compare_eq_ok hs).mp h
  exact isView_truth _

theorem IsView.negated (hn : n.IsView) : n.negated.IsView := by
  obtain ⟨s, e, -, rfl⟩ := hn
  cases s <;> exact isView_truth _

/-- Whatever calls return is the accessor of a complete shape, unless it is a literal. -/
theorem Returned.isView (h : n.Returned) : n.IsView ∨ ∃ s text, n = identifier s text := by
  induction h with
  | root h =>
    obtain ⟨hc, rfl⟩ := ofShape_eq_ok.mp h
    exact .inl ⟨_, _, hc, rfl⟩
  | @call _ _ c _ h ih =>
    obtain hn | ⟨_, _, rfl⟩ := ih
    · exact .inl (hn.call h)
    · cases c <;> cases h
  | current _ h ih =>
    obtain hn | ⟨_, _, rfl⟩ := ih
    · exact .inl (hn.current h)
    · rcases h with h | h <;> cases h
  | narrow _ h ih =>
    obtain hn | ⟨_, _, rfl⟩ := ih
    · exact .inl (hn.narrow h)
    · cases h
  | literal h =>
    obtain ⟨u, text, -, rfl⟩ := ofValue_eq_ok.mp h
    exact .inr ⟨u, text, rfl⟩
  | compare _ h ih =>
    obtain hn | ⟨_, _, rfl⟩ := ih
    · exact .inl (hn.compare h)
    · cases h
  | matching | allOf | anyOf | noneOf => exact .inl (isView_truth _)
  | negated _ ih =>
    obtain hn | ⟨_, _, rfl⟩ := ih
    · exact .inl hn.negated
    · exact .inl (isView_truth _)

/-- The shape of an expression without holes can be told. -/
theorem Whole.exists_shape (h : n.Whole) : n.isHole = false ∧ ∃ s, n.shape? = some s := by
  induction h with
  | @filter parent _ _ _ ih _ =>
    obtain ⟨hh, s, hs⟩ := ih
    refine ⟨rfl, s, ?_⟩
    cases parent with
    | hole => cases hh
    | _ => exact hs
  | _ => exact ⟨rfl, _, rfl⟩

theorem comparisonProblems_eq_nil :
    comparisonProblems op.symbol s u = [] ↔ Comparable op s u := by
  refine ⟨fun h => ?_, Comparable.problems_eq⟩
  simp only [comparisonProblems, Operator.ofSymbol?_symbol] at h
  split_ifs at h with hother hdiffer hordered
  refine ⟨not_not.mp hdiffer, hother, fun ho => ?_⟩
  by_contra hn
  exact hordered ⟨ho, hn⟩

section Sides

variable (hn : n.violations = some []) (hx : x.violations = some []) (hs : n.shape? = some s)
  (hu : x.shape? = some u)
include hn hx hs hu

theorem violations_comparison : (comparison op.symbol n x).violations
    = some ((comparisonProblems op.symbol s u).map (.inNode .comparison)) := by
  have hn' := (whole_of_valid (validate_eq_ok.mpr hn)).exists_shape.1
  have hx' := (whole_of_valid (validate_eq_ok.mpr hx)).exists_shape.1
  simp [violations, hn, hx, sidesProblems, hn', hx', hs, hu, Operator.ofSymbol?_symbol]

theorem validate_comparison_eq_ok :
    (comparison op.symbol n x).validate = .ok () ↔ Comparable op s u := by
  rw [validate_eq_ok, violations_comparison hn hx hs hu, Option.some.injEq, List.map_eq_nil_iff,
    comparisonProblems_eq_nil]

/-- All that can be wrong with a comparison of valid sides is how they fit each other. -/
theorem validate_comparison_mismatch (h : ¬Comparable op s u) :
    ∃ err, (comparison op.symbol n x).validate = .error err ∧ err.is .typeMismatch = true := by
  rw [validate_is, reports_eq (violations_comparison hn hx hs hu), classes_inNode]
  cases hp : comparisonProblems op.symbol s u with
  | nil => exact absurd (comparisonProblems_eq_nil.mp hp) h
  | cons p ps =>
    have hc : p.sentinel ∈ (comparisonProblems op.symbol s u).map (·.sentinel) := by
      rw [hp]
      exact .head _
    rw [(mem_comparisonProblems.mp hc).2, hp] at hc
    exact hc

theorem compile_comparison (h : Comparable op s u) : (truth (comparison op.symbol n x)).compile
    = .ok (n.render ++ (" " ++ op.symbol ++ " ") ++ x.render) := by
  have hvalid := (validate_comparison_eq_ok hn hx hs hu).mpr h
  exact compile_eq_ok.mpr ⟨validate_eq_ok.mp hvalid, rfl⟩

end Sides

theorem comparable_seen : Comparable op s.seen u ↔ Comparable op s u := by
  refine ⟨fun h => ⟨?_, ?_, ?_⟩, Comparable.seen⟩
  · simpa using h.same
  · simpa using h.comparable
  · simpa using h.ordered

theorem compare_node_eq_ok {e : Node} (hs : s.check = .ok ()) (hx : x.isHole = false)
    (hu : x.shape? = some u) : (s.accessor e).compare op (.node x) = .ok m ↔
      Comparable op s u ∧ m = truth (comparison op.symbol (s.accessor e) x) := by
  rw [compare_eq_ok hs]
  constructor
  · rintro ⟨right, v, ⟨hr, -⟩ | ⟨_, hr, -⟩, hv, hc, rfl⟩
    · cases hr
      cases hu.symm.trans hv
      exact ⟨hc, rfl⟩
    · cases hr
  · rintro ⟨hc, rfl⟩
    exact ⟨x, u, .inl ⟨rfl, hx⟩, hu, hc, rfl⟩

/-- A comparison that is offered and yet fails does so for the family of its operand. -/
theorem compare_mismatch {e : Node} {err : Error} (ho : t.offers op = true)
    (hx : x.isHole = false) (hu : x.shape? = some u)
    (h : (accessor t s e).compare op (.node x) = .error err) : err.is .typeMismatch = true := by
  rw [compare, if_pos ho] at h
  split at h
  case h_1 hc =>
    cases h
    obtain ⟨cause, hcause, rfl⟩ := inContext_eq_error.mp hc
    rw [operand_node _ hx, ofFamily, hu] at hcause
    simp only at hcause
    split at hcause
    · cases hcause
    · cases hcause
      rfl
  case h_2 => cases h

/-- A literal of the family of an accessor can be compared with it, and stands behind the operator
as it is. -/
theorem compare_literal {v : Value} {path text : String} (hn : n.Returned)
    (ht : n.type? = some (.accessor t)) (ho : t.offers op = true) (hp : n.compile = .ok path)
    (hl : v.literal = .ok (u, text)) (hf : u.family = t.family) :
    ∃ m, n.compare op (.value v) = .ok m ∧
      m.compile = .ok (path ++ (" " ++ op.symbol ++ " ") ++ text) := by
  obtain ⟨s, e, hs, rfl⟩ | ⟨_, _, rfl⟩ := hn.isView
  case inr => cases ht
  obtain ⟨t', ha, hfamily⟩ := exists_accessor hs e
  obtain rfl : t' = t := by
    rw [ha] at ht
    cases ht
    rfl
  obtain ⟨hother, hordered⟩ := (offers_accessor_iff op ha).mp ho
  have hc : Comparable op s u := ⟨(hf.trans hfamily).symm, hother, hordered⟩
  obtain ⟨hno, rfl⟩ := compile_eq_ok.mp hp
  have hlit : (identifier u text).violations = some [] := by
    simp [violations, Value.literal_text_ne_empty hl]
  refine ⟨_, (compare_eq_ok hs).mpr ⟨_, u, .inr ⟨v, rfl, ofValue_eq_ok.mpr ⟨u, text, hl, rfl⟩⟩, rfl,
    hc, rfl⟩, ?_⟩
  exact compile_comparison hno hlit (shape?_accessor hs e) rfl hc.seen

/-- An accessor takes exactly those operands for an operator that it offers for which the comparison
is valid. What it then returns is valid too, and reads as both sides with the operator between them.
Otherwise both checks report that the types do not match. -/
theorem compare_iff_valid (hn : n.Returned) (ht : n.type? = some (.accessor t))
    (ho : t.offers op = true) (hv : n.validate = .ok ()) (hx : x.validate = .ok ()) :
    ((∃ m, n.compare op (.node x) = .ok m) ↔ (comparison op.symbol n x).validate = .ok ()) ∧
    (∀ m, n.compare op (.node x) = .ok m → m.type? = some (.accessor .bool) ∧
      m.validate = .ok () ∧ ∃ p q, n.compile = .ok p ∧ x.compile = .ok q ∧
        m.compile = .ok (p ++ (" " ++ op.symbol ++ " ") ++ q)) ∧
    ∀ err, n.compare op (.node x) = .error err → err.is .typeMismatch = true ∧
      ∃ err', (comparison op.symbol n x).validate = .error err' ∧
        err'.is .typeMismatch = true := by
  obtain ⟨s, e, hs, rfl⟩ | ⟨_, _, rfl⟩ := hn.isView
  case inr => cases ht
  have hno := validate_eq_ok.mp hv
  have hnox := validate_eq_ok.mp hx
  have hshape := shape?_accessor hs e
  obtain ⟨hh, u, hu⟩ := (whole_of_valid hx).exists_shape
  have hvalid : (comparison op.symbol (s.accessor e) x).validate = .ok () ↔ Comparable op s u :=
    (validate_comparison_eq_ok hno hnox hshape hu).trans comparable_seen
  refine ⟨?_, fun m hm => ?_, fun err herr => ?_⟩
  · simp only [compare_node_eq_ok hs hh hu, hvalid, exists_and_left, exists_eq, and_true]
  · obtain ⟨hc, rfl⟩ := (compare_node_eq_ok hs hh hu).mp hm
    refine ⟨rfl, hvalid.mpr hc, _, _, compile_eq_ok.mpr ⟨hno, rfl⟩, compile_eq_ok.mpr ⟨hnox, rfl⟩,
      ?_⟩
    exact compile_comparison hno hnox hshape hu hc.seen
  · constructor
    · obtain ⟨_, ha, -⟩ := exists_accessor hs e
      rw [ha] at ht herr
      cases ht
      exact compare_mismatch ho hh hu herr
    · refine validate_comparison_mismatch hno hnox hshape hu fun hc => ?_
      rw [(compare_node_eq_ok hs hh hu).mpr ⟨comparable_seen.mp hc, rfl⟩] at herr
      cases herr

/-- A sum and a time. -/
def tallyShape : Shape :=
  .record "Tally" [⟨"total", .integer, false, ""⟩, ⟨"since", .timestamp, false, ""⟩]

/-- A number that no call returned: an element of what a filter looks at. -/
def looseNumber : Node := arrayElement .number (item (.array .number)) 3

theorem tallyShape_compared : ∃ root total since, ofShape tallyShape = .ok root ∧
    root.member "total" = .ok total ∧ root.member "since" = .ok since ∧
    (∃ m, total.compare .less (.node looseNumber) = .ok m ∧
      m.compile = .ok "$['total'] < @[3]") ∧
    (∃ err, since.compare .equals (.node looseNumber) = .error err ∧
      err.is .typeMismatch = true) ∧
    ∃ err, (comparison "==" since looseNumber).validate = .error err ∧
      err.is .typeMismatch = true := by
  let root := tallyShape.accessor (identifier tallyShape Node.root)
  let total := Shape.integer.accessor (field .integer root "total")
  let since := Shape.timestamp.accessor (field .timestamp root "since")
  have hroot : root.Returned := .root (s := tallyShape) rfl
  have htotal : total.Returned := .call (c := .member "total") hroot rfl
  have hsince : since.Returned := .call (c := .member "since") hroot rfl
  obtain ⟨hless, hpath, -⟩ := @compare_iff_valid _ looseNumber _ .less htotal rfl rfl rfl rfl
  obtain ⟨-, -, hequal⟩ := @compare_iff_valid _ looseNumber _ .equals hsince rfl rfl rfl rfl
  obtain ⟨m, hm⟩ := hless.mpr rfl
  obtain ⟨-, -, _, _, hp, hq, hc⟩ := hpath m hm
  cases hp
  cases hq
  obtain ⟨his, herr⟩ := hequal _ rfl
  exact ⟨root, total, since, rfl, rfl, rfl, ⟨m, hm, hc⟩, ⟨_, rfl, his⟩, herr⟩

end TypedPath.Node
