import TypedPath.Proofs.Node.Report

/-! What compiling an expression answers: what its check answers, and else the text that its
structure gives. -/
namespace TypedPath.Node

variable {n : Node}

/-- An expression that passes its check has no holes. -/
theorem whole_of_valid (h : n.validate = .ok ()) : n.Whole := by
  apply whole_of_standsIn
  intro t ht
  exact not_reports_of_valid h ((reports_iff (validate_eq_ok.mp h)).mpr ⟨_, ht, .missing t⟩)

/-- Compiling adds the text to what the check answers and fails in no other way. -/
theorem compile_eq_validate (n : Node) : n.compile = n.validate.map fun _ => n.render := by
  cases h : n.validate with
  | error e => simp [compile, h, Except.map]
  | ok => exact (whole_of_valid h).compile_eq h

theorem compile_eq_ok {path : String} :
    n.compile = .ok path ↔ n.violations = some [] ∧ path = n.render := by
  rw [compile_eq_validate, ← validate_eq_ok]
  cases n.validate <;> simp [Except.map, eq_comm]

/-- The writer does what the structure of an expression says. Behind whatever stands before it, an
expression without holes is written as its text. What a group takes back is the last of its own
separators, and nothing if it has no operands. So compiling fails only where the check does. -/
theorem write_refines_render :
    (∀ n : Node, n.Whole → ∀ w, ∃ v, n.write w = .ok v ∧ w.Extends v n.render) ∧
      (∀ (ns : List Node) (separator : String) (w : Writer), (∀ n ∈ ns, n.Whole) →
        ∃ v, writeOperands separator (w.write "(") ns = .ok v ∧
          (ns = [] ∧ v = w.write "(" ∧ v.pop = (v, false) ∨
            ns ≠ [] ∧ ∃ u, v = u.separate separator ∧ v.pop = (u, true) ∧
              (w.write "(").Extends u (separator.intercalate (ns.map render)))) ∧
      ∀ n : Node, (n.validate = .ok () → n.Whole) ∧
        n.compile = n.validate.map fun _ => n.render := by
  refine ⟨fun n h => h.write_eq, ?_, fun n => ⟨whole_of_valid, compile_eq_validate n⟩⟩
  intro ns separator w h
  by_cases hne : ns = []
  · subst hne
    exact ⟨w.write "(", rfl, .inl ⟨rfl, rfl, (w.extends_write "(").pop_eq⟩⟩
  · have hw : ∀ n ∈ ns, ∀ w, ∃ v, n.write w = .ok v ∧ w.Extends v n.render :=
      fun n hn => (h n hn).write_eq
    obtain ⟨u, hu, hx⟩ := writeOperands_eq separator hne hw (w.write "(")
    exact ⟨u.separate separator, hu, .inr ⟨hne, u, rfl, rfl, hx⟩⟩

/-- Groups without operands, one in the other. -/
def emptyGroups : Node := conjunction [disjunction [], negation (conjunction [])]

/-- The separator of a group that is still open stays. -/
theorem emptyGroups_written : ∃ v, emptyGroups.write (Writer.empty.separate " || ") = .ok v ∧
    v.text = " || (() && (!()))" := by
  have hw : emptyGroups.Whole := by
    refine .conjunction (List.forall_mem_cons.mpr ⟨.disjunction (by simp), ?_⟩)
    exact List.forall_mem_singleton.mpr (.negation (.conjunction (by simp)))
  obtain ⟨v, hv, hx⟩ := write_refines_render.1 _ hw (Writer.empty.separate " || ")
  exact ⟨v, hv, hx.text_eq.trans rfl⟩

/-- The check breaks off exactly if some node asks for a shape that cannot be told, and so does
compiling. Otherwise a hole anywhere is reported. -/
theorem validate_fault_iff (n : Node) :
    (n.validate = .error .fault ↔ ∃ m, StandsIn m n ∧ ∃ k ∈ m.asked, k.Unreadable) ∧
      (n.compile = .error .fault ↔ n.validate = .error .fault) ∧
      (n.validate ≠ .error .fault → ∀ t, StandsIn (hole t) n →
        ∃ e, n.validate = .error e ∧ e.is .invalidExpression = true) := by
  refine ⟨validate_eq_fault.trans violations_eq_none_iff, ?_, ?_⟩
  · rw [compile_eq_validate]
    cases n.validate <;> simp [Except.map]
  · intro hn t ht
    rw [Ne, validate_eq_fault, ← Ne, Option.ne_none_iff_exists'] at hn
    obtain ⟨vs, hv⟩ := hn
    exact validate_is.mpr ((reports_iff hv).mpr ⟨_, ht, .missing t⟩)

/-- A filter of a field that is missing. -/
def unanchored : Node := filter (hole (some .field)) (item .bool)

theorem unanchored_standsIn : StandsIn (hole (some .field)) unanchored :=
  .under List.mem_cons_self .here

/-- Alone, such a filter is reported. Once it is an operand it stops the check. -/
theorem negation_unanchored_faults :
    StandsIn (hole (some .field)) (negation unanchored) ∧
      (negation unanchored).validate = .error .fault ∧
      (negation unanchored).compile = .error .fault :=
  ⟨.under (List.mem_singleton_self _) unanchored_standsIn, rfl, rfl⟩

theorem unanchored_reported :
    (∃ e, unanchored.validate = .error e ∧ e.is .invalidExpression = true) ∧
      (negation unanchored).validate = .error .fault := by
  constructor
  · have hn : unanchored.validate ≠ .error .fault := by
      rw [Ne, validate_eq_fault]
      intro h
      cases h
    exact (validate_fault_iff unanchored).2.2 hn _ unanchored_standsIn
  · refine (validate_fault_iff _).1.mpr ⟨_, .here, unanchored, List.mem_singleton_self _, ?_⟩
    exact .filter _ (by simp [NodeType.KeepsShape])

end TypedPath.Node
