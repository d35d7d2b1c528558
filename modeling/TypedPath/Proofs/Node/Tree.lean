import TypedPath.Proofs.Node.Sound

/-! Expressions as trees: induction along the nodes directly below a node, and what stands where. -/
namespace TypedPath.Node

variable {n m k : Node}

theorem sizeOf_child (h : k ∈ n.children) : sizeOf k < sizeOf n := by
  cases n with
  | hole | identifier | item => cases h
  | conjunction ns | disjunction ns =>
    have hlt : sizeOf k < sizeOf ns := List.sizeOf_lt_of_mem h
    simp only [conjunction.sizeOf_spec, disjunction.sizeOf_spec]
    omega
  | comparison | filter =>
    simp only [children, List.mem_cons, List.not_mem_nil, or_false] at h
    simp only [comparison.sizeOf_spec, filter.sizeOf_spec]
    rcases h with rfl | rfl <;> omega
  | field | arrayElement | mapElement | negation | stringMatch | accessor =>
    rw [List.mem_singleton.mp h]
    simp only [field.sizeOf_spec, arrayElement.sizeOf_spec, mapElement.sizeOf_spec,
      negation.sizeOf_spec, stringMatch.sizeOf_spec, accessor.sizeOf_spec]
    omega

/-- What passes from the nodes directly below to a node holds of every node. -/
theorem induction_children {P : Node → Prop} (h : ∀ n, (∀ k ∈ n.children, P k) → P n) (n : Node) :
    P n := by
  apply h
  intro k hk
  have hlt := sizeOf_child hk
  exact induction_children h k
termination_by sizeOf n

theorem StandsIn.trans (h : StandsIn m k) (hk : StandsIn k n) : StandsIn m n := by
  induction hk with
  | here => exact h
  | under hc _ ih => exact .under hc ih

/-- Somewhere in `n` a property holds: of `n` itself, or somewhere in a node directly below. -/
theorem exists_standsIn_iff {P : Node → Prop} : (∃ m, StandsIn m n ∧ P m) ↔
    P n ∨ ∃ k ∈ n.children, ∃ m, StandsIn m k ∧ P m := by
  constructor
  · rintro ⟨m, hm, hp⟩
    cases hm with
    | here => exact .inl hp
    | under hk hm => exact .inr ⟨_, hk, m, hm, hp⟩
  · rintro (hp | ⟨k, hk, m, hm, hp⟩)
    · exact ⟨n, .here, hp⟩
    · exact ⟨m, .under hk hm, hp⟩

theorem whole_of_standsIn (h : ∀ t, ¬StandsIn (hole t) n) : n.Whole := by
  induction n using induction_children with
  | h n ih =>
    have hc : ∀ k ∈ n.children, k.Whole := fun k hk => ih k hk fun t ht => h t (.under hk ht)
    cases n with
    | hole t => exact absurd .here (h t)
    | identifier s value => exact .identifier s value
    | field s _ name => exact .field s name (hc _ (by simp [children]))
    | arrayElement s _ i => exact .arrayElement s i (hc _ (by simp [children]))
    | mapElement s _ key => exact .mapElement s key (hc _ (by simp [children]))
    | comparison op _ _ =>
      exact .comparison op (hc _ (by simp [children])) (hc _ (by simp [children]))
    | conjunction ns => exact .conjunction hc
    | disjunction ns => exact .disjunction hc
    | negation _ => exact .negation (hc _ (by simp [children]))
    | stringMatch _ pattern => exact .stringMatch pattern (hc _ (by simp [children]))
    | filter _ _ => exact .filter (hc _ (by simp [children])) (hc _ (by simp [children]))
    | item s => exact .item s
    | accessor t s _ => exact .accessor t s (hc _ (by simp [children]))

end TypedPath.Node
