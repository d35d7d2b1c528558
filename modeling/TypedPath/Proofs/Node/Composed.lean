import TypedPath.Proofs.Node.Built

/-! Expressions composed of references, literals, comparisons and groups. Whatever is put together
this way is a tree in which only references are followed further. -/
namespace TypedPath

theorem Shape.Holds.ne_bool {s t : Shape} (h : s.Holds t) : s ≠ .bool := by
  rcases h with (rfl | rfl) | rfl <;> simp

namespace Node

variable {n m c e : Node} {s : Shape} {ns : List Node}

/-- What the operations other than matches return, in any order of calls that do not fail. Nothing
is asked of the shapes that are brought in. -/
inductive Composed : Node → Prop
  | root {s : Shape} {n : Node} (h : ofShape s = .ok n) : Composed n
  | member {n m : Node} {name : String} (hn : Composed n) (h : n.member name = .ok m) : Composed m
  | element {n m : Node} {i : Int} (hn : Composed n) (h : n.element i = .ok m) : Composed m
  | entry {n m : Node} {key : String} (hn : Composed n) (h : n.entry key = .ok m) : Composed m
  | current {n : Node} (hn : Composed n)
      (ht : n.type? = some (.accessor .array) ∨ n.type? = some (.accessor .map)) :
      Composed n.current
  | narrowBy {n m c : Node} {p : Condition} (hn : Composed n) (hp : p n.current = .ok c)
      (hc : Composed c) (ht : c.type? = some (.accessor .bool))
      (h : n.narrowBy (some p) = .ok m) : Composed m
  | narrow {n m : Node} {s : Shape} (hn : Composed n) (h : n.narrow s = .ok m) : Composed m
  | literal {v : Value} {n : Node} (h : ofValue v = .ok n) : Composed n
  | compare {n m : Node} {op : Operator} {x : Operand} (hn : Composed n)
      (hx : ∀ k, x = .node k → Composed k) (h : n.compare op x = .ok m) : Composed m
  | allOf {ns : List Node} (hne : ns ≠ []) (hns : ∀ n ∈ ns, Composed n)
      (ht : ∀ n ∈ ns, n.type? = some (.accessor .bool)) : Composed (allOf ns)
  | anyOf {ns : List Node} (hne : ns ≠ []) (hns : ∀ n ∈ ns, Composed n)
      (ht : ∀ n ∈ ns, n.type? = some (.accessor .bool)) : Composed (anyOf ns)
  | noneOf {n : Node} (hn : Composed n) (ht : n.type? = some (.accessor .bool)) :
      Composed n.noneOf
  | negated {n : Node} (hn : Composed n) (ht : n.type? = some (.accessor .bool)) :
      Composed n.negated

mutual

/-- The root or the current element, and what is found from there. -/
inductive Reference : Node → Prop
  | root (s : Shape) : Reference (identifier s root)
  | item (s : Shape) : Reference (item s)
  | field {parent : Node} (s : Shape) (name : String) :
      Reference parent → Reference (field s parent name)
  | arrayElement {parent : Node} {i : Int} (s : Shape) (hi : 0 ≤ i) :
      Reference parent → Reference (arrayElement s parent i)
  | mapElement {parent : Node} (s : Shape) (key : String) :
      Reference parent → Reference (mapElement s parent key)
  | filter {parent condition : Node} :
      Reference parent → Expression condition → Reference (filter parent condition)
  | accessor {e : Node} (t : Accessor) (s : Shape) : Reference e → Reference (accessor t s e)

inductive Expression : Node → Prop
  | reference {n : Node} : Reference n → Expression n
  | literal {v : Value} {s u : Shape} {text : String} (h : v.literal = .ok (u, text)) :
      Expression (identifier s text)
  | comparison {left right : Node} (op : Operator) :
      Expression left → Expression right → Expression (comparison op.symbol left right)
  | conjunction {ns : List Node} (hne : ns ≠ []) :
      (∀ n ∈ ns, Expression n) → Expression (conjunction ns)
  | disjunction {ns : List Node} (hne : ns ≠ []) :
      (∀ n ∈ ns, Expression n) → Expression (disjunction ns)
  | negation {n : Node} : Expression n → Expression (negation n)
  | accessor {e : Node} (t : Accessor) (s : Shape) : Expression e → Expression (accessor t s e)

end

theorem Reference.of_shape (hs : s.check = .ok ()) (h : e.Reference) :
    (s.accessor e).Reference := by
  obtain ⟨t, ha, -⟩ := exists_accessor hs e
  exact ha ▸ .accessor t _ h

theorem Expression.of_shape (hs : s.check = .ok ()) (h : e.Expression) :
    (s.accessor e).Expression := by
  obtain ⟨t, ha, -⟩ := exists_accessor hs e
  exact ha ▸ .accessor t _ h

/-- A literal, or an expression seen as a value of some shape. It is a reference unless the shape is
that of a condition. -/
inductive Seen : Node → Prop
  | literal {v : Value} {s u : Shape} {text : String} (h : v.literal = .ok (u, text)) :
      Seen (identifier s text)
  | view {s : Shape} {e : Node} (hs : s.check = .ok ()) (he : e.Expression)
      (hr : s ≠ .bool → e.Reference) : Seen (s.accessor e)

theorem Seen.reference (hs : s.check = .ok ()) (h : e.Reference) : (s.accessor e).Seen :=
  .view hs (.reference h) fun _ => h

theorem Seen.truth (h : e.Expression) : e.truth.Seen :=
  .view (s := .bool) rfl h fun hne => absurd rfl hne

theorem Seen.expression (h : n.Seen) : n.Expression := by
  cases h with
  | literal h => exact .literal h
  | view hs he => exact he.of_shape hs

theorem Seen.isTruth (h : n.Seen) (ht : n.type? = some (.accessor .bool)) : n.IsTruth := by
  cases h with
  | literal => simp [type?] at ht
  | @view s e hs =>
    cases s with
    | bool => exact ⟨e, rfl⟩
    | _ => simp [type?] at ht

theorem Seen.member {name : String} (hn : n.Seen) (h : n.member name = .ok m) : m.Seen := by
  cases hn with
  | literal => simp [Node.member] at h
  | view hs _ hr =>
    obtain ⟨record, ms, k, rfl, hl, rfl⟩ := (member_eq_ok hs).mp h
    have hk := (Shape.lastMember?_mem hl).1
    exact .reference (Shape.check_record.mp hs k hk)
      (.field _ _ ((hr (by simp)).of_shape hs))

theorem Seen.element {i : Int} (hn : n.Seen) (h : n.element i = .ok m) : m.Seen := by
  cases hn with
  | literal => simp [Node.element] at h
  | view hs _ hr =>
    obtain ⟨t, ht, hi, rfl⟩ := (element_eq_ok hs).mp h
    have ht : Shape.Holds _ t := .inl ht
    exact .reference (ht.check hs) (.arrayElement _ hi ((hr ht.ne_bool).of_shape hs))

theorem Seen.entry {key : String} (hn : n.Seen) (h : n.entry key = .ok m) : m.Seen := by
  cases hn with
  | literal => simp [Node.entry] at h
  | view hs _ hr =>
    obtain ⟨t, rfl, -, rfl⟩ := (entry_eq_ok hs).mp h
    exact .reference (Shape.check_map.mp hs) (.mapElement _ _ ((hr (by simp)).of_shape hs))

theorem Seen.current (hn : n.Seen)
    (ht : n.type? = some (.accessor .array) ∨ n.type? = some (.accessor .map)) :
    n.current.Seen := by
  cases hn with
  | literal => simp [type?] at ht
  | view hs =>
    obtain ⟨t, hu⟩ := exists_holds ht
    rw [current_eq hs hu]
    exact .reference (hu.check hs) (.item t)

theorem Seen.narrowBy {p : Condition} (hn : n.Seen) (hp : p n.current = .ok c) (hc : c.Seen)
    (h : n.narrowBy (some p) = .ok m) : m.Seen := by
  cases hn with
  | literal => simp [Node.narrowBy] at h
  | view hs _ hr =>
    obtain ⟨t, d, hu, hd, -, rfl⟩ := (narrowBy_eq_ok hs).mp h
    rw [current_eq hs hu, hd] at hp
    obtain rfl : d = c := Except.ok.inj hp
    exact .reference hs (.filter ((hr hu.ne_bool).of_shape hs) hc.expression)

theorem Seen.narrow (hn : n.Seen) (h : n.narrow s = .ok m) : m.Seen := by
  cases hn with
  | literal => simp [Node.narrow] at h
  | view hs _ hr =>
    obtain ⟨⟨tag, rfl⟩, hc, rfl⟩ := narrow_eq_ok.mp h
    exact .reference hc ((hr (by simp)).of_shape hs)

theorem Seen.ofValue {v : Value} (h : ofValue v = .ok n) : n.Seen := by
  obtain ⟨u, text, hv, rfl⟩ := ofValue_eq_ok.mp h
  exact .literal hv

theorem Seen.compare {op : Operator} {x : Operand} (hn : n.Seen)
    (hx : ∀ k, x = .node k → k.Seen) (h : n.compare op x = .ok m) : m.Seen := by
  cases hn with
  | literal => simp [Node.compare] at h
  | view hs he =>
    obtain ⟨right, t, hr, -, -, rfl⟩ := (compare_eq_ok hs).mp h
    have hright : right.Seen := by
      rcases hr with ⟨rfl, -⟩ | ⟨v, -, hv⟩
      · exact hx right rfl
      · exact .ofValue hv
    exact .truth (.comparison op (he.of_shape hs) hright.expression)

theorem Seen.operands (hns : ∀ n ∈ ns, n.Seen) (ht : ∀ n ∈ ns, n.type? = some (.accessor .bool)) :
    ns.map boolOrHole = ns ∧ ∀ n ∈ ns, n.Expression :=
  ⟨map_boolOrHole fun n hn => (hns n hn).isTruth (ht n hn), fun n hn => (hns n hn).expression⟩

theorem Seen.negation (hn : n.Seen) (ht : n.type? = some (.accessor .bool)) :
    n.noneOf.Seen ∧ n.negated = n.noneOf := by
  have he := hn.expression
  obtain ⟨e, rfl⟩ := hn.isTruth ht
  exact ⟨.truth (.negation he), rfl⟩

theorem Composed.seen (h : n.Composed) : n.Seen := by
  induction h with
  | root h =>
    obtain ⟨hc, rfl⟩ := ofShape_eq_ok.mp h
    exact .reference hc (.root _)
  | member _ h ih => exact ih.member h
  | element _ h ih => exact ih.element h
  | entry _ h ih => exact ih.entry h
  | current _ ht ih => exact ih.current ht
  | narrowBy _ hp _ _ h ihn ihc => exact ihn.narrowBy hp ihc h
  | narrow _ h ih => exact ih.narrow h
  | literal h => exact .ofValue h
  | compare _ _ h ih ihx => exact ih.compare ihx h
  | allOf hne _ ht ih =>
    obtain ⟨hmap, he⟩ := Seen.operands ih ht
    rw [Node.allOf, hmap]
    exact .truth (.conjunction hne he)
  | anyOf hne _ ht ih =>
    obtain ⟨hmap, he⟩ := Seen.operands ih ht
    rw [Node.anyOf, hmap]
    exact .truth (.disjunction hne he)
  | noneOf _ ht ih => exact (ih.negation ht).1
  | negated _ ht ih => exact (ih.negation ht).2 ▸ (ih.negation ht).1

end Node

end TypedPath
