import TypedPath.Node.Condition
import TypedPath.Proofs.Node.Sound
import TypedPath.Proofs.Shape.Part

/-! What the operations on the accessor of a shape return, and exactly when they return it. -/
namespace TypedPath

namespace Shape

/-- The shape that an accessor keeps: sets are seen as arrays and timestamps as strings. -/
def seen : Shape → Shape
  | set s => array s
  | timestamp => string
  | s => s

@[simp] theorem seen_family (s : Shape) : s.seen.family = s.family := by
  cases s <;> rfl

section Accessor

variable (e : Node) (s : Shape)

@[simp] theorem accessor_absent : absent.accessor e = .hole none := rfl
@[simp] theorem accessor_string : string.accessor e = .accessor .string .string e := rfl
@[simp] theorem accessor_timestamp : timestamp.accessor e = .accessor .string .string e := rfl
@[simp] theorem accessor_number : number.accessor e = .accessor .number .number e := rfl
@[simp] theorem accessor_integer : integer.accessor e = .accessor .number .integer e := rfl
@[simp] theorem accessor_bool : bool.accessor e = .accessor .bool .bool e := rfl
@[simp] theorem accessor_binary : binary.accessor e = .accessor .binary .binary e := rfl
@[simp] theorem accessor_nothing : nothing.accessor e = .accessor .value .nothing e := rfl
@[simp] theorem accessor_array : (array s).accessor e = .accessor .array (.array s) e := rfl
@[simp] theorem accessor_set : (set s).accessor e = .accessor .array (.array s) e := rfl
@[simp] theorem accessor_map : (map s).accessor e = .accessor .map (.map s) e := rfl

@[simp] theorem accessor_dynamic (tag : String) :
    (dynamic tag).accessor e = .accessor .dynamic (.dynamic tag) e := rfl

@[simp] theorem accessor_record (name : String) (ms : List (Member Shape)) :
    (record name ms).accessor e = .accessor .struct (.record name ms) e := rfl

end Accessor

/-- Arrays and sets, whose items are found by their position. -/
def IsListOf (s items : Shape) : Prop := s = array items ∨ s = set items

/-- What can be filtered by its items. -/
def Holds (s items : Shape) : Prop := s.IsListOf items ∨ s = map items

theorem Holds.check {s t : Shape} (h : s.Holds t) (hs : s.check = .ok ()) : t.check = .ok () := by
  rcases h with (rfl | rfl) | rfl
  · exact check_array.mp hs
  · exact check_set.mp hs
  · exact check_map.mp hs

theorem Holds.recordsBuilt {s t : Shape} (h : s.Holds t) (hs : s.RecordsBuilt) :
    t.RecordsBuilt := by
  rcases h with (rfl | rfl) | rfl
  · exact recordsBuilt_array.mp hs
  · exact recordsBuilt_set.mp hs
  · exact recordsBuilt_map.mp hs

theorem Holds.unique {s t u : Shape} (h : s.Holds t) (h' : s.Holds u) : t = u := by
  rcases h with (rfl | rfl) | rfl <;> rcases h' with (h' | h') | h' <;> cases h' <;> rfl

end Shape

namespace Node

variable {s : Shape} {e n : Node}

theorem dispatch_eq (s : Shape) (e : Node) :
    dispatch s e = s.check.map fun _ => s.accessor e := by
  rw [dispatch, visit]
  cases s.check <;> rfl

@[simp] theorem dispatch_eq_ok : dispatch s e = .ok n ↔ s.check = .ok () ∧ n = s.accessor e := by
  rw [dispatch_eq]
  cases s.check <;> simp [Except.map, eq_comm]

theorem ofShape_eq_ok : ofShape s = .ok n ↔ s.check = .ok () ∧ n = s.accessor (identifier s root) :=
  dispatch_eq_ok

@[simp] theorem as_eq_ok {t : NodeType} {m : Node} :
    n.as t = .ok m ↔ n.type? = some t ∧ m = n := by
  rw [as]
  split <;> simp_all [eq_comm]

theorem shape?_accessor (hs : s.check = .ok ()) (e : Node) :
    (s.accessor e).shape? = some s.seen := by
  cases s <;> simp_all [shape?, Shape.seen, Shape.check]

theorem render_accessor (hs : s.check = .ok ()) (e : Node) :
    (s.accessor e).render = e.render := by
  cases s <;> simp_all [render, Shape.check]

theorem sound_accessor (hs : s.check = .ok ()) (he : e.Sound) : (s.accessor e).Sound := by
  cases s <;> simp_all [Shape.check] <;> exact .accessor _ _ he

theorem Comparable.seen {op : Operator} {t : Shape} (h : Comparable op s t) :
    Comparable op s.seen t :=
  ⟨by simpa using h.same, by simpa using h.comparable, by simpa using h.ordered⟩

/-- The accessor of a collection is that of an array or of a map. -/
theorem shape?_of_holds {t : Shape} (h : s.Holds t) (e : Node) :
    (s.accessor e).shape? = some (.array t) ∨ (s.accessor e).shape? = some (.map t) := by
  rcases h with (rfl | rfl) | rfl
  · exact Or.inl rfl
  · exact Or.inl rfl
  · exact Or.inr rfl

/-- A condition, seen as a boolean value. -/
def IsTruth (n : Node) : Prop := ∃ e : Node, n = e.truth

theorem IsTruth.isHole_eq (h : n.IsTruth) : n.isHole = false := by
  obtain ⟨e, rfl⟩ := h
  rfl

theorem IsTruth.shape?_eq (h : n.IsTruth) : n.shape? = some .bool := by
  obtain ⟨e, rfl⟩ := h
  rfl

theorem map_boolOrHole {ns : List Node} (h : ∀ n ∈ ns, n.IsTruth) : ns.map boolOrHole = ns := by
  have heq : ∀ n ∈ ns, n.boolOrHole = n := by
    intro n hn
    obtain ⟨e, rfl⟩ := h n hn
    rfl
  rw [List.map_congr_left heq, List.map_id']

section Operations

variable (hs : s.check = .ok ())
include hs

theorem member_eq_ok {name : String} : (s.accessor e).member name = .ok n ↔
    ∃ record ms m, s = .record record ms ∧ s.lastMember? name = some m ∧
      n = m.shape.accessor (field m.shape (s.accessor e) name) := by
  cases s with
  | record record ms =>
    simp only [member]
    cases hm : (Shape.record record ms).lastMember? name with
    | none => simp [hm]
    | some m =>
      have hc := Shape.check_record.mp hs m (Shape.lastMember?_mem hm).1
      simp [hc, hm]
  | _ => simp [member]

theorem element_eq_ok {i : Int} : (s.accessor e).element i = .ok n ↔
    ∃ t, s.IsListOf t ∧ 0 ≤ i ∧ n = t.accessor (arrayElement t (s.accessor e) i) := by
  cases s with
  | array t =>
    have hc := Shape.check_array.mp hs
    by_cases hi : i < 0 <;>
      simp [element, Shape.items, Shape.IsListOf, hc, hi, ← Int.not_lt]
  | set t =>
    have hc := Shape.check_set.mp hs
    by_cases hi : i < 0 <;>
      simp [element, Shape.items, Shape.IsListOf, hc, hi, ← Int.not_lt]
  | _ => simp [element, Shape.IsListOf]

theorem entry_eq_ok {key : String} : (s.accessor e).entry key = .ok n ↔
    ∃ t, s = .map t ∧ key ≠ "" ∧ n = t.accessor (mapElement t (s.accessor e) key) := by
  cases s with
  | map t =>
    have hc := Shape.check_map.mp hs
    by_cases hk : key = "" <;> simp [entry, Shape.items, hc, hk]
  | _ => simp [entry]

omit hs in
theorem narrow_eq_ok {t : Shape} : (s.accessor e).narrow t = .ok n ↔
    (∃ tag, s = .dynamic tag) ∧ t.check = .ok () ∧ n = t.accessor (s.accessor e) := by
  cases s <;> simp [narrow]

theorem current_eq {t : Shape} (h : s.Holds t) : (s.accessor e).current = t.accessor (item t) := by
  have hc := h.check hs
  have hd : dispatch t (item t) = .ok (t.accessor (item t)) := dispatch_eq_ok.mpr ⟨hc, rfl⟩
  rcases h with (rfl | rfl) | rfl <;> simp [current, Shape.items, hd]

theorem condition_eq_ok {t : Shape} {p : Condition} {c : Node} (h : s.Holds t) :
    (s.accessor e).condition (some p) = .ok c ↔
      p (t.accessor (item t)) = .ok c ∧ c.isHole = false := by
  rw [condition, current_eq hs h]
  cases hp : p (t.accessor (item t)) with
  | error err => simp [inContext, Except.mapError]
  | ok d =>
    cases hd : d.isHole with
    | true =>
      have hne : d = c → c.isHole ≠ false := by rintro rfl; simp [hd]
      simpa [inContext, Except.mapError, hd] using hne
    | false =>
      have heq : d = c → c.isHole = false := by rintro rfl; exact hd
      simpa [inContext, Except.mapError, hd] using heq

/-- Filtering asks for a condition on the items and puts a filter around the collection. -/
theorem narrowBy_of_holds {t : Shape} {p : Condition} (h : s.Holds t) :
    (s.accessor e).narrowBy (some p) =
      ((s.accessor e).condition (some p)).map fun c => s.accessor (filter (s.accessor e) c) := by
  have hd : dispatch t (item t) = .ok (t.accessor (item t)) :=
    dispatch_eq_ok.mpr ⟨h.check hs, rfl⟩
  rcases h with (rfl | rfl) | rfl <;> simp only [Shape.accessor_array, Shape.accessor_set,
    Shape.accessor_map, narrowBy, Shape.items, hd, inContext, Except.mapError] <;>
    split <;> simp_all [Except.map]

theorem narrowBy_eq_ok {p : Condition} : (s.accessor e).narrowBy (some p) = .ok n ↔
    ∃ t c, s.Holds t ∧ p (t.accessor (item t)) = .ok c ∧ c.isHole = false ∧
      n = s.accessor (filter (s.accessor e) c) := by
  by_cases h : ∃ t, s.Holds t
  · obtain ⟨t, ht⟩ := h
    rw [narrowBy_of_holds hs ht]
    constructor
    · intro hn
      cases hc : (s.accessor e).condition (some p) with
      | error err => simp [hc, Except.map] at hn
      | ok c =>
        obtain ⟨hp, hh⟩ := (condition_eq_ok hs ht).mp hc
        exact ⟨t, c, ht, hp, hh, by simpa [hc, Except.map, eq_comm] using hn⟩
    · rintro ⟨u, c, hu, hp, hh, rfl⟩
      rw [(condition_eq_ok hs hu).mpr ⟨hp, hh⟩]
      rfl
  · constructor
    · intro hn
      cases s with
      | array t => exact absurd ⟨t, .inl (.inl rfl)⟩ h
      | set t => exact absurd ⟨t, .inl (.inr rfl)⟩ h
      | map t => exact absurd ⟨t, .inr rfl⟩ h
      | _ => simp [narrowBy] at hn
    · rintro ⟨t, _, ht, _⟩
      exact absurd ⟨t, ht⟩ h

end Operations

theorem type?_number : (s.accessor e).type? = some (.accessor .number) ↔ s.family = .numeric := by
  cases s <;> simp [type?, Shape.family]

theorem type?_string : (s.accessor e).type? = some (.accessor .string) ↔ s.family = .string := by
  cases s <;> simp [type?, Shape.family]

theorem ofValue_eq_ok {v : Value} : ofValue v = .ok n ↔
    ∃ u text, v.literal = .ok (u, text) ∧ n = identifier u text := by
  rw [ofValue]
  cases v.literal with
  | error err => simp [Except.map]
  | ok l =>
    obtain ⟨u, text⟩ := l
    simp [Except.map, eq_comm]

/-- A node, if it is of the wanted family. -/
def ofFamily (want : Family) (m : Node) : Except Error Node :=
  match m.shape? with
  | none => .error .fault
  | some s => if s.family = want then .ok m else .error (.cause (.operandFamily want s.family s))

theorem ofFamily_eq_ok {want : Family} {m : Node} : ofFamily want m = .ok n ↔
    m = n ∧ ∃ t, n.shape? = some t ∧ t.family = want := by
  rw [ofFamily]
  cases hm : m.shape? with
  | none =>
    simp only [reduceCtorEq, false_iff]
    rintro ⟨rfl, t, ht, _⟩
    simp [hm] at ht
  | some t =>
    by_cases ht : t.family = want
    · simp only [ht, if_true, Except.ok.injEq, iff_self_and]
      rintro rfl
      exact ⟨t, hm, ht⟩
    · simp only [ht, if_false, reduceCtorEq, false_iff]
      rintro ⟨rfl, u, hu, hf⟩
      rw [hm] at hu
      exact ht (Option.some.inj hu ▸ hf)

theorem operand_value (want : Family) (v : Value) :
    operand want (.value v) = ofValue v >>= ofFamily want := by
  rw [operand]
  cases ofValue v <;> rfl

theorem operand_node {m : Node} (want : Family) (hm : m.isHole = false) :
    operand want (.node m) = ofFamily want m := by
  cases m with
  | hole t => simp [isHole] at hm
  | _ => rfl

/-- An operand is a node that is there, or the literal of a value, and of the wanted family. -/
theorem operand_eq_ok {want : Family} {x : Operand} : operand want x = .ok n ↔
    (x = .node n ∧ n.isHole = false ∨ ∃ v, x = .value v ∧ ofValue v = .ok n) ∧
      ∃ t, n.shape? = some t ∧ t.family = want := by
  cases x with
  | value v =>
    rw [operand_value]
    cases hv : ofValue v with
    | error err => simp [hv, bind, Except.bind]
    | ok m => simp [hv, ofFamily_eq_ok]
  | node m =>
    cases hm : m.isHole with
    | true =>
      have hn : operand want (.node m) ≠ .ok n := by
        cases m <;> simp_all [isHole]
        rename_i t
        cases t <;> simp [operand]
      simp only [hn, false_iff, Operand.node.injEq, reduceCtorEq, false_and, exists_false, or_false]
      rintro ⟨⟨rfl, hh⟩, -⟩
      simp [hm] at hh
    | false =>
      rw [operand_node want hm, ofFamily_eq_ok]
      simp only [Operand.node.injEq, reduceCtorEq, false_and, exists_false, or_false,
        and_congr_left_iff]
      rintro -
      exact ⟨fun h => ⟨h, h ▸ hm⟩, And.left⟩

theorem offers_accessor_iff (op : Operator) {t : Accessor} {v : Shape}
    (ha : s.accessor e = accessor t v e) :
    t.offers op = true ↔ s.family ≠ .other ∧ (op.isOrdering = true → s.family = .numeric) := by
  cases s <;> cases ha <;> cases op <;>
    simp [Accessor.offers, Shape.family, Operator.isOrdering]

theorem exists_accessor (hs : s.check = .ok ()) (e : Node) :
    ∃ t, s.accessor e = accessor t s.seen e ∧ t.family = s.family := by
  cases s with
  | absent => simp [Shape.check] at hs
  | _ => exact ⟨_, rfl, rfl⟩

theorem compare_eq_ok (hs : s.check = .ok ()) {op : Operator} {x : Operand} :
    (s.accessor e).compare op x = .ok n ↔
      ∃ right t, (x = .node right ∧ right.isHole = false ∨
          ∃ v, x = .value v ∧ ofValue v = .ok right) ∧
        right.shape? = some t ∧ Comparable op s t ∧
        n = truth (comparison op.symbol (s.accessor e) right) := by
  obtain ⟨t, ha, hf⟩ := exists_accessor hs e
  have ho := offers_accessor_iff op ha
  rw [ha, compare, hf]
  constructor
  · intro h
    split at h
    case isFalse => simp at h
    case isTrue hof =>
      obtain ⟨hc, hn⟩ := ho.mp hof
      split at h
      case h_1 => simp at h
      case h_2 right hr =>
        obtain ⟨hx, u, hu, hw⟩ := operand_eq_ok.mp (inContext_eq_ok.mp hr)
        exact ⟨right, u, hx, hu, ⟨hw.symm, hc, hn⟩, by simpa [eq_comm] using h⟩
  · rintro ⟨right, u, hx, hu, hc, rfl⟩
    rw [if_pos (ho.mpr ⟨hc.comparable, hc.ordered⟩)]
    have hr := operand_eq_ok.mpr ⟨hx, u, hu, hc.same.symm⟩
    rw [inContext_eq_ok.mpr hr]

end Node

end TypedPath
