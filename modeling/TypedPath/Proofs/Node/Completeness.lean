import TypedPath.Proofs.Node.Built
import TypedPath.Proofs.Query.Refusal
import TypedPath.Proofs.Shape.OfSchema

/-! An accessor is made for complete shapes only. The check of a shape goes to its full depth, so
nothing that is done with the accessor later meets a shape that is missing. -/
namespace TypedPath

theorem Error.Misfit.not_unsupported {e : Error} (h : e.Misfit) :
    e.is .unsupportedShape ≠ true := by
  obtain ⟨c, hc, hs⟩ := h
  rw [Ne, hc.is_iff]
  intro he
  rw [← he] at hs
  rcases hs with hs | hs <;> cases hs

theorem Error.is_inside (k : Context) (e : Error) (c : Sentinel) :
    (e.inside k).is c = e.is c := by
  cases e <;> rfl

namespace Shape

variable {r s t : Shape} {err : Error}

/-- The shapes of the items or the members directly in a shape. -/
def inner : Shape → List Shape
  | array s | set s | map s => [s]
  | record _ ms => ms.map (·.shape)
  | _ => []

theorem sizeOf_inner (h : t ∈ s.inner) : sizeOf t < sizeOf s := by
  cases s with
  | array | set | map =>
    rw [List.mem_singleton.mp h]
    simp only [array.sizeOf_spec, set.sizeOf_spec, map.sizeOf_spec]
    omega
  | record name ms =>
    obtain ⟨m, hm, rfl⟩ := List.mem_map.mp h
    have hlt : sizeOf m < sizeOf ms := List.sizeOf_lt_of_mem hm
    cases m
    simp only [Member.mk.sizeOf_spec] at hlt
    simp only [record.sizeOf_spec]
    omega
  | _ => cases h

/-- What passes from the shapes directly inside to a shape holds of every shape. -/
theorem induction_inner {P : Shape → Prop} (h : ∀ s, (∀ t ∈ s.inner, P t) → P s) (s : Shape) :
    P s := by
  apply h
  intro t ht
  have hlt := sizeOf_inner ht
  exact induction_inner h t
termination_by sizeOf s

theorem Part.of_inner (ht : t ∈ s.inner) (h : Part r t) : Part r s := by
  cases s with
  | array => exact .array (List.mem_singleton.mp ht ▸ h)
  | set => exact .set (List.mem_singleton.mp ht ▸ h)
  | map => exact .map (List.mem_singleton.mp ht ▸ h)
  | record name ms =>
    obtain ⟨m, hm, rfl⟩ := List.mem_map.mp ht
    exact .member hm h
  | _ => cases ht

/-- A part of a shape is the shape itself or a part of one directly inside. -/
theorem part_iff : Part r s ↔ r = s ∨ ∃ t ∈ s.inner, Part r t := by
  constructor
  · intro h
    cases h with
    | here => exact .inl rfl
    | array h | set h | map h => exact .inr ⟨_, List.mem_singleton_self _, h⟩
    | member hm h => exact .inr ⟨_, List.mem_map_of_mem hm, h⟩
  · rintro (rfl | ⟨t, ht, h⟩)
    · exact .here
    · exact h.of_inner ht

theorem check_step : s.check = .ok () ↔ s ≠ absent ∧ ∀ t ∈ s.inner, t.check = .ok () := by
  cases s with
  | absent => simp [check]
  | array t => simp [inner, check_array]
  | set t => simp [inner, check_set]
  | map t => simp [inner, check_map]
  | record name ms => simp [inner, check_record]
  | _ => simp [inner, check]

/-- The check leaves no part of a shape out. -/
theorem check_eq_ok_iff : s.check = .ok () ↔ ¬Part absent s := by
  induction s using induction_inner with
  | h s ih =>
    rw [check_step, part_iff, not_or, not_exists, ne_comm]
    refine and_congr_right fun _ => forall_congr' fun t => ?_
    rw [not_and]
    exact forall_congr' fun ht => ih t ht

theorem checkMembers_eq_error {ms : List (Member Shape)} (h : checkMembers ms = .error err) :
    ∃ m ∈ ms, ∃ e, m.shape.check = .error e ∧ err = e.inside (.field m.name) := by
  induction ms with
  | nil => cases h
  | cons m rest ih =>
    rw [checkMembers] at h
    split at h
    case h_1 hm =>
      cases h
      cases m
      obtain ⟨e, he, rfl⟩ := inContext_eq_error.mp hm
      exact ⟨_, List.mem_cons_self, e, he, rfl⟩
    case h_2 =>
      obtain ⟨k, hk, e, he⟩ := ih h
      exact ⟨k, List.mem_cons_of_mem _ hk, e, he⟩

/-- A check that fails met a missing shape: here, or in a shape directly inside. -/
theorem check_eq_error (h : s.check = .error err) : err.is .unsupportedShape = true ∨
    ∃ t ∈ s.inner, ∃ k e, t.check = .error e ∧ err = e.inside k := by
  cases s with
  | absent =>
    cases h
    exact .inl rfl
  | array t | set t | map t =>
    cases t with
    | absent =>
      cases h
      exact .inl rfl
    | _ =>
      obtain ⟨e, he⟩ := inContext_eq_error.mp h
      exact .inr ⟨_, List.mem_singleton_self _, _, e, he⟩
  | record name ms =>
    obtain ⟨m, hm, e, he⟩ := checkMembers_eq_error h
    exact .inr ⟨_, List.mem_map_of_mem hm, _, e, he⟩
  | _ => cases h

theorem is_of_check_eq_error (h : s.check = .error err) : err.is .unsupportedShape = true := by
  induction s using induction_inner generalizing err with
  | h s ih =>
    obtain hs | ⟨t, ht, k, e, he, rfl⟩ := check_eq_error h
    · exact hs
    · rw [Error.is_inside]
      exact ih t ht he

/-- What is left in place of an accessor is no node. It has a type only for a collection whose items
are given but not complete, and then that of the accessor that was to be. -/
theorem exists_gap (s : Shape) (e : Node) : ∃ t, s.gap = .hole t ∧ ∀ u, t = some u ↔
    (s.accessor e).type? = some u ∧ ∃ items, s.Holds items ∧ items ≠ absent := by
  cases s with
  | array t | set t | map t =>
    cases t <;> exact ⟨_, rfl, by simp [Node.type?, Holds, IsListOf]⟩
  | _ => exact ⟨_, rfl, by simp [Holds, IsListOf]⟩

end Shape

namespace Node

variable {n m root : Node} {s : Shape} {err : Error}

/-- A call on an accessor that can fail. -/
inductive Call
  | member (name : String)
  | element (index : Int)
  | entry (key : String)
  | narrowBy (condition : Option Condition)

def Call.on (n : Node) : Call → Except Error Node
  | member name => n.member name
  | element index => n.element index
  | entry key => n.entry key
  | narrowBy condition => n.narrowBy condition

def IsCollection (n : Node) : Prop :=
  n.type? = some (.accessor .array) ∨ n.type? = some (.accessor .map)

/-- What calls lead to from an accessor as long as none of them fails. -/
inductive Accessible (root : Node) : Node → Prop
  | here : Accessible root root
  | call {n m : Node} {c : Call} (hn : Accessible root n) (h : c.on n = .ok m) : Accessible root m
  | current {n : Node} (hn : Accessible root n) (h : n.IsCollection) : Accessible root n.current

/-- The accessor of a complete shape. -/
def IsView (n : Node) : Prop := ∃ s e, s.check = .ok () ∧ n = Shape.accessor s e

theorem IsView.call {c : Call} (hn : n.IsView) (h : c.on n = .ok m) : m.IsView := by
  obtain ⟨s, e, hs, rfl⟩ := hn
  cases c with
  | member name =>
    obtain ⟨_, ms, k, rfl, hk, rfl⟩ := (member_eq_ok hs).mp h
    exact ⟨_, _, Shape.check_record.mp hs k (Shape.lastMember?_mem hk).1, rfl⟩
  | element i =>
    obtain ⟨t, ht, -, rfl⟩ := (element_eq_ok hs).mp h
    exact ⟨t, _, Shape.Holds.check (.inl ht) hs, rfl⟩
  | entry key =>
    obtain ⟨t, rfl, -, rfl⟩ := (entry_eq_ok hs).mp h
    exact ⟨t, _, Shape.check_map.mp hs, rfl⟩
  | narrowBy p =>
    cases p with
    | none => cases s <;> cases h
    | some p =>
      obtain ⟨t, c, -, -, -, rfl⟩ := (narrowBy_eq_ok hs).mp h
      exact ⟨s, _, hs, rfl⟩

theorem IsView.current (hn : n.IsView) (h : n.IsCollection) : n.current.IsView := by
  obtain ⟨s, e, hs, rfl⟩ := hn
  obtain ⟨t, ht⟩ := exists_holds h
  exact ⟨t, _, ht.check hs, current_eq hs ht⟩

theorem Accessible.isView (h : Accessible root n) (hr : root.IsView) : n.IsView := by
  induction h with
  | here => exact hr
  | call _ h ih => exact ih.call h
  | current _ h ih => exact ih.current h

theorem IsView.exists_element {i : Int} (hn : n.IsView)
    (ht : n.type? = some (.accessor .array)) (hi : 0 ≤ i) : ∃ m, n.element i = .ok m := by
  obtain ⟨s, e, hs, rfl⟩ := hn
  cases s with
  | array t => exact ⟨_, (element_eq_ok hs).mpr ⟨t, .inl rfl, hi, rfl⟩⟩
  | set t => exact ⟨_, (element_eq_ok hs).mpr ⟨t, .inr rfl, hi, rfl⟩⟩
  | _ => cases ht

theorem IsView.exists_entry {key : String} (hn : n.IsView)
    (ht : n.type? = some (.accessor .map)) (hk : key ≠ "") : ∃ m, n.entry key = .ok m := by
  obtain ⟨s, e, hs, rfl⟩ := hn
  cases s with
  | map t => exact ⟨_, (entry_eq_ok hs).mpr ⟨t, rfl, hk, rfl⟩⟩
  | _ => cases ht

/-- A filter of a collection needs nothing but a condition that can be asked of its items. -/
theorem IsView.exists_narrowBy {p : Option Condition} (hn : n.IsView) (h : n.IsCollection) :
    (∃ m, n.narrowBy p = .ok m) ↔
      ∃ q c, p = some q ∧ q n.current = .ok c ∧ c.isHole = false := by
  obtain ⟨s, e, hs, rfl⟩ := hn
  obtain ⟨t, ht⟩ := exists_holds h
  rw [current_eq hs ht]
  constructor
  · rintro ⟨m, hm⟩
    cases p with
    | none => cases s <;> cases hm
    | some q =>
      obtain ⟨u, c, hu, hq, hc, -⟩ := (narrowBy_eq_ok hs).mp hm
      cases ht.unique hu
      exact ⟨q, c, rfl, hq, hc⟩
  · rintro ⟨q, c, rfl, hq, hc⟩
    exact ⟨_, (narrowBy_eq_ok hs).mpr ⟨t, c, ht, hq, hc, rfl⟩⟩

theorem condition_eq_error {p : Condition} (h : n.condition (some p) = .error err) :
    (∃ e, p n.current = .error e ∧ err = e.inside .filter) ∨ err = .cause .noCondition := by
  rw [condition] at h
  split at h
  case h_1 hp =>
    cases h
    exact .inl (inContext_eq_error.mp hp)
  case h_2 =>
    split at h
    · cases h
      exact .inr rfl
    · cases h

/-- A call does not find a shape missing. Only a condition can say so, of shapes of its own. -/
theorem IsView.call_unsupported {c : Call} (hn : n.IsView) (h : c.on n = .error err)
    (he : err.is .unsupportedShape = true) :
    ∃ p e, c = .narrowBy (some p) ∧ p n.current = .error e ∧ e.is .unsupportedShape = true := by
  obtain ⟨s, e, hs, rfl⟩ := hn
  cases c with
  | member name => exact absurd he (member_misfit hs h).not_unsupported
  | element i => exact absurd he (element_misfit hs h).not_unsupported
  | entry key => exact absurd he (entry_misfit hs h).not_unsupported
  | narrowBy p =>
    cases p with
    | none => cases s <;> cases h <;> cases he
    | some p =>
      rcases narrowBy_eq_error hs h with hm | ⟨t, ht, -⟩
      · exact absurd he hm.not_unsupported
      · rw [Call.on, narrowBy_of_holds hs ht, map_eq_error] at h
        rcases condition_eq_error h with ⟨e', hp, rfl⟩ | rfl
        · rw [Error.is_inside] at he
          exact ⟨p, e', rfl, hp, he⟩
        · cases he

theorem visitRoot_of_check_eq_ok (hc : s.check = .ok ()) :
    visitRoot s = ⟨s.accessor (identifier s Node.root), none⟩ := by
  rw [visitRoot, visit, hc]

theorem visitRoot_of_check_eq_error (hc : s.check = .error err) :
    visitRoot s = ⟨s.gap, some err⟩ := by
  rw [visitRoot, visit, hc]

/-- An accessor is made exactly for the shapes in which no shape is missing, at any depth. For any
other shape there is an error that says so, and beside it nothing but a hole, which no check lets
pass. From then on elements and entries are always there, a filter asks for nothing but its
condition, and no call finds a shape missing. -/
theorem ofShape_complete (s : Shape) :
    ((∃ root, ofShape s = .ok root) ↔ ¬Shape.Part .absent s) ∧
    (Shape.Part .absent s → ∃ t err, visitRoot s = ⟨hole t, some err⟩ ∧ ofShape s = .error err ∧
      err.is .unsupportedShape = true ∧
      (∃ e, (hole t).validate = .error e ∧ e.is .invalidExpression = true) ∧
      ∀ u, t = some u ↔ (s.accessor (identifier s Node.root)).type? = some u ∧
        ∃ items, s.Holds items ∧ items ≠ .absent) ∧
    ∀ root, ofShape s = .ok root →
      visitRoot s = ⟨root, none⟩ ∧ root.isHole = false ∧ ∀ n, Accessible root n →
        (∀ i, n.type? = some (.accessor .array) → 0 ≤ i → ∃ m, n.element i = .ok m) ∧
        (∀ key, n.type? = some (.accessor .map) → key ≠ "" → ∃ m, n.entry key = .ok m) ∧
        (∀ p, n.IsCollection → ((∃ m, n.narrowBy p = .ok m) ↔
          ∃ q c, p = some q ∧ q n.current = .ok c ∧ c.isHole = false)) ∧
        ∀ (c : Call) err, c.on n = .error err → err.is .unsupportedShape = true →
          ∃ p e, c = .narrowBy (some p) ∧ p n.current = .error e ∧
            e.is .unsupportedShape = true := by
  refine ⟨?_, fun hp => ?_, fun root hroot => ?_⟩
  · simp [ofShape_eq_ok, Shape.check_eq_ok_iff]
  · cases hc : s.check with
    | ok => exact absurd hp (Shape.check_eq_ok_iff.mp hc)
    | error err =>
      have hv := visitRoot_of_check_eq_error hc
      obtain ⟨t, ht, hu⟩ := s.exists_gap (identifier s Node.root)
      exact ⟨t, err, ht ▸ hv, by rw [ofShape, hv, Visited.result],
        Shape.is_of_check_eq_error hc, ⟨_, rfl, rfl⟩, hu⟩
  · obtain ⟨hs, rfl⟩ := ofShape_eq_ok.mp hroot
    obtain ⟨t, ht, -⟩ := exists_accessor hs (identifier s Node.root)
    refine ⟨visitRoot_of_check_eq_ok hs, ht ▸ rfl, fun n hn => ?_⟩
    have hv := hn.isView ⟨s, _, hs, rfl⟩
    exact ⟨fun i => hv.exists_element, fun key => hv.exists_entry, fun p => hv.exists_narrowBy,
      fun c err => hv.call_unsupported⟩

/-- Values by the day, in a record that declares a name twice. -/
def diaryShape (items : Shape) : Shape :=
  .record "Diary" [⟨"days", .string, false, ""⟩, ⟨"days", .map (.set items), false, ""⟩]

/-- The first value of a day, taken for a condition. -/
def firstHolds : Condition := fun day => do
  let first ← day.element 0
  first.narrow .bool

theorem diaryShape_complete :
    (∃ err, visitRoot (.array (diaryShape (.set .absent))) =
        ⟨hole (some (.accessor .array)), some err⟩ ∧ err.is .unsupportedShape = true) ∧
    ∃ root days kept, ofShape (diaryShape .any) = .ok root ∧ root.member "days" = .ok days ∧
      days.narrowBy (some firstHolds) = .ok kept ∧ (∃ m, kept.entry "mon" = .ok m) ∧
      ∃ m, kept.current.element 7 = .ok m := by
  have hgap : Shape.Part .absent (.array (diaryShape (.set .absent))) :=
    .array (.member (.tail _ (.head _)) (.map (.set (.set .here))))
  obtain ⟨t, err, hv, -, he, -, ht⟩ := (ofShape_complete _).2.1 hgap
  obtain rfl : t = some (.accessor .array) :=
    (ht _).mpr ⟨rfl, _, .inl (.inl rfl), by rintro ⟨⟩⟩
  let root := (diaryShape .any).accessor (identifier (diaryShape .any) Node.root)
  let days := (Shape.map (.set .any)).accessor (field (.map (.set .any)) root "days")
  have hdays : Accessible root days := .call (c := .member "days") .here rfl
  have hkept := Accessible.call (c := .narrowBy (some firstHolds)) hdays rfl
  obtain ⟨-, -, hlater⟩ := ofShape_complete (diaryShape .any)
  obtain ⟨-, -, hlater⟩ := hlater root rfl
  exact ⟨⟨err, hv, he⟩, root, days, _, rfl, rfl, rfl,
    (hlater _ hkept).2.1 "mon" rfl (by decide),
    (hlater _ (hkept.current (.inr rfl))).1 7 rfl (by decide)⟩

end Node

end TypedPath
