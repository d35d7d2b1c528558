import TypedPath.Proofs.Node.Accessor
import TypedPath.Proofs.Query.Form

/-! What steps and predicates make of an accessor, as a relation: one rule for each move and each
form of a predicate. The relation is exactly what the functions compute. -/
namespace TypedPath

open Node (Comparable)

mutual

/-- From the accessor of `s` written as `e`, steps lead to the accessor of `t` written as `f`. -/
inductive Reaches : Shape → Node → List Step → Shape → Node → Prop
  | nil {s : Shape} {e : Node} : Reaches s e [] s e
  | field {record name : String} {ms : List (Member Shape)} {m : Member Shape} {st : Step}
      {rest : List Step} {t : Shape} {e f : Node} (hm : st.move? = some (.field name))
      (hl : (Shape.record record ms).lastMember? name = some m)
      (h : Reaches m.shape (.field m.shape ((Shape.record record ms).accessor e) name) rest t f) :
      Reaches (.record record ms) e (st :: rest) t f
  | index {s u t : Shape} {i : Int} {st : Step} {rest : List Step} {e f : Node}
      (hm : st.move? = some (.index i)) (hs : s.IsListOf u) (hi : 0 ≤ i)
      (h : Reaches u (.arrayElement u (s.accessor e) i) rest t f) : Reaches s e (st :: rest) t f
  | key {u t : Shape} {k : String} {st : Step} {rest : List Step} {e f : Node}
      (hm : st.move? = some (.key k))
      (h : Reaches u (.mapElement u ((Shape.map u).accessor e) k) rest t f) :
      Reaches (.map u) e (st :: rest) t f
  | filter {s u t : Shape} {p : Predicate} {c : Node} {st : Step} {rest : List Step} {e f : Node}
      (hm : st.move? = some (.filter p)) (hs : s.Holds u) (hp : States u (.item u) p c)
      (h : Reaches s (.filter (s.accessor e) c) rest t f) : Reaches s e (st :: rest) t f
  | narrow {tag name : String} {u t : Shape} {st : Step} {rest : List Step} {e f : Node}
      (hm : st.move? = some (.narrow name)) (hn : Shape.ofName? name = some u)
      (h : Reaches u ((Shape.dynamic tag).accessor e) rest t f) :
      Reaches (.dynamic tag) e (st :: rest) t f

/-- Of the accessor of `s` written as `e`, a predicate states the condition `c`. -/
inductive States : Shape → Node → Predicate → Node → Prop
  | all {s : Shape} {e : Node} {p : Predicate} {ps : List Predicate} {cs : List Node}
      (hf : p.form = .all ps) (h : StatesEach s e ps cs) : States s e p (Node.conjunction cs).truth
  | any {s : Shape} {e : Node} {p : Predicate} {ps : List Predicate} {cs : List Node}
      (hf : p.form = .any ps) (h : StatesEach s e ps cs) : States s e p (Node.disjunction cs).truth
  | negated {s : Shape} {e c : Node} {p q : Predicate} (hf : p.form = .negated q)
      (h : States s e q c) : States s e p (Node.negation c).truth
  | compare {s t u : Shape} {e f : Node} {p : Predicate} {path : List Step} {op : Operator}
      {v : Value} {text : String} (hf : p.form = .tests path [.compare op v])
      (h : Reaches s e path t f) (hv : v.literal = .ok (u, text)) (hc : Comparable op t u) :
      States s e p (Node.comparison op.symbol (t.accessor f) (.identifier u text)).truth
  | fits {s t : Shape} {e f : Node} {p : Predicate} {path : List Step} {pattern : String}
      (hf : p.form = .tests path [.fits pattern]) (h : Reaches s e path t f)
      (ht : t.family = .string) :
      States s e p (Node.stringMatch (t.accessor f) pattern).truth

inductive StatesEach : Shape → Node → List Predicate → List Node → Prop
  | nil {s : Shape} {e : Node} : StatesEach s e [] []
  | cons {s : Shape} {e c : Node} {p : Predicate} {ps : List Predicate} {cs : List Node}
      (h : States s e p c) (hs : StatesEach s e ps cs) : StatesEach s e (p :: ps) (c :: cs)

end

@[simp] theorem inContext_ok {α : Type} (c : Context) (a : α) :
    inContext c (.ok a) = .ok a := rfl

theorem map_eq_ok {α β : Type} {f : α → β} {r : Except Error α} {b : β} :
    r.map f = .ok b ↔ ∃ a, r = .ok a ∧ f a = b := by
  cases r <;> simp [Except.map]

theorem Shape.check_ofName? {name : String} {s : Shape} (h : Shape.ofName? name = some s) :
    s.check = .ok () := by
  unfold Shape.ofName? at h
  split at h <;> cases h <;> rfl

/-- Every shape on the way of a checked shape is checked. -/
theorem Reaches.check {s t : Shape} {e f : Node} {steps : List Step} (h : Reaches s e steps t f)
    (hs : s.check = .ok ()) : t.check = .ok () := by
  match h with
  | .nil => exact hs
  | .field _ hl h => exact h.check (Shape.check_record.mp hs _ (Shape.lastMember?_mem hl).1)
  | .index _ hu _ h => exact h.check (Shape.Holds.check (.inl hu) hs)
  | .key _ h => exact h.check (Shape.check_map.mp hs)
  | .filter _ _ _ h => exact h.check hs
  | .narrow _ hn h => exact h.check (Shape.check_ofName? hn)

theorem States.isTruth {s : Shape} {e c : Node} {p : Predicate} (h : States s e p c) :
    c.IsTruth := by
  cases h <;> exact ⟨_, rfl⟩

theorem StatesEach.isTruth {s : Shape} {e : Node} {ps : List Predicate} {cs : List Node}
    (h : StatesEach s e ps cs) : ∀ c ∈ cs, c.IsTruth := by
  induction cs generalizing ps with
  | nil => simp
  | cons c cs ih =>
    cases h with
    | cons h hs => exact List.forall_mem_cons.mpr ⟨h.isTruth, ih hs⟩

namespace Node

variable {s : Shape} {e n : Node}

/-- A step does what its move asks for. -/
theorem step_eq (n : Node) (st : Step) : n.step st = match st.move? with
    | some (.field name) => n.stepField name
    | some (.index i) => n.stepIndex i
    | some (.key k) => n.stepKey k
    | some (.filter p) => n.narrowBy (some fun item => item.satisfying p)
    | some (.narrow name) => n.stepNarrow name
    | none => .error (.cause .emptyStep) := by
  obtain ⟨field, index, key, filter, narrowTo⟩ := st
  rw [step.eq_def]
  by_cases hf : field = ""
  · cases index with
    | some i => simp [Step.move?, hf]
    | none =>
      by_cases hk : key = ""
      · cases filter with
        | some p => simp [Step.move?, hf, hk, filterCondition]
        | none => by_cases hn : narrowTo = "" <;> simp [Step.move?, hf, hk, hn, filterCondition]
      · simp [Step.move?, hf, hk]
  · simp [Step.move?, hf]

/-- A predicate says what its form says. -/
theorem satisfying_eq (n : Node) (p : Predicate) : n.satisfying p = match p.form with
    | .all ps => (inContext .and (n.satisfyingEach ps)).map allOf
    | .any ps => (inContext .or (n.satisfyingEach ps)).map anyOf
    | .negated q => (inContext .not (n.satisfying q)).map noneOf
    | .tests path ts => testOnly (walkFrom 0 n path) ts := by
  obtain ⟨all, any, negated, path, eq, ne, gt, ge, lt, le, pattern⟩ := p
  rw [satisfying.eq_def]
  cases all with
  | cons p ps => simp [Predicate.form]
  | nil =>
    cases any with
    | cons p ps => simp [Predicate.form]
    | nil => cases negated <;> simp [Predicate.form, satisfyingNegated, Predicate.tests]

theorem testOnly_eq_ok {target : Except Error Node} {ts : List Test} :
    testOnly target ts = .ok n ↔ ∃ t m, ts = [t] ∧ target = .ok m ∧ m.test t = .ok n := by
  unfold testOnly
  split
  · split <;> simp_all
  · simp_all

section Operations

variable (hs : s.check = .ok ())
include hs

theorem stepField_eq_ok {name : String} : (s.accessor e).stepField name = .ok n ↔
    ∃ record ms m, s = .record record ms ∧ s.lastMember? name = some m ∧
      n = m.shape.accessor (field m.shape (s.accessor e) name) := by
  rw [← member_eq_ok hs]
  cases s <;> simp [stepField, as, inContext, Except.mapError, type?, member]

theorem stepIndex_eq_ok {i : Int} : (s.accessor e).stepIndex i = .ok n ↔
    ∃ t, s.IsListOf t ∧ 0 ≤ i ∧ n = t.accessor (arrayElement t (s.accessor e) i) := by
  rw [← element_eq_ok hs]
  cases s <;> simp [stepIndex, as, inContext, Except.mapError, type?, element]

theorem stepKey_eq_ok {key : String} : (s.accessor e).stepKey key = .ok n ↔
    ∃ t, s = .map t ∧ key ≠ "" ∧ n = t.accessor (mapElement t (s.accessor e) key) := by
  rw [← entry_eq_ok hs]
  cases s <;> simp [stepKey, as, inContext, Except.mapError, type?, entry]

omit hs in
theorem stepNarrow_eq_ok {name : String} : (s.accessor e).stepNarrow name = .ok n ↔
    ∃ tag t, s = .dynamic tag ∧ Shape.ofName? name = some t ∧ t.check = .ok () ∧
      n = t.accessor (s.accessor e) := by
  cases s with
  | dynamic tag =>
    cases ht : Shape.ofName? name <;>
      simp [stepNarrow, as, inContext, Except.mapError, type?, narrow, ht]
  | _ => simp [stepNarrow, as, inContext, Except.mapError, type?]

theorem test_compare_eq_ok {op : Operator} {v : Value} :
    (s.accessor e).test (.compare op v) = .ok n ↔
      ∃ u text, v.literal = .ok (u, text) ∧ Comparable op s u ∧
        n = (comparison op.symbol (s.accessor e) (identifier u text)).truth := by
  have hc : (s.accessor e).compare op (.value v) = .ok n ↔
      ∃ u text, v.literal = .ok (u, text) ∧ Comparable op s u ∧
        n = (comparison op.symbol (s.accessor e) (identifier u text)).truth := by
    simp only [compare_eq_ok hs, reduceCtorEq, false_and, false_or, Operand.value.injEq,
      exists_eq_left', ofValue_eq_ok]
    constructor
    · rintro ⟨_, t, ⟨u, text, hv, rfl⟩, ht, hc, rfl⟩
      cases ht
      exact ⟨t, text, hv, hc, rfl⟩
    · rintro ⟨u, text, hv, hc, rfl⟩
      exact ⟨_, u, ⟨u, text, hv, rfl⟩, rfl, hc, rfl⟩
  rw [← hc, test]
  by_cases ho : op.isOrdering = true
  · by_cases ht : s.family = .numeric
    · simp [ho, as, type?_number.mpr ht]
    · have hn : (s.accessor e).type? ≠ some (.accessor .number) := mt type?_number.mp ht
      have hne : (s.accessor e).compare op (.value v) ≠ .ok n := by
        intro h
        obtain ⟨u, text, -, hu, -⟩ := hc.mp h
        exact ht (hu.ordered ho)
      simp [ho, as, hn, hne]
  · simp [ho]

omit hs in
theorem test_fits_eq_ok {pattern : String} : (s.accessor e).test (.fits pattern) = .ok n ↔
    s.family = .string ∧ n = (stringMatch (s.accessor e) pattern).truth := by
  rw [← type?_string (e := e), test, as]
  by_cases ht : (s.accessor e).type? = some (.accessor .string) <;>
    simp [ht, matching, @eq_comm _ n]

end Operations

end Node

section Sizes

variable {st : Step} {p q : Predicate} {ps : List Predicate} {path : List Step} {ts : List Test}

theorem Step.sizeOf_filter (h : st.move? = some (.filter p)) : sizeOf p < sizeOf st := by
  obtain ⟨field, index, key, filter, narrowTo⟩ := st
  have hp : filter = some p := by
    unfold move? at h
    grind
  subst hp
  simp
  omega

theorem Predicate.sizeOf_all (h : p.form = .all ps) : sizeOf ps < sizeOf p := by
  obtain ⟨rfl, -⟩ := form_eq_all.mp h
  cases p
  simp
  omega

theorem Predicate.sizeOf_any (h : p.form = .any ps) : sizeOf ps < sizeOf p := by
  obtain ⟨-, rfl, -⟩ := form_eq_any.mp h
  cases p
  simp
  omega

theorem Predicate.sizeOf_negated (h : p.form = .negated q) : sizeOf q < sizeOf p := by
  obtain ⟨-, -, hq⟩ := form_eq_negated.mp h
  cases p
  simp at hq
  subst hq
  simp
  omega

theorem Predicate.sizeOf_path (h : p.form = .tests path ts) : sizeOf path < sizeOf p := by
  obtain ⟨-, -, -, rfl, -⟩ := form_eq_tests.mp h
  cases p
  simp
  omega

end Sizes

namespace Node

mutual

/-- Whatever a walk returns, the rules derive. -/
theorem reaches_of_walkFrom {s : Shape} {e n : Node} {i : Nat} {steps : List Step}
    (hs : s.check = .ok ()) (h : walkFrom i (s.accessor e) steps = .ok n) :
    ∃ t f, Reaches s e steps t f ∧ n = t.accessor f := by
  match steps with
  | [] =>
    rw [walkFrom] at h
    exact ⟨s, e, .nil, by simpa [eq_comm] using h⟩
  | st :: rest =>
    rw [walkFrom] at h
    split at h
    case h_1 => cases h
    case h_2 next hn =>
      have hn := inContext_eq_ok.mp hn
      rw [step_eq] at hn
      split at hn
      case h_1 name hm =>
        obtain ⟨record, ms, m, rfl, hl, rfl⟩ := (stepField_eq_ok hs).mp hn
        have hc := Shape.check_record.mp hs m (Shape.lastMember?_mem hl).1
        obtain ⟨t, f, hr, ht⟩ := reaches_of_walkFrom hc h
        exact ⟨t, f, .field hm hl hr, ht⟩
      case h_2 i hm =>
        obtain ⟨u, hu, hi, rfl⟩ := (stepIndex_eq_ok hs).mp hn
        obtain ⟨t, f, hr, ht⟩ := reaches_of_walkFrom (Shape.Holds.check (.inl hu) hs) h
        exact ⟨t, f, .index hm hu hi hr, ht⟩
      case h_3 k hm =>
        obtain ⟨u, rfl, -, rfl⟩ := (stepKey_eq_ok hs).mp hn
        obtain ⟨t, f, hr, ht⟩ := reaches_of_walkFrom (Shape.check_map.mp hs) h
        exact ⟨t, f, .key hm hr, ht⟩
      case h_4 p hm =>
        obtain ⟨u, c, hu, hp, -, rfl⟩ := (narrowBy_eq_ok hs).mp hn
        have hsize := Step.sizeOf_filter hm
        have hst := states_of_satisfying (hu.check hs) hp
        obtain ⟨t, f, hr, ht⟩ := reaches_of_walkFrom hs h
        exact ⟨t, f, .filter hm hu hst hr, ht⟩
      case h_5 name hm =>
        obtain ⟨tag, u, rfl, hu, hc, rfl⟩ := stepNarrow_eq_ok.mp hn
        obtain ⟨t, f, hr, ht⟩ := reaches_of_walkFrom hc h
        exact ⟨t, f, .narrow hm hu hr, ht⟩
      case h_6 => cases hn
termination_by sizeOf steps

theorem states_of_satisfying {s : Shape} {e c : Node} {p : Predicate} (hs : s.check = .ok ())
    (h : (s.accessor e).satisfying p = .ok c) : States s e p c := by
  rw [satisfying_eq] at h
  split at h
  case h_1 ps hf =>
    have hsize := Predicate.sizeOf_all hf
    obtain ⟨cs, hc, rfl⟩ := map_eq_ok.mp h
    have hr := statesEach_of_satisfyingEach hs (inContext_eq_ok.mp hc)
    rw [allOf, map_boolOrHole hr.isTruth]
    exact .all hf hr
  case h_2 ps hf =>
    have hsize := Predicate.sizeOf_any hf
    obtain ⟨cs, hc, rfl⟩ := map_eq_ok.mp h
    have hr := statesEach_of_satisfyingEach hs (inContext_eq_ok.mp hc)
    rw [anyOf, map_boolOrHole hr.isTruth]
    exact .any hf hr
  case h_3 q hf =>
    have hsize := Predicate.sizeOf_negated hf
    obtain ⟨d, hd, rfl⟩ := map_eq_ok.mp h
    have hr := states_of_satisfying hs (inContext_eq_ok.mp hd)
    obtain ⟨d, rfl⟩ := hr.isTruth
    exact .negated hf hr
  case h_4 path ts hf =>
    have hsize := Predicate.sizeOf_path hf
    obtain ⟨t, m, rfl, hm, ht⟩ := testOnly_eq_ok.mp h
    obtain ⟨u, f, hr, rfl⟩ := reaches_of_walkFrom hs hm
    have hu := hr.check hs
    cases t with
    | compare op v =>
      obtain ⟨l, text, hv, hc, rfl⟩ := (test_compare_eq_ok hu).mp ht
      exact .compare hf hr hv hc
    | fits pattern =>
      obtain ⟨hf', rfl⟩ := test_fits_eq_ok.mp ht
      exact .fits hf hr hf'
termination_by sizeOf p

theorem statesEach_of_satisfyingEach {s : Shape} {e : Node} {ps : List Predicate}
    {cs : List Node} (hs : s.check = .ok ()) (h : (s.accessor e).satisfyingEach ps = .ok cs) :
    StatesEach s e ps cs := by
  match ps with
  | [] =>
    rw [satisfyingEach] at h
    cases h
    exact .nil
  | p :: ps =>
    rw [satisfyingEach] at h
    split at h
    case h_1 => cases h
    case h_2 c hc =>
      obtain ⟨cs, hcs, rfl⟩ := map_eq_ok.mp h
      exact .cons (states_of_satisfying hs hc) (statesEach_of_satisfyingEach hs hcs)
termination_by sizeOf ps

end

mutual

/-- Whatever the rules derive, a walk returns. -/
theorem walkFrom_of_reaches {s t : Shape} {e f : Node} {steps : List Step}
    (hs : s.check = .ok ()) (h : Reaches s e steps t f) (i : Nat) :
    walkFrom i (s.accessor e) steps = .ok (t.accessor f) := by
  match h with
  | .nil => rfl
  | .field hm hl h =>
    have hc := Shape.check_record.mp hs _ (Shape.lastMember?_mem hl).1
    have hn := (stepField_eq_ok hs (e := e)).mpr ⟨_, _, _, rfl, hl, rfl⟩
    rw [walkFrom, step_eq, hm]
    simp only [hn, inContext_ok, walkFrom_of_reaches hc h (i + 1)]
  | .index hm hu hi h =>
    have hc := Shape.Holds.check (.inl hu) hs
    have hn := (stepIndex_eq_ok hs (e := e)).mpr ⟨_, hu, hi, rfl⟩
    rw [walkFrom, step_eq, hm]
    simp only [hn, inContext_ok, walkFrom_of_reaches hc h (i + 1)]
  | .key hm h =>
    have hc := Shape.check_map.mp hs
    have hn := (stepKey_eq_ok hs (e := e)).mpr ⟨_, rfl, Step.move?_key_ne hm, rfl⟩
    rw [walkFrom, step_eq, hm]
    simp only [hn, inContext_ok, walkFrom_of_reaches hc h (i + 1)]
  | .filter hm hu hp h =>
    have hc := satisfying_of_states (hu.check hs) hp
    have hn := narrowBy_eq_ok (p := fun item => item.satisfying _) (e := e) hs |>.mpr
      ⟨_, _, hu, hc, hp.isTruth.isHole_eq, rfl⟩
    rw [walkFrom, step_eq, hm]
    simp only [hn, inContext_ok, walkFrom_of_reaches hs h (i + 1)]
  | @Reaches.narrow tag _ _ _ _ _ _ _ hm ht h =>
    have hc := Shape.check_ofName? ht
    have hn := (stepNarrow_eq_ok (e := e)).mpr ⟨tag, _, rfl, ht, hc, rfl⟩
    rw [walkFrom, step_eq, hm]
    simp only [hn, inContext_ok, walkFrom_of_reaches hc h (i + 1)]

theorem satisfying_of_states {s : Shape} {e c : Node} {p : Predicate} (hs : s.check = .ok ())
    (h : States s e p c) : (s.accessor e).satisfying p = .ok c := by
  match h with
  | .all hf h =>
    rw [satisfying_eq, hf]
    simp only [satisfyingEach_of_statesEach hs h, inContext_ok, allOf, map_boolOrHole h.isTruth,
      Except.map]
  | .any hf h =>
    rw [satisfying_eq, hf]
    simp only [satisfyingEach_of_statesEach hs h, inContext_ok, anyOf, map_boolOrHole h.isTruth,
      Except.map]
  | .negated hf h =>
    have hc := satisfying_of_states hs h
    obtain ⟨d, rfl⟩ := h.isTruth
    rw [satisfying_eq, hf]
    simp only [hc, inContext_ok]
    rfl
  | .compare hf h hv hc =>
    rw [satisfying_eq, hf]
    exact testOnly_eq_ok.mpr ⟨_, _, rfl, walkFrom_of_reaches hs h 0,
      (test_compare_eq_ok (h.check hs)).mpr ⟨_, _, hv, hc, rfl⟩⟩
  | .fits hf h ht =>
    rw [satisfying_eq, hf]
    exact testOnly_eq_ok.mpr ⟨_, _, rfl, walkFrom_of_reaches hs h 0,
      test_fits_eq_ok.mpr ⟨ht, rfl⟩⟩

theorem satisfyingEach_of_statesEach {s : Shape} {e : Node} {ps : List Predicate}
    {cs : List Node} (hs : s.check = .ok ()) (h : StatesEach s e ps cs) :
    (s.accessor e).satisfyingEach ps = .ok cs := by
  match h with
  | .nil => rfl
  | .cons h hr =>
    simp only [satisfyingEach, satisfying_of_states hs h, satisfyingEach_of_statesEach hs hr,
      Except.map]

end

end Node

end TypedPath
