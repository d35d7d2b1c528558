import TypedPath.Proofs.Query.Sound

/-! The types of queries. Steps lead from one shape to another and predicates are taken by some
shapes. A query compiles exactly if it is well typed, and a walk ends in the accessor of the shape
that its steps lead to. -/
namespace TypedPath

namespace Shape

/-- The shapes that a dynamic value can be narrowed to, by name. -/
def primitives : List (String × Shape) :=
  [("string", string), ("number", number), ("integer", integer), ("bool", bool),
    ("binary", binary), ("timestamp", timestamp), ("any", any), ("unknown", unknown),
    ("nothing", nothing)]

/-- The tests that values of a shape take. Only numbers are ordered and only texts are matched. -/
def Takes (s : Shape) : Test → Prop
  | .compare op v =>
    s.family ≠ .other ∧ v.family? = some s.family ∧ (op.isOrdering = true → s.family = .numeric)
  | .fits _ => s.family = .string

mutual

/-- Steps lead from a value of the shape `s` to one of the shape `t`. -/
inductive Leads : Shape → List Step → Shape → Prop
  | nil {s : Shape} : Leads s [] s
  | field {record : String} {ms : List (Member Shape)} {m : Member Shape} {rest : List Step}
      {t : Shape} (hm : m ∈ ms) (h : Leads m.shape rest t) :
      Leads (.record record ms) ({ field := m.name } :: rest) t
  | index {s u t : Shape} {i : Int} {rest : List Step} (hs : s.IsListOf u) (hi : 0 ≤ i)
      (h : Leads u rest t) : Leads s ({ index := some i } :: rest) t
  | key {u t : Shape} {k : String} {rest : List Step} (h : Leads u rest t) :
      Leads (.map u) ({ key := k } :: rest) t
  | filter {s u t : Shape} {p : Predicate} {rest : List Step} (hs : s.Holds u) (hp : Admits u p)
      (h : Leads s rest t) : Leads s ({ filter := some p } :: rest) t
  | narrow {tag name : String} {u t : Shape} {rest : List Step} (hn : (name, u) ∈ primitives)
      (h : Leads u rest t) : Leads (.dynamic tag) ({ narrowTo := name } :: rest) t

/-- A predicate can be asked of a value of the shape `s`. -/
inductive Admits : Shape → Predicate → Prop
  | all {s : Shape} {ps : List Predicate} (hne : ps ≠ []) (h : ∀ p ∈ ps, Admits s p) :
      Admits s { all := ps }
  | any {s : Shape} {ps : List Predicate} (hne : ps ≠ []) (h : ∀ p ∈ ps, Admits s p) :
      Admits s { any := ps }
  | negated {s : Shape} {p : Predicate} (h : Admits s p) : Admits s { negated := some p }
  | test {s t : Shape} {path : List Step} {test : Test} (h : Leads s path t)
      (ht : t.Takes test) : Admits s (test.predicate path)

end

theorem ofName?_eq_some {name : String} {s : Shape} :
    ofName? name = some s ↔ (name, s) ∈ primitives := by
  constructor
  · intro h
    unfold ofName? at h
    split at h <;> cases h <;> simp [primitives]
  · intro h
    simp only [primitives, List.mem_cons, Prod.mk.injEq, List.not_mem_nil, or_false] at h
    rcases h with h | h | h | h | h | h | h | h | h <;> rw [h.1, h.2] <;> rfl

theorem recordsBuilt_of_primitives {name : String} {s : Shape} (h : (name, s) ∈ primitives) :
    s.RecordsBuilt := by
  intro record ms hp
  simp only [primitives, List.mem_cons, Prod.mk.injEq, List.not_mem_nil, or_false] at h
  rcases h with h | h | h | h | h | h | h | h | h <;> rw [h.2] at hp <;> cases hp

theorem takes_compare {s : Shape} {op : Operator} {v : Value} : s.Takes (.compare op v) ↔
    ∃ u text, v.literal = .ok (u, text) ∧ Node.Comparable op s u := by
  rw [Takes, Value.family?_eq_some]
  constructor
  · rintro ⟨hs, ⟨u, text, hv, hu⟩, ho⟩
    exact ⟨u, text, hv, hu.symm, hs, ho⟩
  · rintro ⟨u, text, hv, hc⟩
    exact ⟨hc.comparable, ⟨u, text, hv, hc.same.symm⟩, hc.ordered⟩

end Shape

open Shape (Leads Admits)

mutual

/-- Where steps can be followed, they lead to the shape that is reached. -/
theorem Reaches.leads {s t : Shape} {e f : Node} {steps : List Step} (h : Reaches s e steps t f)
    (hf : ∀ st ∈ steps, st.formFault? = none) : Leads s steps t := by
  match h with
  | .nil => exact .nil
  | .field hm hl h =>
    obtain ⟨hst, hrest⟩ := List.forall_mem_cons.mp hf
    have hr := h.leads hrest
    obtain ⟨hmem, rfl⟩ := Shape.lastMember?_mem hl
    rw [(Step.formed_move hst hm).1]
    exact .field hmem hr
  | .index hm hu hi h =>
    obtain ⟨hst, hrest⟩ := List.forall_mem_cons.mp hf
    rw [(Step.formed_move hst hm).1]
    exact .index hu hi (h.leads hrest)
  | .key hm h =>
    obtain ⟨hst, hrest⟩ := List.forall_mem_cons.mp hf
    rw [(Step.formed_move hst hm).1]
    exact .key (h.leads hrest)
  | .filter hm hu hp h =>
    obtain ⟨hst, hrest⟩ := List.forall_mem_cons.mp hf
    obtain ⟨heq, hpf⟩ := Step.formed_move hst hm
    rw [heq]
    exact .filter hu (hp.admits (hpf _ rfl)) (h.leads hrest)
  | .narrow hm hn h =>
    obtain ⟨hst, hrest⟩ := List.forall_mem_cons.mp hf
    rw [(Step.formed_move hst hm).1]
    exact .narrow (Shape.ofName?_eq_some.mp hn) (h.leads hrest)

theorem States.admits {s : Shape} {e c : Node} {p : Predicate} (h : States s e p c)
    (hf : p.formFault? = none) : Admits s p := by
  match h with
  | .all hp hr =>
    obtain ⟨heq, hps⟩ := Predicate.formed_all hf hp
    rw [heq]
    exact .all (Predicate.form_eq_all.mp hp).2 (hr.admits hps)
  | .any hp hr =>
    obtain ⟨heq, hps⟩ := Predicate.formed_any hf hp
    rw [heq]
    exact .any (Predicate.form_eq_any.mp hp).2.2 (hr.admits hps)
  | .negated hp hr =>
    obtain ⟨heq, hq⟩ := Predicate.formed_negated hf hp
    rw [heq]
    exact .negated (hr.admits hq)
  | .compare hp hr hv hc =>
    obtain ⟨_, ht, -, heq, hpath⟩ := Predicate.formed_tests hf hp
    cases ht
    rw [heq]
    exact .test (hr.leads hpath) (Shape.takes_compare.mpr ⟨_, _, hv, hc⟩)
  | .fits hp hr hs =>
    obtain ⟨_, ht, -, heq, hpath⟩ := Predicate.formed_tests hf hp
    cases ht
    rw [heq]
    exact .test (hr.leads hpath) hs

theorem StatesEach.admits {s : Shape} {e : Node} {ps : List Predicate} {cs : List Node}
    (h : StatesEach s e ps cs) (hf : ∀ p ∈ ps, p.formFault? = none) : ∀ p ∈ ps, Admits s p := by
  match h with
  | .nil => simp
  | .cons h hr =>
    obtain ⟨hp, hps⟩ := List.forall_mem_cons.mp hf
    exact List.forall_mem_cons.mpr ⟨h.admits hp, hr.admits hps⟩

end

theorem statesEach_of_forall {s : Shape} {e : Node} {ps : List Predicate}
    (h : ∀ p ∈ ps, ∃ c, States s e p c) : ∃ cs, StatesEach s e ps cs := by
  induction ps with
  | nil => exact ⟨[], .nil⟩
  | cons p ps ih =>
    obtain ⟨⟨c, hc⟩, hps⟩ := List.forall_mem_cons.mp h
    obtain ⟨cs, hcs⟩ := ih hps
    exact ⟨c :: cs, .cons hc hcs⟩

/-- A test that is the only part of a predicate of good form is given. -/
theorem Test.given_of_formed {path : List Step} {t : Test}
    (h : (t.predicate path).formFault? = none) : t.Given := by
  have hc := (Predicate.ownFault?_eq_none.mp (Predicate.formFault?_eq_none.mp h).1).2.1
  cases t with
  | compare op v =>
    rintro rfl
    cases op <;> simp [predicate, Predicate.formCount, Predicate.tests] at hc
  | fits pattern =>
    rintro rfl
    simp [predicate, Predicate.formCount, Predicate.tests] at hc

mutual

/-- Steps that lead anywhere can be followed from every expression of the shape. -/
theorem Shape.Leads.reaches {s t : Shape} {steps : List Step} (h : Leads s steps t)
    (hb : s.RecordsBuilt) (hf : ∀ st ∈ steps, st.formFault? = none) (e : Node) :
    ∃ f, Reaches s e steps t f := by
  match h with
  | .nil => exact ⟨e, .nil⟩
  | @Leads.field _ _ m _ _ hm h =>
    obtain ⟨hst, hrest⟩ := List.forall_mem_cons.mp hf
    obtain ⟨f, hr⟩ := h.reaches ((recordsBuilt_record.mp hb).2 m hm) hrest _
    have hmove := Move.formed_step (m := .field m.name) hst
    exact ⟨f, .field hmove (hb.lastMember?_eq hm) hr⟩
  | @Leads.index _ _ _ i _ hs hi h =>
    obtain ⟨hst, hrest⟩ := List.forall_mem_cons.mp hf
    obtain ⟨f, hr⟩ := h.reaches (Shape.Holds.recordsBuilt (.inl hs) hb) hrest _
    exact ⟨f, .index (Move.formed_step (m := .index i) hst) hs hi hr⟩
  | @Leads.key _ _ k _ h =>
    obtain ⟨hst, hrest⟩ := List.forall_mem_cons.mp hf
    obtain ⟨f, hr⟩ := h.reaches (recordsBuilt_map.mp hb) hrest _
    exact ⟨f, .key (Move.formed_step (m := .key k) hst) hr⟩
  | @Leads.filter _ u _ p _ hs hp h =>
    obtain ⟨hst, hrest⟩ := List.forall_mem_cons.mp hf
    have hmove := Move.formed_step (m := .filter p) hst
    have hpf := (Step.formed_move hst hmove).2 p rfl
    obtain ⟨c, hc⟩ := hp.states (hs.recordsBuilt hb) hpf (.item u)
    obtain ⟨f, hr⟩ := h.reaches hb hrest _
    exact ⟨f, .filter hmove hs hc hr⟩
  | @Leads.narrow _ name _ _ _ hn h =>
    obtain ⟨hst, hrest⟩ := List.forall_mem_cons.mp hf
    obtain ⟨f, hr⟩ := h.reaches (recordsBuilt_of_primitives hn) hrest _
    exact ⟨f, .narrow (Move.formed_step (m := .narrow name) hst) (ofName?_eq_some.mpr hn) hr⟩

theorem Shape.Admits.states {s : Shape} {p : Predicate} (h : Admits s p) (hb : s.RecordsBuilt)
    (hf : p.formFault? = none) (e : Node) : ∃ c, States s e p c := by
  match h with
  | @Admits.all _ ps hne h =>
    have hp := Predicate.form_all hne
    have hps := (Predicate.formed_all hf hp).2
    obtain ⟨cs, hcs⟩ := statesEach_of_forall (e := e) fun p hp => (h p hp).states hb (hps p hp) e
    exact ⟨_, .all hp hcs⟩
  | @Admits.any _ ps hne h =>
    have hp := Predicate.form_any hne
    have hps := (Predicate.formed_any hf hp).2
    obtain ⟨cs, hcs⟩ := statesEach_of_forall (e := e) fun p hp => (h p hp).states hb (hps p hp) e
    exact ⟨_, .any hp hcs⟩
  | @Admits.negated _ q h =>
    have hp : Predicate.form { negated := some q } = .negated q := rfl
    obtain ⟨c, hc⟩ := h.states hb (Predicate.formed_negated hf hp).2 e
    exact ⟨_, .negated hp hc⟩
  | @Admits.test _ _ path test h ht =>
    have hp : (test.predicate path).form = .tests path [test] :=
      Test.form_predicate (Test.given_of_formed hf)
    obtain ⟨_, -, -, -, hpath⟩ := Predicate.formed_tests hf hp
    obtain ⟨f, hr⟩ := h.reaches hb hpath e
    cases test with
    | compare op v =>
      obtain ⟨u, text, hv, hc⟩ := takes_compare.mp ht
      exact ⟨_, .compare hp hr hv hc⟩
    | fits pattern => exact ⟨_, .fits hp hr ht⟩

end

namespace Query

/-- A query is well typed at a shape that takes its predicate or that its steps lead from. -/
def WellTyped (s : Shape) (q : Query) : Prop :=
  match q.filterBy with
  | some p => Admits s p
  | none => ∃ t, Leads s q.select t

theorem exists_builds_iff {s : Shape} {q : Query} (hb : s.RecordsBuilt)
    (hf : q.formFault? = none) : (∃ n, Builds s q n) ↔ q.WellTyped s := by
  unfold Builds WellTyped
  cases hq : q.filterBy with
  | some p =>
    have hp := formed_filterBy hf hq
    exact ⟨fun ⟨_, h⟩ => h.admits hp, fun h => h.states hb hp _⟩
  | none =>
    have hsel := formed_select hf hq
    constructor
    · rintro ⟨_, t, f, h, rfl⟩
      exact ⟨t, h.leads hsel⟩
    · rintro ⟨t, h⟩
      obtain ⟨f, hr⟩ := h.reaches hb hsel (.identifier s Node.root)
      exact ⟨_, t, f, hr, rfl⟩

/-- The compiler takes exactly the well typed queries. Wherever a walk starts, it ends in the
accessor of the shape that its steps lead to, which keeps that shape. -/
theorem compiles_iff_wellTyped {s : Shape} {root : Node} {q : Query} (hb : s.RecordsBuilt)
    (hr : Node.ofShape s = .ok root) (hf : q.formFault? = none) :
    ((∃ r, q.compile root = .ok r) ↔ q.WellTyped s) ∧
      ∀ e steps n, (∀ st ∈ steps, st.formFault? = none) → (s.accessor e).walk steps = .ok n →
        ∃ t f, Leads s steps t ∧ n = t.accessor f ∧ n.shape? = some t.seen := by
  have hs := (Node.ofShape_eq_ok.mp hr).1
  constructor
  · rw [← exists_builds_iff hb hf]
    simp only [compile_eq_ok hr]
    exact ⟨fun ⟨_, n, h, _⟩ => ⟨n, h⟩, fun ⟨n, h⟩ => ⟨_, n, h, rfl⟩⟩
  · intro e steps n hst hw
    obtain ⟨t, f, hreach, rfl⟩ := Node.reaches_of_walkFrom hs hw
    exact ⟨t, f, hreach.leads hst, rfl, Node.shape?_accessor (hreach.check hs) f⟩

/-- A basket whose lines are records, with the time of its last change. -/
def basketShape : Shape :=
  .record "Basket" [
    ⟨"lines", .array (.record "Line" [⟨"sku", .string, false, ""⟩, ⟨"count", .integer, false, ""⟩]),
      false, ""⟩,
    ⟨"changed", .timestamp, true, ""⟩]

/-- The article of the first line that meets a condition on its number. -/
def basketQuery (condition : Predicate) : Query :=
  { select := [{ field := "lines" }, { filter := some condition }, { index := some 0 },
      { field := "sku" }] }

theorem basketShape_recordsBuilt : basketShape.RecordsBuilt := by
  simp only [basketShape, Shape.recordsBuilt_record, List.forall_mem_cons, Shape.recordsBuilt_array]
  refine ⟨rfl, ⟨rfl, ?_, ?_, by simp⟩, ?_, by simp⟩ <;> rintro _ _ ⟨⟩

theorem basketQuery_wellTyped :
    ∃ root n, basketShape.RecordsBuilt ∧ Node.ofShape basketShape = .ok root ∧
      (basketQuery { path := [{ field := "count" }], greater := .integer .int 3 }).WellTyped
        basketShape ∧
      ¬(basketQuery { path := [{ field := "sku" }], greater := .integer .int 3 }).WellTyped
        basketShape ∧
      root.walk [{ field := "changed" }] = .ok n ∧
      ∃ t f, Leads basketShape [{ field := "changed" }] t ∧ n = t.accessor f ∧
        n.shape? = some t.seen := by
  refine ⟨_, _, basketShape_recordsBuilt, rfl, ?_, ?_, rfl, ?_⟩
  · rw [← (compiles_iff_wellTyped basketShape_recordsBuilt rfl rfl).1]
    exact ⟨_, rfl⟩
  · rw [← (compiles_iff_wellTyped basketShape_recordsBuilt rfl rfl).1]
    rintro ⟨r, h⟩
    cases h
  · have hq : (basketQuery { equals := .bool true }).formFault? = none := rfl
    refine (compiles_iff_wellTyped basketShape_recordsBuilt rfl hq).2 _ _ _ ?_ rfl
    exact List.forall_mem_singleton.mpr rfl

end Query

end TypedPath
