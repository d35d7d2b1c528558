import TypedPath.Proofs.Query.Sound

/-! The path of a query, read off the query alone. No schema takes part in it: two schemas that both
take a query give it the same path and the same identifier. -/
namespace TypedPath

/-- The text that stands for a value in a path. A value without a literal has none. -/
def Value.literalText (v : Value) : String :=
  match v.literal with
  | .ok l => l.2
  | .error _ => ""

def Test.text : Test → String
  | compare op v => " " ++ op.symbol ++ " " ++ v.literalText
  | fits pattern => " =~ " ++ pattern

/-- The operands of a combination that is given, in brackets. -/
def groupText (separator : String) : List String → String
  | [] => ""
  | texts => "(" ++ separator.intercalate texts ++ ")"

mutual

/-- What a step adds to a path: the text of every part that is given. Narrowing adds nothing. -/
def Step.text : Step → String
  | ⟨field, index, key, filter, _⟩ =>
    (if field = "" then "" else "[" ++ Text.quote field ++ "]")
      ++ (match index with
        | some i => "[" ++ toString i ++ "]"
        | none => "")
      ++ (if key = "" then "" else "[" ++ Text.quote key ++ "]")
      ++ filterText filter

def filterText : Option Predicate → String
  | none => ""
  | some p => "[?(" ++ p.text "@" ++ ")]"

/-- The path of steps behind `base`. -/
def stepsText (base : String) : List Step → String
  | [] => base
  | s :: rest => stepsText (base ++ s.text) rest

/-- The condition that a predicate states of the value at `base`. -/
def Predicate.text (base : String) : Predicate → String
  | ⟨all, any, negated, path, eq, ne, gt, ge, lt, le, pattern⟩ =>
    groupText " && " (textEach base all) ++ groupText " || " (textEach base any)
      ++ negatedText base negated
      ++ String.join ((Predicate.tests ⟨[], [], none, [], eq, ne, gt, ge, lt, le, pattern⟩).map
        (stepsText base path ++ ·.text))

def textEach (base : String) : List Predicate → List String
  | [] => []
  | p :: rest => p.text base :: textEach base rest

def negatedText (base : String) : Option Predicate → String
  | none => ""
  | some p => "(!" ++ p.text base ++ ")"

end

/-- The path of a query on the root. -/
def Query.text (q : Query) : String :=
  match q.filterBy with
  | some p => p.text Node.root
  | none => stepsText Node.root q.select

section Parts

variable {base name key : String} {p : Predicate} {ps : List Predicate} {path : List Step}
  {t : Test}

/-- The text of a step, part by part. -/
theorem step_text (s : Step) : s.text =
    (if s.field = "" then "" else "[" ++ Text.quote s.field ++ "]")
      ++ (s.index.elim "" fun i => "[" ++ toString i ++ "]")
      ++ (if s.key = "" then "" else "[" ++ Text.quote s.key ++ "]")
      ++ (s.filter.elim "" fun p => "[?(" ++ p.text "@" ++ ")]") := by
  obtain ⟨field, index, key, filter, narrowTo⟩ := s
  cases index <;> cases filter <;> rfl

theorem textEach_eq_map : textEach base ps = ps.map (·.text base) := by
  induction ps with
  | nil => rfl
  | cons p rest ih => exact congrArg (p.text base :: ·) ih

/-- The text of a predicate, part by part. -/
theorem predicate_text (p : Predicate) : p.text base =
    groupText " && " (p.all.map (·.text base)) ++ groupText " || " (p.any.map (·.text base))
      ++ (p.negated.elim "" fun q => "(!" ++ q.text base ++ ")")
      ++ String.join (p.tests.map (stepsText base p.path ++ ·.text)) := by
  rw [← textEach_eq_map, ← textEach_eq_map]
  obtain ⟨all, any, negated⟩ := p
  cases negated <;> rfl

theorem text_field (h : name ≠ "") :
    (Move.field name).step.text = "[" ++ Text.quote name ++ "]" := by
  simp [Move.step, step_text, h]

theorem text_index (i : Int) : (Move.index i).step.text = "[" ++ toString i ++ "]" := by
  simp [Move.step, step_text]

theorem text_key (h : key ≠ "") : (Move.key key).step.text = "[" ++ Text.quote key ++ "]" := by
  simp [Move.step, step_text, h]

theorem text_filter : (Move.filter p).step.text = "[?(" ++ p.text "@" ++ ")]" := by
  simp [Move.step, step_text]

theorem text_narrow : (Move.narrow name).step.text = "" := by
  simp [Move.step, step_text]

theorem text_all (h : ps ≠ []) : Predicate.text base { all := ps } =
    "(" ++ " && ".intercalate (ps.map (·.text base)) ++ ")" := by
  cases ps with
  | nil => exact absurd rfl h
  | cons p rest =>
    rw [predicate_text]
    simp [groupText, Predicate.tests]

theorem text_any (h : ps ≠ []) : Predicate.text base { any := ps } =
    "(" ++ " || ".intercalate (ps.map (·.text base)) ++ ")" := by
  cases ps with
  | nil => exact absurd rfl h
  | cons p rest =>
    rw [predicate_text]
    simp [groupText, Predicate.tests]

theorem text_negated : Predicate.text base { negated := some p } = "(!" ++ p.text base ++ ")" := by
  rw [predicate_text]
  simp [groupText, Predicate.tests]

theorem text_test (h : t.Given) : (t.predicate path).text base = stepsText base path ++ t.text := by
  rw [predicate_text]
  cases t with
  | compare op v =>
    have hv : v ≠ .absent := h
    cases op <;> simp [Test.predicate, groupText, Predicate.tests, hv]
  | fits pattern =>
    have hp : pattern ≠ "" := h
    simp [Test.predicate, groupText, Predicate.tests, hp]

end Parts

mutual

/-- Following steps adds their text to the text of the expression, whatever the shape. -/
theorem Reaches.render_eq {s t : Shape} {e f : Node} {steps : List Step}
    (h : Reaches s e steps t f) (hs : s.check = .ok ())
    (hf : ∀ st ∈ steps, st.formFault? = none) : f.render = stepsText e.render steps := by
  match h with
  | .nil => rfl
  | .field hm hl h =>
    obtain ⟨hst, hrest⟩ := List.forall_mem_cons.mp hf
    have hc := Shape.check_record.mp hs _ (Shape.lastMember?_mem hl).1
    rw [h.render_eq hc hrest, (Step.formed_move hst hm).1, stepsText,
      text_field (Step.move?_field_ne hm), Node.render, Node.render_accessor hs]
  | .index hm hu _ h =>
    obtain ⟨hst, hrest⟩ := List.forall_mem_cons.mp hf
    rw [h.render_eq (Shape.Holds.check (.inl hu) hs) hrest, (Step.formed_move hst hm).1, stepsText,
      text_index, Node.render, Node.render_accessor hs]
  | .key hm h =>
    obtain ⟨hst, hrest⟩ := List.forall_mem_cons.mp hf
    rw [h.render_eq (Shape.check_map.mp hs) hrest, (Step.formed_move hst hm).1, stepsText,
      text_key (Step.move?_key_ne hm), Node.render, Node.render_accessor hs]
  | .filter hm hu hp h =>
    obtain ⟨hst, hrest⟩ := List.forall_mem_cons.mp hf
    obtain ⟨heq, hpf⟩ := Step.formed_move hst hm
    have hc := hp.render_eq (hu.check hs) (hpf _ rfl)
    rw [h.render_eq hs hrest, heq, stepsText, text_filter, Node.render, hc,
      Node.render_accessor hs, Node.render]
    simp only [String.append_assoc]
  | .narrow hm hn h =>
    obtain ⟨hst, hrest⟩ := List.forall_mem_cons.mp hf
    rw [h.render_eq (Shape.check_ofName? hn) hrest, (Step.formed_move hst hm).1, stepsText,
      text_narrow, Node.render_accessor hs, String.append_empty]

theorem States.render_eq {s : Shape} {e c : Node} {p : Predicate} (h : States s e p c)
    (hs : s.check = .ok ()) (hf : p.formFault? = none) : c.render = p.text e.render := by
  match h with
  | .all hp hr =>
    obtain ⟨rfl, hps⟩ := Predicate.formed_all hf hp
    rw [text_all (Predicate.form_eq_all.mp hp).2, ← hr.render_eq hs hps, ← Node.renderEach_eq_map]
    rfl
  | .any hp hr =>
    obtain ⟨rfl, hps⟩ := Predicate.formed_any hf hp
    rw [text_any (Predicate.form_eq_any.mp hp).2.2, ← hr.render_eq hs hps,
      ← Node.renderEach_eq_map]
    rfl
  | .negated hp hr =>
    obtain ⟨rfl, hq⟩ := Predicate.formed_negated hf hp
    rw [text_negated, ← hr.render_eq hs hq]
    rfl
  | .compare hp hr hv _ =>
    obtain ⟨_, ht, hg, rfl, hpath⟩ := Predicate.formed_tests hf hp
    cases ht
    rw [text_test hg, ← hr.render_eq hs hpath, Test.text, Value.literalText, hv, Node.truth,
      Node.render, Node.render, Node.render_accessor (hr.check hs)]
    simp only [String.append_assoc, Node.render]
  | .fits hp hr _ =>
    obtain ⟨_, ht, hg, rfl, hpath⟩ := Predicate.formed_tests hf hp
    cases ht
    rw [text_test hg, ← hr.render_eq hs hpath, Test.text, Node.truth, Node.render, Node.render,
      Node.render_accessor (hr.check hs), String.append_assoc]

theorem StatesEach.render_eq {s : Shape} {e : Node} {ps : List Predicate} {cs : List Node}
    (h : StatesEach s e ps cs) (hs : s.check = .ok ()) (hf : ∀ p ∈ ps, p.formFault? = none) :
    cs.map Node.render = ps.map (·.text e.render) := by
  match h with
  | .nil => rfl
  | .cons h hr =>
    obtain ⟨hp, hps⟩ := List.forall_mem_cons.mp hf
    rw [List.map_cons, List.map_cons, h.render_eq hs hp, hr.render_eq hs hps]

end

namespace Query

theorem Builds.render_eq {s : Shape} {n : Node} {q : Query} (h : Builds s q n)
    (hs : s.check = .ok ()) (hf : q.formFault? = none) : n.render = q.text := by
  rw [Builds] at h
  rw [text]
  cases hq : q.filterBy with
  | some p =>
    rw [hq] at h
    exact h.render_eq hs (formed_filterBy hf hq)
  | none =>
    rw [hq] at h
    obtain ⟨t, f, hr, rfl⟩ := h
    rw [Node.render_accessor (hr.check hs), hr.render_eq hs (formed_select hf hq)]
    rfl

theorem compile_eq_text {s : Shape} {root : Node} {q : Query} {r : Compiled}
    (hr : Node.ofShape s = .ok root) (hf : q.formFault? = none) (hc : q.compile root = .ok r) :
    r = ⟨q.name, q.text, Node.queryId q.text⟩ := by
  obtain ⟨n, hb, rfl⟩ := (compile_eq_ok hr).mp hc
  rw [hb.render_eq (Node.ofShape_eq_ok.mp hr).1 hf]

/-- The path of a query is its text, which depends on the query alone. Every other schema that takes
the query gives it the same path and the same identifier. -/
theorem compiled_path_independent_of_schema {s : Shape} {root : Node} {q : Query} {r : Compiled}
    (hr : Node.ofShape s = .ok root) (hf : q.formFault? = none) (hc : q.compile root = .ok r) :
    r.path = q.text ∧ r.id = Node.queryId q.text ∧
      ∀ s' root' r', Node.ofShape s' = .ok root' → q.compile root' = .ok r' →
        r'.path = r.path ∧ r'.id = r.id := by
  have heq := compile_eq_text hr hf hc
  refine ⟨by rw [heq], by rw [heq], ?_⟩
  intro s' root' r' hr' hc'
  rw [heq, compile_eq_text hr' hf hc']
  exact ⟨rfl, rfl⟩

/-- An order with a set of tags and a value of unknown shape. -/
def orderShape : Shape :=
  .record "Order" [⟨"tags", .set .string, false, ""⟩, ⟨"extra", .any, true, ""⟩]

def orderQuery : Query :=
  { name := "odd"
    filterBy := some { any := [
      { path := [{ field := "tags" }, { filter := some { equals := .text "it's" } },
          { index := some 0 }]
        notEquals := .text "b" },
      { negated := some {
          path := [{ field := "extra" }, { narrowTo := "integer" }]
          greater := .integer .int 3 } }] } }

theorem orderQuery_path_independent_of_schema :
    ∃ root r, Node.ofShape orderShape = .ok root ∧ orderQuery.formFault? = none ∧
      orderQuery.compile root = .ok r ∧
      r.path = "($['tags'][?(@ == 'it\\'s')][0] != 'b' || (!$['extra'] > 3))" ∧
      r.path = orderQuery.text ∧ r.id = Node.queryId orderQuery.text ∧
      ∀ s' root' r', Node.ofShape s' = .ok root' → orderQuery.compile root' = .ok r' →
        r'.path = r.path ∧ r'.id = r.id :=
  ⟨_, _, rfl, rfl, rfl, rfl, compiled_path_independent_of_schema (s := orderShape) rfl rfl rfl⟩

end Query

end TypedPath
