import TypedPath.Query.Compile
import TypedPath.Query.Form

/-! Steps and predicates seen by the one part of them that counts. A query of good form has no other
part. -/
namespace TypedPath

/-- The move that a step makes. -/
inductive Move
  | field (name : String)
  | index (index : Int)
  | key (key : String)
  | filter (predicate : Predicate)
  | narrow (shape : String)

/-- The step that says nothing but a move. -/
def Move.step : Move → Step
  | field name => { field := name }
  | index i => { index := some i }
  | key k => { key := k }
  | filter p => { filter := some p }
  | narrow s => { narrowTo := s }

/-- The first part of a step in the order of their declaration. -/
def Step.move? (s : Step) : Option Move :=
  if s.field ≠ "" then some (.field s.field)
  else match s.index with
    | some i => some (.index i)
    | none =>
      if s.key ≠ "" then some (.key s.key)
      else match s.filter with
        | some p => some (.filter p)
        | none => if s.narrowTo ≠ "" then some (.narrow s.narrowTo) else none

/-- The combination that a predicate states, or the tests of the value at its path. -/
inductive Predicate.Form
  | all (predicates : List Predicate)
  | any (predicates : List Predicate)
  | negated (predicate : Predicate)
  | tests (path : List Step) (tests : List Test)

def Predicate.form (p : Predicate) : Predicate.Form :=
  if !p.all.isEmpty then .all p.all
  else if !p.any.isEmpty then .any p.any
  else match p.negated with
    | some q => .negated q
    | none => .tests p.path p.tests

/-- The predicate that says nothing but one test. -/
def Test.predicate (path : List Step) : Test → Predicate
  | compare .equals v => { path, equals := v }
  | compare .notEquals v => { path, notEquals := v }
  | compare .greater v => { path, greater := v }
  | compare .greaterOrEqual v => { path, greaterOrEqual := v }
  | compare .less v => { path, less := v }
  | compare .lessOrEqual v => { path, lessOrEqual := v }
  | fits p => { path, pattern := p }

/-- Whether a test is one that a predicate can name. -/
def Test.Given : Test → Prop
  | compare _ v => v ≠ .absent
  | fits p => p ≠ ""

@[simp] theorem Value.isAbsent_iff {v : Value} : v.isAbsent = true ↔ v = .absent := by
  cases v <;> simp [isAbsent]

section Move

variable {s : Step} {name key : String} {i : Int} {p : Predicate}

theorem Step.move?_field_ne (h : s.move? = some (.field name)) : name ≠ "" := by
  unfold move? at h
  grind

theorem Step.move?_key_ne (h : s.move? = some (.key key)) : key ≠ "" := by
  unfold move? at h
  grind

theorem Step.move?_narrow_ne (h : s.move? = some (.narrow name)) : name ≠ "" := by
  unfold move? at h
  grind

/-- A step that says nothing but a move makes that move. -/
theorem Move.move?_step {m : Move} (h : m.step.partCount = 1) : m.step.move? = some m := by
  cases m with
  | field name =>
    have hn : name ≠ "" := by rintro rfl; simp [step, Step.partCount] at h
    simp [step, Step.move?, hn]
  | key k =>
    have hk : k ≠ "" := by rintro rfl; simp [step, Step.partCount] at h
    simp [step, Step.move?, hk]
  | narrow name =>
    have hn : name ≠ "" := by rintro rfl; simp [step, Step.partCount] at h
    simp [step, Step.move?, hn]
  | index i => rfl
  | filter p => rfl

/-- A step of good form says nothing but its move. -/
theorem Step.exists_move (h : s.partCount = 1) : ∃ m, s.move? = some m ∧ s = m.step := by
  obtain ⟨field, index, key, filter, narrowTo⟩ := s
  by_cases hf : field = "" <;> cases index <;> by_cases hk : key = "" <;> cases filter <;>
    by_cases hn : narrowTo = "" <;> simp [partCount, hf, hk, hn] at h
  all_goals simp [move?, Move.step, hf, hk, hn]

end Move

section Form

variable {p q : Predicate} {ps : List Predicate} {t : Test} {path : List Step}

theorem Predicate.tests_eq_nil (h : p.tests = []) : p.equals = .absent ∧ p.notEquals = .absent ∧
    p.greater = .absent ∧ p.greaterOrEqual = .absent ∧ p.less = .absent ∧
    p.lessOrEqual = .absent ∧ p.pattern = "" := by
  simpa [tests, and_assoc] using h

/-- A predicate whose only part is a test says nothing but that test. -/
theorem Predicate.eq_test (h : p.tests = [t]) (ha : p.all = []) (ho : p.any = [])
    (hn : p.negated = none) : t.Given ∧ p = t.predicate p.path := by
  obtain ⟨all, any, negated, path, eq, ne, gt, ge, lt, le, pattern⟩ := p
  have hnil (v : Value) (u : Test) : (if v.isAbsent then [] else [u]) = [] ↔ v = .absent := by
    simp
  have hone (v : Value) (u : Test) :
      (if v.isAbsent then [] else [u]) = [t] ↔ v ≠ .absent ∧ t = u := by
    by_cases hv : v = .absent <;> simp [hv, @eq_comm _ t]
  have hpat : (if pattern = "" then [] else [Test.fits pattern]) = [t] ↔
      pattern ≠ "" ∧ t = .fits pattern := by
    by_cases hp : pattern = "" <;> simp [hp, eq_comm]
  have hnone : (if pattern = "" then [] else [Test.fits pattern]) = [] ↔ pattern = "" := by
    simp
  simp only [tests, List.append_eq_singleton_iff, List.append_eq_nil_iff, hnil, hone, hpat,
    hnone] at h
  clear hnil hone hpat hnone
  rcases h with h | ⟨h | ⟨h | ⟨h | ⟨h | ⟨h | h, _⟩, _⟩, _⟩, _⟩, _⟩ <;>
    simp_all [Test.Given, Test.predicate]

theorem stepsFault?_eq_none {steps : List Step} (i : Nat) :
    stepsFault? i steps = none ↔ ∀ s ∈ steps, s.formFault? = none := by
  induction steps generalizing i with
  | nil => simp [stepsFault?]
  | cons s rest ih => simp [stepsFault?, FormFault.within, ih]

theorem predicatesFault?_eq_none (c : Context) :
    predicatesFault? c ps = none ↔ ∀ p ∈ ps, p.formFault? = none := by
  induction ps with
  | nil => simp [predicatesFault?]
  | cons p rest ih => simp [predicatesFault?, FormFault.within, ih]

theorem Step.formFault?_eq_none {s : Step} : s.formFault? = none ↔
    s.partCount = 1 ∧ ∀ p, s.filter = some p → p.formFault? = none := by
  obtain ⟨field, index, key, filter, narrowTo⟩ := s
  by_cases hc : Step.partCount ⟨field, index, key, filter, narrowTo⟩ = 1 <;>
    cases filter <;> simp [Step.formFault?, filterFault?, hc]

theorem Predicate.formFault?_eq_none : p.formFault? = none ↔
    p.ownFault? = none ∧ (∀ q ∈ p.all, q.formFault? = none) ∧
      (∀ q ∈ p.any, q.formFault? = none) ∧ (∀ q, p.negated = some q → q.formFault? = none) ∧
      ∀ s ∈ p.path, s.formFault? = none := by
  obtain ⟨all, any, negated, path, eq, ne, gt, ge, lt, le, pattern⟩ := p
  cases negated <;> simp [Predicate.formFault?, predicatesFault?_eq_none, negatedFault?,
    stepsFault?_eq_none, FormFault.within]

theorem Predicate.form_eq_all : p.form = .all ps ↔ p.all = ps ∧ ps ≠ [] := by
  unfold form
  grind

theorem Predicate.form_eq_any : p.form = .any ps ↔ p.all = [] ∧ p.any = ps ∧ ps ≠ [] := by
  unfold form
  grind

theorem Predicate.form_eq_negated :
    p.form = .negated q ↔ p.all = [] ∧ p.any = [] ∧ p.negated = some q := by
  unfold form
  grind

theorem Predicate.form_eq_tests {ts : List Test} : p.form = .tests path ts ↔
    p.all = [] ∧ p.any = [] ∧ p.negated = none ∧ p.path = path ∧ p.tests = ts := by
  unfold form
  grind

theorem Predicate.form_all (h : ps ≠ []) : Predicate.form { all := ps } = .all ps :=
  form_eq_all.mpr ⟨rfl, h⟩

theorem Predicate.form_any (h : ps ≠ []) : Predicate.form { any := ps } = .any ps :=
  form_eq_any.mpr ⟨rfl, rfl, h⟩

/-- A pattern that is tested is not empty. -/
theorem Predicate.pattern_ne_empty {pattern : String}
    (h : p.form = .tests path [.fits pattern]) : pattern ≠ "" := by
  obtain ⟨ha, ho, hn, -, ht⟩ := form_eq_tests.mp h
  exact (eq_test ht ha ho hn).1

theorem Predicate.ownFault?_eq_none : p.ownFault? = none ↔
    (p.tests = [] → p.path = []) ∧ p.formCount = 1 ∧ p.tests.length ≤ 1 := by
  unfold ownFault?
  grind

/-- Of the three combinations and the tests of a predicate exactly one is given. -/
theorem Predicate.formCount_eq_one : p.formCount = 1 ↔
    (p.all ≠ [] ∧ p.any = [] ∧ p.negated = none ∧ p.tests = []) ∨
    (p.all = [] ∧ p.any ≠ [] ∧ p.negated = none ∧ p.tests = []) ∨
    (p.all = [] ∧ p.any = [] ∧ p.negated ≠ none ∧ p.tests = []) ∨
    (p.all = [] ∧ p.any = [] ∧ p.negated = none ∧ p.tests ≠ []) := by
  unfold formCount
  cases p.all <;> cases p.any <;> cases p.negated <;> cases p.tests <;> simp

theorem Move.formed_step {m : Move} (h : m.step.formFault? = none) : m.step.move? = some m :=
  move?_step (Step.formFault?_eq_none.mp h).1

theorem Step.formed_move {s : Step} {m : Move} (h : s.formFault? = none) (hm : s.move? = some m) :
    s = m.step ∧ ∀ p, m = .filter p → p.formFault? = none := by
  obtain ⟨hc, hp⟩ := formFault?_eq_none.mp h
  obtain ⟨k, hk, he⟩ := exists_move hc
  have hkm : k = m := Option.some.inj (hk.symm.trans hm)
  subst hkm
  refine ⟨he, ?_⟩
  rintro p rfl
  exact hp p (by rw [he]; rfl)

theorem Test.form_predicate (h : t.Given) : (t.predicate path).form = .tests path [t] := by
  rw [Predicate.form_eq_tests]
  cases t with
  | compare op v =>
    cases op <;> simp_all [predicate, Given, Predicate.tests]
  | fits pattern => simp_all [predicate, Given, Predicate.tests]

/-- A predicate without tests says nothing but its combination. -/
theorem Predicate.eq_combination (ht : p.tests = []) (hp : p.path = []) :
    p = { all := p.all, any := p.any, negated := p.negated } := by
  have hv := tests_eq_nil ht
  cases p
  simp_all

section Formed

variable (h : p.formFault? = none)
include h

theorem Predicate.formed_all (hf : p.form = .all ps) :
    p = { all := ps } ∧ ∀ q ∈ ps, q.formFault? = none := by
  obtain ⟨rfl, hne⟩ := form_eq_all.mp hf
  obtain ⟨ho, ha, -⟩ := formFault?_eq_none.mp h
  obtain ⟨hp, hc, -⟩ := ownFault?_eq_none.mp ho
  have hn : p.any = [] ∧ p.negated = none ∧ p.tests = [] := by
    grind [formCount_eq_one.mp hc]
  refine ⟨?_, ha⟩
  simpa [hn] using eq_combination hn.2.2 (hp hn.2.2)

theorem Predicate.formed_any (hf : p.form = .any ps) :
    p = { any := ps } ∧ ∀ q ∈ ps, q.formFault? = none := by
  obtain ⟨ha, rfl, hne⟩ := form_eq_any.mp hf
  obtain ⟨ho, -, hy, -⟩ := formFault?_eq_none.mp h
  obtain ⟨hp, hc, -⟩ := ownFault?_eq_none.mp ho
  have hn : p.negated = none ∧ p.tests = [] := by
    grind [formCount_eq_one.mp hc]
  refine ⟨?_, hy⟩
  simpa [ha, hn] using eq_combination hn.2 (hp hn.2)

theorem Predicate.formed_negated (hf : p.form = .negated q) :
    p = { negated := some q } ∧ q.formFault? = none := by
  obtain ⟨ha, hy, hq⟩ := form_eq_negated.mp hf
  obtain ⟨ho, -, -, hn, -⟩ := formFault?_eq_none.mp h
  obtain ⟨hp, hc, -⟩ := ownFault?_eq_none.mp ho
  have ht : p.tests = [] := by
    grind [formCount_eq_one.mp hc]
  refine ⟨?_, hn q hq⟩
  simpa [ha, hy, hq] using eq_combination ht (hp ht)

theorem Predicate.formed_tests {ts : List Test} (hf : p.form = .tests path ts) :
    ∃ t, ts = [t] ∧ t.Given ∧ p = t.predicate path ∧ ∀ s ∈ path, s.formFault? = none := by
  obtain ⟨ha, hy, hq, rfl, rfl⟩ := form_eq_tests.mp hf
  obtain ⟨ho, -, -, -, hs⟩ := formFault?_eq_none.mp h
  obtain ⟨-, hc, hl⟩ := ownFault?_eq_none.mp ho
  have ht : p.tests ≠ [] := by
    grind [formCount_eq_one.mp hc]
  obtain ⟨t, ht⟩ := List.length_eq_one_iff.mp
    (Nat.le_antisymm hl (List.length_pos_iff.mpr ht))
  obtain ⟨hg, he⟩ := eq_test ht ha hy hq
  exact ⟨t, ht, hg, he, hs⟩

end Formed

end Form

namespace Query

variable {q : Query}

theorem formed_filterBy {p : Predicate} (h : q.formFault? = none) (hp : q.filterBy = some p) :
    p.formFault? = none := by
  unfold formFault? at h
  split at h <;> simp_all

theorem select_eq_nil {p : Predicate} (h : q.formFault? = none) (hp : q.filterBy = some p) :
    q.select = [] := by
  cases hs : q.select with
  | nil => rfl
  | cons st rest => simp [formFault?, hs, hp] at h

theorem formed_select (h : q.formFault? = none) (hp : q.filterBy = none) :
    ∀ s ∈ q.select, s.formFault? = none := by
  rw [← stepsFault?_eq_none 0]
  unfold formFault? at h
  split at h <;> simp_all

end Query

end TypedPath
