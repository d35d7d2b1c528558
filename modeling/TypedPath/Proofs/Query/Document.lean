import Mathlib.Data.List.Nodup
import TypedPath.Proofs.Query.Walk

/-! Documents by their grammar. The grammar says what may be written, with one rule for each kind of
step and predicate; the check of a document counts the parts that are given. Both take the same
documents. -/
namespace TypedPath

section Grammar

mutual

/-- A step gives one of its parts and nothing else. -/
inductive Step.InGrammar : Step → Prop
  | field {name : String} : name ≠ "" → Step.InGrammar { field := name }
  | index {i : Int} : Step.InGrammar { index := some i }
  | key {k : String} : k ≠ "" → Step.InGrammar { key := k }
  | filter {p : Predicate} : Predicate.InGrammar p → Step.InGrammar { filter := some p }
  | narrow {shape : String} : shape ≠ "" → Step.InGrammar { narrowTo := shape }

/-- A predicate is one combination, without a path, or one test of the value at a path. -/
inductive Predicate.InGrammar : Predicate → Prop
  | all {ps : List Predicate} : ps ≠ [] → (∀ p ∈ ps, Predicate.InGrammar p) →
      Predicate.InGrammar { all := ps }
  | any {ps : List Predicate} : ps ≠ [] → (∀ p ∈ ps, Predicate.InGrammar p) →
      Predicate.InGrammar { any := ps }
  | negated {p : Predicate} : Predicate.InGrammar p → Predicate.InGrammar { negated := some p }
  | test {path : List Step} {t : Test} : t.Given → (∀ s ∈ path, Step.InGrammar s) →
      Predicate.InGrammar (t.predicate path)

end

/-- A query selects by some steps or filters by a predicate. -/
inductive Query.InGrammar (q : Query) : Prop
  | select : q.select ≠ [] → q.filterBy = none → (∀ s ∈ q.select, s.InGrammar) → InGrammar q
  | filterBy {p : Predicate} : q.select = [] → q.filterBy = some p → p.InGrammar → InGrammar q

structure Document.InGrammar (d : Document) : Prop where
  schema : d.schema ≠ ""
  queries : d.queries ≠ []
  named : ∀ q ∈ d.queries, q.name ≠ ""
  distinct : (d.queries.map (·.name)).Nodup
  formed : ∀ q ∈ d.queries, q.InGrammar

end Grammar

section Formed

variable {p : Predicate} {ps : List Predicate} {t : Test} {path : List Step}

/-- A predicate made of a single form has no fault beyond those of its parts. -/
theorem Predicate.formFault?_all (hne : ps ≠ []) (h : ∀ q ∈ ps, q.formFault? = none) :
    Predicate.formFault? { all := ps } = none := by
  have ho : Predicate.ownFault? { all := ps } = none := by
    simp [ownFault?_eq_none, formCount_eq_one, tests, hne]
  exact formFault?_eq_none.mpr ⟨ho, h, by simp, by simp, by simp⟩

theorem Predicate.formFault?_any (hne : ps ≠ []) (h : ∀ q ∈ ps, q.formFault? = none) :
    Predicate.formFault? { any := ps } = none := by
  have ho : Predicate.ownFault? { any := ps } = none := by
    simp [ownFault?_eq_none, formCount_eq_one, tests, hne]
  exact formFault?_eq_none.mpr ⟨ho, by simp, h, by simp, by simp⟩

theorem Predicate.formFault?_negated (h : p.formFault? = none) :
    Predicate.formFault? { negated := some p } = none := by
  have ho : Predicate.ownFault? { negated := some p } = none := by
    simp [ownFault?_eq_none, formCount_eq_one, tests]
  exact formFault?_eq_none.mpr ⟨ho, by simp, by simp, by simpa using h, by simp⟩

theorem Test.formFault?_predicate (ht : t.Given) (h : ∀ s ∈ path, s.formFault? = none) :
    (t.predicate path).formFault? = none := by
  have hf : (t.predicate path).form = .tests path [t] := form_predicate ht
  obtain ⟨ha, hy, hn, hp, hts⟩ := Predicate.form_eq_tests.mp hf
  have ho : (t.predicate path).ownFault? = none := by
    simp [Predicate.ownFault?_eq_none, Predicate.formCount_eq_one, ha, hy, hn, hts]
  exact Predicate.formFault?_eq_none.mpr
    ⟨ho, by simp [ha], by simp [hy], by simp [hn], by simpa [hp] using h⟩

mutual

/-- What the grammar lets in passes the check. The recursion is on the derivation. -/
theorem Step.formed_of_inGrammar : {s : Step} → s.InGrammar → s.formFault? = none
  | _, .field hn => by simp [Step.formFault?_eq_none, Step.partCount, hn]
  | _, .index => by simp [Step.formFault?_eq_none, Step.partCount]
  | _, .key hk => by simp [Step.formFault?_eq_none, Step.partCount, hk]
  | _, .narrow hs => by simp [Step.formFault?_eq_none, Step.partCount, hs]
  | _, .filter hp => by
    have hp := Predicate.formed_of_inGrammar hp
    simp [Step.formFault?_eq_none, Step.partCount, hp]

theorem Predicate.formed_of_inGrammar : {p : Predicate} → p.InGrammar → p.formFault? = none
  | _, .all hne hps =>
    Predicate.formFault?_all hne fun p hp => Predicate.formed_of_inGrammar (hps p hp)
  | _, .any hne hps =>
    Predicate.formFault?_any hne fun p hp => Predicate.formed_of_inGrammar (hps p hp)
  | _, .negated hp => Predicate.formFault?_negated (Predicate.formed_of_inGrammar hp)
  | _, .test ht hs =>
    Test.formFault?_predicate ht fun s hm => Step.formed_of_inGrammar (hs s hm)

end

mutual

/-- What passes the check is in the grammar: it says nothing but one move or one form. -/
theorem Step.inGrammar_of_formed {s : Step} (h : s.formFault? = none) : s.InGrammar := by
  obtain ⟨m, hm, -⟩ := Step.exists_move (Step.formFault?_eq_none.mp h).1
  obtain ⟨hs, hp⟩ := Step.formed_move h hm
  rw [hs]
  cases m with
  | field name => exact .field (Step.move?_field_ne hm)
  | index i => exact .index
  | key k => exact .key (Step.move?_key_ne hm)
  | filter p =>
    have hsize := Step.sizeOf_filter hm
    exact .filter (Predicate.inGrammar_of_formed (hp p rfl))
  | narrow shape => exact .narrow (Step.move?_narrow_ne hm)
termination_by sizeOf s

theorem Predicate.inGrammar_of_formed {p : Predicate} (h : p.formFault? = none) :
    p.InGrammar := by
  cases hf : p.form with
  | all ps =>
    have hsize := Predicate.sizeOf_all hf
    obtain ⟨rfl, hps⟩ := Predicate.formed_all h hf
    refine .all (Predicate.form_eq_all.mp hf).2 fun q hq => ?_
    have hlt := List.sizeOf_lt_of_mem hq
    exact Predicate.inGrammar_of_formed (hps q hq)
  | any ps =>
    have hsize := Predicate.sizeOf_any hf
    obtain ⟨rfl, hps⟩ := Predicate.formed_any h hf
    refine .any (Predicate.form_eq_any.mp hf).2.2 fun q hq => ?_
    have hlt := List.sizeOf_lt_of_mem hq
    exact Predicate.inGrammar_of_formed (hps q hq)
  | negated q =>
    have hsize := Predicate.sizeOf_negated hf
    obtain ⟨rfl, hq⟩ := Predicate.formed_negated h hf
    exact .negated (Predicate.inGrammar_of_formed hq)
  | tests path ts =>
    have hsize := Predicate.sizeOf_path hf
    obtain ⟨t, rfl, ht, rfl, hs⟩ := Predicate.formed_tests h hf
    refine .test ht fun s hm => ?_
    have hlt := List.sizeOf_lt_of_mem hm
    exact Step.inGrammar_of_formed (hs s hm)
termination_by sizeOf p

end

end Formed

theorem Query.formFault?_eq_none_iff_inGrammar {q : Query} :
    q.formFault? = none ↔ q.InGrammar := by
  constructor
  · intro h
    cases hw : q.filterBy with
    | none =>
      refine .select ?_ hw fun s hs => Step.inGrammar_of_formed (formed_select h hw s hs)
      intro hs
      simp [formFault?, hs, hw] at h
    | some p =>
      exact .filterBy (select_eq_nil h hw) hw (Predicate.inGrammar_of_formed (formed_filterBy h hw))
  · rintro (⟨hne, hw, hs⟩ | ⟨hs, hw, hp⟩)
    · obtain ⟨s, rest, hq⟩ := List.exists_cons_of_ne_nil hne
      have hf := (stepsFault?_eq_none 0).mpr fun s hm => Step.formed_of_inGrammar (hs s hm)
      simpa [formFault?, hq, hw] using hf
    · simpa [formFault?, hs, hw] using Predicate.formed_of_inGrammar hp

namespace Document

variable {d : Document} {q : Query} {before after qs : List Query} {i : Nat} {seen : List String}

/-- A query that may come after queries with the names `seen`. -/
structure Follows (seen : List String) (q : Query) : Prop where
  named : q.name ≠ ""
  new : q.name ∉ seen
  formed : q.InGrammar

/-- Queries that may come, one by one, after queries with the names `seen`. -/
structure Follow (seen : List String) (qs : List Query) : Prop where
  named : ∀ q ∈ qs, q.name ≠ ""
  new : ∀ q ∈ qs, q.name ∉ seen
  distinct : (qs.map (·.name)).Nodup
  formed : ∀ q ∈ qs, q.InGrammar

theorem follow_nil : Follow seen [] := ⟨by simp, by simp, by simp, by simp⟩

theorem follow_cons : Follow seen (q :: qs) ↔ Follows seen q ∧ Follow (q.name :: seen) qs := by
  constructor
  · rintro ⟨hn, hs, hd, hf⟩
    simp only [List.forall_mem_cons, List.map_cons, List.nodup_cons, List.mem_map, not_exists,
      not_and] at hn hs hd hf
    refine ⟨⟨hn.1, hs.1, hf.1⟩, hn.2, fun p hp => ?_, hd.2, hf.2⟩
    rw [List.mem_cons, not_or]
    exact ⟨hd.1 p hp, hs.2 p hp⟩
  · rintro ⟨⟨hn, hs, hf⟩, hns, hss, hd, hfs⟩
    simp only [List.mem_cons, not_or] at hss
    refine ⟨List.forall_mem_cons.mpr ⟨hn, hns⟩,
      List.forall_mem_cons.mpr ⟨hs, fun p hp => (hss p hp).2⟩, ?_,
      List.forall_mem_cons.mpr ⟨hf, hfs⟩⟩
    rw [List.map_cons, List.nodup_cons, List.mem_map]
    refine ⟨?_, hd⟩
    rintro ⟨p, hp, he⟩
    exact (hss p hp).1 he

/-- One query that may follow is passed over, and its name is one that was seen from then on. -/
theorem queriesError?_cons (h : Follows seen q) :
    queriesError? i seen (q :: qs) = queriesError? (i + 1) (q.name :: seen) qs := by
  rw [queriesError?, if_neg h.named, if_neg h.new,
    Query.formFault?_eq_none_iff_inGrammar.mpr h.formed]

/-- So are all queries that may follow each other. -/
theorem queriesError?_append (h : Follow seen before) :
    queriesError? i seen (before ++ after)
      = queriesError? (i + before.length) ((before.map (·.name)).reverse ++ seen) after := by
  induction before generalizing i seen with
  | nil => rfl
  | cons q rest ih =>
    obtain ⟨hq, hr⟩ := follow_cons.mp h
    rw [List.cons_append, queriesError?_cons hq, ih hr]
    simp [Nat.add_assoc, Nat.add_comm 1]

/-- What is said of a query at position `i` that may not come after queries with the names `seen`.
Only what is wrong with the query beyond its name is reported under its name. -/
inductive OwnError (i : Nat) (seen : List String) (q : Query) : Error → Prop
  | unnamed : q.name = "" → OwnError i seen q (.cause (.unnamedQuery i))
  | duplicate : q.name ≠ "" → q.name ∈ seen → OwnError i seen q (.cause (.duplicateQuery q.name))
  | malformed {trail : List Context} {reason : Malformation} : q.name ≠ "" → q.name ∉ seen →
      ¬q.InGrammar → OwnError i seen q (.query q.name (.cause (.malformed trail reason)))

theorem exists_ownError (h : ¬Follows seen q) :
    ∃ e, queriesError? i seen (q :: qs) = some e ∧ OwnError i seen q e := by
  rw [queriesError?]
  by_cases hn : q.name = ""
  · exact ⟨_, if_pos hn, .unnamed hn⟩
  by_cases hs : q.name ∈ seen
  · rw [if_neg hn, if_pos hs]
    exact ⟨_, rfl, .duplicate hn hs⟩
  have hf : ¬q.InGrammar := fun hf => h ⟨hn, hs, hf⟩
  rw [if_neg hn, if_neg hs]
  cases hq : q.formFault? with
  | none => exact absurd (Query.formFault?_eq_none_iff_inGrammar.mp hq) hf
  | some fault => exact ⟨_, rfl, .malformed hn hs hf⟩

theorem exists_first_not_follows (h : ¬Follow seen qs) : ∃ before q after,
    qs = before ++ q :: after ∧ Follow seen before ∧
      ¬Follows ((before.map (·.name)).reverse ++ seen) q := by
  induction qs generalizing seen with
  | nil => exact absurd follow_nil h
  | cons q rest ih =>
    by_cases hq : Follows seen q
    · have hr : ¬Follow (q.name :: seen) rest := fun hr => h (follow_cons.mpr ⟨hq, hr⟩)
      obtain ⟨before, p, after, rfl, hb, hp⟩ := ih hr
      exact ⟨q :: before, p, after, rfl, follow_cons.mpr ⟨hq, hb⟩, by simpa using hp⟩
    · exact ⟨[], q, rest, rfl, follow_nil, hq⟩

theorem follows_reverse : Follows seen.reverse q ↔ Follows seen q := by
  constructor <;> rintro ⟨hn, hs, hf⟩
  · exact ⟨hn, by simpa using hs, hf⟩
  · exact ⟨hn, by simpa using hs, hf⟩

theorem OwnError.of_reverse {e : Error} (h : OwnError i seen.reverse q e) :
    OwnError i seen q e := by
  cases h with
  | unnamed hn => exact .unnamed hn
  | duplicate hn hs => exact .duplicate hn (by simpa using hs)
  | malformed hn hs hf => exact .malformed hn (by simpa using hs) hf

theorem OwnError.is_invalidDocument {e : Error} (h : OwnError i seen q e) :
    e.is .invalidDocument = true := by
  cases h <;> rfl

/-- `q` is the first query of a document that may not come after those before it. -/
structure FirstOffending (d : Document) (before : List Query) (q : Query) : Prop where
  place : ∃ after, d.queries = before ++ q :: after
  inOrder : Follow [] before
  offends : ¬Follows (before.map (·.name)) q

theorem inGrammar_iff_follow :
    d.InGrammar ↔ d.schema ≠ "" ∧ d.queries ≠ [] ∧ Follow [] d.queries := by
  constructor
  · rintro ⟨hs, hq, hn, hd, hf⟩
    exact ⟨hs, hq, hn, by simp, hd, hf⟩
  · rintro ⟨hs, hq, hn, -, hd, hf⟩
    exact ⟨hs, hq, hn, hd, hf⟩

theorem formError?_eq_queriesError? (hs : d.schema ≠ "") (hq : d.queries ≠ []) :
    d.formError? = queriesError? 0 [] d.queries := by
  rw [formError?, if_neg hs, if_neg (by simpa using hq)]

theorem formError?_of_inGrammar (h : d.InGrammar) : d.formError? = none := by
  obtain ⟨hs, hq, hf⟩ := inGrammar_iff_follow.mp h
  rw [formError?_eq_queriesError? hs hq, ← List.append_nil d.queries, queriesError?_append hf]
  rfl

/-- The first offending query decides the error. -/
theorem formError?_of_firstOffending (hs : d.schema ≠ "") (h : d.FirstOffending before q) :
    ∃ e, d.formError? = some e ∧ OwnError before.length (before.map (·.name)) q e := by
  obtain ⟨after, hq⟩ := h.place
  have hne : d.queries ≠ [] := by simp [hq]
  obtain ⟨e, he, ho⟩ := exists_ownError (i := before.length)
    (mt follows_reverse.mp h.offends)
  refine ⟨e, ?_, ho.of_reverse⟩
  rw [formError?_eq_queriesError? hs hne, hq, queriesError?_append h.inOrder]
  simpa using he

/-- A document outside of the grammar has no schema, no queries or a first offending query. -/
theorem exists_firstOffending (hs : d.schema ≠ "") (hq : d.queries ≠ []) (h : ¬d.InGrammar) :
    ∃ before q, d.FirstOffending before q := by
  have hf : ¬Follow [] d.queries := fun hf => h (inGrammar_iff_follow.mpr ⟨hs, hq, hf⟩)
  obtain ⟨before, q, after, he, hb, hn⟩ := exists_first_not_follows hf
  rw [List.append_nil] at hn
  exact ⟨before, q, ⟨after, he⟩, hb, mt follows_reverse.mpr hn⟩

/-- Why a document is refused. -/
inductive Refused (d : Document) : Error → Prop
  | noSchema : d.schema = "" → Refused d (.cause .noSchema)
  | noQueries : d.schema ≠ "" → d.queries = [] → Refused d (.cause .noQueries)
  | query {before : List Query} {q : Query} {e : Error} : d.schema ≠ "" →
      d.FirstOffending before q → OwnError before.length (before.map (·.name)) q e → Refused d e

theorem Refused.is_invalidDocument {e : Error} (h : d.Refused e) :
    e.is .invalidDocument = true := by
  cases h with
  | noSchema => rfl
  | noQueries => rfl
  | query _ _ ho => exact ho.is_invalidDocument

theorem exists_refused (h : ¬d.InGrammar) : ∃ e, d.formError? = some e ∧ d.Refused e := by
  by_cases hs : d.schema = ""
  · exact ⟨_, if_pos hs, .noSchema hs⟩
  by_cases hq : d.queries = []
  · refine ⟨_, ?_, .noQueries hs hq⟩
    rw [formError?, if_neg hs, if_pos (by simp [hq])]
  obtain ⟨before, q, hf⟩ := exists_firstOffending hs hq h
  obtain ⟨e, he, ho⟩ := formError?_of_firstOffending hs hf
  exact ⟨e, he, .query hs hf ho⟩

theorem formError?_eq_none_iff_inGrammar : d.formError? = none ↔ d.InGrammar := by
  refine ⟨fun h => ?_, formError?_of_inGrammar⟩
  by_contra hg
  obtain ⟨e, he, -⟩ := exists_refused hg
  cases h.symm.trans he

theorem refused_of_formError? {e : Error} (h : d.formError? = some e) : d.Refused e := by
  have hg : ¬d.InGrammar := by
    rw [← formError?_eq_none_iff_inGrammar, h]
    simp
  obtain ⟨other, ho, hr⟩ := exists_refused hg
  cases h.symm.trans ho
  exact hr

/-- The check takes exactly the documents of the grammar. A refusal is always that of an invalid
document, and it has the name of the first offending query unless that name is what is wrong. -/
theorem accepted_iff_inGrammar (d : Document) :
    (d.formError? = none ↔ d.InGrammar) ∧
    (∀ e, d.formError? = some e → d.Refused e ∧ e.is .invalidDocument = true) ∧
    ∀ before q, d.schema ≠ "" → d.FirstOffending before q → q.name ≠ "" →
      q.name ∉ before.map (·.name) →
      ∃ trail reason, d.formError? = some (.query q.name (.cause (.malformed trail reason))) := by
  refine ⟨formError?_eq_none_iff_inGrammar, fun e he => ?_, fun before q hs hf hn hd => ?_⟩
  · have hr := refused_of_formError? he
    exact ⟨hr, hr.is_invalidDocument⟩
  · obtain ⟨e, he, ho⟩ := formError?_of_firstOffending hs hf
    cases ho with
    | unnamed hn' => exact absurd hn' hn
    | duplicate _ hd' => exact absurd hd' hd
    | malformed => exact ⟨_, _, he⟩

/-- Asks for lines with a given key. -/
def linesQuery : Query :=
  { name := "lines"
    select := [{ field := "lines" }, { filter := some { any := [
      { path := [{ key := "sku" }], equals := .text "A1" },
      { path := [{ key := "sku" }], pattern := "^B" }] } }] }

/-- The path of a filter below a negation has a step that gives two of its parts. -/
def mixedQuery : Query :=
  { name := "mixed"
    filterBy := some { negated := some {
      path := [{ field := "lines" }, { filter := some {
        path := [{ field := "sku", key := "sku" }], equals := .text "A1" } }]
      notEquals := .bool true } } }

theorem mixedQuery_refused :
    Document.InGrammar { schema := "#Order", queries := [linesQuery] } ∧
    Document.FirstOffending { schema := "#Order", queries := [linesQuery, mixedQuery, linesQuery] }
      [linesQuery] mixedQuery ∧
    ∃ trail reason, Document.formError?
        { schema := "#Order", queries := [linesQuery, mixedQuery, linesQuery] }
      = some (.query "mixed" (.cause (.malformed trail reason))) := by
  have hl : linesQuery.InGrammar := Query.formFault?_eq_none_iff_inGrammar.mp rfl
  have hm : ¬mixedQuery.InGrammar := by
    intro h
    cases Query.formFault?_eq_none_iff_inGrammar.mpr h
  have hf : Document.FirstOffending
      { schema := "#Order", queries := [linesQuery, mixedQuery, linesQuery] }
      [linesQuery] mixedQuery :=
    ⟨⟨_, rfl⟩, follow_cons.mpr ⟨⟨by decide, by simp, hl⟩, follow_nil⟩, fun h => hm h.formed⟩
  refine ⟨(accepted_iff_inGrammar _).1.mp rfl, hf, ?_⟩
  exact (accepted_iff_inGrammar _).2.2 _ _ (by decide) hf (by decide) (by decide)

end Document

end TypedPath
