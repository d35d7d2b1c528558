import Mathlib.Data.List.Forall2
import TypedPath.Command.Run
import TypedPath.Proofs.Report.Shown

/-! Compiling a document stops at the first query that its schema refuses. Validating it goes on and
collects them all. Both say the same of every query. -/
namespace TypedPath

/-- Whether the schema behind `root` takes a query. -/
def Query.isTaken (root : Node) (q : Query) : Bool := (q.compile root).isOk

/-- A rejection names a refused query and has the code of its error. The message leaves the name
out. -/
def Rejection.Explains (root : Node) (q : Query) (x : Rejection) : Prop :=
  ∃ e, q.compile root = .error (.query q.name e) ∧
    x = ⟨q.name, (Error.query q.name e).code, e.message⟩

/-- The message with the name of the query. -/
def Rejection.fullMessage (x : Rejection) : String :=
  "query " ++ Text.escaped x.query ++ ": " ++ x.message

section Queries

variable {root : Node} {q : Query} {c : Compiled} {e : Error} {queries done rest : List Query}
  {r : Review}

/-- A result and an error both carry the name of the query. -/
theorem Query.compile_cases (root : Node) (q : Query) :
    (∃ c, q.compile root = .ok c ∧ c.name = q.name) ∨
      ∃ e, q.compile root = .error (.query q.name e) := by
  cases hb : q.build root with
  | error e => exact .inr ⟨e, by simp only [compile, hb]⟩
  | ok n =>
    cases hp : n.compile with
    | error e => exact .inr ⟨e, by simp only [compile, hb, hp]⟩
    | ok path =>
      exact .inl ⟨⟨q.name, path, Node.queryId path⟩, by simp only [compile, hb, hp], rfl⟩

theorem Query.isTaken_of_ok (h : q.compile root = .ok c) : q.isTaken root = true := by
  rw [isTaken, h]
  rfl

theorem Query.isTaken_of_error (h : q.compile root = .error e) : q.isTaken root = false := by
  rw [isTaken, h]
  rfl

/-- What a review says of queries: the names of those that are taken and a rejection for each of the
others, both in their order. -/
structure Review.Covers (root : Node) (queries : List Query) (r : Review) : Prop where
  passed : r.passed = (queries.filter (·.isTaken root)).map (·.name)
  rejected : List.Forall₂ (Rejection.Explains root) (queries.filter (!·.isTaken root)) r.rejected
  valid : r.valid = true ↔ r.rejected = []

/-- One more query goes to the end of one of the lists. -/
theorem Review.Covers.add (h : r.Covers root done) (q : Query) :
    (r.add root q).Covers root (done ++ [q]) := by
  rcases q.compile_cases root with ⟨c, hc, -⟩ | ⟨e, he⟩
  · have ht := Query.isTaken_of_ok hc
    have hadd : r.add root q = { r with passed := r.passed ++ [q.name] } := by
      simp only [Review.add, hc]
    rw [hadd]
    refine ⟨?_, ?_, h.valid⟩
    · simp [h.passed, ht]
    · simpa [ht] using h.rejected
  · have ht := Query.isTaken_of_error he
    have hadd : r.add root q = { r with
        valid := false
        rejected := r.rejected ++ [⟨q.name, (Error.query q.name e).code, e.message⟩] } := by
      simp only [Review.add, he, Error.ofQuery]
    rw [hadd]
    refine ⟨?_, ?_, by simp⟩
    · simpa [ht] using h.passed
    · have hone : List.Forall₂ (Rejection.Explains root) [q]
          [⟨q.name, (Error.query q.name e).code, e.message⟩] := .cons ⟨e, he, rfl⟩ .nil
      simpa [ht] using List.rel_append h.rejected hone

theorem Review.Covers.foldl (h : r.Covers root done) (rest : List Query) :
    (rest.foldl (Review.add root) r).Covers root (done ++ rest) := by
  induction rest generalizing r done with
  | nil => simpa using h
  | cons q rest ih => simpa using ih (h.add q)

theorem Review.add_checked (root : Node) (r : Review) (q : Query) :
    (r.add root q).checked = r.checked := by
  unfold Review.add
  split <;> rfl

theorem Review.foldl_add_checked (root : Node) (r : Review) (queries : List Query) :
    (queries.foldl (Review.add root) r).checked = r.checked := by
  induction queries generalizing r with
  | nil => rfl
  | cons q rest ih => rw [List.foldl_cons, ih, add_checked]

theorem Document.review_covers (d : Document) (root : Node) :
    (d.review root).Covers root d.queries := by
  have hstart : ({ checked := d.queries.length } : Review).Covers root [] := ⟨rfl, .nil, by simp⟩
  simpa [review] using hstart.foldl d.queries

/-- Every query is counted once. -/
theorem Document.review_checked (d : Document) (root : Node) :
    (d.review root).checked = (d.review root).passed.length + (d.review root).rejected.length := by
  have h := d.review_covers root
  rw [h.passed, ← h.rejected.length_eq, List.length_map, review, Review.foldl_add_checked]
  exact List.length_eq_length_filter_add _

theorem mapM_compile_eq_ok (h : queries.filter (!·.isTaken root) = []) :
    ∃ results, queries.mapM (·.compile root) = .ok results ∧
      List.Forall₂ (fun q c => q.compile root = .ok c ∧ c.name = q.name) queries results := by
  induction queries with
  | nil => exact ⟨[], rfl, .nil⟩
  | cons q rest ih =>
    rcases q.compile_cases root with ⟨c, hc, hn⟩ | ⟨e, he⟩
    · rw [List.filter_cons, Query.isTaken_of_ok hc] at h
      obtain ⟨results, hr, hall⟩ := ih h
      refine ⟨c :: results, ?_, .cons ⟨hc, hn⟩ hall⟩
      rw [List.mapM_cons, hc, hr]
      rfl
    · simp [Query.isTaken_of_error he] at h

/-- The error of the first query that is refused stops a compilation. -/
theorem mapM_compile_eq_error (h : queries.filter (!·.isTaken root) = q :: rest)
    (he : q.compile root = .error e) : queries.mapM (·.compile root) = .error e := by
  induction queries with
  | nil => cases h
  | cons p queries ih =>
    rcases p.compile_cases root with ⟨c, hc, -⟩ | ⟨e', he'⟩
    · rw [List.filter_cons, Query.isTaken_of_ok hc] at h
      rw [List.mapM_cons, hc, ih h]
      rfl
    · rw [List.filter_cons, Query.isTaken_of_error he'] at h
      obtain ⟨rfl, -⟩ := List.cons.inj h
      rw [List.mapM_cons, he]
      rfl

namespace Document

/-- A document compiles if no query is rejected, to one result for each query. -/
theorem compile_of_all_taken {d : Document} (h : (d.review root).rejected = []) :
    ∃ results, d.compile root = .ok results ∧
      List.Forall₂ (fun q c => q.compile root = .ok c ∧ c.name = q.name) d.queries results := by
  have hr := (d.review_covers root).rejected
  rw [h, List.forall₂_nil_right_iff] at hr
  exact mapM_compile_eq_ok hr

/-- Otherwise it fails with the error of the query that is rejected first. -/
theorem compile_of_rejected {d : Document} {first : Rejection} {others : List Rejection}
    (h : (d.review root).rejected = first :: others) :
    ∃ e, d.compile root = .error e ∧ e.code = first.code ∧ e.message = first.fullMessage := by
  have hr := (d.review_covers root).rejected
  rw [h, List.forall₂_cons_right_iff] at hr
  obtain ⟨q, rest, ⟨e, he, rfl⟩, -, hq⟩ := hr
  exact ⟨_, mapM_compile_eq_error hq he, rfl, rfl⟩

end Document

end Queries

/-- Log lines, of which there are none unless they are asked for. -/
def Formatter.Logs (f : Formatter) (w : Written) : Prop := f.verbose = false → w = {}

section Logs

variable {f : Formatter} {v w : Written}

theorem Formatter.logs_log (message : String) (attributes : List (String × String)) :
    f.Logs (f.log message attributes) := by
  intro hv
  simp [log, hv]

theorem Formatter.Logs.append (hv : f.Logs v) (hw : f.Logs w) : f.Logs (v ++ w) := by
  intro h
  rw [hv h, hw h]
  rfl

theorem Formatter.logs_all {ws : List Written} (h : ∀ w ∈ ws, f.Logs w) : f.Logs (.all ws) := by
  have hfold : ∀ v, f.Logs v → f.Logs (ws.foldl (· ++ ·) v) := by
    induction ws with
    | nil => exact fun v hv => hv
    | cons w ws ih =>
      obtain ⟨hw, hws⟩ := List.forall_mem_cons.mp h
      exact fun v hv => ih hws _ (hv.append hw)
  exact hfold {} fun _ => rfl

end Logs

namespace Answer

variable (f : Formatter)

theorem ofReview_of_rejected {root : Node} {queries : List Query} {r : Review}
    {first : Rejection} {others : List Rejection} (h : r.Covers root queries)
    (hr : r.rejected = first :: others) : ofReview f r = ofInvalid f r first := by
  have hv : r.valid ≠ true := by simp [h.valid, hr]
  rw [ofReview, if_neg hv]
  simp only [hr]

/-- A review is a success exactly if it rejects no query. -/
theorem exitCode_ofReview {root : Node} {queries : List Query} {r : Review}
    (h : r.Covers root queries) :
    (ofReview f r).exitCode = if r.rejected = [] then 0 else 1 := by
  cases hr : r.rejected with
  | nil =>
    rw [ofReview, if_pos (h.valid.mpr hr)]
    rfl
  | cons first others =>
    rw [ofReview_of_rejected f h hr]
    rfl

/-- What compiling writes of the query that stops it. -/
def stopped (x : Rejection) : Written :=
  if f.isJson then f.error x.code x.fullMessage .absent
  else f.cross "Compilation failed" ++ .lines ["", "  " ++ x.code ++ ": " ++ x.fullMessage]

theorem shows_stopped (x : Rejection) :
    ∀ s ∈ [x.code, x.fullMessage], f.Shows (stopped f x) s := by
  rw [stopped]
  cases hf : f.isJson with
  | true => exact Formatter.shows_error _ _ _ f
  | false =>
    intro s hs
    have hline : "  " ++ x.code ++ ": " ++ x.fullMessage ∈
        ["", "  " ++ x.code ++ ": " ++ x.fullMessage] := .tail _ (.head _)
    exact (Formatter.shows_of_isInfix hf (Written.isInfix_codeLine hline s hs)).after _

theorem mentions_rejection {r : Review} {x : Rejection} (hx : x ∈ r.rejected) :
    ∀ s ∈ [x.query, x.code, x.message], r.data.Mentions s := by
  intro s hs
  have hmem : x.data ∈ r.rejected.map (·.data) := List.mem_map_of_mem hx
  have hne : r.rejected.isEmpty = false :=
    List.isEmpty_eq_false_iff.mpr (List.ne_nil_of_mem hx)
  have hdata : x.data.Mentions s := by
    simp only [List.mem_cons, List.not_mem_nil, or_false] at hs
    rcases hs with rfl | rfl | rfl
    · exact .field (.head _) .text
    · exact .field (.tail _ (.head _)) .text
    · exact .field (.tail _ (.tail _ (.head _))) .text
  rw [Review.data, hne]
  exact .field (.tail _ (.tail _ (.head _))) (.item hmem hdata)

/-- In text a rejection takes two lines. The first has the name of the query. -/
theorem isInfix_rejection (x : Rejection) : ∀ s ∈ [x.query, x.code, x.message],
    s.toList <:+: (f.cross x.query ++ .lines ["  " ++ x.code ++ ": " ++ x.message]).out.toList := by
  intro s hs
  rw [Written.out_append, String.toList_append]
  rcases List.mem_cons.mp hs with rfl | hs
  · have hname : x.query.toList <:+: (f.paint .red "✗" ++ " " ++ x.query).toList := by
      rw [String.toList_append]
      exact List.infix_append_right
    have hline := hname.trans (Written.isInfix_lines (List.mem_singleton_self _))
    exact hline.trans List.infix_append_left
  · refine List.IsInfix.trans ?_ List.infix_append_right
    exact Written.isInfix_codeLine (List.mem_singleton_self _) s hs

theorem shows_ofInvalid {r : Review} {x : Rejection} (hx : x ∈ r.rejected) (first : Rejection) :
    ∀ s ∈ [x.query, x.code, x.message], f.Shows (ofInvalid f r first).written s := by
  intro s hs
  rw [ofInvalid]
  cases hf : f.isJson with
  | true =>
    exact Formatter.shows_json hf (.field (.tail _ (.head _)) (mentions_rejection hx s hs)) (some 0)
  | false =>
    have hentry := Written.isInfix_all (List.mem_map_of_mem hx
      (f := fun x => f.cross x.query ++ .lines ["  " ++ x.code ++ ": " ++ x.message]))
    refine Formatter.shows_of_isInfix hf ((isInfix_rejection f x s hs).trans (hentry.trans ?_))
    rw [if_neg Bool.false_ne_true]
    simp only [Written.out_append, String.toList_append, List.append_assoc]
    exact List.infix_append' _ _ _

/-- The review of a document names every query that it rejects, and tells why. -/
theorem shows_ofReview {root : Node} {queries : List Query} {r : Review} {x : Rejection}
    (h : r.Covers root queries) (hx : x ∈ r.rejected) :
    ∀ s ∈ [x.query, x.code, x.message], f.Shows (ofReview f r).written s := by
  cases hr : r.rejected with
  | nil =>
    rw [hr] at hx
    cases hx
  | cons first others =>
    rw [ofReview_of_rejected f h hr]
    exact shows_ofInvalid f hx first

end Answer

/-- The files after a result is saved. Without a name for it there is nothing to do. -/
def Files.save (files : Files) (file text : String) : Except FileError Files :=
  if file = "" then .ok files else files.write file text

namespace Command

variable (f : Formatter) (files : Files)

/-- What validating a document comes to: its review is reported, with every query that is rejected,
and decides the exit code. -/
structure Validates (d : Document) (root : Node) (validated : Answer × Files) : Prop where
  covers : (d.review root).Covers root d.queries
  checked : (d.review root).checked
    = (d.review root).passed.length + (d.review root).rejected.length
  answer : ∃ log, f.Logs log ∧ validated = (.after log (.ofReview f (d.review root)), files)
  shown : ∀ x ∈ (d.review root).rejected, ∀ s ∈ [x.query, x.code, x.message],
    f.Shows validated.1.written s
  exitCode : validated.1.exitCode = if (d.review root).rejected = [] then 0 else 1

/-- What compiling a document comes to, told by its review: the results are saved under the name
`file` if no query is rejected, and the query that is rejected first is reported otherwise. -/
structure Compiles (d : Document) (loaded : Loaded) (file : String) (compiled : Answer × Files) :
    Prop where
  taken : (d.review loaded.root).rejected = [] → ∃ results,
    d.compile loaded.root = .ok results ∧
    List.Forall₂ (fun q c => q.compile loaded.root = .ok c ∧ c.name = q.name) d.queries results ∧
    match files.save file (Compilation.mk loaded.definition results).data.indented with
    | .ok saved => compiled.1.exitCode = 0 ∧ compiled.2 = saved
    | .error _ => compiled.1.exitCode = 2 ∧ compiled.2 = files
  refused : ∀ first others, (d.review loaded.root).rejected = first :: others →
    (∃ e, d.compile loaded.root = .error e) ∧ compiled.1.exitCode = 2 ∧ compiled.2 = files ∧
    (∃ log, f.Logs log ∧ compiled.1.written = log ++ Answer.stopped f first) ∧
    ∀ s ∈ [first.code, first.fullMessage], f.Shows compiled.1.written s

section Document

variable (directory file : String) (d : Document) (loaded : Loaded)

theorem logs_compile : f.Logs (logLoaded f directory loaded
    ++ .all ((d.compiledBeforeError loaded.root).map (logCompiled f))) := by
  refine (Formatter.logs_log _ _).append (Formatter.logs_all ?_)
  rw [List.forall_mem_map]
  exact fun c _ => Formatter.logs_log _ _

theorem validates : Validates f files d loaded.root (validate f (.ok ⟨d, loaded⟩), files) := by
  have hcovers := d.review_covers loaded.root
  refine ⟨hcovers, d.review_checked loaded.root, ⟨_, Formatter.logs_all ?_, rfl⟩, ?_,
    Answer.exitCode_ofReview f hcovers⟩
  · rw [List.forall_mem_map]
    intro q _
    refine (Formatter.logs_log _ _).append ?_
    split
    · exact Formatter.logs_log _ _
    · exact fun _ => rfl
  · intro x hx s hs
    exact (Answer.shows_ofReview f hcovers hx s hs).after _

theorem compiles : Compiles f files d loaded file
    (compile f files directory file (.ok ⟨d, loaded⟩)) := by
  constructor
  · intro hr
    obtain ⟨results, hc, hall⟩ := Document.compile_of_all_taken hr
    refine ⟨results, hc, hall, ?_⟩
    by_cases hf : file = ""
    · rw [Files.save, if_pos hf, compile]
      simp only [hc, if_pos hf]
      exact ⟨rfl, trivial⟩
    · rw [Files.save, if_neg hf, compile]
      simp only [hc, if_neg hf]
      cases files.write file (Compilation.mk loaded.definition results).data.indented with
      | error e => exact ⟨rfl, rfl⟩
      | ok saved => exact ⟨rfl, rfl⟩
  · intro first others hr
    obtain ⟨e, he, hcode, hmessage⟩ := Document.compile_of_rejected hr
    have hstop : compile f files directory file (.ok ⟨d, loaded⟩)
        = (.after (logLoaded f directory loaded
            ++ .all ((d.compiledBeforeError loaded.root).map (logCompiled f)))
          (.ofCompilationError f e), files) := by
      simp only [compile, he]
    rw [hstop]
    have hwritten : (Answer.ofCompilationError f e).written = Answer.stopped f first := by
      rw [Answer.stopped, ← hcode, ← hmessage]
      rfl
    refine ⟨⟨e, he⟩, rfl, rfl, ⟨_, logs_compile f directory d loaded, ?_⟩, fun s hs => ?_⟩
    · rw [Answer.after, hwritten]
    · rw [Answer.after, hwritten]
      exact (Answer.shows_stopped f first s hs).after _

end Document

/-- Compiling and validating agree on everything that can be in the files. Where the document cannot
be loaded, they give the same answer, which shows the code and the message of the fault. -/
theorem compile_agrees_with_validate (o : Options) (directory name : String) :
    (∀ fault, files.source directory name = .error fault → ∃ answer : Answer,
      ofVerb f files o directory name .compile = (answer, files) ∧
      ofVerb f files o directory name .validate = (answer, files) ∧
      answer.exitCode = 2 ∧
      (∃ place, answer.written = f.error fault.code fault.message place) ∧
      ∀ s ∈ [fault.code, fault.message], f.Shows answer.written s) ∧
    ∀ d loaded, files.source directory name = .ok ⟨d, loaded⟩ →
      Validates f files d loaded.root (ofVerb f files o directory name .validate) ∧
      Compiles f files d loaded o.output (ofVerb f files o directory name .compile) := by
  constructor
  · intro fault hs
    rw [ofVerb, ofVerb, hs]
    exact ⟨_, rfl, rfl, rfl, ⟨_, rfl⟩, Formatter.shows_error _ _ _ f⟩
  · intro d loaded hs
    rw [ofVerb, ofVerb, hs]
    exact ⟨validates f files d loaded, compiles f files directory o.output d loaded⟩

theorem toOption_eq_some {ε α : Type} {r : Except ε α} {a : α} :
    r.toOption = some a ↔ r = .ok a := by
  cases r <;> simp [Except.toOption]

/-- A schema and a document of two queries, of which the schema refuses the second. -/
def shelfFiles : Files :=
  { here := []
    entries := [
      (["schema", "shelf.cue"], .file "package schema\n#Shelf: title: string\n"),
      (["queries.yaml"], .file ("schema: Shelf\nqueries:\n"
        ++ "- name: title\n  select:\n  - field: title\n"
        ++ "- name: label\n  select:\n  - field: label\n"))] }

theorem shelfFiles_reviewed : (shelfFiles.source "schema" "queries.yaml").toOption.map (fun s =>
      let r := s.document.review s.loaded.root
      (r.passed, r.rejected.map (·.query))) = some (["title"], ["label"]) := by
  decide +kernel

theorem shelfFiles_agree :
    (∃ answer : Answer,
      ofVerb { format := "json" } shelfFiles {} "schema" "other.yaml" .compile =
        (answer, shelfFiles) ∧
      ∀ s ∈ ["E005", "query file not found: other.yaml"],
        Formatter.Shows { format := "json" } answer.written s) ∧
    ∃ d loaded,
    shelfFiles.source "schema" "queries.yaml" = .ok ⟨d, loaded⟩ ∧
    (d.review loaded.root).passed = ["title"] ∧
    (d.review loaded.root).rejected.map (·.query) = ["label"] ∧
    Validates {} shelfFiles d loaded.root
      (ofVerb {} shelfFiles {} "schema" "queries.yaml" .validate) ∧
    Compiles {} shelfFiles d loaded ""
      (ofVerb {} shelfFiles {} "schema" "queries.yaml" .compile) := by
  obtain ⟨source, hs, hlists⟩ := Option.map_eq_some_iff.mp shelfFiles_reviewed
  obtain ⟨hpassed, hrejected⟩ := Prod.mk.inj hlists
  have hok : shelfFiles.source "schema" "queries.yaml" = .ok source := toOption_eq_some.mp hs
  have hagree := (compile_agrees_with_validate {} shelfFiles {} "schema" "queries.yaml").2
  obtain ⟨answer, hc, -, -, -, hshown⟩ :=
    (compile_agrees_with_validate { format := "json" } shelfFiles {} "schema" "other.yaml").1 _ rfl
  exact ⟨⟨answer, hc, hshown⟩, source.document, source.loaded, hok, hpassed, hrejected,
    hagree _ _ hok⟩

end Command

end TypedPath
