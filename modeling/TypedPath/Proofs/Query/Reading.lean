import TypedPath.Proofs.Query.Grammar
import TypedPath.Proofs.Query.Text
import TypedPath.Proofs.Query.Typing

/-! What can be read back from a path: the query without its name, without its narrowing steps, with
every value as the text of its literal and with every single condition combined by and. -/
namespace TypedPath

/-- A value that is given, as the text of its literal. -/
def Value.canonical (v : Value) : Value := if v.isAbsent then .absent else .text v.literalText

mutual

def Step.canonical : Step → Step
  | ⟨field, index, key, filter, narrowTo⟩ => ⟨field, index, key, canonicalOption filter, narrowTo⟩

/-- Steps without those that narrow. -/
def canonicalSteps : List Step → List Step
  | [] => []
  | s :: rest => if s.narrowTo = "" then s.canonical :: canonicalSteps rest else canonicalSteps rest

/-- A predicate as a path tells it. The only condition of an or is that of an and. -/
def Predicate.canonical : Predicate → Predicate
  | ⟨all, any, negated, path, eq, ne, gt, ge, lt, le, pattern⟩ =>
    let conditions := canonicalEach any
    let single := conditions.length = 1
    ⟨if single then canonicalEach all ++ conditions else canonicalEach all,
      if single then [] else conditions, canonicalOption negated, canonicalSteps path,
      eq.canonical, ne.canonical, gt.canonical, ge.canonical, lt.canonical, le.canonical, pattern⟩

def canonicalEach : List Predicate → List Predicate
  | [] => []
  | p :: rest => p.canonical :: canonicalEach rest

def canonicalOption : Option Predicate → Option Predicate
  | none => none
  | some p => some p.canonical

end

/-- A query as its path tells it. -/
def Query.canonical (q : Query) : Query :=
  { select := canonicalSteps q.select, filterBy := canonicalOption q.filterBy }

mutual

def Step.usesMatch : Step → Bool
  | ⟨_, _, _, filter, _⟩ => optionUsesMatch filter

def stepsUseMatch : List Step → Bool
  | [] => false
  | s :: rest => s.usesMatch || stepsUseMatch rest

/-- Whether a pattern is given anywhere in a predicate. -/
def Predicate.usesMatch : Predicate → Bool
  | ⟨all, any, negated, path, _, _, _, _, _, _, pattern⟩ =>
    pattern ≠ "" || eachUsesMatch all || eachUsesMatch any || optionUsesMatch negated
      || stepsUseMatch path

def eachUsesMatch : List Predicate → Bool
  | [] => false
  | p :: rest => p.usesMatch || eachUsesMatch rest

def optionUsesMatch : Option Predicate → Bool
  | none => false
  | some p => p.usesMatch

end

def Query.usesMatch (q : Query) : Bool := stepsUseMatch q.select || optionUsesMatch q.filterBy

section Canonical

variable {ps : List Predicate} {p : Predicate} {path : List Step} {rest : List Step}

theorem canonicalEach_eq_map : canonicalEach ps = ps.map (·.canonical) := by
  induction ps with
  | nil => rfl
  | cons p rest ih => simp [canonicalEach, ih]

theorem eachUsesMatch_eq_false : eachUsesMatch ps = false ↔ ∀ p ∈ ps, p.usesMatch = false := by
  induction ps with
  | nil => simp [eachUsesMatch]
  | cons p rest ih => simp [eachUsesMatch, ih]

theorem stepsUseMatch_cons {st : Step} :
    stepsUseMatch (st :: rest) = false ↔ st.usesMatch = false ∧ stepsUseMatch rest = false := by
  simp [stepsUseMatch]

/-- Where a value is not given, nothing is read. -/
@[simp] theorem Value.canonical_absent : Value.absent.canonical = .absent := rfl

theorem Junction.canonical_predicate (j : Junction) :
    (j.predicate ps).canonical = j.read (ps.map (·.canonical)) := by
  cases j with
  | all => simp [predicate, read, Predicate.canonical, canonicalEach_eq_map, canonicalEach,
      canonicalOption, canonicalSteps]
  | any =>
    by_cases hp : ps.length = 1 <;> simp [predicate, read, Predicate.canonical,
      canonicalEach_eq_map, canonicalEach, canonicalOption, canonicalSteps, hp]

theorem Junction.usesMatch_predicate (j : Junction) :
    (j.predicate ps).usesMatch = false ↔ ∀ p ∈ ps, p.usesMatch = false := by
  cases j <;> simp [predicate, Predicate.usesMatch, eachUsesMatch_eq_false, eachUsesMatch,
    optionUsesMatch, stepsUseMatch]

theorem canonical_negated :
    Predicate.canonical { negated := some p } = { negated := some p.canonical } := by
  simp [Predicate.canonical, canonicalEach, canonicalOption, canonicalSteps]

theorem canonical_compare {op : Operator} {v : Value} (hv : v ≠ .absent) :
    ((Test.compare op v).predicate path).canonical
      = (Test.compare op (.text v.literalText)).predicate (canonicalSteps path) := by
  have hc : v.canonical = .text v.literalText := by simp [Value.canonical, hv]
  cases op <;> simp [Test.predicate, Predicate.canonical, canonicalEach, canonicalOption, hc]

end Canonical

/-- What steps add to a path. -/
def stepsChars (steps : List Step) : List Char := steps.flatMap (·.text.toList)

theorem toList_stepsText (base : String) (steps : List Step) :
    (stepsText base steps).toList = base.toList ++ stepsChars steps := by
  induction steps generalizing base with
  | nil => simp [stepsText, stepsChars]
  | cons s rest ih => simp [stepsText, ih, stepsChars]

theorem intercalate_cons_eq (separator cs : List Char) (ds : List (List Char)) :
    separator.intercalate (cs :: ds) = cs ++ ds.flatMap (separator ++ ·) := by
  induction ds generalizing cs with
  | nil => simp
  | cons d ds ih => simp [List.intercalate_cons_cons, ih]

theorem stepsChars_cons {st : Step} {rest : List Step} {text : String} (h : st.text = text) :
    stepsChars (st :: rest) = text.toList ++ stepsChars rest := by
  rw [stepsChars, List.flatMap_cons, h, stepsChars]

/-- A combination is written as the phrases of its conditions. -/
theorem Junction.toList_text (j : Junction) (base : String) (p : Predicate) (ps : List Predicate) :
    ((j.predicate (p :: ps)).text base).toList = '(' :: ((p.text base).toList ++
      (phrasesTail j (ps.map fun q => ((q.text base).toList, q.canonical)) ++ [')'])) := by
  cases j with
  | all =>
    rw [predicate, text_all (by simp)]
    simp [intercalate_cons_eq, phrasesTail, separator, List.flatMap_map]
  | any =>
    rw [predicate, text_any (by simp)]
    simp [intercalate_cons_eq, phrasesTail, separator, List.flatMap_map]

theorem Junction.phrase {s : Shape} {b : Char} (j : Junction) {base : String} {ps : List Predicate}
    (hne : ps ≠ []) (h : ∀ p ∈ ps, Says s b (p.text base).toList p.canonical) :
    Says s b ((j.predicate ps).text base).toList (j.predicate ps).canonical := by
  cases ps with
  | nil => exact absurd rfl hne
  | cons p ps =>
    obtain ⟨hp, hps⟩ := List.forall_mem_cons.mp h
    have hg := @Says.group s b j ((p.text base).toList, p.canonical)
      (ps.map fun q => ((q.text base).toList, q.canonical)) hp
      (by simpa [List.forall_mem_map] using hps)
    rw [j.toList_text, j.canonical_predicate]
    simpa [Function.comp_def] using hg

/-- A value of no kind that has members or items has no path but its own. -/
theorem Spells.eq_nil_of_primitive {name : String} {s : Shape} {cs : List Char}
    {steps : List Step} (hs : (name, s) ∈ Shape.primitives) (h : Spells s cs steps) :
    cs = [] ∧ steps = [] := by
  simp only [Shape.primitives, List.mem_cons, Prod.mk.injEq, List.not_mem_nil, or_false] at hs
  cases h with
  | nil => exact ⟨rfl, rfl⟩
  | index n hu => rcases hu with rfl | rfl <;> simp [Shape.any, Shape.unknown] at hs
  | filter hu => rcases hu with (rfl | rfl) | rfl <;> simp [Shape.any, Shape.unknown] at hs
  | _ => simp [Shape.any, Shape.unknown] at hs

open Shape (Leads Admits)

/-- A test in a predicate without matches is a comparison. -/
theorem Test.eq_compare {t : Test} {path : List Step} (hg : t.Given)
    (hm : (t.predicate path).usesMatch = false) :
    (∃ op v, t = .compare op v) ∧ stepsUseMatch path = false := by
  cases t with
  | compare op v =>
    refine ⟨⟨op, v, rfl⟩, ?_⟩
    cases op <;> simpa [predicate, Predicate.usesMatch, eachUsesMatch, optionUsesMatch] using hm
  | fits pattern =>
    have hp : pattern ≠ "" := hg
    simp [predicate, Predicate.usesMatch, hp] at hm

theorem Shape.Takes.isLiteralText {t : Shape} {op : Operator} {v : Value}
    (h : t.Takes (.compare op v)) : Value.IsLiteralText v.literalText.toList := by
  obtain ⟨u, text, hv, -⟩ := takes_compare.mp h
  rw [Value.literalText, hv]
  exact Value.isLiteralText_literal hv

mutual

/-- Steps without matches are written as the grammar has it. -/
theorem Shape.Leads.spells {s t : Shape} {steps : List Step} (h : Leads s steps t)
    (hf : ∀ st ∈ steps, st.formFault? = none) (hm : stepsUseMatch steps = false) :
    Spells s (stepsChars steps) (canonicalSteps steps) := by
  match h with
  | .nil => exact .nil
  | @Leads.field _ _ m rest _ hmem h =>
    obtain ⟨hst, hrest⟩ := List.forall_mem_cons.mp hf
    have hr := h.spells hrest (stepsUseMatch_cons.mp hm).2
    have hne := Step.move?_field_ne (Move.formed_step (m := .field m.name) hst)
    have ht : Step.text { field := m.name } = "[" ++ Text.quote m.name ++ "]" := text_field hne
    rw [stepsChars_cons ht]
    simpa [canonicalSteps, Step.canonical, canonicalOption] using Spells.field hmem hr
  | @Leads.index _ _ _ i _ hs hi h =>
    obtain ⟨n, rfl⟩ := Int.eq_ofNat_of_zero_le hi
    have hr := h.spells (List.forall_mem_cons.mp hf).2 (stepsUseMatch_cons.mp hm).2
    have hn : (Int.repr n).toList = Decimal.digits n := Nat.toList_repr
    have ht : Step.text { index := some n } = "[" ++ toString (n : Int) ++ "]" := text_index n
    rw [stepsChars_cons ht]
    simpa [canonicalSteps, Step.canonical, canonicalOption, hn] using Spells.index n hs hr
  | @Leads.key _ _ k _ h =>
    obtain ⟨hst, hrest⟩ := List.forall_mem_cons.mp hf
    have hr := h.spells hrest (stepsUseMatch_cons.mp hm).2
    have hne := Step.move?_key_ne (Move.formed_step (m := .key k) hst)
    have ht : Step.text { key := k } = "[" ++ Text.quote k ++ "]" := text_key hne
    rw [stepsChars_cons ht]
    simpa [canonicalSteps, Step.canonical, canonicalOption] using Spells.key k hr
  | @Leads.filter _ u _ p _ hs hp h =>
    obtain ⟨hst, hrest⟩ := List.forall_mem_cons.mp hf
    obtain ⟨hmp, hmr⟩ := stepsUseMatch_cons.mp hm
    have hpf := (Step.formed_move hst (Move.formed_step (m := .filter p) hst)).2 p rfl
    have ht : Step.text { filter := some p } = "[?(" ++ p.text "@" ++ ")]" := text_filter
    have hat : "@".toList = ['@'] := by simp
    have hc := hp.phrase hat hpf hmp
    have hr := h.spells hrest hmr
    rw [stepsChars_cons ht]
    simpa [canonicalSteps, Step.canonical, canonicalOption] using Spells.filter hs hc hr
  | @Leads.narrow _ name _ _ rest hn h =>
    obtain ⟨hst, hrest⟩ := List.forall_mem_cons.mp hf
    have hr := h.spells hrest (stepsUseMatch_cons.mp hm).2
    -- Behind a narrowing step only narrowing steps can follow, and they leave no trace.
    obtain ⟨hcs, hsteps⟩ := hr.eq_nil_of_primitive hn
    have hne := Step.move?_narrow_ne (Move.formed_step (m := .narrow name) hst)
    have ht : Step.text { narrowTo := name } = "" := text_narrow
    rw [stepsChars_cons ht, hcs, canonicalSteps, if_neg hne, hsteps]
    exact .nil

theorem Shape.Admits.phrase {s : Shape} {p : Predicate} {b : Char} {base : String}
    (h : Admits s p) (hb : base.toList = [b]) (hf : p.formFault? = none)
    (hm : p.usesMatch = false) : Says s b (p.text base).toList p.canonical := by
  match h with
  | @Admits.all _ ps hne h =>
    have hp := Predicate.form_all hne
    have hps := (Predicate.formed_all hf hp).2
    have hms := (Junction.usesMatch_predicate .all).mp hm
    exact Junction.phrase .all hne fun p hp => (h p hp).phrase hb (hps p hp) (hms p hp)
  | @Admits.any _ ps hne h =>
    have hp := Predicate.form_any hne
    have hps := (Predicate.formed_any hf hp).2
    have hms := (Junction.usesMatch_predicate .any).mp hm
    exact Junction.phrase .any hne fun p hp => (h p hp).phrase hb (hps p hp) (hms p hp)
  | @Admits.negated _ q h =>
    have hp : Predicate.form { negated := some q } = .negated q := rfl
    have hmq : q.usesMatch = false := by
      simpa [Predicate.usesMatch, eachUsesMatch, optionUsesMatch, stepsUseMatch] using hm
    have hq := h.phrase hb (Predicate.formed_negated hf hp).2 hmq
    rw [text_negated, canonical_negated]
    simpa using Says.negation hq
  | @Admits.test _ _ path test h ht =>
    have hg := Test.given_of_formed hf
    obtain ⟨_, -, -, -, hpath⟩ := Predicate.formed_tests hf (Test.form_predicate hg)
    obtain ⟨⟨op, v, rfl⟩, hmp⟩ := Test.eq_compare hg hm
    have hs := Says.comparison (b := b) op (h.spells hpath hmp) ht.isLiteralText
    rw [text_test hg, canonical_compare hg]
    simpa [Test.text, toList_stepsText, hb] using hs

end

namespace Query

variable {s : Shape} {q q' : Query}

/-- The path of a query states its condition, or goes from the root along its steps. -/
theorem reading (hw : q.WellTyped s) (hf : q.formFault? = none) (hm : q.usesMatch = false) :
    (∃ p, Says s '$' q.text.toList p ∧ q.canonical = { filterBy := some p }) ∨
      ∃ cs steps, Spells s cs steps ∧ q.text.toList = '$' :: cs ∧
        q.canonical = { select := steps } := by
  obtain ⟨hms, hmf⟩ := Bool.or_eq_false_iff.mp hm
  have hroot : Node.root.toList = ['$'] := by simp [Node.root]
  unfold WellTyped at hw
  unfold text canonical
  cases hq : q.filterBy with
  | some p =>
    rw [hq] at hw hmf
    have hsel := select_eq_nil hf hq
    exact Or.inl ⟨_, hw.phrase hroot (formed_filterBy hf hq) hmf, by rw [hsel]; rfl⟩
  | none =>
    rw [hq] at hw
    obtain ⟨t, hl⟩ := hw
    exact Or.inr ⟨_, _, hl.spells (formed_select hf hq) hms,
      by rw [toList_stepsText, hroot]; rfl, rfl⟩

/-- A path that goes along steps ends where a comparison has its operator. -/
theorem spells_ne_condition {cs : List Char} {steps : List Step} {p : Predicate}
    (hb : s.RecordsBuilt) (h : Spells s cs steps) (hp : Says s '$' ('$' :: cs) p) : False := by
  generalize hds : '$' :: cs = ds at hp
  cases hp with
  | comparison op h' ht =>
    have hend : EndsSteps [] := by simp [EndsSteps]
    have heq := (List.cons.inj hds).2
    rw [← List.append_nil cs] at heq
    have hxy := (h.reads hb _ _ _ _ h' hend (by simp [EndsSteps]) heq).2
    simp at hxy
  | _ => simp at hds

theorem canonical_eq_of_text_eq (hb : s.RecordsBuilt) (hw : q.WellTyped s) (hw' : q'.WellTyped s)
    (hf : q.formFault? = none) (hf' : q'.formFault? = none) (hm : q.usesMatch = false)
    (hm' : q'.usesMatch = false) (h : q.text = q'.text) : q.canonical = q'.canonical := by
  have ht : q.text.toList = q'.text.toList := by rw [h]
  rcases reading hw hf hm with ⟨p, hp, hc⟩ | ⟨cs, steps, hs, hcs, hc⟩ <;>
    rcases reading hw' hf' hm' with ⟨p', hp', hc'⟩ | ⟨cs', steps', hs', hcs', hc'⟩
  · have hend : EndsCondition [] := by simp [EndsCondition]
    obtain ⟨rfl, -⟩ := hp.reads hb (by decide) _ _ [] [] hp' hend hend (by rw [ht])
    rw [hc, hc']
  · rw [ht, hcs'] at hp
    exact (spells_ne_condition hb hs' hp).elim
  · rw [← ht, hcs] at hp'
    exact (spells_ne_condition hb hs hp').elim
  · have hend : EndsSteps [] := by simp [EndsSteps]
    rw [hcs, hcs'] at ht
    obtain ⟨rfl, -⟩ := hs.reads hb _ _ [] [] hs' hend hend (by rw [(List.cons.inj ht).2])
    rw [hc, hc']

/-- Queries without matches that have the same path on one schema are the same, but for what a path
does not tell. -/
theorem canonical_eq_of_path_eq {root : Node} {r r' : Compiled} (hb : s.RecordsBuilt)
    (hr : Node.ofShape s = .ok root) (hf : q.formFault? = none) (hf' : q'.formFault? = none)
    (hm : q.usesMatch = false) (hm' : q'.usesMatch = false) (hc : q.compile root = .ok r)
    (hc' : q'.compile root = .ok r') (h : r.path = r'.path) : q.canonical = q'.canonical := by
  have typed {q : Query} {r : Compiled} (hf : q.formFault? = none)
      (hc : q.compile root = .ok r) : q.WellTyped s := by
    obtain ⟨n, hn, -⟩ := (compile_eq_ok hr).mp hc
    exact (exists_builds_iff hb hf).mp ⟨n, hn⟩
  rw [compile_eq_text hr hf hc, compile_eq_text hr hf' hc'] at h
  exact canonical_eq_of_text_eq hb (typed hf hc) (typed hf' hc') hf hf' hm hm' h

/-- Orders by a tag and a number that is written in one of several ways. -/
def tagQuery (name shape : String) (three : Value) (j : Junction) : Query :=
  { name
    filterBy := some { any := [
      { path := [{ field := "tags" }, { filter := some (j.predicate [{ equals := .text "it's" }]) },
          { index := some 0 }]
        notEquals := .text "b" },
      { negated := some {
          path := [{ field := "extra" }, { narrowTo := shape }]
          greater := three } }] } }

theorem orderShape_recordsBuilt : orderShape.RecordsBuilt := by
  simp only [orderShape, Shape.recordsBuilt_record, List.forall_mem_cons, Shape.recordsBuilt_set]
  refine ⟨rfl, ?_, ?_, by simp⟩ <;> rintro _ _ ⟨⟩

theorem tagQuery_canonical_eq :
    ∃ root r r', orderShape.RecordsBuilt ∧ Node.ofShape orderShape = .ok root ∧
      (tagQuery "one" "integer" (.integer .int 3) .all).compile root = .ok r ∧
      (tagQuery "two" "number" (.decimal ⟨30, -1⟩) .any).compile root = .ok r' ∧
      r.path = "($['tags'][?((@ == 'it\\'s'))][0] != 'b' || (!$['extra'] > 3))" ∧
      r.path = r'.path ∧
      (tagQuery "one" "integer" (.integer .int 3) .all).canonical
        = (tagQuery "two" "number" (.decimal ⟨30, -1⟩) .any).canonical :=
  ⟨_, _, _, orderShape_recordsBuilt, rfl, rfl, rfl, rfl, rfl,
    canonical_eq_of_path_eq orderShape_recordsBuilt rfl rfl rfl rfl rfl rfl rfl rfl⟩

end Query

end TypedPath
