import TypedPath.Proofs.Query.Sound

/-! Why a query is refused. An error is one cause in the contexts that lead to it, and the cause
arises at a step or a predicate that the query comes to. Nothing that a query builds is refused
later. -/
namespace TypedPath

/-- An error that is one cause, in whatever contexts. -/
inductive Error.Wraps (c : Cause) : Error → Prop
  | cause : Wraps c (.cause c)
  | within {e : Error} (k : Context) : Wraps c e → Wraps c (.within k e)
  | query {e : Error} (name : String) : Wraps c e → Wraps c (.query name e)

/-- An error of a value that does not take what is asked of it. -/
def Error.Misfit (e : Error) : Prop :=
  ∃ c, e.Wraps c ∧ (c.sentinel = .typeMismatch ∨ c.sentinel = .invalidKey)

section Error

variable {α β : Type} {c : Cause} {e err : Error} {k : Context} {r : Except Error α}

theorem Error.Wraps.sentinels_eq (h : e.Wraps c) : e.sentinels = [c.sentinel] := by
  induction h with
  | cause => simp [sentinels]
  | within k _ ih => simpa [sentinels] using ih
  | query name _ ih => simpa [sentinels] using ih

theorem Error.Wraps.loadFault?_eq (h : e.Wraps c) : e.loadFault? = none := by
  induction h with
  | cause => simp [loadFault?]
  | within k _ ih => simpa [loadFault?] using ih
  | query name _ ih => simpa [loadFault?] using ih

theorem Error.Wraps.is_iff (h : e.Wraps c) (s : Sentinel) : e.is s = true ↔ s = c.sentinel := by
  simp [is, h.sentinels_eq]

theorem Error.Wraps.inside (h : e.Wraps c) (k : Context) : (e.inside k).Wraps c := by
  cases h with
  | cause => exact .within k .cause
  | within l h => exact .within k (.within l h)
  | query name h => exact .within k (.query name h)

theorem Error.Misfit.inside (h : e.Misfit) (k : Context) : (e.inside k).Misfit := by
  obtain ⟨c, hc, hs⟩ := h
  exact ⟨c, hc.inside k, hs⟩

theorem inContext_eq_error :
    inContext k r = .error err ↔ ∃ e, r = .error e ∧ err = e.inside k := by
  cases r <;> simp [inContext, Except.mapError, eq_comm]

theorem map_eq_error {f : α → β} : r.map f = .error err ↔ r = .error err := by
  cases r <;> simp [Except.map]

end Error

namespace Value

theorem literal_misfit {v : Value} {err : Error} (h : v.literal = .error err) : err.Misfit := by
  have hf (format : FloatFormat) (x : Floating)
      (h : (floatingText format x).map (fun t => (Shape.number, t)) = .error err) :
      err.Misfit := by
    unfold floatingText at h
    split at h
    · simp [Except.map] at h
    · cases map_eq_error.mp h
      exact ⟨_, .cause, .inl rfl⟩
  cases v with
  | text | integer | decimal | bool => simp [literal] at h
  | single x => exact hf _ x h
  | double x => exact hf _ x h
  | absent | other =>
    cases h
    exact ⟨_, .cause, .inl rfl⟩

end Value

namespace Node

variable {s : Shape} {e n : Node} {err : Error}

theorem as_misfit {t : NodeType} (h : n.as t = .error err) : err.Misfit := by
  unfold as at h
  split at h
  · cases h
  · cases h
    exact ⟨_, .cause, .inl rfl⟩

theorem inContext_as_misfit {k : Context} {t : NodeType}
    (h : inContext k (n.as t) = .error err) : err.Misfit := by
  obtain ⟨e, he, rfl⟩ := inContext_eq_error.mp h
  exact (as_misfit he).inside k

theorem operand_misfit {want : Family} {v : Value} (h : operand want (.value v) = .error err) :
    err.Misfit := by
  rw [operand_value] at h
  cases hv : ofValue v with
  | error e =>
    rw [hv] at h
    cases h
    exact Value.literal_misfit (map_eq_error.mp hv)
  | ok m =>
    rw [hv, ok_bind, ofFamily] at h
    obtain ⟨u, text, -, rfl⟩ := ofValue_eq_ok.mp hv
    simp only [shape?] at h
    split at h
    · cases h
    · cases h
      exact ⟨_, .cause, .inl rfl⟩

section Operations

variable (hs : s.check = .ok ())
include hs

theorem member_misfit {name : String} (h : (s.accessor e).member name = .error err) :
    err.Misfit := by
  cases s with
  | record record ms =>
    simp only [Shape.accessor_record, member] at h
    split at h
    case h_1 m hm =>
      have hc := Shape.check_record.mp hs m (Shape.lastMember?_mem hm).1
      simp [dispatch_eq, hc, Except.map] at h
    case h_2 =>
      cases h
      exact ⟨_, .cause, .inr rfl⟩
  | _ =>
    cases h
    exact ⟨_, .cause, .inl rfl⟩

theorem element_misfit {i : Int} (h : (s.accessor e).element i = .error err) : err.Misfit := by
  have hi {t : Shape} (ht : t.check = .ok ()) (h : (if i < 0 then .error (.cause (.negativeIndex i))
      else dispatch t (arrayElement t (.accessor .array (.array t) e) i)) = .error err) :
      err.Misfit := by
    split at h
    · cases h
      exact ⟨_, .cause, .inr rfl⟩
    · simp [dispatch_eq, ht, Except.map] at h
  cases s with
  | array t => exact hi (Shape.check_array.mp hs) h
  | set t => exact hi (Shape.check_set.mp hs) h
  | _ =>
    cases h
    exact ⟨_, .cause, .inl rfl⟩

theorem entry_misfit {key : String} (h : (s.accessor e).entry key = .error err) :
    err.Misfit := by
  cases s with
  | map t =>
    simp only [Shape.accessor_map, entry, Shape.items] at h
    split at h
    · cases h
      exact ⟨_, .cause, .inr rfl⟩
    · simp [dispatch_eq, Shape.check_map.mp hs, Except.map] at h
  | _ =>
    cases h
    exact ⟨_, .cause, .inl rfl⟩

theorem stepField_misfit {name : String} (h : (s.accessor e).stepField name = .error err) :
    err.Misfit := by
  unfold stepField at h
  split at h
  case h_1 hc =>
    cases h
    exact inContext_as_misfit hc
  case h_2 hm =>
    obtain ⟨-, rfl⟩ := as_eq_ok.mp (inContext_eq_ok.mp hm)
    exact member_misfit hs h

theorem stepIndex_misfit {i : Int} (h : (s.accessor e).stepIndex i = .error err) :
    err.Misfit := by
  unfold stepIndex at h
  split at h
  case h_1 hc =>
    cases h
    exact inContext_as_misfit hc
  case h_2 hm =>
    obtain ⟨-, rfl⟩ := as_eq_ok.mp (inContext_eq_ok.mp hm)
    exact element_misfit hs h

theorem stepKey_misfit {key : String} (h : (s.accessor e).stepKey key = .error err) :
    err.Misfit := by
  unfold stepKey at h
  split at h
  case h_1 hc =>
    cases h
    exact inContext_as_misfit hc
  case h_2 hm =>
    obtain ⟨-, rfl⟩ := as_eq_ok.mp (inContext_eq_ok.mp hm)
    exact entry_misfit hs h

omit hs in
/-- A dynamic value can be narrowed to every shape that has a name. -/
theorem stepNarrow_eq_error {name : String} (h : n.stepNarrow name = .error err) :
    err.Misfit ∨ n.type? = some (.accessor .dynamic) ∧ Shape.ofName? name = none ∧
      err = .cause (.unknownShape name) := by
  unfold stepNarrow at h
  split at h
  case h_1 hc =>
    cases h
    exact .inl (inContext_as_misfit hc)
  case h_2 m hm =>
    obtain ⟨ht, rfl⟩ := as_eq_ok.mp (inContext_eq_ok.mp hm)
    split at h
    case h_1 t hn =>
      have hc := Shape.check_ofName? hn
      unfold narrow at h
      split at h
      · cases h.symm.trans (dispatch_eq_ok.mpr ⟨hc, rfl⟩)
      · cases h
        exact .inl ⟨_, .cause, .inl rfl⟩
    case h_2 hn =>
      cases h
      exact .inr ⟨ht, hn, rfl⟩

theorem compare_misfit {op : Operator} {v : Value}
    (h : (s.accessor e).compare op (.value v) = .error err) : err.Misfit := by
  obtain ⟨t, ha, -⟩ := exists_accessor hs e
  rw [ha, compare] at h
  split at h
  · split at h
    case h_1 hc =>
      cases h
      obtain ⟨e', he, rfl⟩ := inContext_eq_error.mp hc
      exact (operand_misfit he).inside _
    case h_2 => cases h
  · cases h
    exact ⟨_, .cause, .inl rfl⟩

theorem test_misfit {t : Test} (h : (s.accessor e).test t = .error err) : err.Misfit := by
  cases t with
  | compare op v =>
    rw [test] at h
    split at h
    · split at h
      case h_1 hc =>
        cases h
        exact as_misfit hc
      case h_2 hm =>
        obtain ⟨-, rfl⟩ := as_eq_ok.mp hm
        exact compare_misfit hs h
    · exact compare_misfit hs h
  | fits pattern =>
    rw [test] at h
    split at h
    case h_1 hc =>
      cases h
      exact as_misfit hc
    case h_2 => cases h

/-- A filter is refused if there is nothing to filter, if its condition is, or if there is none. -/
theorem narrowBy_eq_error {p : Condition} (h : (s.accessor e).narrowBy (some p) = .error err) :
    err.Misfit ∨ ∃ t, s.Holds t ∧
      ((∃ e', p (t.accessor (item t)) = .error e' ∧ err = e'.inside .filter) ∨
        ∃ c, p (t.accessor (item t)) = .ok c ∧ c.isHole = true) := by
  by_cases hh : ∃ t, s.Holds t
  · obtain ⟨t, ht⟩ := hh
    rw [narrowBy_of_holds hs ht, map_eq_error, condition, current_eq hs ht] at h
    refine .inr ⟨t, ht, ?_⟩
    split at h
    case h_1 hc =>
      cases h
      exact .inl (inContext_eq_error.mp hc)
    case h_2 c hc =>
      split at h
      case isTrue hole => exact .inr ⟨c, inContext_eq_ok.mp hc, hole⟩
      case isFalse => cases h
  · left
    cases s with
    | array t => exact absurd ⟨t, .inl (.inl rfl)⟩ hh
    | set t => exact absurd ⟨t, .inl (.inr rfl)⟩ hh
    | map t => exact absurd ⟨t, .inr rfl⟩ hh
    | _ =>
      cases h
      exact ⟨_, .cause, .inl rfl⟩

end Operations

/-- The first of several predicates that cannot be asked gives the error. -/
theorem satisfyingEach_eq_error {ps : List Predicate} (h : n.satisfyingEach ps = .error err) :
    ∃ before p after, ps = before ++ p :: after ∧ (∀ q ∈ before, ∃ c, n.satisfying q = .ok c) ∧
      n.satisfying p = .error err := by
  induction ps with
  | nil => cases h
  | cons p rest ih =>
    rw [satisfyingEach] at h
    split at h
    case h_1 hp =>
      cases h
      exact ⟨[], p, rest, rfl, by simp, hp⟩
    case h_2 c hc =>
      obtain ⟨before, q, after, rfl, hb, hq⟩ := ih (map_eq_error.mp h)
      exact ⟨p :: before, q, after, rfl, List.forall_mem_cons.mpr ⟨⟨c, hc⟩, hb⟩, hq⟩

/-- A step that can be made leads to the accessor of a checked shape. -/
theorem exists_accessor_of_step {st : Step} (hs : s.check = .ok ())
    (h : (s.accessor e).step st = .ok n) :
    ∃ (t : Shape) (f : Node), t.check = .ok () ∧ n = t.accessor f := by
  have hw : walkFrom 0 (s.accessor e) [st] = .ok n := by simp [walkFrom, h]
  obtain ⟨t, f, hr, rfl⟩ := reaches_of_walkFrom hs hw
  exact ⟨t, f, hr.check hs, rfl⟩

end Node

/-- A part of a query, with the value that it is about. -/
inductive Visit
  | step (value : Node) (step : Step)
  | predicate (value : Node) (predicate : Predicate)

mutual

/-- On the way along steps from `n`, everything before it done, a query comes to `v`. -/
inductive WalkVisits (v : Visit) : Node → List Step → Prop
  | here {n : Node} {st : Step} (rest : List Step) (h : v = .step n st) :
      WalkVisits v n (st :: rest)
  | filter {n : Node} {st : Step} {p : Predicate} (rest : List Step)
      (hm : st.move? = some (.filter p))
      (ht : n.type? = some (.accessor .array) ∨ n.type? = some (.accessor .map))
      (h : AskVisits v n.current p) : WalkVisits v n (st :: rest)
  | later {n next : Node} {st : Step} {rest : List Step} (hn : n.step st = .ok next)
      (h : WalkVisits v next rest) : WalkVisits v n (st :: rest)

/-- In asking a predicate of `n`, everything before it done, a query comes to `v`. -/
inductive AskVisits (v : Visit) : Node → Predicate → Prop
  | here {n : Node} {p : Predicate} (h : v = .predicate n p) : AskVisits v n p
  | all {n : Node} {p q : Predicate} {before after : List Predicate}
      (hf : p.form = .all (before ++ q :: after))
      (hb : ∀ k ∈ before, ∃ c, n.satisfying k = .ok c) (h : AskVisits v n q) : AskVisits v n p
  | any {n : Node} {p q : Predicate} {before after : List Predicate}
      (hf : p.form = .any (before ++ q :: after))
      (hb : ∀ k ∈ before, ∃ c, n.satisfying k = .ok c) (h : AskVisits v n q) : AskVisits v n p
  | negated {n : Node} {p q : Predicate} (hf : p.form = .negated q) (h : AskVisits v n q) :
      AskVisits v n p
  | path {n : Node} {p : Predicate} {path : List Step} {t : Test} (hf : p.form = .tests path [t])
      (h : WalkVisits v n path) : AskVisits v n p

end

/-- The causes that can arise at a part of a query. Three of them are faults of the query itself. -/
inductive Cause.ArisesAt : Cause → Visit → Prop
  | misfit {c : Cause} (v : Visit) (h : c.sentinel = .typeMismatch ∨ c.sentinel = .invalidKey) :
      ArisesAt c v
  | emptyStep {st : Step} (n : Node) (h : st.move? = none) : ArisesAt .emptyStep (.step n st)
  | unknownShape {n : Node} {st : Step} {name : String} (hm : st.move? = some (.narrow name))
      (ht : n.type? = some (.accessor .dynamic)) (hn : Shape.ofName? name = none) :
      ArisesAt (.unknownShape name) (.step n st)
  | operatorCount {p : Predicate} {path : List Step} {ts : List Test} (n : Node)
      (hf : p.form = .tests path ts) (h : ∀ t, ts ≠ [t]) :
      ArisesAt .operatorCount (.predicate n p)

/-- An error that is one cause, which arises at one of the visited parts. -/
def Error.ArisesIn (visits : Visit → Prop) (e : Error) : Prop :=
  ∃ c v, e.Wraps c ∧ visits v ∧ c.ArisesAt v

namespace Error

variable {visits visits' : Visit → Prop} {e : Error} {v : Visit}

theorem ArisesIn.inside (h : e.ArisesIn visits) (k : Context) :
    (e.inside k).ArisesIn visits := by
  obtain ⟨c, v, hc, hv, ha⟩ := h
  exact ⟨c, v, hc.inside k, hv, ha⟩

theorem ArisesIn.mono (h : e.ArisesIn visits) (hv : ∀ v, visits v → visits' v) :
    e.ArisesIn visits' := by
  obtain ⟨c, v, hc, hvis, ha⟩ := h
  exact ⟨c, v, hc, hv v hvis, ha⟩

theorem Misfit.arisesIn (h : e.Misfit) (hv : visits v) : e.ArisesIn visits := by
  obtain ⟨c, hc, hs⟩ := h
  exact ⟨c, v, hc, hv, .misfit v hs⟩

end Error

namespace Node

theorem type?_of_holds {s t : Shape} (h : s.Holds t) (e : Node) :
    (s.accessor e).type? = some (.accessor .array) ∨
      (s.accessor e).type? = some (.accessor .map) := by
  rcases h with (rfl | rfl) | rfl
  · exact .inl rfl
  · exact .inl rfl
  · exact .inr rfl

mutual

/-- The error that stops a walk arises at a part of the steps that the walk comes to. -/
theorem walkFrom_refused {s : Shape} {e : Node} {err : Error} {i : Nat} {steps : List Step}
    (hs : s.check = .ok ()) (h : walkFrom i (s.accessor e) steps = .error err) :
    err.ArisesIn fun v => WalkVisits v (s.accessor e) steps := by
  match steps with
  | [] => cases h
  | st :: rest =>
    rw [walkFrom] at h
    split at h
    case h_1 hn =>
      cases h
      obtain ⟨e', he, rfl⟩ := inContext_eq_error.mp hn
      refine .inside ?_ _
      have hhere : WalkVisits (.step (s.accessor e) st) (s.accessor e) (st :: rest) := .here _ rfl
      rw [step_eq] at he
      split at he
      case h_1 => exact (stepField_misfit hs he).arisesIn hhere
      case h_2 => exact (stepIndex_misfit hs he).arisesIn hhere
      case h_3 => exact (stepKey_misfit hs he).arisesIn hhere
      case h_4 p hm =>
        rcases narrowBy_eq_error hs he with hmis | ⟨t, ht, ⟨err', hp, rfl⟩ | ⟨c, hp, hole⟩⟩
        · exact hmis.arisesIn hhere
        · have hsize := Step.sizeOf_filter hm
          have hr := satisfying_refused (ht.check hs) hp
          rw [← current_eq hs ht (e := e)] at hr
          exact (hr.mono fun v hv => .filter rest hm (type?_of_holds ht e) hv).inside _
        · have hc := (states_of_satisfying (ht.check hs) hp).isTruth.isHole_eq
          rw [hc] at hole
          cases hole
      case h_5 name hm =>
        rcases stepNarrow_eq_error he with hmis | ⟨ht, hname, rfl⟩
        · exact hmis.arisesIn hhere
        · exact ⟨_, _, .cause, hhere, .unknownShape hm ht hname⟩
      case h_6 hm =>
        cases he
        exact ⟨_, _, .cause, hhere, .emptyStep _ hm⟩
    case h_2 next hn =>
      have hn := inContext_eq_ok.mp hn
      obtain ⟨t, f, hc, rfl⟩ := exists_accessor_of_step hs hn
      exact (walkFrom_refused hc h).mono fun v hv => .later hn hv
termination_by sizeOf steps

theorem satisfying_refused {s : Shape} {e : Node} {err : Error} {p : Predicate}
    (hs : s.check = .ok ()) (h : (s.accessor e).satisfying p = .error err) :
    err.ArisesIn fun v => AskVisits v (s.accessor e) p := by
  rw [satisfying_eq] at h
  split at h
  case h_1 ps hf =>
    obtain ⟨e', he, rfl⟩ := inContext_eq_error.mp (map_eq_error.mp h)
    obtain ⟨before, q, after, rfl, hb, hq⟩ := satisfyingEach_eq_error he
    have hsize := Predicate.sizeOf_all hf
    have hlt : sizeOf q < sizeOf (before ++ q :: after) := List.sizeOf_lt_of_mem (by simp)
    exact ((satisfying_refused hs hq).mono fun v hv => .all hf hb hv).inside _
  case h_2 ps hf =>
    obtain ⟨e', he, rfl⟩ := inContext_eq_error.mp (map_eq_error.mp h)
    obtain ⟨before, q, after, rfl, hb, hq⟩ := satisfyingEach_eq_error he
    have hsize := Predicate.sizeOf_any hf
    have hlt : sizeOf q < sizeOf (before ++ q :: after) := List.sizeOf_lt_of_mem (by simp)
    exact ((satisfying_refused hs hq).mono fun v hv => .any hf hb hv).inside _
  case h_3 q hf =>
    obtain ⟨e', he, rfl⟩ := inContext_eq_error.mp (map_eq_error.mp h)
    have hsize := Predicate.sizeOf_negated hf
    exact ((satisfying_refused hs he).mono fun v hv => .negated hf hv).inside _
  case h_4 path ts hf =>
    unfold testOnly at h
    split at h
    case h_1 t =>
      split at h
      case h_1 hw =>
        cases h
        have hsize := Predicate.sizeOf_path hf
        exact (walkFrom_refused hs hw).mono fun v hv => .path hf hv
      case h_2 m hm =>
        obtain ⟨e', he, rfl⟩ := inContext_eq_error.mp h
        obtain ⟨u, f, hr, rfl⟩ := reaches_of_walkFrom hs hm
        exact ((test_misfit (hr.check hs) he).inside _).arisesIn (.here rfl)
    case h_2 hts =>
      cases h
      exact ⟨_, _, .cause, .here rfl, .operatorCount _ hf hts⟩
termination_by sizeOf p

end

end Node

/-- Whether the visited part is of good form. -/
def Visit.Formed : Visit → Prop
  | step _ st => st.formFault? = none
  | predicate _ p => p.formFault? = none

mutual

/-- On the way along steps of good form, a query comes to parts of good form only. -/
theorem WalkVisits.formed {v : Visit} {n : Node} {steps : List Step} (h : WalkVisits v n steps)
    (hf : ∀ st ∈ steps, st.formFault? = none) : v.Formed := by
  match h with
  | .here _ heq =>
    rw [heq]
    exact hf _ List.mem_cons_self
  | .filter _ hm _ h =>
    have hst := hf _ List.mem_cons_self
    exact h.formed ((Step.formed_move hst hm).2 _ rfl)
  | .later _ h => exact h.formed fun st hst => hf st (List.mem_cons_of_mem _ hst)

theorem AskVisits.formed {v : Visit} {n : Node} {p : Predicate} (h : AskVisits v n p)
    (hf : p.formFault? = none) : v.Formed := by
  match h with
  | .here heq =>
    rw [heq]
    exact hf
  | .all hp _ h => exact h.formed ((Predicate.formed_all hf hp).2 _ (by simp))
  | .any hp _ h => exact h.formed ((Predicate.formed_any hf hp).2 _ (by simp))
  | .negated hp h => exact h.formed (Predicate.formed_negated hf hp).2
  | .path hp h =>
    obtain ⟨_, -, -, -, hpath⟩ := Predicate.formed_tests hf hp
    exact h.formed hpath

end

/-- A part of good form makes a move, and names one test if it names any. So the only fault of the
query itself that is left is a shape of no name. -/
theorem Cause.ArisesAt.of_formed {c : Cause} {v : Visit} (h : c.ArisesAt v) (hv : v.Formed)
    (hc : c.sentinel = .invalidDocument) : ∃ n name, v = .step n { narrowTo := name } ∧
      n.type? = some (.accessor .dynamic) ∧ Shape.ofName? name = none ∧
      c = .unknownShape name := by
  cases h with
  | misfit _ h => rcases h with h | h <;> rw [h] at hc <;> cases hc
  | emptyStep n h =>
    obtain ⟨m, hm, -⟩ := Step.exists_move (Step.formFault?_eq_none.mp hv).1
    rw [h] at hm
    cases hm
  | @unknownShape n st name hm ht hn =>
    have hst := (Step.formed_move hv hm).1
    exact ⟨n, name, by rw [hst]; rfl, ht, hn, rfl⟩
  | operatorCount n hf h =>
    obtain ⟨t, ht, -⟩ := Predicate.formed_tests hv hf
    exact absurd ht (h t)

/-- The classes that a query can be refused under, with the codes that reports show. -/
def refusalCodes : List (Sentinel × String) :=
  [(.invalidDocument, "E110"), (.typeMismatch, "E111"), (.invalidKey, "E112")]

theorem Error.Wraps.refusalCode {e : Error} {c : Cause} {v : Visit} (h : e.Wraps c)
    (ha : c.ArisesAt v) : (c.sentinel, e.code) ∈ refusalCodes := by
  simp only [code, h.loadFault?_eq, h.is_iff]
  cases ha with
  | misfit _ hs => rcases hs with hs | hs <;> simp [hs, refusalCodes]
  | emptyStep | unknownShape | operatorCount => simp [Cause.sentinel, refusalCodes]

namespace Query

variable {s : Shape} {root : Node} {q : Query} {err : Error} {v : Visit}

/-- The parts of a query that compiling it from `root` comes to. -/
def Visits (root : Node) (q : Query) (v : Visit) : Prop :=
  match q.filterBy with
  | some p => AskVisits v root p
  | none => WalkVisits v root q.select

theorem Visits.formed (h : q.Visits root v) (hf : q.formFault? = none) : v.Formed := by
  unfold Visits at h
  cases hq : q.filterBy with
  | some p =>
    rw [hq] at h
    exact AskVisits.formed h (formed_filterBy hf hq)
  | none =>
    rw [hq] at h
    exact WalkVisits.formed h (formed_select hf hq)

theorem build_refused (hr : Node.ofShape s = .ok root) (h : q.build root = .error err) :
    err.ArisesIn (q.Visits root) := by
  obtain ⟨hs, rfl⟩ := Node.ofShape_eq_ok.mp hr
  unfold build at h
  unfold Visits
  cases hq : q.filterBy with
  | some p =>
    rw [hq] at h
    exact Node.satisfying_refused hs h
  | none =>
    rw [hq] at h
    exact Node.walkFrom_refused hs h

/-- Whatever a query builds has a path. -/
theorem exists_path_of_build {n : Node} (hr : Node.ofShape s = .ok root)
    (h : q.build root = .ok n) : ∃ path, n.compile = .ok path :=
  ⟨_, (((build_eq_ok hr).mp h).sound (Node.ofShape_eq_ok.mp hr).1).compile_eq⟩

/-- A query compiles or is refused under its name, with an error of exactly one of three classes. A
query of good form is refused as malformed only for a step that narrows a dynamic value to a shape
of no name. Whatever a query builds has a path. -/
theorem compile_refusal (hr : Node.ofShape s = .ok root) :
    (∀ n, q.build root = .ok n → ∃ path, n.compile = .ok path) ∧
      ((∃ r, q.compile root = .ok r) ∨
        ∃ err c code, q.compile root = .error (.query q.name err) ∧ (c, code) ∈ refusalCodes ∧
          (∀ k, (Error.query q.name err).is k = true ↔ k = c) ∧
          (Error.query q.name err).code = code ∧
          (q.formFault? = none → c = .invalidDocument →
            ∃ n name, q.Visits root (.step n { narrowTo := name }) ∧
              n.type? = some (.accessor .dynamic) ∧ Shape.ofName? name = none ∧
              err.Wraps (.unknownShape name))) := by
  refine ⟨fun n => exists_path_of_build hr, ?_⟩
  cases hb : q.build root with
  | ok n =>
    obtain ⟨path, hp⟩ := exists_path_of_build hr hb
    exact .inl ⟨⟨q.name, path, Node.queryId path⟩, by simp only [compile, hb, hp]⟩
  | error err =>
    obtain ⟨c, v, hc, hv, ha⟩ := build_refused hr hb
    have hq := hc.query q.name
    refine .inr ⟨err, c.sentinel, _, by simp only [compile, hb], hq.refusalCode ha, hq.is_iff, rfl,
      ?_⟩
    intro hf hdoc
    obtain ⟨n, name, rfl, ht, hn, rfl⟩ := ha.of_formed (hv.formed hf) hdoc
    exact ⟨n, name, hv, ht, hn, hc⟩

/-- A record that was never checked, with a member of no name and two of one name. -/
def looseShape : Shape :=
  .record "" [⟨"", .bool, false, ""⟩, ⟨"x", .string, false, ""⟩, ⟨"x", .any, false, ""⟩]

/-- A query of good form that narrows to a shape which there is not. -/
def looseQuery : Query :=
  { name := "odd"
    filterBy := some { all := [{ negated := some {
      path := [{ field := "x" }, { narrowTo := "uuid" }], equals := .text "a" } }] } }

theorem looseQuery_refused :
    ∃ root err, Node.ofShape looseShape = .ok root ∧ looseQuery.formFault? = none ∧
      looseQuery.compile root = .error (.query "odd" err) ∧
      (Error.query "odd" err).code = "E110" ∧
      (∀ k, (Error.query "odd" err).is k = true ↔ k = .invalidDocument) ∧
      ∃ n name, looseQuery.Visits root (.step n { narrowTo := name }) ∧
        n.type? = some (.accessor .dynamic) ∧ Shape.ofName? name = none ∧
        err.Wraps (.unknownShape name) := by
  have h := (compile_refusal (s := looseShape) (q := looseQuery) rfl).2
  rcases h with ⟨r, hr⟩ | ⟨err, c, code, he, -, hk, -, hform⟩
  · cases hr
  · refine ⟨_, err, rfl, rfl, he, ?_⟩
    cases he
    obtain rfl : Sentinel.invalidDocument = c := (hk _).mp rfl
    exact ⟨rfl, hk, hform rfl rfl⟩

end Query

end TypedPath
