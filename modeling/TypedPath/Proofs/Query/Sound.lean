import TypedPath.Proofs.Literal
import TypedPath.Proofs.Query.Walk

/-! Whatever a query builds is a sound expression, so a query that can be built has a path. -/
namespace TypedPath

theorem StatesEach.ne_nil {s : Shape} {e : Node} {ps : List Predicate} {cs : List Node}
    (h : StatesEach s e ps cs) (hp : ps ≠ []) : cs ≠ [] := by
  cases h with
  | nil => exact absurd rfl hp
  | cons => simp

mutual

theorem Reaches.sound {s t : Shape} {e f : Node} {steps : List Step} (h : Reaches s e steps t f)
    (hs : s.check = .ok ()) (he : e.Sound) : f.Sound := by
  match h with
  | .nil => exact he
  | .field hm hl h =>
    have hc := Shape.check_record.mp hs _ (Shape.lastMember?_mem hl).1
    exact h.sound hc (.field _ (Node.sound_accessor hs he) (Step.move?_field_ne hm))
  | .index _ hu hi h =>
    exact h.sound (Shape.Holds.check (.inl hu) hs) (.arrayElement _ (Node.sound_accessor hs he) hi)
  | .key hm h =>
    exact h.sound (Shape.check_map.mp hs)
      (.mapElement _ (Node.sound_accessor hs he) (Step.move?_key_ne hm))
  | .filter _ hu hp h =>
    have hc := hp.sound (hu.check hs) (.item _)
    have hb := hp.isTruth.shape?_eq
    exact h.sound hs (.filter (Node.sound_accessor hs he) hc (Node.shape?_of_holds hu e) hb)
  | .narrow _ hn h => exact h.sound (Shape.check_ofName? hn) (Node.sound_accessor hs he)

theorem States.sound {s : Shape} {e c : Node} {p : Predicate} (h : States s e p c)
    (hs : s.check = .ok ()) (he : e.Sound) : c.Sound := by
  match h with
  | .all hf h =>
    have hne := h.ne_nil (Predicate.form_eq_all.mp hf).2
    exact .accessor _ _ (.conjunction hne (h.sound hs he) fun c hc => (h.isTruth c hc).shape?_eq)
  | .any hf h =>
    have hne := h.ne_nil (Predicate.form_eq_any.mp hf).2.2
    exact .accessor _ _ (.disjunction hne (h.sound hs he) fun c hc => (h.isTruth c hc).shape?_eq)
  | .negated _ h => exact .accessor _ _ (.negation (h.sound hs he) h.isTruth.shape?_eq)
  | .compare _ h hv hc =>
    have hl := Node.sound_accessor (h.check hs) (h.sound hs he)
    exact .accessor _ _ (.comparison hl (.identifier _ (Value.literal_text_ne_empty hv))
      (Node.shape?_accessor (h.check hs) _) rfl hc.seen)
  | .fits hf h ht =>
    have hl := Node.sound_accessor (h.check hs) (h.sound hs he)
    exact .accessor _ _ (.stringMatch hl (Node.shape?_accessor (h.check hs) _) (by simpa using ht)
      (Predicate.pattern_ne_empty hf))

theorem StatesEach.sound {s : Shape} {e : Node} {ps : List Predicate} {cs : List Node}
    (h : StatesEach s e ps cs) (hs : s.check = .ok ()) (he : e.Sound) : ∀ c ∈ cs, c.Sound := by
  match h with
  | .nil => simp
  | .cons h hr => exact List.forall_mem_cons.mpr ⟨h.sound hs he, hr.sound hs he⟩

end

namespace Query

/-- The expression that a query builds on the accessor of `s` at the root. -/
def Builds (s : Shape) (q : Query) (n : Node) : Prop :=
  match q.filterBy with
  | some p => States s (.identifier s Node.root) p n
  | none => ∃ t f, Reaches s (.identifier s Node.root) q.select t f ∧ n = t.accessor f

theorem build_eq_ok {s : Shape} {root n : Node} {q : Query} (hr : Node.ofShape s = .ok root) :
    q.build root = .ok n ↔ Builds s q n := by
  obtain ⟨hs, rfl⟩ := Node.ofShape_eq_ok.mp hr
  rw [build, Builds]
  cases q.filterBy with
  | some p => exact ⟨Node.states_of_satisfying hs, Node.satisfying_of_states hs⟩
  | none =>
    constructor
    · exact Node.reaches_of_walkFrom hs
    · rintro ⟨t, f, h, rfl⟩
      exact Node.walkFrom_of_reaches hs h 0

theorem Builds.sound {s : Shape} {n : Node} {q : Query} (h : Builds s q n)
    (hs : s.check = .ok ()) : n.Sound := by
  have he : (Node.identifier s Node.root).Sound := .identifier s (by decide)
  unfold Builds at h
  split at h
  · exact h.sound hs he
  · obtain ⟨t, f, h, rfl⟩ := h
    exact Node.sound_accessor (h.check hs) (h.sound hs he)

/-- A query compiles exactly if it builds an expression, to the text of that expression. -/
theorem compile_eq_ok {s : Shape} {root : Node} {q : Query} {r : Compiled}
    (hr : Node.ofShape s = .ok root) : q.compile root = .ok r ↔
      ∃ n, Builds s q n ∧ r = ⟨q.name, n.render, Node.queryId n.render⟩ := by
  have hs := (Node.ofShape_eq_ok.mp hr).1
  constructor
  · intro h
    unfold compile at h
    split at h
    case h_1 => cases h
    case h_2 n hn =>
      have hb := (build_eq_ok hr).mp hn
      rw [(hb.sound hs).compile_eq] at h
      exact ⟨n, hb, by simpa [eq_comm] using h⟩
  · rintro ⟨n, hb, rfl⟩
    rw [compile, (build_eq_ok hr).mpr hb]
    simp only [(hb.sound hs).compile_eq]

end Query

end TypedPath
