import TypedPath.Proofs.Query.Typing

/-! Schemas that grow. A shape that extends another takes every query that the other takes, and
gives it the same path. -/
namespace TypedPath

namespace Shape

variable {s s' t : Shape} {name name' : String} {ms ms' : List (Member Shape)}

/-- `s'` extends `s`. Comparable leaves of one family replace each other, as numbers and integers do
and texts and times. Each member of a record has one of its name in the record that extends it. -/
inductive Extends : Shape → Shape → Prop
  | comparable {s' s : Shape} (hs : s.family ≠ .other) (h : s'.family = s.family) : Extends s' s
  | binary : Extends .binary .binary
  | nothing : Extends .nothing .nothing
  | dynamic (tag' tag : String) : Extends (.dynamic tag') (.dynamic tag)
  | list {s' s t' t : Shape} (hs' : s'.IsListOf t') (hs : s.IsListOf t) (h : Extends t' t) :
      Extends s' s
  | map {t' t : Shape} (h : Extends t' t) : Extends (.map t') (.map t)
  -- A function gives the counterparts: the relation cannot stand below an existential quantifier.
  | record {ms' ms : List (Member Shape)} (name' name : String)
      (counterpart : Member Shape → Member Shape)
      (hm : ∀ m ∈ ms, counterpart m ∈ ms' ∧ (counterpart m).name = m.name)
      (h : ∀ m ∈ ms, Extends (counterpart m).shape m.shape) :
      Extends (.record name' ms') (.record name ms)

/-- Names, order and further members of a record do not matter. -/
theorem extends_record : s'.Extends (record name ms) ↔ ∃ name' ms', s' = record name' ms' ∧
    ∀ m ∈ ms, ∃ m' ∈ ms', m'.name = m.name ∧ m'.shape.Extends m.shape := by
  constructor
  · intro h
    cases h with
    | record name' _ counterpart hm h =>
      exact ⟨name', _, rfl, fun m hmem => ⟨counterpart m, (hm m hmem).1, (hm m hmem).2, h m hmem⟩⟩
    | comparable hs => exact absurd rfl hs
    | list _ hs => simp [IsListOf] at hs
  · rintro ⟨name', ms', rfl, h⟩
    choose! counterpart hmem hname hx using h
    exact .record _ _ counterpart (fun m hm => ⟨hmem m hm, hname m hm⟩) hx

theorem Extends.family_eq (h : s'.Extends s) : s'.family = s.family := by
  cases h with
  | comparable _ h => exact h
  | list hs' hs _ => rcases hs' with rfl | rfl <;> rcases hs with rfl | rfl <;> rfl
  | _ => rfl

theorem Extends.isListOf (h : s'.Extends s) (hs : s.IsListOf t) :
    ∃ t', s'.IsListOf t' ∧ t'.Extends t := by
  cases h with
  | list hu' hu h =>
    obtain rfl := Holds.unique (.inl hu) (.inl hs)
    exact ⟨_, hu', h⟩
  | comparable hf => rcases hs with rfl | rfl <;> exact absurd rfl hf
  | _ => simp [IsListOf] at hs

theorem Extends.of_map (h : s'.Extends (Shape.map t)) : ∃ t', s' = Shape.map t' ∧ t'.Extends t := by
  cases h with
  | map h => exact ⟨_, rfl, h⟩
  | comparable hs => exact absurd rfl hs
  | list _ hs => simp [IsListOf] at hs

theorem Extends.of_dynamic {tag : String} (h : s'.Extends (Shape.dynamic tag)) :
    ∃ tag', s' = Shape.dynamic tag' := by
  cases h with
  | dynamic tag' => exact ⟨tag', rfl⟩
  | comparable hs => exact absurd rfl hs
  | list _ hs => simp [IsListOf] at hs

theorem Extends.holds (h : s'.Extends s) (hs : s.Holds t) : ∃ t', s'.Holds t' ∧ t'.Extends t := by
  rcases hs with hs | rfl
  · obtain ⟨t', ht', hx⟩ := h.isListOf hs
    exact ⟨t', .inl ht', hx⟩
  · obtain ⟨t', rfl, hx⟩ := h.of_map
    exact ⟨t', .inr rfl, hx⟩

theorem extends_primitive (h : (name, s) ∈ primitives) : s.Extends s := by
  simp only [primitives, List.mem_cons, Prod.mk.injEq, List.not_mem_nil, or_false] at h
  rcases h with ⟨-, rfl⟩ | ⟨-, rfl⟩ | ⟨-, rfl⟩ | ⟨-, rfl⟩ | ⟨-, rfl⟩ | ⟨-, rfl⟩ | ⟨-, rfl⟩ |
    ⟨-, rfl⟩ | ⟨-, rfl⟩
  case inr.inr.inr.inr.inl => exact .binary
  case inr.inr.inr.inr.inr.inr.inl => exact .dynamic _ _
  case inr.inr.inr.inr.inr.inr.inr.inl => exact .dynamic _ _
  case inr.inr.inr.inr.inr.inr.inr.inr => exact .nothing
  all_goals exact .comparable (by decide) rfl

end Shape

/-- The accessor of `s'` written as `e'` can stand for that of `s` written as `e`: it has a shape
that extends `s`, and the same text. -/
structure Replaces (s' : Shape) (e' : Node) (s : Shape) (e : Node) : Prop where
  shape : s'.Extends s
  built : s'.RecordsBuilt
  check : s.check = .ok ()
  check' : s'.check = .ok ()
  text : e'.render = e.render

namespace Replaces

variable {s s' u : Shape} {e e' : Node} {name : String}

theorem accessor (h : Replaces s' e' s e) : (s'.accessor e').render = (s.accessor e).render := by
  rw [Node.render_accessor h.check', Node.render_accessor h.check, h.text]

theorem field {record : String} {ms : List (Member Shape)} {m : Member Shape}
    (h : Replaces s' e' (.record record ms) e)
    (hl : (Shape.record record ms).lastMember? name = some m) :
    ∃ record' ms' m', s' = .record record' ms' ∧
      (Shape.record record' ms').lastMember? name = some m' ∧
      Replaces m'.shape (.field m'.shape (s'.accessor e') name)
        m.shape (.field m.shape ((Shape.record record ms).accessor e) name) := by
  obtain ⟨record', ms', rfl, hms⟩ := Shape.extends_record.mp h.shape
  obtain ⟨hm, rfl⟩ := Shape.lastMember?_mem hl
  obtain ⟨m', hm', hname, hx⟩ := hms m hm
  have hl' := h.built.lastMember?_eq hm'
  rw [hname] at hl'
  refine ⟨record', ms', m', rfl, hl', hx, (Shape.recordsBuilt_record.mp h.built).2 m' hm',
    Shape.check_record.mp h.check m hm, Shape.check_record.mp h.check' m' hm', ?_⟩
  rw [Node.render, Node.render, h.accessor]

theorem index (h : Replaces s' e' s e) (hu : s.IsListOf u) (i : Int) :
    ∃ u', s'.IsListOf u' ∧ Replaces u' (.arrayElement u' (s'.accessor e') i)
      u (.arrayElement u (s.accessor e) i) := by
  obtain ⟨u', hu', hx⟩ := h.shape.isListOf hu
  have hh : s.Holds u := .inl hu
  have hh' : s'.Holds u' := .inl hu'
  refine ⟨u', hu', hx, hh'.recordsBuilt h.built, hh.check h.check, hh'.check h.check', ?_⟩
  rw [Node.render, Node.render, h.accessor]

theorem key (h : Replaces s' e' (.map u) e) (k : String) :
    ∃ u', s' = .map u' ∧ Replaces u' (.mapElement u' (s'.accessor e') k)
      u (.mapElement u ((Shape.map u).accessor e) k) := by
  obtain ⟨u', rfl, hx⟩ := h.shape.of_map
  refine ⟨u', rfl, hx, Shape.recordsBuilt_map.mp h.built, Shape.check_map.mp h.check,
    Shape.check_map.mp h.check', ?_⟩
  rw [Node.render, Node.render, h.accessor]

theorem item (h : Replaces s' e' s e) (hu : s.Holds u) :
    ∃ u', s'.Holds u' ∧ Replaces u' (.item u') u (.item u) := by
  obtain ⟨u', hu', hx⟩ := h.shape.holds hu
  exact ⟨u', hu', hx, hu'.recordsBuilt h.built, hu.check h.check, hu'.check h.check', rfl⟩

theorem filter {c c' : Node} (h : Replaces s' e' s e) (hc : c'.render = c.render) :
    Replaces s' (.filter (s'.accessor e') c') s (.filter (s.accessor e) c) := by
  refine ⟨h.shape, h.built, h.check, h.check', ?_⟩
  rw [Node.render, Node.render, h.accessor, hc]

/-- A narrowed value has the shape that was asked for, on both sides. -/
theorem narrow {tag : String} (h : Replaces s' e' (.dynamic tag) e)
    (hn : Shape.ofName? name = some u) :
    ∃ tag', s' = .dynamic tag' ∧
      Replaces u (s'.accessor e') u ((Shape.dynamic tag).accessor e) := by
  obtain ⟨tag', rfl⟩ := h.shape.of_dynamic
  have hp := Shape.ofName?_eq_some.mp hn
  have hc := Shape.check_ofName? hn
  exact ⟨tag', rfl, Shape.extends_primitive hp, Shape.recordsBuilt_of_primitives hp, hc, hc,
    h.accessor⟩

theorem comparable {op : Operator} (h : Replaces s' e' s e) (hc : Node.Comparable op s u) :
    Node.Comparable op s' u := by
  obtain ⟨hsame, hother, hordered⟩ := hc
  rw [← h.shape.family_eq] at hsame hother hordered
  exact ⟨hsame, hother, hordered⟩

end Replaces

mutual

/-- Steps that can be followed on one side can be followed on the other. -/
theorem Reaches.replace {s s' t : Shape} {e e' f : Node} {steps : List Step}
    (h : Reaches s e steps t f) (hx : Replaces s' e' s e) :
    ∃ t' f', Reaches s' e' steps t' f' ∧ Replaces t' f' t f := by
  match h with
  | .nil => exact ⟨s', e', .nil, hx⟩
  | .field hm hl h =>
    obtain ⟨_, _, _, rfl, hl', hx'⟩ := hx.field hl
    obtain ⟨t', f', hr, hy⟩ := h.replace hx'
    exact ⟨t', f', .field hm hl' hr, hy⟩
  | .index hm hu hi h =>
    obtain ⟨_, hu', hx'⟩ := hx.index hu _
    obtain ⟨t', f', hr, hy⟩ := h.replace hx'
    exact ⟨t', f', .index hm hu' hi hr, hy⟩
  | .key hm h =>
    obtain ⟨_, rfl, hx'⟩ := hx.key _
    obtain ⟨t', f', hr, hy⟩ := h.replace hx'
    exact ⟨t', f', .key hm hr, hy⟩
  | .filter hm hu hp h =>
    obtain ⟨_, hu', hx'⟩ := hx.item hu
    obtain ⟨c', hc, htext⟩ := hp.replace hx'
    obtain ⟨t', f', hr, hy⟩ := h.replace (hx.filter htext)
    exact ⟨t', f', .filter hm hu' hc hr, hy⟩
  | .narrow hm hn h =>
    obtain ⟨_, rfl, hx'⟩ := hx.narrow hn
    obtain ⟨t', f', hr, hy⟩ := h.replace hx'
    exact ⟨t', f', .narrow hm hn hr, hy⟩

theorem States.replace {s s' : Shape} {e e' c : Node} {p : Predicate} (h : States s e p c)
    (hx : Replaces s' e' s e) : ∃ c', States s' e' p c' ∧ c'.render = c.render := by
  match h with
  | .all hf h =>
    obtain ⟨cs', hcs, htext⟩ := h.replace hx
    refine ⟨_, .all hf hcs, ?_⟩
    simp only [Node.truth, Node.render, Node.renderEach_eq_map, htext]
  | .any hf h =>
    obtain ⟨cs', hcs, htext⟩ := h.replace hx
    refine ⟨_, .any hf hcs, ?_⟩
    simp only [Node.truth, Node.render, Node.renderEach_eq_map, htext]
  | .negated hf h =>
    obtain ⟨c', hc, htext⟩ := h.replace hx
    refine ⟨_, .negated hf hc, ?_⟩
    simp only [Node.truth, Node.render, htext]
  | .compare hf h hv hc =>
    obtain ⟨t', f', hr, hy⟩ := h.replace hx
    refine ⟨_, .compare hf hr hv (hy.comparable hc), ?_⟩
    simp only [Node.truth, Node.render, hy.accessor]
  | .fits hf h ht =>
    obtain ⟨t', f', hr, hy⟩ := h.replace hx
    refine ⟨_, .fits hf hr (hy.shape.family_eq.trans ht), ?_⟩
    simp only [Node.truth, Node.render, hy.accessor]

theorem StatesEach.replace {s s' : Shape} {e e' : Node} {ps : List Predicate} {cs : List Node}
    (h : StatesEach s e ps cs) (hx : Replaces s' e' s e) :
    ∃ cs', StatesEach s' e' ps cs' ∧ cs'.map Node.render = cs.map Node.render := by
  match h with
  | .nil => exact ⟨[], .nil, rfl⟩
  | .cons h hr =>
    obtain ⟨c', hc, htext⟩ := h.replace hx
    obtain ⟨cs', hcs, htexts⟩ := hr.replace hx
    exact ⟨c' :: cs', .cons hc hcs, by rw [List.map_cons, List.map_cons, htext, htexts]⟩

end

namespace Query

theorem Builds.replace {s s' : Shape} {n : Node} {q : Query} (h : Builds s q n)
    (hx : Replaces s' (.identifier s' Node.root) s (.identifier s Node.root)) :
    ∃ n', Builds s' q n' ∧ n'.render = n.render := by
  unfold Builds at h ⊢
  cases hq : q.filterBy with
  | some p =>
    rw [hq] at h
    exact h.replace hx
  | none =>
    rw [hq] at h
    obtain ⟨t, f, hr, rfl⟩ := h
    obtain ⟨t', f', hr', hy⟩ := hr.replace hx
    exact ⟨_, ⟨t', f', hr', rfl⟩, hy.accessor⟩

/-- A query that a schema takes is taken by every schema that extends it, with the same result. -/
theorem compile_eq_of_extends {s s' : Shape} {root root' : Node} {q : Query} {r : Compiled}
    (hx : s'.Extends s) (hb : s'.RecordsBuilt) (hr : Node.ofShape s = .ok root)
    (hr' : Node.ofShape s' = .ok root') (hc : q.compile root = .ok r) :
    q.compile root' = .ok r := by
  obtain ⟨n, hn, rfl⟩ := (compile_eq_ok hr).mp hc
  have hs := (Node.ofShape_eq_ok.mp hr).1
  have hs' := (Node.ofShape_eq_ok.mp hr').1
  obtain ⟨n', hn', htext⟩ := hn.replace ⟨hx, hb, hs, hs', rfl⟩
  rw [← htext]
  exact (compile_eq_ok hr').mpr ⟨n', hn', rfl⟩

/-- A basket with more in it, under other names, in another order and with wider shapes. -/
def cartShape : Shape :=
  .record "Cart" [
    ⟨"owner", .string, false, ""⟩,
    ⟨"changed", .string, false, "Set by the shop."⟩,
    ⟨"lines", .set (.record "Entry" [⟨"count", .number, true, ""⟩, ⟨"sku", .string, false, ""⟩]),
      true, ""⟩]

theorem cartShape_extends : cartShape.Extends basketShape := by
  refine Shape.extends_record.mpr ⟨_, _, rfl, ?_⟩
  simp only [List.forall_mem_cons, List.not_mem_nil, false_imp_iff, implies_true, and_true]
  refine ⟨⟨_, .tail _ (.tail _ (.head _)), rfl, .list (.inr rfl) (.inl rfl) ?_⟩,
    ⟨_, .tail _ (.head _), rfl, .comparable (by decide) rfl⟩⟩
  refine Shape.extends_record.mpr ⟨_, _, rfl, ?_⟩
  simp only [List.forall_mem_cons, List.not_mem_nil, false_imp_iff, implies_true, and_true]
  exact ⟨⟨_, .tail _ (.head _), rfl, .comparable (by decide) rfl⟩,
    ⟨_, .head _, rfl, .comparable (by decide) rfl⟩⟩

theorem cartShape_recordsBuilt : cartShape.RecordsBuilt := by
  simp only [cartShape, Shape.recordsBuilt_record, List.forall_mem_cons, Shape.recordsBuilt_set]
  refine ⟨rfl, ?_, ?_, ⟨rfl, ?_, ?_, by simp⟩, by simp⟩ <;> rintro _ _ ⟨⟩

theorem basketQuery_compiles_for_cart :
    ∃ root root' r, Node.ofShape basketShape = .ok root ∧ Node.ofShape cartShape = .ok root' ∧
      (basketQuery { path := [{ field := "count" }], greater := .integer .int 3 }).compile root
        = .ok r ∧
      (basketQuery { path := [{ field := "count" }], greater := .integer .int 3 }).compile root'
        = .ok r :=
  ⟨_, _, _, rfl, rfl, rfl,
    compile_eq_of_extends cartShape_extends cartShape_recordsBuilt rfl rfl rfl⟩

end Query

end TypedPath
