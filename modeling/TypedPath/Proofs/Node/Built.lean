import TypedPath.Proofs.Literal
import TypedPath.Proofs.Node.Accessor

/-! Expressions built by the operations on accessors. However they are put together, they are valid
and have a path. -/
namespace TypedPath

namespace Shape

variable {s t : Shape}

theorem Holds.named (h : s.Holds t) (hs : s.Named) : t.Named := by
  intro name ms hp
  rcases h with (rfl | rfl) | rfl
  · exact hs name ms (.array hp)
  · exact hs name ms (.set hp)
  · exact hs name ms (.map hp)

theorem Named.member {name : String} {ms : List (Member Shape)} {m : Member Shape}
    (h : (record name ms).Named) (hm : m ∈ ms) : m.name ≠ "" ∧ m.shape.Named :=
  ⟨h name ms .here m hm, fun record ks hp => h record ks (.member hm hp)⟩

end Shape

namespace Node

variable {n m c : Node} {s : Shape}

/-- What the operations return, in any order of calls that do not fail. The records of the root are
checked, and a value is narrowed to shapes in which every member has a name. -/
inductive Built : Node → Prop
  | root {s : Shape} {n : Node} (hs : s.RecordsBuilt) (h : ofShape s = .ok n) : Built n
  | member {n m : Node} {name : String} (hn : Built n) (h : n.member name = .ok m) : Built m
  | element {n m : Node} {i : Int} (hn : Built n) (h : n.element i = .ok m) : Built m
  | entry {n m : Node} {key : String} (hn : Built n) (h : n.entry key = .ok m) : Built m
  | current {n : Node} (hn : Built n)
      (ht : n.type? = some (.accessor .array) ∨ n.type? = some (.accessor .map)) : Built n.current
  | narrowBy {n m c : Node} {p : Condition} (hn : Built n) (hp : p n.current = .ok c)
      (hc : Built c) (ht : c.type? = some (.accessor .bool)) (h : n.narrowBy (some p) = .ok m) :
      Built m
  | narrow {n m : Node} {s : Shape} (hn : Built n) (hs : s.Named) (h : n.narrow s = .ok m) :
      Built m
  | literal {v : Value} {n : Node} (h : ofValue v = .ok n) : Built n
  | compare {n m : Node} {op : Operator} {x : Operand} (hn : Built n)
      (hx : ∀ k, x = .node k → Built k) (h : n.compare op x = .ok m) : Built m
  | matching {n : Node} {pattern : String} (hn : Built n)
      (ht : n.type? = some (.accessor .string)) (hp : pattern ≠ "") : Built (n.matching pattern)
  | allOf {ns : List Node} (hne : ns ≠ []) (hns : ∀ n ∈ ns, Built n)
      (ht : ∀ n ∈ ns, n.type? = some (.accessor .bool)) : Built (allOf ns)
  | anyOf {ns : List Node} (hne : ns ≠ []) (hns : ∀ n ∈ ns, Built n)
      (ht : ∀ n ∈ ns, n.type? = some (.accessor .bool)) : Built (anyOf ns)
  | noneOf {n : Node} (hn : Built n) (ht : n.type? = some (.accessor .bool)) : Built n.noneOf
  | negated {n : Node} (hn : Built n) (ht : n.type? = some (.accessor .bool)) : Built n.negated

/-- A literal, or the accessor of a checked shape around a sound expression. -/
inductive Fits : Node → Prop
  | literal {s : Shape} {text : String} (ht : text ≠ "") : Fits (identifier s text)
  | view {s : Shape} {e : Node} (hs : s.check = .ok ()) (hm : s.Named) (he : e.Sound) :
      Fits (s.accessor e)

theorem Fits.sound (h : n.Fits) : n.Sound := by
  cases h with
  | literal ht => exact .identifier _ ht
  | view hs _ he => exact sound_accessor hs he

theorem Fits.truth {e : Node} (he : e.Sound) : e.truth.Fits :=
  .view (s := .bool) rfl (by rintro _ _ ⟨⟩) he

/-- A boolean value is a condition, or a value seen as one. -/
theorem Fits.isTruth (h : n.Fits) (ht : n.type? = some (.accessor .bool)) :
    n.IsTruth := by
  cases h with
  | literal => simp [type?] at ht
  | @view s e hs hm he =>
    cases s with
    | bool => exact ⟨e, rfl⟩
    | _ => simp [type?] at ht

theorem Fits.member {name : String} (hn : n.Fits) (h : n.member name = .ok m) : m.Fits := by
  cases hn with
  | literal => simp [Node.member] at h
  | view hs hm he =>
    obtain ⟨record, ms, k, rfl, hl, rfl⟩ := (member_eq_ok hs).mp h
    obtain ⟨hk, rfl⟩ := Shape.lastMember?_mem hl
    obtain ⟨hname, hshape⟩ := hm.member hk
    exact .view (Shape.check_record.mp hs k hk) hshape (.field _ (sound_accessor hs he) hname)

theorem Fits.element {i : Int} (hn : n.Fits) (h : n.element i = .ok m) : m.Fits := by
  cases hn with
  | literal => simp [Node.element] at h
  | view hs hm he =>
    obtain ⟨t, ht, hi, rfl⟩ := (element_eq_ok hs).mp h
    have ht : Shape.Holds _ t := .inl ht
    exact .view (ht.check hs) (ht.named hm) (.arrayElement _ (sound_accessor hs he) hi)

theorem Fits.entry {key : String} (hn : n.Fits) (h : n.entry key = .ok m) : m.Fits := by
  cases hn with
  | literal => simp [Node.entry] at h
  | view hs hm he =>
    obtain ⟨t, rfl, hk, rfl⟩ := (entry_eq_ok hs).mp h
    exact .view (Shape.check_map.mp hs) (Shape.Holds.named (.inr rfl) hm)
      (.mapElement _ (sound_accessor hs he) hk)

theorem exists_holds {e : Node} (ht : (s.accessor e).type? = some (.accessor .array) ∨
    (s.accessor e).type? = some (.accessor .map)) : ∃ t, s.Holds t := by
  cases s with
  | array t => exact ⟨t, .inl (.inl rfl)⟩
  | set t => exact ⟨t, .inl (.inr rfl)⟩
  | map t => exact ⟨t, .inr rfl⟩
  | _ => simp [type?] at ht

theorem Fits.current (hn : n.Fits)
    (ht : n.type? = some (.accessor .array) ∨ n.type? = some (.accessor .map)) :
    n.current.Fits := by
  cases hn with
  | literal => simp [type?] at ht
  | view hs hm he =>
    obtain ⟨t, hu⟩ := exists_holds ht
    rw [current_eq hs hu]
    exact .view (hu.check hs) (hu.named hm) (.item t)

theorem Fits.narrowBy {p : Condition} (hn : n.Fits) (hp : p n.current = .ok c) (hc : c.Fits)
    (ht : c.type? = some (.accessor .bool)) (h : n.narrowBy (some p) = .ok m) : m.Fits := by
  cases hn with
  | literal => simp [Node.narrowBy] at h
  | @view s e hs hm he =>
    obtain ⟨t, d, hu, hd, -, rfl⟩ := (narrowBy_eq_ok hs).mp h
    rw [current_eq hs hu, hd] at hp
    obtain rfl : d = c := Except.ok.inj hp
    have hbool := (hc.isTruth ht).shape?_eq
    exact .view hs hm (.filter (sound_accessor hs he) hc.sound (shape?_of_holds hu e) hbool)

theorem Fits.narrow (hn : n.Fits) (hs : s.Named) (h : n.narrow s = .ok m) : m.Fits := by
  cases hn with
  | literal => simp [Node.narrow] at h
  | view hs' _ he =>
    obtain ⟨-, hc, rfl⟩ := narrow_eq_ok.mp h
    exact .view hc hs (sound_accessor hs' he)

theorem Fits.ofValue {v : Value} (h : ofValue v = .ok n) : n.Fits := by
  obtain ⟨u, text, hv, rfl⟩ := ofValue_eq_ok.mp h
  exact .literal (Value.literal_text_ne_empty hv)

theorem Fits.compare {op : Operator} {x : Operand} (hn : n.Fits)
    (hx : ∀ k, x = .node k → k.Fits) (h : n.compare op x = .ok m) : m.Fits := by
  cases hn with
  | literal => simp [Node.compare] at h
  | view hs _ he =>
    obtain ⟨right, t, hr, ht, hc, rfl⟩ := (compare_eq_ok hs).mp h
    have hright : right.Sound := by
      rcases hr with ⟨rfl, -⟩ | ⟨v, -, hv⟩
      · exact (hx right rfl).sound
      · exact (Fits.ofValue hv).sound
    exact .truth (.comparison (sound_accessor hs he) hright (shape?_accessor hs _) ht hc.seen)

theorem Fits.matching {pattern : String} (hn : n.Fits) (ht : n.type? = some (.accessor .string))
    (hp : pattern ≠ "") : (n.matching pattern).Fits := by
  cases hn with
  | literal => simp [type?] at ht
  | view hs _ he =>
    have hf := type?_string.mp ht
    exact .truth (.stringMatch (sound_accessor hs he) (shape?_accessor hs _) (by simpa using hf) hp)

section Combinations

variable {ns : List Node} (hns : ∀ n ∈ ns, n.Fits) (ht : ∀ n ∈ ns, n.type? = some (.accessor .bool))
include hns ht

theorem Fits.operands : ns.map boolOrHole = ns ∧ (∀ n ∈ ns, n.Sound) ∧
    ∀ n ∈ ns, n.shape? = some .bool := by
  have hb : ∀ n ∈ ns, n.IsTruth := fun n hn => (hns n hn).isTruth (ht n hn)
  exact ⟨Node.map_boolOrHole hb, fun n hn => (hns n hn).sound, fun n hn => (hb n hn).shape?_eq⟩

theorem Fits.allOf (hne : ns ≠ []) : (allOf ns).Fits := by
  obtain ⟨hmap, hs, hb⟩ := operands hns ht
  rw [Node.allOf, hmap]
  exact .truth (.conjunction hne hs hb)

theorem Fits.anyOf (hne : ns ≠ []) : (anyOf ns).Fits := by
  obtain ⟨hmap, hs, hb⟩ := operands hns ht
  rw [Node.anyOf, hmap]
  exact .truth (.disjunction hne hs hb)

end Combinations

/-- Both ways to negate a condition give the same. -/
theorem Fits.negation (hn : n.Fits) (ht : n.type? = some (.accessor .bool)) :
    n.noneOf.Fits ∧ n.negated = n.noneOf := by
  have hs := hn.sound
  obtain ⟨e, rfl⟩ := hn.isTruth ht
  exact ⟨.truth (.negation hs rfl), rfl⟩

theorem Built.fits (h : n.Built) : n.Fits := by
  induction h with
  | root hs h =>
    obtain ⟨hc, rfl⟩ := ofShape_eq_ok.mp h
    exact .view hc hs.named (.identifier _ (by decide))
  | member _ h ih => exact ih.member h
  | element _ h ih => exact ih.element h
  | entry _ h ih => exact ih.entry h
  | current _ ht ih => exact ih.current ht
  | narrowBy _ hp _ ht h ihn ihc => exact ihn.narrowBy hp ihc ht h
  | narrow _ hs h ih => exact ih.narrow hs h
  | literal h => exact .ofValue h
  | compare _ _ h ih ihx => exact ih.compare ihx h
  | matching _ ht hp ih => exact ih.matching ht hp
  | allOf hne _ ht ih => exact .allOf ih ht hne
  | anyOf hne _ ht ih => exact .anyOf ih ht hne
  | noneOf _ ht ih => exact (ih.negation ht).1
  | negated _ ht ih => exact (ih.negation ht).2 ▸ (ih.negation ht).1

/-- The sides of a comparison in a sound expression are of one family, which the operator takes. -/
theorem Sound.comparable {op : String} {left right : Node} (h : n.Sound)
    (hc : StandsIn (Node.comparison op left right) n) :
    ∃ o : Operator, ∃ s t, op = o.symbol ∧ left.shape? = some s ∧ right.shape? = some t ∧
      Comparable o s t := by
  cases h.of_standsIn hc with
  | comparison _ _ hs ht hcomp => exact ⟨_, _, _, rfl, hs, ht, hcomp⟩

theorem Sound.filtered {parent condition : Node} (h : n.Sound)
    (hf : StandsIn (Node.filter parent condition) n) :
    ∃ s, parent.shape? = some (.array s) ∨ parent.shape? = some (.map s) := by
  cases h.of_standsIn hf with
  | filter _ _ hs _ => exact ⟨_, hs⟩

/-- Whatever is built is valid and has a path. Wherever values are compared in it, they are of one
family, and numbers where they are ordered. Only arrays and maps are filtered. -/
theorem built_valid (h : n.Built) :
    n.validate = .ok () ∧ (∃ path, n.compile = .ok path ∧ path ≠ "") ∧
      (∀ op left right, StandsIn (comparison op left right) n →
        ∃ o : Operator, ∃ s t, op = o.symbol ∧ left.shape? = some s ∧ right.shape? = some t ∧
          Comparable o s t) ∧
      ∀ parent condition, StandsIn (filter parent condition) n →
        ∃ s, parent.shape? = some (.array s) ∨ parent.shape? = some (.map s) := by
  have hs := h.fits.sound
  exact ⟨hs.validate_eq, ⟨n.render, hs.compile_eq, hs.render_ne_empty⟩,
    fun _ _ _ => hs.comparable, fun _ _ => hs.filtered⟩

/-- The first of the times in a set of unknown shape that are filtered twice. -/
theorem filtered_set_valid : ∃ n : Node, n.Built ∧ n.validate = .ok () ∧
    n.compile = .ok "$[?(@ =~ /^20/)][?((!@ == 'never'))][0]" ∧
    (∃ path, n.compile = .ok path ∧ path ≠ "") ∧
    (∀ op left right, StandsIn (comparison op left right) n →
      ∃ o : Operator, ∃ s t, op = o.symbol ∧ left.shape? = some s ∧ right.shape? = some t ∧
        Comparable o s t) ∧
    ∀ parent condition, StandsIn (filter parent condition) n →
      ∃ s, parent.shape? = some (.array s) ∨ parent.shape? = some (.map s) := by
  have hroot := Built.root (s := .any) (by rintro _ _ ⟨⟩) rfl
  have hset : (Shape.set .timestamp).Named :=
    (Shape.recordsBuilt_set.mpr (by rintro _ _ ⟨⟩)).named
  have htimes := Built.narrow hroot hset rfl
  have hmatch := @Built.matching _ "/^20/" (.current htimes (.inl rfl)) rfl (by decide)
  have hfirst := Built.narrowBy (p := fun i => .ok (i.matching "/^20/")) htimes rfl hmatch rfl rfl
  have hequal := @Built.compare _ _ .equals (.value (.text "never")) (.current hfirst (.inl rfl))
    (by simp) rfl
  have hsecond := Built.narrowBy
    (p := fun i => (i.compare .equals (.value (.text "never"))).map negated) hfirst rfl
    (.negated hequal rfl) rfl rfl
  have hn := @Built.element _ _ 0 hsecond rfl
  obtain ⟨hv, hc⟩ := built_valid hn
  exact ⟨_, hn, hv, rfl, hc⟩

/-- A record that was never checked. Its member has no name. -/
def unnamedMember : Shape := .record "" [⟨"", .string, false, ""⟩]

/-- Narrowing does not check records either. Each of the calls succeeds, and what they lead to is
not valid. -/
theorem narrowed_unnamed_invalid : ∃ value record member err,
    Shape.any.RecordsBuilt ∧ ofShape .any = .ok value ∧
    ¬unnamedMember.Named ∧ value.narrow unnamedMember = .ok record ∧
    record.member "" = .ok member ∧ member.validate = .error err ∧
    err.is .invalidKey = true ∧ member.compile = .error err := by
  refine ⟨_, _, _, _, by rintro _ _ ⟨⟩, rfl, fun h => ?_, rfl, rfl, rfl, rfl, rfl⟩
  exact h _ _ .here _ (.head _) rfl

end Node

end TypedPath
