import TypedPath.Proofs.Node.Compile
import TypedPath.Proofs.Query.Sound

/-! Navigation does not depend on where a value hangs. The accessor of a shape offers the same moves
whatever expression it is the view of, and each move adds the same text to that of the
expression. -/
namespace TypedPath.Node

variable {s t : Shape} {e n : Node} {name key : String} {i : Int}

/-- Nothing is wrong with an expression. -/
def Flawless (n : Node) : Prop := n.violations = some []

section Flawless

theorem Flawless.isHole_eq (h : n.Flawless) : n.isHole = false := by
  cases n with
  | hole t => simp [Flawless, violations] at h
  | _ => rfl

theorem Flawless.accessor (hs : s.check = .ok ()) (h : e.Flawless) : (s.accessor e).Flawless := by
  obtain ⟨t, ha, -⟩ := exists_accessor hs e
  rw [ha, Flawless, violations, h.isHole_eq]
  exact h

theorem Flawless.field (h : e.Flawless) (hn : name ≠ "") : (field s e name).Flawless := by
  rw [Flawless] at h
  simp [Flawless, violations, h, hn]

theorem Flawless.arrayElement (h : e.Flawless) (hi : 0 ≤ i) : (arrayElement s e i).Flawless := by
  rw [Flawless] at h
  simp [Flawless, violations, h, Int.not_lt.mpr hi]

theorem Flawless.mapElement (h : e.Flawless) (hk : key ≠ "") : (mapElement s e key).Flawless := by
  rw [Flawless] at h
  simp [Flawless, violations, h, hk]

theorem Flawless.filter {c : Node} (h : e.Flawless)
    (ht : e.shape? = some (.array t) ∨ e.shape? = some (.map t)) (hc : c.Sound)
    (hb : c.shape? = some .bool) : (filter e c).Flawless := by
  have hf : e.problemsOfShape filterProblems = some [] := by
    rcases ht with ht | ht <;> simp [problemsOfShape, h.isHole_eq, ht, filterProblems]
  rw [Flawless] at h
  simp [Flawless, violations, h, hf, hc.violations_eq, booleanProblems_eq hb]

end Flawless

/-- What is made of a value does not depend on the expression for it: there is one error for all
expressions, or one shape, with one text behind that of the expression. -/
def Uniform (run : Node → Except Error Node) : Prop :=
  (∃ err, ∀ e, run e = .error err) ∨
    ∃ (t : Shape) (text : String), t.check = .ok () ∧ ∀ e, ∃ f, run e = .ok (t.accessor f) ∧
      f.render = e.render ++ text ∧ (e.Flawless → f.Flawless)

theorem Uniform.of_error {run : Node → Except Error Node} (err : Error)
    (h : ∀ e, run e = .error err) : Uniform run :=
  .inl ⟨err, h⟩

theorem Uniform.of_view {run : Node → Except Error Node} (text : String) (view : Node → Node)
    (ht : t.check = .ok ()) (h : ∀ e, run e = .ok (t.accessor (view e)))
    (hr : ∀ e, (view e).render = e.render ++ text)
    (hv : ∀ e, e.Flawless → (view e).Flawless) : Uniform run :=
  .inr ⟨t, text, ht, fun e => ⟨view e, h e, hr e, hv e⟩⟩

theorem type?_accessor_eq (s : Shape) (e f : Node) :
    (s.accessor e).type? = (s.accessor f).type? := by
  cases s <;> rfl

/-- A move that asks for another type of accessor fails for all values of a shape alike. -/
theorem Uniform.of_wrongType (move : Node → Except Error Node) (T : NodeType) (c : Context)
    (h : ∀ n : Node, n.type? ≠ some T →
      move n = .error (.within c (.cause (.wrongType T n.type?))))
    (ht : (s.accessor (item s)).type? ≠ some T) : Uniform fun e => move (s.accessor e) := by
  refine .of_error (.within c (.cause (.wrongType T (s.accessor (item s)).type?))) fun e => ?_
  rw [type?_accessor_eq s _ e] at ht ⊢
  exact h _ ht

section Moves

variable (hs : s.check = .ok ())
include hs

theorem uniform_stepField (hn : name ≠ "") : Uniform fun e => (s.accessor e).stepField name := by
  cases s with
  | record record ms =>
    cases hm : (Shape.record record ms).lastMember? name with
    | none =>
      refine .of_error (.cause (.noField (.record record ms) name)) fun e => ?_
      simp [stepField, as, type?, member, hm, inContext, Except.mapError]
    | some m =>
      refine .of_view ("[" ++ Text.quote name ++ "]") (fun e => field m.shape _ name)
        (Shape.check_record.mp hs m (Shape.lastMember?_mem hm).1) (fun e => ?_) (fun e => ?_)
        fun e he => (he.accessor hs).field hn
      · exact (stepField_eq_ok hs).mpr ⟨record, ms, m, rfl, hm, rfl⟩
      · rw [render, render_accessor hs]
  | _ =>
    refine .of_wrongType (·.stepField name) (.accessor .struct) (.field name) (fun n ht => ?_)
      (by simp [type?])
    simp [stepField, as, ht, inContext, Except.mapError, Error.inside]

theorem uniform_stepIndex (i : Int) : Uniform fun e => (s.accessor e).stepIndex i := by
  by_cases h : ∃ t, s.IsListOf t
  · obtain ⟨t, ht⟩ := h
    by_cases hi : i < 0
    · refine .of_error (.cause (.negativeIndex i)) fun e => ?_
      rcases ht with rfl | rfl <;>
        simp [stepIndex, as, type?, element, hi, inContext, Except.mapError]
    · have hi := Int.not_lt.mp hi
      refine .of_view ("[" ++ toString i ++ "]") (fun e => arrayElement t _ i)
        (Shape.Holds.check (.inl ht) hs) (fun e => ?_) (fun e => ?_)
        fun e he => (he.accessor hs).arrayElement hi
      · exact (stepIndex_eq_ok hs).mpr ⟨t, ht, hi, rfl⟩
      · rw [render, render_accessor hs]
  · refine .of_wrongType (·.stepIndex i) (.accessor .array) (.index i) (fun n ht => ?_) ?_
    · simp [stepIndex, as, ht, inContext, Except.mapError, Error.inside]
    · cases s with
      | array t => exact absurd ⟨t, .inl rfl⟩ h
      | set t => exact absurd ⟨t, .inr rfl⟩ h
      | _ => simp [type?]

theorem uniform_stepKey (hk : key ≠ "") : Uniform fun e => (s.accessor e).stepKey key := by
  cases s with
  | map t =>
    refine .of_view ("[" ++ Text.quote key ++ "]") (fun e => mapElement t _ key)
      (Shape.check_map.mp hs) (fun e => ?_) (fun e => ?_)
      fun e he => (he.accessor hs).mapElement hk
    · exact (stepKey_eq_ok hs).mpr ⟨t, rfl, hk, rfl⟩
    · rw [render, render_accessor hs]
  | _ =>
    refine .of_wrongType (·.stepKey key) (.accessor .map) (.key key) (fun n ht => ?_)
      (by simp [type?])
    simp [stepKey, as, ht, inContext, Except.mapError, Error.inside]

/-- A filter asks its condition of the current element, which is the same from everywhere. -/
theorem uniform_narrowBy (p : Predicate) :
    Uniform fun e => (s.accessor e).narrowBy (some fun item => item.satisfying p) := by
  by_cases h : ∃ t, s.Holds t
  · obtain ⟨t, ht⟩ := h
    have hcond (e : Node) : (s.accessor e).condition (some fun item => item.satisfying p)
        = (s.accessor (item t)).condition (some fun item => item.satisfying p) := by
      simp only [condition, current_eq hs ht]
    cases hc : (s.accessor (item t)).condition (some fun item => item.satisfying p) with
    | error err =>
      refine .of_error err fun e => ?_
      rw [narrowBy_of_holds hs ht, hcond, hc]
      rfl
    | ok c =>
      have hst := states_of_satisfying (ht.check hs) ((condition_eq_ok hs ht).mp hc).1
      have hsound := hst.sound (ht.check hs) (.item t)
      refine .of_view ("[?(" ++ c.render ++ ")]") (fun e => filter (s.accessor e) c) hs
        (fun e => ?_) (fun e => ?_)
        fun e he => (he.accessor hs).filter (shape?_of_holds ht e) hsound hst.isTruth.shape?_eq
      · rw [narrowBy_of_holds hs ht, hcond, hc]
        rfl
      · simp [render, render_accessor hs, String.append_assoc]
  · refine .of_error (.cause (.notFilterable (s.accessor (item s)).type?)) fun e => ?_
    cases s with
    | array t => exact absurd ⟨t, .inl (.inl rfl)⟩ h
    | set t => exact absurd ⟨t, .inl (.inr rfl)⟩ h
    | map t => exact absurd ⟨t, .inr rfl⟩ h
    | _ => rfl

theorem uniform_stepNarrow (name : String) : Uniform fun e => (s.accessor e).stepNarrow name := by
  cases s with
  | dynamic tag =>
    cases ht : Shape.ofName? name with
    | none =>
      refine .of_error (.cause (.unknownShape name)) fun e => ?_
      simp [stepNarrow, as, type?, ht, inContext, Except.mapError]
    | some t =>
      have hc := Shape.check_ofName? ht
      refine .of_view "" (fun e => (Shape.dynamic tag).accessor e) hc (fun e => ?_) (fun e => ?_)
        fun e he => he.accessor hs
      · exact stepNarrow_eq_ok.mpr ⟨tag, t, rfl, ht, hc, rfl⟩
      · rw [render_accessor hs, String.append_empty]
  | _ =>
    refine .of_wrongType (·.stepNarrow name) (.accessor .dynamic) (.narrowing name)
      (fun n ht => ?_) (by simp [type?])
    simp [stepNarrow, as, ht, inContext, Except.mapError, Error.inside]

theorem uniform_step (st : Step) : Uniform fun e => (s.accessor e).step st := by
  simp only [step_eq]
  split
  case h_1 name hm => exact uniform_stepField hs (Step.move?_field_ne hm)
  case h_2 i hm => exact uniform_stepIndex hs i
  case h_3 k hm => exact uniform_stepKey hs (Step.move?_key_ne hm)
  case h_4 p hm => exact uniform_narrowBy hs p
  case h_5 name hm => exact uniform_stepNarrow hs name
  case h_6 => exact .of_error _ fun e => rfl

end Moves

/-- Since each move is uniform, so is a whole walk. -/
theorem uniform_walkFrom (hs : s.check = .ok ()) (i : Nat) (steps : List Step) :
    Uniform fun e => walkFrom i (s.accessor e) steps := by
  induction steps generalizing s i with
  | nil =>
    refine .of_view "" id hs (fun e => ?_) (fun e => ?_) fun e he => he
    · rw [walkFrom, id]
    · rw [String.append_empty, id]
  | cons st rest ih =>
    rcases uniform_step hs st with ⟨err, herr⟩ | ⟨t, text, ht, hstep⟩
    · refine .of_error (err.inside (.step i)) fun e => ?_
      have herr : (s.accessor e).step st = .error err := herr e
      rw [walkFrom, herr]
      rfl
    · have hwalk {e f : Node} (hf : (s.accessor e).step st = .ok (t.accessor f)) :
          walkFrom i (s.accessor e) (st :: rest) = walkFrom (i + 1) (t.accessor f) rest := by
        rw [walkFrom, hf]
        rfl
      rcases ih ht (i + 1) with ⟨err, herr⟩ | ⟨u, more, hu, hrest⟩
      · refine .of_error err fun e => ?_
        obtain ⟨f, hf, -⟩ := hstep e
        exact (hwalk hf).trans (herr f)
      · refine .inr ⟨u, text ++ more, hu, fun e => ?_⟩
        obtain ⟨f, hf, hr, hv⟩ := hstep e
        obtain ⟨g, hg, hr', hv'⟩ := hrest f
        refine ⟨g, (hwalk hf).trans hg, ?_, fun he => hv' (hv he)⟩
        rw [hr', hr, String.append_assoc]

/-- A walk from accessors of one shape ends alike. Its bases are given with their paths. -/
theorem walk_of_bases (ht : t.check = .ok ()) {bases : List (Node × String)}
    (h : ∀ x ∈ bases, x.1.compile = .ok x.2) (steps : List Step) :
    (∃ err, ∀ x ∈ bases, (t.accessor x.1).walk steps = .error err) ∨
      ∃ type shape u, ∀ x ∈ bases, ∃ n, (t.accessor x.1).walk steps = .ok n ∧
        n.type? = some (.accessor type) ∧ n.shape? = some shape ∧ n.compile = .ok (x.2 ++ u) := by
  rcases uniform_walkFrom ht 0 steps with ⟨err, herr⟩ | ⟨s, u, hs, hwalk⟩
  · exact .inl ⟨err, fun x _ => herr x.1⟩
  · obtain ⟨type, htype, -⟩ := exists_accessor hs (item s)
    refine .inr ⟨type, s.seen, u, fun x hx => ?_⟩
    obtain ⟨f, hf, hr, hv⟩ := hwalk x.1
    obtain ⟨hx, hp⟩ := compile_eq_ok.mp (h x hx)
    refine ⟨_, hf, ?_, shape?_accessor hs f, compile_eq_ok.mpr ⟨(hv hx).accessor hs, ?_⟩⟩
    · rw [type?_accessor_eq s f (item s), htype]
      rfl
    · rw [render_accessor hs, hr, hp]

section Places

variable {a m d : Node} {pa pm pd : String} (ht : t.check = .ok ())
include ht

theorem places_of_array (h : a.type? = some (.accessor .array)) (hs : a.shape? = some (.array t))
    (hi : 0 ≤ i) : a.element i = .ok (t.accessor (arrayElement t a i)) ∧
      a.current = t.accessor (item t) := by
  cases a with
  | accessor T s e =>
    cases h
    cases hs
    have hd (base : Node) : dispatch t base = .ok (t.accessor base) := dispatch_eq_ok.mpr ⟨ht, rfl⟩
    simp [element, current, Shape.items, Int.not_lt.mpr hi, hd]
  | hole T =>
    cases h
    cases hs
  | _ => cases h

theorem places_of_map (h : m.type? = some (.accessor .map)) (hs : m.shape? = some (.map t))
    (hk : key ≠ "") : m.entry key = .ok (t.accessor (mapElement t m key)) ∧
      m.current = t.accessor (item t) := by
  cases m with
  | accessor T s e =>
    cases h
    cases hs
    have hd (base : Node) : dispatch t base = .ok (t.accessor base) := dispatch_eq_ok.mpr ⟨ht, rfl⟩
    simp [entry, current, Shape.items, hk, hd]
  | hole T =>
    cases h
    cases hs
  | _ => cases h

theorem place_of_dynamic (h : d.type? = some (.accessor .dynamic)) (hd : d.isHole = false) :
    d.narrow t = .ok (t.accessor d) := by
  cases d with
  | accessor T s e =>
    cases h
    exact dispatch_eq_ok.mpr ⟨ht, rfl⟩
  | hole T => cases hd
  | _ => cases h

end Places

/-- From the root, from an element, an entry or the current one of a collection and from a narrowed
value, steps lead to the same as long as the shape is the same. They fail from everywhere with one
error, or give accessors of one type and shape, whose paths differ in nothing but where they start.
-/
theorem walk_uniform {t : Shape} {root a m d : Node} {pa pm pd k : String} {i : Int}
    (hroot : ofShape t = .ok root)
    (ha : a.type? = some (.accessor .array)) (has : a.shape? = some (.array t))
    (hpa : a.compile = .ok pa)
    (hm : m.type? = some (.accessor .map)) (hms : m.shape? = some (.map t))
    (hpm : m.compile = .ok pm)
    (hd : d.type? = some (.accessor .dynamic)) (hpd : d.compile = .ok pd)
    (hi : 0 ≤ i) (hk : k ≠ "") (steps : List Step) :
    ∃ element entry narrowed, a.element i = .ok element ∧ m.entry k = .ok entry ∧
      d.narrow t = .ok narrowed ∧
      let starts := [(root, "$"), (element, pa ++ ("[" ++ toString i ++ "]")), (a.current, "@"),
        (entry, pm ++ ("[" ++ Text.quote k ++ "]")), (m.current, "@"), (narrowed, pd)]
      (∃ err, ∀ x ∈ starts, x.1.walk steps = .error err) ∨
        ∃ type shape u, ∀ x ∈ starts, ∃ n, x.1.walk steps = .ok n ∧
          n.type? = some (.accessor type) ∧ n.shape? = some shape ∧ n.compile = .ok (x.2 ++ u) := by
  obtain ⟨ht, rfl⟩ := ofShape_eq_ok.mp hroot
  obtain ⟨hav, rfl⟩ := compile_eq_ok.mp hpa
  obtain ⟨hmv, rfl⟩ := compile_eq_ok.mp hpm
  have hdv : d.Flawless := (compile_eq_ok.mp hpd).1
  obtain ⟨helement, hitem⟩ := places_of_array ht ha has hi
  obtain ⟨hentry, hitem'⟩ := places_of_map ht hm hms hk
  refine ⟨_, _, _, helement, hentry, place_of_dynamic ht hd hdv.isHole_eq, ?_⟩
  rw [hitem, hitem']
  -- All six are accessors of one shape, so only the expressions behind them matter.
  have hbases : ∀ x ∈ [(identifier t Node.root, "$"),
      (arrayElement t a i, a.render ++ ("[" ++ toString i ++ "]")), (item t, "@"),
      (mapElement t m k, m.render ++ ("[" ++ Text.quote k ++ "]")), (item t, "@"), (d, pd)],
      x.1.compile = .ok x.2 := by
    simp only [List.forall_mem_cons, List.not_mem_nil, false_imp_iff, implies_true, and_true]
    exact ⟨rfl, compile_eq_ok.mpr ⟨Flawless.arrayElement hav hi, by rw [render]⟩, rfl,
      compile_eq_ok.mpr ⟨Flawless.mapElement hmv hk, by rw [render]⟩, rfl, hpd⟩
  simpa only [List.forall_mem_cons, List.not_mem_nil, false_imp_iff, implies_true, and_true]
    using walk_of_bases ht hbases steps

def boxShape : Shape := .record "Box" [⟨"labels", .set .string, false, ""⟩]

/-- A store with boxes on its shelves, boxes by name and something else. -/
def storeShape : Shape :=
  .record "Store" [⟨"shelves", .array boxShape, false, ""⟩, ⟨"byName", .map boxShape, false, ""⟩,
    ⟨"extra", .any, false, ""⟩]

/-- The first label that is not empty. -/
def firstLabel : List Step :=
  [{ field := "labels" }, { filter := some { notEquals := .text "" } }, { index := some 0 }]

theorem firstLabel_uniform : ∃ root store shelves byName extra box entry narrowed : Node,
    ofShape boxShape = .ok root ∧ ofShape storeShape = .ok store ∧
    store.member "shelves" = .ok shelves ∧ store.member "byName" = .ok byName ∧
    store.member "extra" = .ok extra ∧ shelves.element 2 = .ok box ∧
    byName.entry "it's" = .ok entry ∧ extra.narrow boxShape = .ok narrowed ∧
    ∃ type shape u, ∀ x ∈ [(root, "$"), (box, "$['shelves'][2]"), (shelves.current, "@"),
        (entry, "$['byName']['it\\'s']"), (byName.current, "@"), (narrowed, "$['extra']")],
      ∃ n, x.1.walk firstLabel = .ok n ∧ n.type? = some (.accessor type) ∧
        n.shape? = some shape ∧ n.compile = .ok (x.2 ++ u) := by
  let store := storeShape.accessor (identifier storeShape Node.root)
  let shelves := (Shape.array boxShape).accessor (field (.array boxShape) store "shelves")
  let byName := (Shape.map boxShape).accessor (field (.map boxShape) store "byName")
  let extra := Shape.any.accessor (field .any store "extra")
  have hshelves : shelves.compile = .ok "$['shelves']" := rfl
  have hbyName : byName.compile = .ok "$['byName']" := rfl
  have hextra : extra.compile = .ok "$['extra']" := rfl
  obtain ⟨box, entry, narrowed, hbox, hentry, hnarrowed, hwalk⟩ :=
    walk_uniform (t := boxShape) (i := 2) (k := "it's") rfl rfl rfl hshelves rfl rfl hbyName rfl
      hextra (by decide) (by decide) firstLabel
  refine ⟨_, store, shelves, byName, extra, box, entry, narrowed, rfl, rfl, rfl, rfl, rfl, hbox,
    hentry, hnarrowed, ?_⟩
  rcases hwalk with ⟨err, herr⟩ | hok
  · cases herr _ (.head _)
  · exact hok

end TypedPath.Node
