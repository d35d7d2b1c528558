import TypedPath.Node.Compile

/-! The text of an expression, read off its structure, and the writer that produces it token by
token. -/
namespace TypedPath

@[simp] theorem ok_bind {α β : Type} (a : α) (f : α → Except Error β) :
    (Except.ok a >>= f) = f a := rfl

namespace Writer

variable {w v : Writer} {s t : String}

/-- `v` is `w` with tokens added that read `s`, the latest of which is no separator. -/
def Extends (w v : Writer) (s : String) : Prop :=
  ∃ (last : String) (ts : List Token), v.tokens = ⟨last, false⟩ :: (ts ++ w.tokens) ∧
    String.join (ts.reverse.map (·.text)) ++ last = s

theorem extends_write (w : Writer) (s : String) : Extends w (w.write s) s :=
  ⟨s, [], by simp [write]⟩

theorem Extends.write (h : Extends w v s) (t : String) : Extends w (v.write t) (s ++ t) := by
  obtain ⟨last, ts, hv, rfl⟩ := h
  refine ⟨t, ⟨last, false⟩ :: ts, ?_, ?_⟩
  · simp [Writer.write, hv]
  · simp [String.append_assoc]

theorem Extends.trans {u : Writer} (h : Extends w v s) (h' : Extends v u t) :
    Extends w u (s ++ t) := by
  obtain ⟨last, ts, hv, rfl⟩ := h
  obtain ⟨last', ts', hu, rfl⟩ := h'
  refine ⟨last', ts' ++ ⟨last, false⟩ :: ts, ?_, ?_⟩
  · simp [hu, hv]
  · simp [String.append_assoc]

theorem Extends.text_eq (h : Extends w v s) : v.text = w.text ++ s := by
  obtain ⟨last, ts, hv, rfl⟩ := h
  simp [text, hv]

theorem Extends.separated {u : Writer} {separator : String} (h : Extends w v s)
    (h' : Extends (v.separate separator) u t) : Extends w u (s ++ separator ++ t) := by
  obtain ⟨last, ts, hv, rfl⟩ := h
  obtain ⟨last', ts', hu, rfl⟩ := h'
  refine ⟨last', ts' ++ ⟨separator, true⟩ :: ⟨last, false⟩ :: ts, ?_, ?_⟩
  · simp [hu, hv, separate]
  · simp [String.append_assoc]

/-- Only a separator is taken back, so a writer whose latest token is none stays as it is. -/
theorem Extends.pop_eq (h : Extends w v s) : v.pop = (v, false) := by
  obtain ⟨last, ts, hv, -⟩ := h
  simp [pop, hv]

theorem pop_separate (w : Writer) (s : String) : (w.separate s).pop.1 = w := rfl

end Writer

namespace Node

mutual

/-- The text of an expression. An accessor reads as the expression that it wraps. -/
def render : Node → String
  | hole _ => ""
  | identifier _ value => value
  | field _ parent name => parent.render ++ ("[" ++ Text.quote name ++ "]")
  | arrayElement _ parent index => parent.render ++ ("[" ++ toString index ++ "]")
  | mapElement _ parent key => parent.render ++ ("[" ++ Text.quote key ++ "]")
  | comparison op left right => left.render ++ (" " ++ op ++ " ") ++ right.render
  | conjunction operands => "(" ++ " && ".intercalate (renderEach operands) ++ ")"
  | disjunction operands => "(" ++ " || ".intercalate (renderEach operands) ++ ")"
  | negation operand => "(!" ++ operand.render ++ ")"
  | stringMatch operand pattern => operand.render ++ " =~ " ++ pattern
  | filter parent condition => parent.render ++ "[?(" ++ condition.render ++ ")]"
  | item _ => "@"
  | accessor _ _ expression => expression.render

def renderEach : List Node → List String
  | [] => []
  | n :: rest => n.render :: renderEach rest

end

theorem renderEach_eq_map (ns : List Node) : renderEach ns = ns.map render := by
  induction ns with
  | nil => rfl
  | cons n rest ih => simp [renderEach, ih]

/-- No node is missing, at any depth. -/
inductive Whole : Node → Prop
  | identifier (s : Shape) (value : String) : Whole (identifier s value)
  | field {parent : Node} (s : Shape) (name : String) :
      Whole parent → Whole (field s parent name)
  | arrayElement {parent : Node} (s : Shape) (index : Int) :
      Whole parent → Whole (arrayElement s parent index)
  | mapElement {parent : Node} (s : Shape) (key : String) :
      Whole parent → Whole (mapElement s parent key)
  | comparison {left right : Node} (op : String) :
      Whole left → Whole right → Whole (comparison op left right)
  | conjunction {operands : List Node} :
      (∀ n ∈ operands, Whole n) → Whole (conjunction operands)
  | disjunction {operands : List Node} :
      (∀ n ∈ operands, Whole n) → Whole (disjunction operands)
  | negation {operand : Node} : Whole operand → Whole (negation operand)
  | stringMatch {operand : Node} (pattern : String) :
      Whole operand → Whole (stringMatch operand pattern)
  | filter {parent condition : Node} :
      Whole parent → Whole condition → Whole (filter parent condition)
  | item (s : Shape) : Whole (item s)
  | accessor {expression : Node} (t : Accessor) (s : Shape) :
      Whole expression → Whole (accessor t s expression)

/-- Each operand is followed by a separator, and the last of these is the latest token. -/
theorem writeOperands_eq {ns : List Node} (separator : String) (hne : ns ≠ [])
    (h : ∀ n ∈ ns, ∀ w, ∃ v, write w n = .ok v ∧ w.Extends v n.render) (w : Writer) :
    ∃ v, writeOperands separator w ns = .ok (v.separate separator) ∧
      w.Extends v (separator.intercalate (ns.map render)) := by
  induction ns generalizing w with
  | nil => exact absurd rfl hne
  | cons n rest ih =>
    obtain ⟨v, hv, he⟩ := h n (by simp) w
    have hw : writeOperands separator w (n :: rest)
        = writeOperands separator (v.separate separator) rest := by
      simp [writeOperands, hv]
    cases rest with
    | nil => exact ⟨v, by rw [hw, writeOperands], by simpa using he⟩
    | cons m rest =>
      obtain ⟨u, hu, hx⟩ := ih (by simp) (fun k hk => h k (List.mem_cons_of_mem _ hk))
        (v.separate separator)
      refine ⟨u, by rw [hw, hu], ?_⟩
      simpa [String.append_assoc] using he.separated hx

/-- The trailing separator that a group takes back is its own. -/
theorem write_group {ns : List Node} (separator : String)
    (h : ∀ n ∈ ns, ∀ w, ∃ v, write w n = .ok v ∧ w.Extends v n.render) (w : Writer) :
    ∃ v, writeOperands separator (w.write "(") ns = .ok v ∧
      w.Extends (v.pop.1.write ")") ("(" ++ separator.intercalate (ns.map render) ++ ")") := by
  by_cases hne : ns = []
  · subst hne
    refine ⟨w.write "(", rfl, ?_⟩
    rw [(w.extends_write "(").pop_eq]
    simpa using (w.extends_write "(").write ")"
  · obtain ⟨v, hv, he⟩ := writeOperands_eq separator hne h (w.write "(")
    refine ⟨_, hv, ?_⟩
    rw [Writer.pop_separate]
    exact ((w.extends_write "(").trans he).write ")"

/-- An expression without holes is written behind whatever stands before it. -/
theorem Whole.write_eq {n : Node} (h : n.Whole) (w : Writer) :
    ∃ v, n.write w = .ok v ∧ w.Extends v n.render := by
  induction h generalizing w with
  | identifier s value => exact ⟨_, rfl, w.extends_write value⟩
  | field s name _ ih | arrayElement s index _ ih | mapElement s key _ ih =>
    obtain ⟨v, hv, he⟩ := ih w
    exact ⟨_, by rw [write, hv]; rfl, he.write _⟩
  | comparison op _ _ ihl ihr =>
    obtain ⟨v, hv, he⟩ := ihl w
    obtain ⟨u, hu, hx⟩ := ihr (v.write (" " ++ op ++ " "))
    exact ⟨u, by simp [write, hv, hu], (he.write _).trans hx⟩
  | conjunction _ ih =>
    obtain ⟨v, hv, he⟩ := write_group " && " ih w
    exact ⟨_, by rw [write, hv]; rfl,
      by simpa [render, renderEach_eq_map] using he⟩
  | disjunction _ ih =>
    obtain ⟨v, hv, he⟩ := write_group " || " ih w
    exact ⟨_, by rw [write, hv]; rfl,
      by simpa [render, renderEach_eq_map] using he⟩
  | negation _ ih =>
    obtain ⟨v, hv, he⟩ := ih (w.write "(!")
    exact ⟨_, by rw [write, hv]; rfl,
      ((w.extends_write "(!").trans he).write ")"⟩
  | stringMatch pattern _ ih =>
    obtain ⟨v, hv, he⟩ := ih w
    exact ⟨_, by rw [write, hv]; rfl,
      (he.write " =~ ").write pattern⟩
  | filter _ _ ihp ihc =>
    obtain ⟨v, hv, he⟩ := ihp w
    obtain ⟨u, hu, hx⟩ := ihc (v.write "[?(")
    exact ⟨_, by rw [write, hv, ok_bind, hu]; rfl,
      ((he.write "[?(").trans hx).write ")]"⟩
  | item s => exact ⟨_, rfl, w.extends_write "@"⟩
  | accessor t s _ ih =>
    obtain ⟨v, hv, he⟩ := ih w
    exact ⟨v, by rw [write, hv], he⟩

/-- An expression that passes its check has the path that its structure gives. -/
theorem Whole.compile_eq {n : Node} (h : n.Whole) (hv : n.validate = .ok ()) :
    n.compile = .ok n.render := by
  obtain ⟨v, hw, he⟩ := h.write_eq .empty
  have ht : v.text = n.render := by simpa [Writer.empty, Writer.text] using he.text_eq
  simp [compile, hv, hw, ht, Except.map]

end Node

end TypedPath
