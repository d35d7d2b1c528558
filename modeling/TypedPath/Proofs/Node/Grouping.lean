import TypedPath.Proofs.Node.Compile
import TypedPath.Proofs.Node.Composed
import TypedPath.Proofs.Query.Reading

/-! What a path tells of the expression that it was made from. Groups and negations are written with
brackets and are never lost. Comparisons have none, so a comparison on the left of another one reads
as if it stood on the right. -/
namespace TypedPath

namespace Node

mutual

/-- An expression without its accessors and shapes. A field is like an entry of a map, and a group
of one operand is like any other group of it. -/
def plain : Node → Node
  | hole t => hole t
  | identifier _ value => identifier .absent value
  | field _ parent name => mapElement .absent parent.plain name
  | arrayElement _ parent i => arrayElement .absent parent.plain i
  | mapElement _ parent key => mapElement .absent parent.plain key
  | comparison op left right => comparison op left.plain right.plain
  | conjunction ns => conjunction (plainEach ns)
  | disjunction ns =>
    if ns.length = 1 then conjunction (plainEach ns) else disjunction (plainEach ns)
  | negation n => negation n.plain
  | stringMatch n pattern => stringMatch n.plain pattern
  | filter parent condition => filter parent.plain condition.plain
  | item _ => item .absent
  | accessor _ _ e => e.plain

def plainEach : List Node → List Node
  | [] => []
  | n :: rest => n.plain :: plainEach rest

end

/-- The comparison of two expressions, of which the first may be a comparison. Its own left side
then comes first, and everything else is compared on the right. -/
def join (op : String) : Node → Node → Node
  | comparison op' left right, n => comparison op' left (join op right n)
  | m, n => comparison op m n

mutual

/-- An expression in which no comparison stands on the left of another. -/
def chained : Node → Node
  | comparison op left right => join op left.chained right.chained
  | field s parent name => field s parent.chained name
  | arrayElement s parent i => arrayElement s parent.chained i
  | mapElement s parent key => mapElement s parent.chained key
  | conjunction ns => conjunction (chainedEach ns)
  | disjunction ns => disjunction (chainedEach ns)
  | negation n => negation n.chained
  | stringMatch n pattern => stringMatch n.chained pattern
  | filter parent condition => filter parent.chained condition.chained
  | accessor t s e => accessor t s e.chained
  | n => n

def chainedEach : List Node → List Node
  | [] => []
  | n :: rest => n.chained :: chainedEach rest

end

theorem plainEach_eq_map (ns : List Node) : plainEach ns = ns.map plain := by
  induction ns with
  | nil => rfl
  | cons n rest ih => simp [plainEach, ih]

theorem chainedEach_eq_map (ns : List Node) : chainedEach ns = ns.map chained := by
  induction ns with
  | nil => rfl
  | cons n rest ih => simp [chainedEach, ih]

variable {n m l r p : Node}

theorem render_plain (n : Node) : n.plain.render = n.render := by
  induction n using induction_children with
  | h n ih =>
    cases n with
    | disjunction ns =>
      have hns : ns.map (render ∘ plain) = ns.map render :=
        List.map_congr_left fun k hk => ih k hk
      rw [plain]
      split
      case isTrue hl =>
        obtain ⟨k, rfl⟩ := List.length_eq_one_iff.mp hl
        simpa [render, plainEach, renderEach] using hns
      case isFalse => simp [render, plainEach_eq_map, renderEach_eq_map, hns]
    | conjunction ns =>
      have hns : ns.map (render ∘ plain) = ns.map render :=
        List.map_congr_left fun k hk => ih k hk
      simp [plain, render, plainEach_eq_map, renderEach_eq_map, hns]
    | _ => simp_all [plain, render, children]

def IsComparison (n : Node) : Prop := ∃ op l r, n = comparison op l r

theorem join_of_not_isComparison {op : String} (h : ¬l.IsComparison) :
    join op l r = comparison op l r :=
  join.eq_2 _ _ _ fun op' a b hl => h ⟨op', a, b, hl⟩

theorem render_join (op : String) (l r : Node) :
    (join op l r).render = l.render ++ (" " ++ op ++ " ") ++ r.render := by
  induction l, r using join.induct with
  | case1 op' left right n ih => simp [join, render, ih, String.append_assoc]
  | case2 m n hm => rw [join.eq_2 _ _ _ hm, render]

theorem render_chained (n : Node) : n.chained.render = n.render := by
  induction n using induction_children with
  | h n ih =>
    cases n with
    | disjunction ns | conjunction ns =>
      have hns : ns.map (render ∘ chained) = ns.map render :=
        List.map_congr_left fun k hk => ih k hk
      simp [chained, render, chainedEach_eq_map, renderEach_eq_map, hns]
    | comparison op l r =>
      have hl := ih l (by simp [children])
      have hr := ih r (by simp [children])
      rw [chained, render_join, hl, hr, render]
    | _ => simp_all [chained, render, children]

end Node

namespace Junction

def group (ns : List Node) : Junction → Node
  | all => .conjunction ns
  | any => .disjunction ns

/-- The group that is read. A path does not tell how a single operand was grouped. -/
def readGroup (j : Junction) (ns : List Node) : Node := (if ns.length = 1 then all else j).group ns

theorem readGroup_eq {j k : Junction} {ns : List Node} (h : ns.length ≠ 1 → j = k) :
    j.readGroup ns = k.readGroup ns := by
  by_cases hn : ns.length = 1
  · simp [readGroup, hn]
  · rw [h hn]

theorem chained_plain_group (j : Junction) (ns : List Node) :
    (j.group ns).plain.chained = j.readGroup (ns.map (·.plain.chained)) := by
  cases j with
  | all => simp [group, readGroup, Node.plain, Node.chained, Node.plainEach_eq_map,
      Node.chainedEach_eq_map]
  | any =>
    by_cases hn : ns.length = 1 <;> simp [group, readGroup, Node.plain, Node.chained,
      Node.plainEach_eq_map, Node.chainedEach_eq_map, hn]

end Junction

namespace Node

/-- An expression and how it is written. -/
abbrev Part := List Char × Node

/-- Operands after the first, each behind a separator. -/
def partsTail (j : Junction) (xs : List Part) : List Char := xs.flatMap fun x => j.separator ++ x.1

/-- What references start from. -/
inductive Start : Char → Node → Prop
  | root : Start '$' (identifier .absent root)
  | current : Start '@' (item .absent)

mutual

/-- From `p`, the text `cs` leads to `n`. -/
inductive Segments : Node → List Char → Node → Prop
  | nil {p : Node} : Segments p [] p
  | key {p n : Node} {cs : List Char} (k : String) (h : Segments (mapElement .absent p k) cs n) :
      Segments p ('[' :: ((Text.quote k).toList ++ ']' :: cs)) n
  | index {p n : Node} {cs : List Char} (i : Nat)
      (h : Segments (arrayElement .absent p i) cs n) :
      Segments p ('[' :: (Decimal.digits i ++ ']' :: cs)) n
  | filter {p c n : Node} {cs ds : List Char} (hc : Chain ds c) (h : Segments (filter p c) cs n) :
      Segments p ('[' :: '?' :: '(' :: (ds ++ ')' :: ']' :: cs)) n

/-- The text `cs` stands for `n`, which is no comparison. -/
inductive Term : List Char → Node → Prop
  | reference {b : Char} {p n : Node} {cs : List Char} (hb : Start b p) (h : Segments p cs n) :
      Term (b :: cs) n
  | literal {v : Value} {u : Shape} {text : String} (h : v.literal = .ok (u, text)) :
      Term text.toList (identifier .absent text)
  | group (j : Junction) {x : Part} {xs : List Part} (hx : Chain x.1 x.2)
      (hxs : ∀ y ∈ xs, Chain y.1 y.2) :
      Term ('(' :: (x.1 ++ (partsTail j xs ++ [')']))) (j.readGroup (x.2 :: xs.map (·.2)))
  | negation {cs : List Char} {n : Node} (h : Chain cs n) :
      Term ('(' :: '!' :: (cs ++ [')'])) (negation n)

/-- The text `cs` stands for `n`, a term or a comparison of a term with all that follows. -/
inductive Chain : List Char → Node → Prop
  | term {cs : List Char} {n : Node} (h : Term cs n) : Chain cs n
  | comparison {cs ds : List Char} {l r : Node} (op : Operator) (hl : Term cs l)
      (hr : Chain ds r) :
      Chain (cs ++ ' ' :: (op.symbol.toList ++ ' ' :: ds)) (comparison op.symbol l r)

end

section Text

theorem Segments.append {p n k : Node} {cs ds : List Char} (h : Segments p cs n)
    (h' : Segments n ds k) : Segments p (cs ++ ds) k := by
  match h with
  | .nil => exact h'
  | .key name h => simpa using Segments.key name (h.append h')
  | .index i h => simpa using Segments.index i (h.append h')
  | .filter hc h => simpa using Segments.filter hc (h.append h')

theorem Segments.not_isComparison {p n : Node} {cs : List Char} (h : Segments p cs n)
    (hp : ¬p.IsComparison) : ¬n.IsComparison := by
  match h with
  | .nil => exact hp
  | .key name h => exact h.not_isComparison (by simp [IsComparison])
  | .index i h => exact h.not_isComparison (by simp [IsComparison])
  | .filter hc h => exact h.not_isComparison (by simp [IsComparison])

theorem Term.not_isComparison {cs : List Char} {n : Node} (h : Term cs n) : ¬n.IsComparison := by
  cases h with
  | reference hb h => exact h.not_isComparison (by cases hb <;> simp [IsComparison])
  | literal => simp [IsComparison]
  | group j =>
    rw [Junction.readGroup]
    split
    · simp [IsComparison, Junction.group]
    · cases j <;> simp [IsComparison, Junction.group]
  | negation => simp [IsComparison]

/-- A comparison is written as its sides are, also if the first of them is one. -/
theorem Chain.join {cs ds : List Char} {n m : Node} (op : Operator) (h : Chain cs n)
    (h' : Chain ds m) :
    Chain (cs ++ ' ' :: (op.symbol.toList ++ ' ' :: ds)) (join op.symbol n m) := by
  match h with
  | .term h =>
    rw [join_of_not_isComparison h.not_isComparison]
    exact .comparison op h h'
  | .comparison op' hl hr =>
    have hj := Chain.comparison op' hl (hr.join op h')
    simpa [Node.join] using hj

/-- The text `cs` is a reference to `n`. -/
def Spelled (cs : List Char) (n : Node) : Prop :=
  ∃ b p ds, Start b p ∧ cs = b :: ds ∧ Segments p ds n

theorem Spelled.append {cs ds : List Char} {n m : Node} (h : Spelled cs n)
    (h' : Segments n ds m) : Spelled (cs ++ ds) m := by
  obtain ⟨b, p, cs, hb, rfl, h⟩ := h
  exact ⟨b, p, cs ++ ds, hb, rfl, h.append h'⟩

theorem Spelled.term {cs : List Char} {n : Node} (h : Spelled cs n) : Term cs n := by
  obtain ⟨b, p, cs, hb, rfl, h⟩ := h
  exact .reference hb h

/-- A group is written as its operands are, between brackets. -/
theorem toList_render_group (j : Junction) (n : Node) (ns : List Node) :
    (j.group (n :: ns)).render.toList = '(' :: (n.render.toList ++
      (partsTail j (ns.map fun m => (m.render.toList, m.plain.chained)) ++ [')'])) := by
  cases j <;> simp [Junction.group, render, renderEach_eq_map, intercalate_cons_eq, partsTail,
    Junction.separator, List.flatMap_map]

theorem Term.ofGroup (j : Junction) {ns : List Node} (hne : ns ≠ [])
    (h : ∀ n ∈ ns, Chain n.render.toList n.plain.chained) :
    Term (j.group ns).render.toList (j.group ns).plain.chained := by
  cases ns with
  | nil => exact absurd rfl hne
  | cons n ns =>
    obtain ⟨hn, hns⟩ := List.forall_mem_cons.mp h
    have hg := @Term.group j (n.render.toList, n.plain.chained)
      (ns.map fun m => (m.render.toList, m.plain.chained)) hn
      (by simpa [List.forall_mem_map] using hns)
    rw [toList_render_group, j.chained_plain_group]
    simpa [Function.comp_def] using hg

mutual

/-- References are written as the grammar has it. -/
theorem Reference.spelled {n : Node} (h : n.Reference) :
    Spelled n.render.toList n.plain.chained := by
  match h with
  | .root s => exact ⟨_, _, [], .root, by simp [render, root], .nil⟩
  | .item s => exact ⟨_, _, [], .current, by simp [render], .nil⟩
  | .field s name h =>
    simpa [render, plain, chained] using h.spelled.append (.key name .nil)
  | .arrayElement s hi h =>
    obtain ⟨i, rfl⟩ := Int.eq_ofNat_of_zero_le hi
    have hi : (Int.repr i).toList = Decimal.digits i := Nat.toList_repr
    simpa [render, plain, chained, hi] using h.spelled.append (.index i .nil)
  | .mapElement s key h =>
    simpa [render, plain, chained] using h.spelled.append (.key key .nil)
  | .filter h hc =>
    simpa [render, plain, chained] using h.spelled.append (.filter hc.chain .nil)
  | .accessor t s h => simpa [render, plain] using h.spelled

theorem Expression.chain {n : Node} (h : n.Expression) :
    Chain n.render.toList n.plain.chained := by
  match h with
  | .reference h => exact .term h.spelled.term
  | .literal h => simpa [render, plain, chained] using Chain.term (.literal h)
  | .comparison op hl hr =>
    simpa [render, plain, chained] using hl.chain.join op hr.chain
  | .conjunction hne h => exact .term (.ofGroup .all hne fun n hn => (h n hn).chain)
  | .disjunction hne h => exact .term (.ofGroup .any hne fun n hn => (h n hn).chain)
  | .negation h => simpa [render, plain, chained] using Chain.term (.negation h.chain)
  | .accessor t s h => simpa [render, plain] using h.chain

end

end Text

/-- What comes behind an expression ends the brackets around it, or sets the next operand apart. -/
def EndsChain (x : List Char) : Prop :=
  x = [] ∨ (∃ y, x = ')' :: y) ∨ ∃ (j : Junction) (y : List Char), x = j.separator ++ y

section Ends

variable {x y : List Char}

theorem EndsChain.endsCondition (h : EndsChain x) : EndsCondition x := by
  intro c hc
  rcases h with rfl | ⟨y, rfl⟩ | ⟨j, y, rfl⟩
  · cases hc
  · exact .inr (Option.some.inj hc).symm
  · left
    cases j <;> simpa [Junction.separator, eq_comm] using hc

theorem EndsChain.ne_operator (h : EndsChain x) (op : Operator) :
    x ≠ ' ' :: (op.symbol.toList ++ ' ' :: y) := by
  rcases h with rfl | ⟨z, rfl⟩ | ⟨j, z, rfl⟩
  · simp
  · simp
  · cases j <;> cases op <;> simp [Junction.separator, Operator.symbol]

theorem endsChain_bracket (x : List Char) : EndsChain (')' :: x) := .inr (.inl ⟨x, rfl⟩)

theorem endsChain_tail (j : Junction) (xs : List Part) (x : List Char) :
    EndsChain (partsTail j xs ++ ')' :: x) := by
  cases xs with
  | nil => exact endsChain_bracket x
  | cons y ys => exact .inr (.inr ⟨j, _, by simp [partsTail]; rfl⟩)

theorem endsCondition_operator (op : Operator) :
    EndsCondition (' ' :: (op.symbol.toList ++ ' ' :: y)) := by
  simp [EndsCondition]

theorem EndsCondition.endsSteps (h : EndsCondition x) : EndsSteps x := by
  intro hx
  rcases h _ hx with hc | hc <;> simp at hc

end Ends

/-- In front of any end of steps, `cs` leads from `p` to `n` alone. -/
def ReadsSegments (p : Node) (cs : List Char) (n : Node) : Prop :=
  ∀ ds m x y, Segments p ds m → EndsSteps x → EndsSteps y → cs ++ x = ds ++ y → n = m ∧ x = y

def ReadsTerm (cs : List Char) (n : Node) : Prop :=
  ∀ ds m x y, Term ds m → EndsCondition x → EndsCondition y → cs ++ x = ds ++ y → n = m ∧ x = y

def ReadsChain (cs : List Char) (n : Node) : Prop :=
  ∀ ds m x y, Chain ds m → EndsChain x → EndsChain y → cs ++ x = ds ++ y → n = m ∧ x = y

theorem partsTail_unique {j k : Junction} {xs ys : List Part} {x y : List Char}
    (hxs : ∀ p ∈ xs, ReadsChain p.1 p.2) (hys : ∀ q ∈ ys, Chain q.1 q.2)
    (h : partsTail j xs ++ ')' :: x = partsTail k ys ++ ')' :: y) :
    xs.map (·.2) = ys.map (·.2) ∧ x = y ∧ (xs ≠ [] → j = k) := by
  refine separated_unique endsChain_tail (fun p hp q hq x y => ?_) h
  exact hxs p hp _ _ x y (hys q hq)

theorem group_unique {j k : Junction} {p q : Part} {xs ys : List Part} {x y : List Char}
    (hp : ReadsChain p.1 p.2) (hxs : ∀ p ∈ xs, ReadsChain p.1 p.2) (hq : Chain q.1 q.2)
    (hys : ∀ q ∈ ys, Chain q.1 q.2)
    (h : p.1 ++ (partsTail j xs ++ ')' :: x) = q.1 ++ (partsTail k ys ++ ')' :: y)) :
    j.readGroup (p.2 :: xs.map (·.2)) = k.readGroup (q.2 :: ys.map (·.2)) ∧ x = y := by
  obtain ⟨hpq, h⟩ := hp _ _ _ _ hq (endsChain_tail j xs x) (endsChain_tail k ys y) h
  obtain ⟨hmap, hxy, hjk⟩ := partsTail_unique hxs hys h
  rw [hpq, hmap]
  refine ⟨Junction.readGroup_eq fun hl => hjk ?_, hxy⟩
  rintro rfl
  simp [← hmap] at hl

theorem literal_append_ne {v : Value} {u : Shape} {text : String} {c : Char} {x y : List Char}
    (h : v.literal = .ok (u, text)) (hc : c ∈ ['$', '@', '(', '!']) :
    text.toList ++ x ≠ c :: y := by
  intro heq
  cases ht : text.toList with
  | nil =>
    rcases Value.isLiteralText_literal h with ⟨s, hs⟩ | ⟨hne, -⟩
    · simp [ht, Text.quote] at hs
    · exact hne ht
  | cons d ds =>
    obtain rfl : d = c := by
      rw [ht] at heq
      exact (List.cons.inj heq).1
    exact Value.literal_head_ne h d hc (by rw [ht]; rfl)

theorem Start.mem {b : Char} {p : Node} (h : Start b p) : b ∈ ['$', '@', '(', '!'] := by
  cases h <;> simp

theorem Start.ne {b : Char} {p : Node} (h : Start b p) : b ≠ '(' ∧ b ≠ '!' := by
  cases h <;> decide

theorem Start.unique {b : Char} {p q : Node} (h : Start b p) (h' : Start b q) : p = q := by
  cases h <;> cases h' <;> rfl

theorem Term.append_ne {cs x y : List Char} {n : Node} (h : Term cs n) : cs ++ x ≠ '!' :: y := by
  cases h with
  | reference hb =>
    intro heq
    exact hb.ne.2 (List.cons.inj heq).1
  | literal h => exact literal_append_ne h (by simp)
  | group => simp
  | negation => simp

theorem Chain.append_ne {cs x y : List Char} {n : Node} (h : Chain cs n) :
    cs ++ x ≠ '!' :: y := by
  cases h with
  | term h => exact h.append_ne
  | comparison op h =>
    rw [List.append_assoc]
    exact h.append_ne

theorem digits_append_ne_quote {x y : List Char} (i : Nat) {k : String} :
    Decimal.digits i ++ x ≠ (Text.quote k).toList ++ y := by
  have hq : ∃ z, (Text.quote k).toList ++ y = '\x27' :: z := by simp [Text.quote]
  obtain ⟨z, hz⟩ := hq
  rw [hz]
  exact digits_append_ne i rfl

mutual

/-- Segments are read in one way only. -/
theorem Segments.reads {p n : Node} {cs : List Char} (h : Segments p cs n) :
    ReadsSegments p cs n := by
  intro ds m x y h' hx hy heq
  match h with
  | .nil =>
    cases h' with
    | nil => exact ⟨rfl, heq⟩
    | _ => exact absurd (by rw [← List.nil_append x, heq]; rfl) hx
  | .key k h =>
    cases h' with
    | nil => exact absurd (by rw [← List.nil_append y, ← heq]; rfl) hy
    | key k' h' =>
      simp only [List.cons_append, List.append_assoc, List.cons.injEq, true_and] at heq
      obtain ⟨rfl, hrest⟩ := Text.quote_append_inj heq
      exact h.reads _ _ _ _ h' hx hy (List.cons.inj hrest).2
    | index i =>
      simp only [List.cons_append, List.append_assoc, List.cons.injEq, true_and] at heq
      exact absurd heq.symm (digits_append_ne_quote i)
    | filter => simp [Text.quote] at heq
  | .index i h =>
    cases h' with
    | nil => exact absurd (by rw [← List.nil_append y, ← heq]; rfl) hy
    | key k =>
      simp only [List.cons_append, List.append_assoc, List.cons.injEq, true_and] at heq
      exact absurd heq (digits_append_ne_quote i)
    | index i' h' =>
      simp only [List.cons_append, List.append_assoc, List.cons.injEq, true_and] at heq
      obtain ⟨rfl, hrest⟩ := digits_append_inj heq
      exact h.reads _ _ _ _ h' hx hy hrest
    | filter =>
      simp only [List.cons_append, List.append_assoc, List.cons.injEq, true_and] at heq
      exact absurd heq (digits_append_ne i rfl)
  | .filter hc h =>
    cases h' with
    | nil => exact absurd (by rw [← List.nil_append y, ← heq]; rfl) hy
    | key => simp [Text.quote] at heq
    | index i =>
      simp only [List.cons_append, List.append_assoc, List.cons.injEq, true_and] at heq
      exact absurd heq.symm (digits_append_ne i rfl)
    | filter hc' h' =>
      simp only [List.cons_append, List.append_assoc, List.cons.injEq, true_and] at heq
      obtain ⟨rfl, hrest⟩ :=
        hc.reads _ _ _ _ hc' (endsChain_bracket _) (endsChain_bracket _) heq
      exact h.reads _ _ _ _ h' hx hy (by simpa using hrest)

/-- So are terms, each kind of which starts in its own way. -/
theorem Term.reads {cs : List Char} {n : Node} (h : Term cs n) : ReadsTerm cs n := by
  intro ds m x y h' hx hy heq
  match h with
  | .reference hb h =>
    cases h' with
    | reference hb' h' =>
      obtain ⟨rfl, hrest⟩ := List.cons.inj heq
      obtain rfl := hb.unique hb'
      exact h.reads _ _ _ _ h' (EndsCondition.endsSteps hx)
        (EndsCondition.endsSteps hy) hrest
    | literal h' => exact absurd heq.symm (literal_append_ne h' hb.mem)
    | group => exact absurd (List.cons.inj heq).1 hb.ne.1
    | negation => exact absurd (List.cons.inj heq).1 hb.ne.1
  | .literal h =>
    cases h' with
    | reference hb' => exact absurd heq (literal_append_ne h hb'.mem)
    | literal h' =>
      obtain ⟨ht, hxy⟩ := literal_append_inj (Value.isLiteralText_literal h)
        (Value.isLiteralText_literal h') hx hy heq
      rw [String.toList_inj.mp ht]
      exact ⟨rfl, hxy⟩
    | group => exact absurd heq (literal_append_ne h (by simp))
    | negation => exact absurd heq (literal_append_ne h (by simp))
  | .group j hp hps =>
    cases h' with
    | reference hb' => exact absurd (List.cons.inj heq).1.symm hb'.ne.1
    | literal h' => exact absurd heq.symm (literal_append_ne h' (by simp))
    | group k hq hqs =>
      simp only [List.cons_append, List.append_assoc, List.cons.injEq, true_and,
        List.nil_append] at heq
      exact group_unique hp.reads (fun q hq => (hps q hq).reads) hq hqs heq
    | negation =>
      simp only [List.cons_append, List.append_assoc, List.cons.injEq, true_and] at heq
      exact absurd heq hp.append_ne
  | .negation h =>
    cases h' with
    | reference hb' => exact absurd (List.cons.inj heq).1.symm hb'.ne.1
    | literal h' => exact absurd heq.symm (literal_append_ne h' (by simp))
    | group k hq =>
      simp only [List.cons_append, List.append_assoc, List.cons.injEq, true_and] at heq
      exact absurd heq.symm hq.append_ne
    | negation h' =>
      simp only [List.cons_append, List.append_assoc, List.cons.injEq, true_and] at heq
      obtain ⟨rfl, hrest⟩ := h.reads _ _ _ _ h' (endsChain_bracket _) (endsChain_bracket _) heq
      exact ⟨rfl, by simpa using hrest⟩

theorem Chain.reads {cs : List Char} {n : Node} (h : Chain cs n) : ReadsChain cs n := by
  intro ds m x y h' hx hy heq
  match h with
  | .term h =>
    cases h' with
    | term h' => exact h.reads _ _ _ _ h' hx.endsCondition hy.endsCondition heq
    | comparison op hl hr =>
      simp only [List.append_assoc, List.cons_append] at heq
      obtain ⟨-, hxy⟩ := h.reads _ _ _ _ hl hx.endsCondition (endsCondition_operator op) heq
      exact absurd hxy (hx.ne_operator op)
  | .comparison op hl hr =>
    cases h' with
    | term h' =>
      simp only [List.append_assoc, List.cons_append] at heq
      obtain ⟨-, hxy⟩ := hl.reads _ _ _ _ h' (endsCondition_operator op) hy.endsCondition heq
      exact absurd hxy.symm (hy.ne_operator op)
    | comparison op' hl' hr' =>
      simp only [List.append_assoc, List.cons_append] at heq
      obtain ⟨rfl, hop⟩ := hl.reads _ _ _ _ hl' (endsCondition_operator op)
        (endsCondition_operator op') heq
      obtain ⟨rfl, hrest⟩ := operator_append_inj (List.cons.inj hop).2
      obtain ⟨rfl, hxy⟩ := hr.reads _ _ _ _ hr' hx hy hrest
      exact ⟨rfl, hxy⟩

end

variable {n m : Node} {path path' : String}

/-- No comparison in `n` stands on the left of another. -/
def Unchained (n : Node) : Prop :=
  ∀ op left right, StandsIn (comparison op left right) n → ¬left.IsComparison

theorem unchained_of_children (hn : ¬n.IsComparison) (h : ∀ k ∈ n.children, k.Unchained) :
    n.Unchained := by
  intro op l r hs
  cases hs with
  | here => exact absurd ⟨op, l, r, rfl⟩ hn
  | under hk hs => exact h _ hk op l r hs

theorem chained_of_unchained (h : n.Unchained) : n.chained = n := by
  induction n using induction_children with
  | h n ih =>
    have hc : ∀ k ∈ n.children, k.chained = k :=
      fun k hk => ih k hk fun op l r hs => h op l r (.under hk hs)
    cases n with
    | comparison op l r =>
      rw [chained, hc l (by simp [children]), hc r (by simp [children]),
        join_of_not_isComparison (h op l r .here)]
    | conjunction ns | disjunction ns =>
      have hns : ns.map chained = ns.map id := List.map_congr_left hc
      rw [chained, chainedEach_eq_map, hns, List.map_id]
    | _ => simp_all [chained, children]

/-- Two expressions without matches have the same path exactly if they are the same, but for
accessors, shapes, the kind of a group of one operand, and a comparison on the left of another. So
no path stands for two ways of grouping by conjunctions, disjunctions and negations. -/
theorem path_eq_iff_chained_eq (hn : n.Composed) (hm : m.Composed) (h : n.compile = .ok path)
    (h' : m.compile = .ok path') :
    (path = path' ↔ n.plain.chained = m.plain.chained) ∧
      (n.plain.Unchained → m.plain.Unchained → path = path' → n.plain = m.plain) := by
  have hiff : path = path' ↔ n.plain.chained = m.plain.chained := by
    rw [(compile_eq_ok.mp h).2, (compile_eq_ok.mp h').2]
    constructor
    · intro heq
      have hc := hn.seen.expression.chain
      have hc' := hm.seen.expression.chain
      exact (hc.reads _ _ [] [] hc' (.inl rfl) (.inl rfl) (by rw [heq])).1
    · intro heq
      have hr := congrArg render heq
      rwa [render_chained, render_chained, render_plain, render_plain] at hr
  refine ⟨hiff, fun hu hu' heq => ?_⟩
  rw [← chained_of_unchained hu, ← chained_of_unchained hu']
  exact hiff.mp heq

/-- A record of three truth values. -/
def truthsShape : Shape :=
  .record "" [⟨"a", .bool, false, ""⟩, ⟨"b", .bool, false, ""⟩, ⟨"c", .bool, false, ""⟩]

/-- Where three truth values are compared, the path does not tell which two come first. -/
theorem comparisons_share_path : ∃ n m : Node, n.Composed ∧ m.Composed ∧
    n.compile = .ok "$['a'] == $['b'] == $['c']" ∧
    m.compile = .ok "$['a'] == $['b'] == $['c']" ∧ n.plain ≠ m.plain := by
  have hroot := Composed.root (s := truthsShape) rfl
  have ha := @Composed.member _ _ "a" hroot rfl
  have hb := @Composed.member _ _ "b" hroot rfl
  have hc := @Composed.member _ _ "c" hroot rfl
  have hab := @Composed.compare _ _ .equals (.node _) ha (by rintro _ ⟨⟩; exact hb) rfl
  have hbc := @Composed.compare _ _ .equals (.node _) hb (by rintro _ ⟨⟩; exact hc) rfl
  have hleft := @Composed.compare _ _ .equals (.node _) hab (by rintro _ ⟨⟩; exact hc) rfl
  have hright := @Composed.compare _ _ .equals (.node _) ha (by rintro _ ⟨⟩; exact hbc) rfl
  refine ⟨_, _, hleft, hright, rfl, rfl, ?_⟩
  intro h
  cases h

/-- The members of a record and the entries of a map, alone and in groups of one comparison. -/
theorem members_and_entries_share_path :
    (∃ n m : Node, n.Composed ∧ m.Composed ∧ n.compile = .ok "$['a']" ∧ m.compile = .ok "$['a']" ∧
      n.plain.Unchained ∧ n.plain = m.plain) ∧
    ∃ n m : Node, n.Composed ∧ m.Composed ∧ n.compile = .ok "($['a'] == $['b'] == $['c'])" ∧
      m.compile = .ok "($['a'] == $['b'] == $['c'])" ∧ n.plain.chained = m.plain.chained := by
  have hrecord := Composed.root (s := truthsShape) rfl
  have ha := @Composed.member _ _ "a" hrecord rfl
  have hb := @Composed.member _ _ "b" hrecord rfl
  have hc := @Composed.member _ _ "c" hrecord rfl
  have hab := @Composed.compare _ _ .equals (.node _) ha (by rintro _ ⟨⟩; exact hb) rfl
  have habc := @Composed.compare _ _ .equals (.node _) hab (by rintro _ ⟨⟩; exact hc) rfl
  have hn := Composed.anyOf (by simp) (List.forall_mem_singleton.mpr habc)
    (List.forall_mem_singleton.mpr rfl)
  have hmap := Composed.root (s := .map .bool) rfl
  have ha' := @Composed.entry _ _ "a" hmap rfl
  have hb' := @Composed.entry _ _ "b" hmap rfl
  have hc' := @Composed.entry _ _ "c" hmap rfl
  have hbc := @Composed.compare _ _ .equals (.node _) hb' (by rintro _ ⟨⟩; exact hc') rfl
  have habc' := @Composed.compare _ _ .equals (.node _) ha' (by rintro _ ⟨⟩; exact hbc) rfl
  have hm := Composed.allOf (by simp) (List.forall_mem_singleton.mpr habc')
    (List.forall_mem_singleton.mpr rfl)
  have hkey : (mapElement .absent (identifier .absent root) "a").Unchained := by
    refine unchained_of_children (by simp [IsComparison]) (List.forall_mem_singleton.mpr ?_)
    exact unchained_of_children (by simp [IsComparison]) (by simp [children])
  refine ⟨⟨_, _, ha, ha', rfl, rfl, hkey, ?_⟩, _, _, hn, hm, rfl, rfl, ?_⟩
  · exact (path_eq_iff_chained_eq ha ha' rfl rfl).2 hkey hkey rfl
  · exact (path_eq_iff_chained_eq hn hm rfl rfl).1.mp rfl

end Node

end TypedPath
