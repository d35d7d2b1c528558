import TypedPath.Proofs.Literal
import TypedPath.Proofs.Node.Accessor
import TypedPath.Proofs.Query.Form
import TypedPath.Proofs.Text.Quoted

/-! The grammar of paths without matches. What stands for steps and conditions on a value is fixed
by its shape, and no text stands for two of them, whatever comes behind it. -/
namespace TypedPath

/-- The two ways to combine conditions. -/
inductive Junction
  | all
  | any
  deriving DecidableEq

namespace Junction

def separator : Junction → List Char
  | all => " && ".toList
  | any => " || ".toList

def predicate (ps : List Predicate) : Junction → Predicate
  | all => { all := ps }
  | any => { any := ps }

/-- The combination that is read. A path does not tell how a single condition was combined. -/
def read (j : Junction) (ps : List Predicate) : Predicate :=
  (if ps.length = 1 then all else j).predicate ps

end Junction

/-- A condition and how it is written. -/
abbrev Phrase := List Char × Predicate

/-- Conditions after the first, each behind a separator. -/
def phrasesTail (j : Junction) (xs : List Phrase) : List Char :=
  xs.flatMap fun x => j.separator ++ x.1

mutual

/-- From a value of the shape `s`, the text `cs` stands for steps. -/
inductive Spells : Shape → List Char → List Step → Prop
  | nil {s : Shape} : Spells s [] []
  | field {record : String} {ms : List (Member Shape)} {m : Member Shape} {cs : List Char}
      {steps : List Step} (hm : m ∈ ms) (h : Spells m.shape cs steps) :
      Spells (.record record ms) ('[' :: ((Text.quote m.name).toList ++ ']' :: cs))
        ({ field := m.name } :: steps)
  | index {s u : Shape} {cs : List Char} {steps : List Step} (n : Nat) (hs : s.IsListOf u)
      (h : Spells u cs steps) :
      Spells s ('[' :: (Decimal.digits n ++ ']' :: cs)) ({ index := some n } :: steps)
  | key {u : Shape} {cs : List Char} {steps : List Step} (k : String) (h : Spells u cs steps) :
      Spells (.map u) ('[' :: ((Text.quote k).toList ++ ']' :: cs)) ({ key := k } :: steps)
  | filter {s u : Shape} {cs ds : List Char} {p : Predicate} {steps : List Step}
      (hs : s.Holds u) (hp : Says u '@' ds p) (h : Spells s cs steps) :
      Spells s ('[' :: '?' :: '(' :: (ds ++ ')' :: ']' :: cs)) ({ filter := some p } :: steps)

/-- Of a value of the shape `s` that is written `b`, the text `cs` states a condition. -/
inductive Says : Shape → Char → List Char → Predicate → Prop
  | group {s : Shape} {b : Char} (j : Junction) {x : Phrase} {xs : List Phrase}
      (hx : Says s b x.1 x.2) (hxs : ∀ y ∈ xs, Says s b y.1 y.2) :
      Says s b ('(' :: (x.1 ++ (phrasesTail j xs ++ [')']))) (j.read (x.2 :: xs.map (·.2)))
  | negation {s : Shape} {b : Char} {cs : List Char} {p : Predicate} (h : Says s b cs p) :
      Says s b ('(' :: '!' :: (cs ++ [')'])) { negated := some p }
  | comparison {s : Shape} {b : Char} {cs : List Char} {steps : List Step} (op : Operator)
      {text : String} (h : Spells s cs steps) (ht : Value.IsLiteralText text.toList) :
      Says s b (b :: (cs ++ ' ' :: (op.symbol.toList ++ ' ' :: text.toList)))
        ((Test.compare op (.text text)).predicate steps)

end

/-- What comes behind steps is no other step. -/
def EndsSteps (x : List Char) : Prop := x.head? ≠ some '['

/-- What comes behind a condition neither continues its literal nor its last step. -/
def EndsCondition (x : List Char) : Prop := ∀ c, x.head? = some c → c = ' ' ∨ c = ')'

theorem endsCondition_tail (j : Junction) (xs : List Phrase) (x : List Char) :
    EndsCondition (phrasesTail j xs ++ ')' :: x) := by
  intro c hc
  cases xs with
  | nil =>
    right
    simpa [phrasesTail, eq_comm] using hc
  | cons y ys =>
    left
    cases j <;> simpa [phrasesTail, Junction.separator, eq_comm] using hc

theorem Says.head?_eq {s : Shape} {b : Char} {cs : List Char} {p : Predicate}
    (h : Says s b cs p) : cs.head? = some '(' ∨ cs.head? = some b := by
  cases h <;> simp

section Cancel

variable {x y : List Char}

theorem Says.append_ne {s : Shape} {b : Char} {cs : List Char} {p : Predicate}
    (h : Says s b cs p) (hb : b ≠ '!') : cs ++ x ≠ '!' :: y := by
  intro heq
  cases cs with
  | nil => rcases h.head?_eq with hc | hc <;> cases hc
  | cons c cs =>
    obtain rfl : c = '!' := (List.cons.inj heq).1
    rcases h.head?_eq with hc | hc
    · simp at hc
    · exact hb (Option.some.inj hc).symm

/-- A run of characters that a property tells from what comes behind it ends at one place. -/
theorem run_append_inj (good : Char → Bool) {cs ds : List Char} (hc : ∀ c ∈ cs, good c = true)
    (hd : ∀ c ∈ ds, good c = true) (hx : ∀ c, x.head? = some c → good c = false)
    (hy : ∀ c, y.head? = some c → good c = false) (h : cs ++ x = ds ++ y) : cs = ds ∧ x = y := by
  have hrun {cs x : List Char} (hc : ∀ c ∈ cs, good c = true)
      (hx : ∀ c, x.head? = some c → good c = false) : (cs ++ x).takeWhile good = cs := by
    rw [List.takeWhile_append_of_pos hc]
    cases x with
    | nil => simp
    | cons c x => simp [hx c rfl]
  have hcd : cs = ds := by rw [← hrun hc hx, h, hrun hd hy]
  subst hcd
  exact ⟨rfl, List.append_cancel_left h⟩

theorem digits_append_inj {m n : Nat}
    (h : Decimal.digits m ++ ']' :: x = Decimal.digits n ++ ']' :: y) : m = n ∧ x = y := by
  have hb (z : List Char) : ∀ c, (']' :: z).head? = some c → c.isDigit = false := by
    rintro c ⟨⟩
    decide
  have hd (k : Nat) : ∀ c ∈ Decimal.digits k, c.isDigit = true := by
    intro c
    exact Decimal.isDigit_of_mem_digits
  obtain ⟨hmn, hxy⟩ := run_append_inj Char.isDigit (hd m) (hd n) (hb x) (hb y) h
  refine ⟨?_, (List.cons.inj hxy).2⟩
  rw [← Nat.ofDigitChars_ten_toDigits (n := m), ← Nat.ofDigitChars_ten_toDigits (n := n)]
  exact congrArg (Nat.ofDigitChars 10 · 0) hmn

theorem digits_append_ne (n : Nat) {c : Char} (hc : c.isDigit = false) :
    Decimal.digits n ++ x ≠ c :: y := by
  intro h
  have hd := Decimal.isDigit_of_mem_digits (n := n) (c := c)
  cases hn : Decimal.digits n with
  | nil => exact Nat.toDigits_ne_nil hn
  | cons d ds =>
    simp only [hn, List.cons_append, List.cons.injEq] at h
    simp [hn, h.1, hc] at hd

theorem literal_append_inj {cs ds : List Char} (hc : Value.IsLiteralText cs)
    (hd : Value.IsLiteralText ds) (hx : EndsCondition x) (hy : EndsCondition y)
    (h : cs ++ x = ds ++ y) : cs = ds ∧ x = y := by
  have hquote {s : String} {ds x y : List Char} (hne : ds ≠ []) (hq : ∀ c ∈ ds, c ≠ '\x27')
      (h : (Text.quote s).toList ++ x = ds ++ y) : False := by
    cases ds with
    | nil => exact hne rfl
    | cons d ds =>
      have hhead : '\x27' = d := by simpa [Text.quote] using congrArg List.head? h
      exact hq d (by simp) hhead.symm
  rcases hc with ⟨s, rfl⟩ | ⟨hcne, hc⟩ <;> rcases hd with ⟨t, rfl⟩ | ⟨hdne, hd⟩
  · obtain ⟨rfl, hxy⟩ := Text.quote_append_inj h
    exact ⟨rfl, hxy⟩
  · exact absurd h (hquote hdne fun c hm => (hd c hm).2.2)
  · exact absurd h.symm (hquote hcne fun c hm => (hc c hm).2.2)
  · have hend {z : List Char} (hz : EndsCondition z) :
        ∀ c, z.head? = some c → (c ≠ ' ' && c ≠ ')') = false := by
      intro c hzc
      rcases hz c hzc with rfl | rfl <;> decide
    refine run_append_inj (fun c => c ≠ ' ' && c ≠ ')') ?_ ?_ (hend hx) (hend hy) h
    · intro c hm
      simpa using ⟨(hc c hm).1, (hc c hm).2.1⟩
    · intro c hm
      simpa using ⟨(hd c hm).1, (hd c hm).2.1⟩

theorem operator_append_inj {op op' : Operator}
    (h : op.symbol.toList ++ ' ' :: x = op'.symbol.toList ++ ' ' :: y) : op = op' ∧ x = y := by
  cases op <;> cases op' <;> simp_all [Operator.symbol]

theorem separator_append_inj {j k : Junction} (h : j.separator ++ x = k.separator ++ y) :
    j = k ∧ x = y := by
  cases j <;> cases k <;> simp_all [Junction.separator]

/-- Operands behind separators are told apart, as long as each is by itself: what they stand for
and, if there are any, by what they are combined. -/
theorem separated_unique {α : Type} {j k : Junction} {xs ys : List (List Char × α)}
    {Ends : List Char → Prop}
    (hends : ∀ (j : Junction) (xs : List (List Char × α)) (x : List Char),
      Ends (xs.flatMap (fun p => j.separator ++ p.1) ++ ')' :: x))
    (hread : ∀ p ∈ xs, ∀ q ∈ ys, ∀ x y, Ends x → Ends y → p.1 ++ x = q.1 ++ y →
      p.2 = q.2 ∧ x = y)
    (h : xs.flatMap (fun p => j.separator ++ p.1) ++ ')' :: x
      = ys.flatMap (fun p => k.separator ++ p.1) ++ ')' :: y) :
    xs.map (·.2) = ys.map (·.2) ∧ x = y ∧ (xs ≠ [] → j = k) := by
  induction xs generalizing ys with
  | nil =>
    cases ys with
    | nil => simpa using h
    | cons q ys => cases k <;> simp [Junction.separator] at h
  | cons p xs ih =>
    cases ys with
    | nil => cases j <;> simp [Junction.separator] at h
    | cons q ys =>
      have hhead := hread p List.mem_cons_self q List.mem_cons_self
      have htail := fun p hp q hq =>
        hread p (List.mem_cons_of_mem _ hp) q (List.mem_cons_of_mem _ hq)
      simp only [List.flatMap_cons, List.append_assoc] at h
      obtain ⟨hjk, h⟩ := separator_append_inj h
      obtain ⟨hpq, h⟩ := hhead _ _ (hends j xs x) (hends k ys y) h
      obtain ⟨hmap, hxy, -⟩ := ih htail h
      exact ⟨by simp [hpq, hmap], hxy, fun _ => hjk⟩

end Cancel

/-- In front of any end of steps, `cs` stands for `steps` alone. -/
def ReadsSteps (s : Shape) (cs : List Char) (steps : List Step) : Prop :=
  ∀ ds steps' x y, Spells s ds steps' → EndsSteps x → EndsSteps y → cs ++ x = ds ++ y →
    steps = steps' ∧ x = y

/-- In front of any end of a condition, `cs` states `p` alone. -/
def Reads (s : Shape) (b : Char) (cs : List Char) (p : Predicate) : Prop :=
  ∀ ds q x y, Says s b ds q → EndsCondition x → EndsCondition y → cs ++ x = ds ++ y →
    p = q ∧ x = y

theorem phrasesTail_unique {s : Shape} {b : Char} {j k : Junction} {xs ys : List Phrase}
    {x y : List Char} (hxs : ∀ p ∈ xs, Reads s b p.1 p.2) (hys : ∀ q ∈ ys, Says s b q.1 q.2)
    (h : phrasesTail j xs ++ ')' :: x = phrasesTail k ys ++ ')' :: y) :
    xs.map (·.2) = ys.map (·.2) ∧ x = y ∧ (xs ≠ [] → j = k) := by
  refine separated_unique endsCondition_tail (fun p hp q hq x y => ?_) h
  exact hxs p hp _ _ x y (hys q hq)

/-- A combination that is read from a path is the same for both ways to combine one condition. -/
theorem Junction.read_eq {j k : Junction} {ps : List Predicate} (h : ps.length ≠ 1 → j = k) :
    j.read ps = k.read ps := by
  by_cases hp : ps.length = 1
  · simp [read, hp]
  · rw [h hp]

theorem group_unique {s : Shape} {b : Char} {j k : Junction} {p q : Phrase} {xs ys : List Phrase}
    {x y : List Char} (hp : Reads s b p.1 p.2) (hxs : ∀ p ∈ xs, Reads s b p.1 p.2)
    (hq : Says s b q.1 q.2) (hys : ∀ q ∈ ys, Says s b q.1 q.2)
    (h : p.1 ++ (phrasesTail j xs ++ ')' :: x) = q.1 ++ (phrasesTail k ys ++ ')' :: y)) :
    j.read (p.2 :: xs.map (·.2)) = k.read (q.2 :: ys.map (·.2)) ∧ x = y := by
  obtain ⟨hpq, h⟩ := hp _ _ _ _ hq (endsCondition_tail j xs x) (endsCondition_tail k ys y) h
  obtain ⟨hmap, hxy, hjk⟩ := phrasesTail_unique hxs hys h
  rw [hpq, hmap]
  refine ⟨Junction.read_eq fun hl => hjk ?_, hxy⟩
  rintro rfl
  simp [← hmap] at hl

mutual

/-- Steps are read in one way only. -/
theorem Spells.reads {s : Shape} {cs : List Char} {steps : List Step} (h : Spells s cs steps)
    (hb : s.RecordsBuilt) : ReadsSteps s cs steps := by
  intro ds steps' x y h' hx hy heq
  match h with
  | .nil =>
    cases h' with
    | nil => exact ⟨rfl, heq⟩
    | _ => exact absurd (by rw [← List.nil_append x, heq]; rfl) hx
  | @Spells.field _ ms m cs _ hm hr =>
    have hread := hr.reads ((Shape.recordsBuilt_record.mp hb).2 m hm)
    cases h' with
    | nil => exact absurd (by rw [← List.nil_append y, ← heq]; rfl) hy
    | @field _ _ m' ds _ hm' hr' =>
      simp only [List.cons_append, List.append_assoc, List.cons.injEq, true_and] at heq
      obtain ⟨hname, hrest⟩ := Text.quote_append_inj heq
      -- Both names are declared, and no two members of a checked record share one.
      obtain rfl := List.inj_on_of_nodup_map hb.nodup hm hm' hname
      obtain ⟨rfl, hxy⟩ := hread _ _ _ _ hr' hx hy (List.cons.inj hrest).2
      exact ⟨rfl, hxy⟩
    | index n hs => simp [Shape.IsListOf] at hs
    | filter hs => simp [Shape.Holds, Shape.IsListOf] at hs
  | @Spells.index _ u cs _ n hs hr =>
    have hread := hr.reads (Shape.Holds.recordsBuilt (.inl hs) hb)
    cases h' with
    | nil => exact absurd (by rw [← List.nil_append y, ← heq]; rfl) hy
    | field => simp [Shape.IsListOf] at hs
    | index n' hs' hr' =>
      obtain rfl := Shape.Holds.unique (.inl hs) (.inl hs')
      simp only [List.cons_append, List.append_assoc, List.cons.injEq, true_and] at heq
      obtain ⟨rfl, hrest⟩ := digits_append_inj heq
      obtain ⟨rfl, hxy⟩ := hread _ _ _ _ hr' hx hy hrest
      exact ⟨rfl, hxy⟩
    | key => simp [Shape.IsListOf] at hs
    | filter =>
      simp only [List.cons_append, List.append_assoc, List.cons.injEq, true_and] at heq
      exact absurd heq (digits_append_ne n rfl)
  | @Spells.key u cs _ k hr =>
    have hread := hr.reads (Shape.recordsBuilt_map.mp hb)
    cases h' with
    | nil => exact absurd (by rw [← List.nil_append y, ← heq]; rfl) hy
    | index n hs => simp [Shape.IsListOf] at hs
    | key k' hr' =>
      simp only [List.cons_append, List.append_assoc, List.cons.injEq, true_and] at heq
      obtain ⟨rfl, hrest⟩ := Text.quote_append_inj heq
      obtain ⟨rfl, hxy⟩ := hread _ _ _ _ hr' hx hy (List.cons.inj hrest).2
      exact ⟨rfl, hxy⟩
    | filter => simp [Text.quote] at heq
  | @Spells.filter _ u cs ds' p _ hs hp hr =>
    have hcond := hp.reads (hs.recordsBuilt hb) (by decide)
    have hread := hr.reads hb
    cases h' with
    | nil => exact absurd (by rw [← List.nil_append y, ← heq]; rfl) hy
    | field => simp [Shape.Holds, Shape.IsListOf] at hs
    | index n' =>
      simp only [List.cons_append, List.append_assoc, List.cons.injEq, true_and] at heq
      exact absurd heq.symm (digits_append_ne n' rfl)
    | key => simp [Text.quote] at heq
    | filter hs' hp' hr' =>
      obtain rfl := hs.unique hs'
      simp only [List.cons_append, List.append_assoc, List.cons.injEq, true_and] at heq
      have hend (z : List Char) : EndsCondition (')' :: z) := by simp [EndsCondition]
      obtain ⟨rfl, hrest⟩ := hcond _ _ _ _ hp' (hend _) (hend _) heq
      obtain ⟨rfl, hxy⟩ := hread _ _ _ _ hr' hx hy (by simpa using hrest)
      exact ⟨rfl, hxy⟩

/-- A condition is read in one way only, whatever single character the value is written as. -/
theorem Says.reads {s : Shape} {b : Char} {cs : List Char} {p : Predicate} (h : Says s b cs p)
    (hb : s.RecordsBuilt) (hbr : b ≠ '(' ∧ b ≠ '!') : Reads s b cs p := by
  intro ds q x y h' hx hy heq
  match h with
  | .group j hp hps =>
    have hread := hp.reads hb hbr
    have hreads := fun q hq => (hps q hq).reads hb hbr
    cases h' with
    | group k hq hqs =>
      simp only [List.cons_append, List.append_assoc, List.cons.injEq, true_and,
        List.nil_append] at heq
      exact group_unique hread hreads hq hqs heq
    | negation =>
      simp only [List.cons_append, List.append_assoc, List.cons.injEq, true_and] at heq
      exact absurd heq (hp.append_ne hbr.2)
    | comparison => exact absurd (List.cons.inj heq).1.symm hbr.1
  | .negation hp =>
    have hread := hp.reads hb hbr
    cases h' with
    | group k hq =>
      simp only [List.cons_append, List.append_assoc, List.cons.injEq, true_and] at heq
      exact absurd heq.symm (hq.append_ne hbr.2)
    | negation hq =>
      simp only [List.cons_append, List.append_assoc, List.cons.injEq, true_and] at heq
      obtain ⟨rfl, hrest⟩ :=
        hread _ _ _ _ hq (by simp [EndsCondition]) (by simp [EndsCondition]) heq
      exact ⟨rfl, by simpa using hrest⟩
    | comparison => exact absurd (List.cons.inj heq).1.symm hbr.1
  | .comparison op hs ht =>
    have hread := hs.reads hb
    cases h' with
    | group => exact absurd (List.cons.inj heq).1 hbr.1
    | negation => exact absurd (List.cons.inj heq).1 hbr.1
    | comparison op' hs' ht' =>
      simp only [List.cons_append, List.append_assoc, List.cons.injEq, true_and] at heq
      obtain ⟨rfl, htest⟩ := hread _ _ _ _ hs' (by simp [EndsSteps]) (by simp [EndsSteps]) heq
      obtain ⟨rfl, hlit⟩ := operator_append_inj (List.cons.inj htest).2
      obtain ⟨htext, hxy⟩ := literal_append_inj ht ht' hx hy hlit
      exact ⟨by rw [String.toList_inj.mp htext], hxy⟩

end

end TypedPath
