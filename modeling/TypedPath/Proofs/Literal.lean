import TypedPath.Query.Basic

/-! Literals: which values have one, of which family it is, and what its text is made of. -/
namespace TypedPath

namespace Decimal

variable {d : Decimal} {c : Char} {cs : List Char} {n places : Nat}

theorem isDigit_of_mem_digits (h : c ∈ digits n) : c.isDigit = true :=
  Nat.isDigit_of_mem_toDigits (by decide) (by decide) h

theorem mem_of_mem_trimZeros (h : c ∈ trimZeros cs) : c ∈ cs := by
  have hm := List.dropWhile_subset _ (List.mem_reverse.mp h)
  exact List.mem_reverse.mp hm

theorem mem_fractionText (h : c ∈ fractionText n places) : c.isDigit = true ∨ c = '.' := by
  simp only [fractionText, List.mem_append] at h
  rcases h with h | h
  · exact Or.inl (isDigit_of_mem_digits h)
  · split at h
    · simp at h
    · rcases List.mem_cons.mp h with rfl | h
      · exact Or.inr rfl
      · exact Or.inl (isDigit_of_mem_digits (List.mem_of_mem_tail (mem_of_mem_trimZeros h)))

/-- Plain notation has digits, and at most a sign and a point. -/
theorem mem_chars (h : c ∈ d.chars) : c.isDigit = true ∨ c = '.' ∨ c = '-' := by
  have hm (h : c ∈ if 0 ≤ d.exponent then digits (d.coefficient.natAbs * pow10 d.exponent.toNat)
      else fractionText d.coefficient.natAbs (-d.exponent).toNat) : c.isDigit = true ∨ c = '.' := by
    split at h
    · exact Or.inl (isDigit_of_mem_digits h)
    · exact mem_fractionText h
  simp only [chars] at h
  split at h
  · rcases List.mem_cons.mp h with rfl | h
    · exact Or.inr (Or.inr rfl)
    · exact (hm h).imp_right Or.inl
  · exact (hm h).imp_right Or.inl

theorem chars_ne_nil (d : Decimal) : d.chars ≠ [] := by
  have hd (n : Nat) : digits n ≠ [] := Nat.toDigits_ne_nil
  simp only [chars]
  split
  · simp
  · split
    · exact hd _
    · simp [fractionText, hd]

end Decimal

namespace Value

variable {v : Value} {u : Shape} {text : String}

/-- The family of the values that a value can be compared with. -/
def family? : Value → Option Family
  | .text _ => some .string
  | integer .. | decimal _ | single (.finite ..) | double (.finite ..) => some .numeric
  | bool _ => some .bool
  | _ => none

/-- The literal of a value is there exactly if the value has a family, and of that family. -/
theorem family?_eq_some {f : Family} :
    v.family? = some f ↔ ∃ u text, v.literal = .ok (u, text) ∧ u.family = f := by
  have hf (format : FloatFormat) (b : Bool) (m : Nat) (q : Int) :
      ∃ t, (floatingText format (.finite b m q)) = .ok t := by
    by_cases hm : m = 0 <;> simp [floatingText, Floating.decimal?, hm]
  have hn : Shape.number.family = .numeric := rfl
  cases v with
  | single x =>
    cases x with
    | finite b m q =>
      obtain ⟨t, ht⟩ := hf .single b m q
      simp [family?, literal, ht, Except.map, hn]
    | _ => simp [family?, literal, floatingText, Floating.decimal?, Except.map]
  | double x =>
    cases x with
    | finite b m q =>
      obtain ⟨t, ht⟩ := hf .double b m q
      simp [family?, literal, ht, Except.map, hn]
    | _ => simp [family?, literal, floatingText, Floating.decimal?, Except.map]
  | _ => simp [family?, literal, Shape.family]

/-- A literal is quoted, or has neither blank nor closing bracket nor quote in it. -/
def IsLiteralText (cs : List Char) : Prop :=
  (∃ s, cs = (Text.quote s).toList) ∨
    (cs ≠ [] ∧ ∀ c ∈ cs, c ≠ ' ' ∧ c ≠ ')' ∧ c ≠ '\x27')

theorem isLiteralText_decimal (d : Decimal) : IsLiteralText d.text.toList := by
  right
  rw [Decimal.text, String.toList_ofList]
  refine ⟨d.chars_ne_nil, fun c hc => ?_⟩
  rcases Decimal.mem_chars hc with h | rfl | rfl
  · refine ⟨?_, ?_, ?_⟩ <;> rintro rfl <;> simp at h
  · decide
  · decide

/-- A literal is a quoted text, a decimal in plain notation, or a truth value. -/
theorem literal_text_cases (h : v.literal = .ok (u, text)) :
    (∃ s, text = Text.quote s) ∨ (∃ d : Decimal, text = d.text) ∨ text = "true" ∨
      text = "false" := by
  have hf (format : FloatFormat) (x : Floating)
      (h : (floatingText format x).map (fun t => (Shape.number, t)) = .ok (u, text)) :
      ∃ d : Decimal, text = d.text := by
    unfold floatingText at h
    split at h
    case h_1 d _ =>
      simp only [Except.map, Except.ok.injEq, Prod.mk.injEq] at h
      exact ⟨d, h.2.symm⟩
    case h_2 => simp [Except.map] at h
  cases v with
  | text s =>
    simp only [literal, Except.ok.injEq, Prod.mk.injEq] at h
    exact .inl ⟨_, h.2.symm⟩
  | integer t i =>
    simp only [literal, Except.ok.injEq, Prod.mk.injEq] at h
    exact .inr (.inl ⟨_, h.2.symm⟩)
  | single x => exact .inr (.inl (hf _ x h))
  | double x => exact .inr (.inl (hf _ x h))
  | decimal d =>
    simp only [literal, Except.ok.injEq, Prod.mk.injEq] at h
    exact .inr (.inl ⟨d, h.2.symm⟩)
  | bool b =>
    simp only [literal, Except.ok.injEq, Prod.mk.injEq] at h
    right
    right
    cases b <;> simp [← h.2]
  | absent => simp [literal] at h
  | other t => simp [literal] at h

theorem isLiteralText_literal (h : v.literal = .ok (u, text)) : IsLiteralText text.toList := by
  rcases literal_text_cases h with ⟨s, rfl⟩ | ⟨d, rfl⟩ | rfl | rfl
  · exact .inl ⟨s, rfl⟩
  · exact isLiteralText_decimal d
  · exact .inr (by simp)
  · exact .inr (by simp)

theorem literal_text_ne_empty (h : v.literal = .ok (u, text)) : text ≠ "" := by
  rintro rfl
  rcases isLiteralText_literal h with ⟨s, hs⟩ | ⟨hne, -⟩
  · simp [Text.quote] at hs
  · exact hne rfl

/-- No literal can be mistaken for the root. -/
theorem literal_text_ne_dollar (h : v.literal = .ok (u, text)) : text ≠ "$" := by
  rintro rfl
  rcases literal_text_cases h with ⟨s, hs⟩ | ⟨d, hd⟩ | hb | hb
  · have hs := congrArg String.toList hs
    simp [Text.quote] at hs
  · have hc : '$' ∈ d.chars := by
      have hd := congrArg String.toList hd
      simp only [Decimal.text, String.toList_ofList] at hd
      rw [← hd]
      exact List.mem_singleton_self _
    rcases Decimal.mem_chars hc with hc | hc | hc <;> simp at hc
  · simp at hb
  · simp at hb

theorem literal_head {c : Char} (h : v.literal = .ok (u, text)) (hc : text.toList.head? = some c) :
    c.isDigit = true ∨ c ∈ ['.', '-', '\x27', 't', 'f'] := by
  rcases literal_text_cases h with ⟨s, rfl⟩ | ⟨d, rfl⟩ | rfl | rfl
  · obtain rfl : '\x27' = c := by simpa [Text.quote] using hc
    decide
  · rw [Decimal.text, String.toList_ofList] at hc
    rcases Decimal.mem_chars (List.mem_of_mem_head? hc) with hd | rfl | rfl
    · exact .inl hd
    · decide
    · decide
  · obtain rfl : 't' = c := by simpa using hc
    decide
  · obtain rfl : 'f' = c := by simpa using hc
    decide

/-- No literal starts as a reference, a group or the mark of a negation does. -/
theorem literal_head_ne (h : v.literal = .ok (u, text)) :
    ∀ c ∈ ['$', '@', '(', '!'], text.toList.head? ≠ some c := by
  have hne : ∀ c ∈ ['$', '@', '(', '!'],
      ¬(c.isDigit = true ∨ c ∈ ['.', '-', '\x27', 't', 'f']) := by simp
  exact fun c hc hd => hne c hc (literal_head h hd)

end Value

end TypedPath
