import TypedPath.Text.Quoted

/-! Quoted text can be read back from the front of any text, so it ends at one place only. -/
namespace TypedPath.Text

theorem unescape_escape (cs rest : List Char) :
    unescape (escape cs ++ '\x27' :: rest) = some (cs, rest) := by
  induction cs with
  | nil => simp [escape, unescape]
  | cons c cs ih =>
    by_cases hc : c = '\\' ∨ c = '\x27'
    · simp [escape, hc, unescape, ih]
    · obtain ⟨hb, hq⟩ := not_or.mp hc
      have hu : unescape (c :: (escape cs ++ '\x27' :: rest))
          = (unescape (escape cs ++ '\x27' :: rest)).map fun r => (c :: r.1, r.2) := by
        rw [unescape]
        · simp [hb, hq]
        · rintro d ds rfl
          simp at hb
      simp [escape, hc, hu, ih]

theorem unquote_quote (s : String) (rest : List Char) :
    unquote ((quote s).toList ++ rest) = some (s.toList, rest) := by
  simp [quote, unquote, unescape_escape]

/-- Texts that start with a quoted text start with the same one. -/
theorem quote_append_inj {s t : String} {x y : List Char}
    (h : (quote s).toList ++ x = (quote t).toList ++ y) : s = t ∧ x = y := by
  have hu := congrArg unquote h
  simpa [unquote_quote, String.toList_inj] using hu

/-- No quoted text is the beginning of another one. -/
theorem eq_of_quote_isPrefix {s t : String} (h : (quote s).toList <+: (quote t).toList) :
    s = t := by
  obtain ⟨rest, hr⟩ := h
  exact (quote_append_inj (y := []) (by rw [hr, List.append_nil])).1

theorem quote_injective : Function.Injective quote := by
  intro s t h
  exact eq_of_quote_isPrefix (h ▸ List.prefix_rfl)

theorem length_lt_of_unescape {cs : List Char} {r : List Char × List Char}
    (h : unescape cs = some r) : r.2.length < cs.length := by
  fun_induction unescape cs generalizing r with
  | case1 => cases h
  | case2 c cs ih =>
    obtain ⟨q, hq, rfl⟩ := Option.map_eq_some_iff.mp h
    have hlt := ih hq
    simp only [List.length_cons]
    omega
  | case3 => cases h
  | case4 =>
    cases h
    simp
  | case5 c cs _ _ _ ih =>
    obtain ⟨q, hq, rfl⟩ := Option.map_eq_some_iff.mp h
    have hlt := ih hq
    exact Nat.lt_succ_of_lt hlt

/-- The quoted texts in a text, from left to right. Between them everything is skipped up to the
next quote. There is no answer if the last of them is not closed. -/
def quotations : List Char → Option (List String)
  | [] => some []
  | c :: rest =>
    if c = '\x27' then
      match h : unescape rest with
      | none => none
      | some r =>
        have := length_lt_of_unescape h
        (quotations r.2).map (String.ofList r.1 :: ·)
    else quotations rest
termination_by cs => cs.length

theorem quotations_append_of_notMem {cs : List Char} (h : '\x27' ∉ cs) (rest : List Char) :
    quotations (cs ++ rest) = quotations rest := by
  induction cs with
  | nil => rfl
  | cons c cs ih =>
    rw [List.mem_cons, not_or] at h
    rw [List.cons_append, quotations, if_neg (Ne.symm h.1), ih h.2]

theorem quotations_quote_append (s : String) (rest : List Char) :
    quotations ((quote s).toList ++ rest) = (quotations rest).map (s :: ·) := by
  have hq : (quote s).toList ++ rest = '\x27' :: (escape s.toList ++ '\x27' :: rest) := by
    simp [quote]
  rw [hq, quotations, if_pos rfl]
  split
  case h_1 hu => simp [unescape_escape] at hu
  case h_2 r hu =>
    rw [unescape_escape] at hu
    cases hu
    simp

end TypedPath.Text
