import TypedPath.Report.Formatter

/-! What can be read in the output of commands. In lines of text it stands as it is. In JSON it
stands in quotes, and a reader undoes the escapes. -/
namespace TypedPath

namespace Data

variable {s : String} {d : Data} {parts : List String} {p : String}

/-- The value of a hexadecimal digit. -/
def hexValue (c : Char) : Nat := if c.isDigit then c.toNat - 48 else c.toNat - 87

/-- The character behind a backslash, where it stands for another. -/
def unescaped : Char → Char
  | 'n' => '\n'
  | 'r' => '\r'
  | 't' => '\t'
  | 'b' => '\x08'
  | 'f' => '\x0c'
  | c => c

/-- Reads a JSON text up to the quote that closes it, and gives the rest. -/
def readText : List Char → Option (List Char × List Char)
  | [] => none
  | '"' :: rest => some ([], rest)
  | '\\' :: 'u' :: a :: b :: c :: d :: rest =>
    let n := 4096 * hexValue a + 256 * hexValue b + 16 * hexValue c + hexValue d
    (readText rest).map fun r => (Char.ofNat n :: r.1, r.2)
  | '\\' :: c :: rest => (readText rest).map fun r => (unescaped c :: r.1, r.2)
  | c :: rest => (readText rest).map fun r => (c :: r.1, r.2)

theorem hexValue_digitChar : ∀ n < 16, hexValue (Nat.digitChar n) = n := by decide

/-- Four digits are enough for the characters that are written by their code. -/
theorem readText_hex {c : Char} (hc : c.toNat < 65536) (rest : List Char) :
    readText (("\\u" ++ Text.hex 4 c.toNat).toList ++ rest) =
      (readText rest).map fun r => (c :: r.1, r.2) := by
  have hd (k : Nat) : hexValue (Nat.digitChar (c.toNat >>> k % 16)) = c.toNat >>> k % 16 :=
    hexValue_digitChar _ (Nat.mod_lt _ (by decide))
  have hn : 4096 * (c.toNat >>> 12 % 16) + 256 * (c.toNat >>> 8 % 16) +
      16 * (c.toNat >>> 4 % 16) + c.toNat >>> 0 % 16 = c.toNat := by
    simp only [Nat.shiftRight_eq_div_pow]
    omega
  have hlist : ("\\u" ++ Text.hex 4 c.toNat).toList ++ rest =
      '\\' :: 'u' :: Nat.digitChar (c.toNat >>> 12 % 16) :: Nat.digitChar (c.toNat >>> 8 % 16) ::
        Nat.digitChar (c.toNat >>> 4 % 16) :: Nat.digitChar (c.toNat >>> 0 % 16) :: rest := by
    simp [Text.hex, List.range, List.range.loop]
  rw [hlist, readText, hd, hd, hd, hd, hn, Char.ofNat_toNat]

/-- A reader gets back each character that is written, whatever follows it. -/
theorem readText_jsonChar (c : Char) (rest : List Char) :
    readText ((jsonChar c).toList ++ rest) = (readText rest).map fun r => (c :: r.1, r.2) := by
  unfold jsonChar
  split
  case h_8 hquote hback _ _ _ _ _ =>
    split
    case isTrue hc =>
      refine readText_hex ?_ rest
      rcases hc with hc | rfl | rfl | rfl | hc | hc
      · omega
      · decide
      · decide
      · decide
      · omega
      · omega
    case isFalse =>
      rw [Char.toString, String.toList_singleton, List.singleton_append, readText]
      · exact hquote
      · exact fun _ _ _ _ _ h => absurd h hback
      · exact fun _ _ h => absurd h hback
  all_goals rfl

theorem readText_jsonText (s : String) (rest : List Char) :
    ∃ after, (jsonText s).toList ++ rest = '"' :: after ∧
      readText after = some (s.toList, rest) := by
  refine ⟨s.toList.flatMap (fun c => (jsonChar c).toList) ++ '"' :: rest, ?_, ?_⟩
  · simp [jsonText, List.flatMap_map]
  · induction s.toList with
    | nil => rfl
    | cons c cs ih =>
      rw [List.flatMap_cons, List.append_assoc, readText_jsonChar, ih]
      rfl

/-- A text that stands somewhere in data, the names of fields aside. -/
inductive Mentions (s : String) : Data → Prop
  | text : Mentions s (.text s)
  | item {d : Data} {items : List Data} (hd : d ∈ items) (h : Mentions s d) :
      Mentions s (.list items)
  | field {name : String} {d : Data} {fields : List (String × Data)} (hd : (name, d) ∈ fields)
      (h : Mentions s d) : Mentions s (.object fields)

theorem isInfix_intercalate (h : p ∈ parts) (separator : String) :
    p.toList <:+: (separator.intercalate parts).toList := by
  rw [String.toList_intercalate]
  induction parts with
  | nil => cases h
  | cons q parts ih =>
    cases parts with
    | nil =>
      obtain rfl := List.mem_singleton.mp h
      simp
    | cons r parts =>
      rw [List.map_cons, List.map_cons, List.intercalate_cons_cons]
      rcases List.mem_cons.mp h with rfl | h
      · rw [List.append_assoc]
        exact List.infix_append_left
      · exact (ih h).trans List.infix_append_right

theorem isInfix_enclose (h : p ∈ parts) (l : Layout) (left right : String) :
    p.toList <:+: (l.enclose left right parts).toList := by
  have hne : parts.isEmpty = false := List.isEmpty_eq_false_iff.mpr (List.ne_nil_of_mem h)
  rw [Layout.enclose, hne, if_neg Bool.false_ne_true]
  simp only [String.toList_append, List.append_assoc]
  refine (isInfix_intercalate h ("," ++ l.inner.newline)).trans ?_
  rw [← List.append_assoc]
  exact List.infix_append' _ _ _

theorem jsonItems_eq_map (l : Layout) (items : List Data) :
    jsonItems l items = items.map (·.json l) := by
  induction items with
  | nil => rfl
  | cons d rest ih => rw [jsonItems, ih, List.map_cons]

theorem jsonFields_eq_map (l : Layout) (fields : List (String × Data)) :
    jsonFields l fields = fields.map (jsonField l) := by
  induction fields with
  | nil => rfl
  | cons f rest ih => rw [jsonFields, ih, List.map_cons]

/-- The JSON of data has every text of it, however deep. -/
theorem Mentions.isInfix (h : d.Mentions s) (l : Layout) :
    (jsonText s).toList <:+: (d.json l).toList := by
  induction h generalizing l with
  | text => exact List.infix_refl _
  | item hd _ ih =>
    rw [json, jsonItems_eq_map]
    exact (ih l.inner).trans (isInfix_enclose (List.mem_map_of_mem hd) l _ _)
  | @field name d fields hd _ ih =>
    have hfield : (d.json l.inner).toList <:+: (jsonField l.inner (name, d)).toList := by
      rw [jsonField, String.toList_append]
      exact List.infix_append_right
    rw [json, jsonFields_eq_map]
    exact ((ih l.inner).trans hfield).trans (isInfix_enclose (List.mem_map_of_mem hd) l _ _)

end Data

namespace Written

variable {w : Written} {ws : List Written}

@[simp] theorem out_append (v w : Written) : (v ++ w).out = v.out ++ w.out := rfl

theorem isInfix_lines {l : String} {ls : List String} (h : l ∈ ls) :
    l.toList <:+: (lines ls).out.toList := by
  rw [lines, String.toList_join, List.flatMap_map]
  have hline : l.toList ++ ['\n'] ∈ ls.map fun l => (l ++ "\n").toList :=
    List.mem_map.mpr ⟨l, h, String.toList_append⟩
  exact List.infix_append_left.trans (List.infix_of_mem_flatten hline)

/-- The code and the message of an error are in the line that has both. -/
theorem isInfix_codeLine {first code second message : String} {ls : List String}
    (h : first ++ code ++ second ++ message ∈ ls) :
    ∀ s ∈ [code, message], s.toList <:+: (lines ls).out.toList := by
  have hline := isInfix_lines h
  simp only [String.toList_append] at hline
  refine List.forall_mem_cons.mpr ⟨?_, List.forall_mem_singleton.mpr ?_⟩
  · rw [List.append_assoc] at hline
    exact (List.infix_append _ _ _).trans hline
  · exact List.infix_append_right.trans hline

/-- What was written first stays, and what is written later comes behind it. -/
theorem isInfix_foldl (v : Written) (ws : List Written) :
    v.out.toList <:+: (ws.foldl (· ++ ·) v).out.toList ∧
      ∀ w ∈ ws, w.out.toList <:+: (ws.foldl (· ++ ·) v).out.toList := by
  induction ws generalizing v with
  | nil => exact ⟨List.infix_refl _, by simp⟩
  | cons w ws ih =>
    obtain ⟨hstart, hlater⟩ := ih (v ++ w)
    rw [out_append, String.toList_append] at hstart
    refine ⟨List.infix_append_left.trans hstart, List.forall_mem_cons.mpr ⟨?_, hlater⟩⟩
    exact List.infix_append_right.trans hstart

theorem isInfix_all (h : w ∈ ws) : w.out.toList <:+: (all ws).out.toList :=
  (isInfix_foldl {} ws).2 w h

end Written

namespace Formatter

variable {f : Formatter} {w : Written} {s : String} {d : Data}

/-- A text can be read in what is written. -/
def Shows (f : Formatter) (w : Written) (s : String) : Prop :=
  if f.isJson then
    ∃ before after rest, w.out.toList = before ++ '"' :: after ∧
      Data.readText after = some (s.toList, rest)
  else s.toList <:+: w.out.toList

theorem Shows.after (h : f.Shows w s) (v : Written) : f.Shows (v ++ w) s := by
  rw [Shows] at h ⊢
  rw [Written.out_append, String.toList_append]
  cases hf : f.isJson with
  | true =>
    rw [hf] at h
    obtain ⟨before, after, rest, hout, hr⟩ := h
    rw [hout, ← List.append_assoc]
    exact ⟨_, after, rest, rfl, hr⟩
  | false =>
    rw [hf] at h
    exact h.trans List.infix_append_right

theorem shows_of_isInfix (hf : f.isJson = false) (h : s.toList <:+: w.out.toList) :
    f.Shows w s := by
  rwa [Shows, hf]

/-- The JSON of data shows every text in it. -/
theorem shows_json (hf : f.isJson = true) (h : d.Mentions s) (l : Data.Layout) :
    f.Shows (.lines [d.json l]) s := by
  obtain ⟨before, behind, hw⟩ :=
    (h.isInfix l).trans (Written.isInfix_lines (List.mem_singleton_self _))
  obtain ⟨after, ha, hr⟩ := Data.readText_jsonText s behind
  rw [List.append_assoc, ha] at hw
  rw [Shows, hf]
  exact ⟨before, after, behind, hw.symm, hr⟩

section Error

variable (code message : String) (details : Data)

theorem mentions_errorData :
    ∀ s ∈ [code, message], (errorData code message details).Mentions s :=
  List.forall_mem_cons.mpr ⟨.field (List.mem_append_left _ (.head _)) .text,
    List.forall_mem_singleton.mpr (.field (List.mem_append_left _ (.tail _ (.head _))) .text)⟩

/-- An error is shown with its code and its message. -/
theorem shows_error (f : Formatter) :
    ∀ s ∈ [code, message], f.Shows (f.error code message details) s := by
  intro s hs
  cases hf : f.isJson with
  | true =>
    rw [error, hf, if_pos rfl]
    exact shows_json hf (.field (.tail _ (.head _)) (mentions_errorData _ _ _ s hs)) none
  | false =>
    rw [error, hf, if_neg Bool.false_ne_true]
    exact shows_of_isInfix hf (Written.isInfix_codeLine List.mem_cons_self s hs)

end Error

end Formatter

end TypedPath
