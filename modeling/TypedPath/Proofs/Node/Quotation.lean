import TypedPath.Proofs.Node.Compile
import TypedPath.Proofs.Node.Composed
import TypedPath.Proofs.Text.Quoted

/-! Quoted texts in paths. A path is read in stretches that stand as they are and texts in quotes,
and none of these texts can end before its closing quote, whatever characters it is made of. -/
namespace TypedPath

/-- A stretch of a path: text that stands as it is, or a text in quotes. -/
inductive Piece
  | bare (text : String)
  | quoted (text : String)
  deriving Repr, DecidableEq

namespace Piece

def text : Piece → String
  | bare t => t
  | quoted t => Text.quote t

def quoted? : Piece → Option String
  | bare _ => none
  | quoted t => some t

/-- A value is a text in quotes if quoting that text gives the value back. -/
def ofText (value : String) : Piece :=
  match Text.unquote value.toList with
  | some (t, _) => if Text.quote (.ofList t) = value then quoted (.ofList t) else bare value
  | none => bare value

@[simp] theorem text_bare (t : String) : (bare t).text = t := rfl
@[simp] theorem text_quoted (t : String) : (quoted t).text = Text.quote t := rfl

@[simp] theorem text_ofText (value : String) : (ofText value).text = value := by
  rw [ofText]
  split
  case h_1 =>
    split
    case isTrue h => exact h
    case isFalse => rfl
  case h_2 => rfl

theorem ofText_quote (s : String) : ofText (Text.quote s) = quoted s := by
  have h := Text.unquote_quote s []
  rw [List.append_nil] at h
  simp [ofText, h]

/-- The text of pieces one behind the other. -/
def joined (ps : List Piece) : String := String.join (ps.map text)

/-- The texts in quotes among pieces, in their order. -/
def texts (ps : List Piece) : List String := ps.filterMap quoted?

@[simp] theorem joined_nil : joined [] = "" := rfl

@[simp] theorem joined_cons (p : Piece) (ps : List Piece) :
    joined (p :: ps) = p.text ++ joined ps := by
  simp [joined]

@[simp] theorem joined_append (ps qs : List Piece) :
    joined (ps ++ qs) = joined ps ++ joined qs := by
  simp [joined]

@[simp] theorem joined_intercalate (separator : String) (pss : List (List Piece)) :
    joined ([bare separator].intercalate pss) = separator.intercalate (pss.map joined) := by
  induction pss with
  | nil => rfl
  | cons ps rest ih =>
    cases rest with
    | nil => simp
    | cons qs rest =>
      rw [List.intercalate_cons_cons, joined_append, joined_append, ih]
      simp [String.append_assoc]

/-- What joined lists have comes from one of them, or from what is put between two of them. -/
theorem mem_intercalate {p : Piece} {ps : List Piece} {pss : List (List Piece)} :
    p ∈ ps.intercalate pss ↔ (∃ qs ∈ pss, p ∈ qs) ∨ p ∈ ps ∧ 1 < pss.length := by
  induction pss with
  | nil => simp
  | cons qs rest ih =>
    cases rest with
    | nil => simp
    | cons rs rest =>
      rw [List.intercalate_cons_cons, List.mem_append, List.mem_append, ih]
      grind

/-- No quote stands outside of the texts in quotes. -/
def Clear (ps : List Piece) : Prop := ∀ t, bare t ∈ ps → '\x27' ∉ t.toList

section Clear

variable {ps qs : List Piece}

@[simp] theorem clear_nil : Clear [] := by simp [Clear]

@[simp] theorem clear_cons_bare {t : String} :
    Clear (bare t :: ps) ↔ '\x27' ∉ t.toList ∧ Clear ps := by
  simp [Clear, or_imp, forall_and]

@[simp] theorem clear_cons_quoted {t : String} : Clear (quoted t :: ps) ↔ Clear ps := by
  simp [Clear]

@[simp] theorem clear_append : Clear (ps ++ qs) ↔ Clear ps ∧ Clear qs := by
  simp [Clear, or_imp, forall_and]

/-- Read from the left, clear pieces give back their texts and nothing else. -/
theorem Clear.quotations_joined (h : Clear ps) :
    Text.quotations (joined ps).toList = some (texts ps) := by
  induction ps with
  | nil => simp [texts, Text.quotations]
  | cons p ps ih =>
    rw [joined_cons, String.toList_append]
    cases p with
    | bare t =>
      obtain ⟨ht, hps⟩ := clear_cons_bare.mp h
      rw [text_bare, Text.quotations_append_of_notMem ht, ih hps]
      rfl
    | quoted t =>
      rw [text_quoted, Text.quotations_quote_append, ih (clear_cons_quoted.mp h)]
      rfl

theorem clear_ofText {value : String} (h : '\x27' ∉ value.toList) : Clear [ofText value] := by
  have ht := text_ofText value
  cases hv : ofText value with
  | bare t =>
    rw [hv, text_bare] at ht
    simpa [ht] using h
  | quoted t => simp

end Clear

end Piece

namespace Node

variable {n k : Node} {s : String}

mutual

/-- The pieces of an expression's path. Names of members, keys and texts are in quotes. -/
def pieces : Node → List Piece
  | hole _ => []
  | identifier _ value => [.ofText value]
  | field _ parent name => parent.pieces ++ [.bare "[", .quoted name, .bare "]"]
  | arrayElement _ parent index => parent.pieces ++ [.bare ("[" ++ toString index ++ "]")]
  | mapElement _ parent key => parent.pieces ++ [.bare "[", .quoted key, .bare "]"]
  | comparison op left right => left.pieces ++ .bare (" " ++ op ++ " ") :: right.pieces
  | conjunction operands =>
    .bare "(" :: ([.bare " && "].intercalate (piecesEach operands) ++ [.bare ")"])
  | disjunction operands =>
    .bare "(" :: ([.bare " || "].intercalate (piecesEach operands) ++ [.bare ")"])
  | negation operand => .bare "(!" :: (operand.pieces ++ [.bare ")"])
  | stringMatch operand pattern => operand.pieces ++ [.bare " =~ ", .bare pattern]
  | filter parent condition =>
    parent.pieces ++ .bare "[?(" :: (condition.pieces ++ [.bare ")]"])
  | item _ => [.bare "@"]
  | accessor _ _ expression => expression.pieces

def piecesEach : List Node → List (List Piece)
  | [] => []
  | n :: rest => n.pieces :: piecesEach rest

end

theorem piecesEach_eq_map (ns : List Node) : piecesEach ns = ns.map pieces := by
  induction ns with
  | nil => rfl
  | cons n rest ih => rw [piecesEach, ih, List.map_cons]

/-- The text of an expression is that of its pieces. -/
theorem render_eq_joined (n : Node) : n.render = Piece.joined n.pieces := by
  induction n using induction_children with
  | h n ih =>
    cases n with
    | conjunction ns | disjunction ns =>
      have hns : ns.map render = ns.map fun k => Piece.joined k.pieces := List.map_congr_left ih
      simp [render, pieces, renderEach_eq_map, piecesEach_eq_map, hns, Function.comp_def,
        String.append_assoc]
    | _ => simp_all [children, render, pieces, String.append_assoc]

theorem pieces_subset_of_child (h : k ∈ n.children) : k.pieces ⊆ n.pieces := by
  intro p hp
  cases n with
  | hole | identifier | item => cases h
  | conjunction ns | disjunction ns =>
    have hk : k.pieces ∈ piecesEach ns := piecesEach_eq_map ns ▸ List.mem_map_of_mem h
    simp [pieces, Piece.mem_intercalate.mpr (.inl ⟨_, hk, hp⟩)]
  | comparison | filter => rcases List.mem_pair.mp h with rfl | rfl <;> simp [pieces, hp]
  | field | arrayElement | mapElement | negation | stringMatch | accessor =>
    cases List.mem_singleton.mp h
    simp [pieces, hp]

/-- An expression has the pieces of all that stands in it. -/
theorem StandsIn.pieces_subset (h : StandsIn k n) : k.pieces ⊆ n.pieces := by
  induction h with
  | here => exact List.Subset.refl _
  | under hc _ ih => exact List.Subset.trans ih (pieces_subset_of_child hc)

/-- The text that a node puts in quotes: the name of a member, a key, or the text of a literal. -/
inductive Quotes : Node → String → Prop
  | field (s : Shape) (parent : Node) (name : String) : Quotes (field s parent name) name
  | mapElement (s : Shape) (parent : Node) (key : String) : Quotes (mapElement s parent key) key
  | literal {n : Node} {text : String} (h : ofValue (.text text) = .ok n) :
      Quotes n (Text.normalize text)

theorem Quotes.mem_pieces (h : k.Quotes s) : .quoted s ∈ k.pieces := by
  cases h with
  | field | mapElement => simp [pieces]
  | literal h =>
    cases h
    rw [pieces, Piece.ofText_quote]
    exact List.mem_singleton_self _

theorem quote_notMem_index {i : Int} (hi : 0 ≤ i) : '\x27' ∉ i.repr.toList := by
  obtain ⟨i, rfl⟩ := Int.eq_ofNat_of_zero_le hi
  have hd : (Int.repr i).toList = Decimal.digits i := Nat.toList_repr
  rw [hd]
  intro h
  have hdigit := Decimal.isDigit_of_mem_digits h
  simp at hdigit

theorem quote_notMem_symbol (op : Operator) : '\x27' ∉ op.symbol.toList := by
  cases op <;> decide

theorem clear_literal {v : Value} {u : Shape} {text : String} (h : v.literal = .ok (u, text)) :
    Piece.Clear [.ofText text] := by
  rcases Value.isLiteralText_literal h with ⟨s, hs⟩ | ⟨-, hc⟩
  · rw [String.toList_inj.mp hs, Piece.ofText_quote]
    simp
  · exact Piece.clear_ofText fun hq => (hc _ hq).2.2 rfl

theorem clear_group {ns : List Node} {separator : String} (hs : '\x27' ∉ separator.toList)
    (h : ∀ n ∈ ns, Piece.Clear n.pieces) :
    Piece.Clear (.bare "(" :: ([.bare separator].intercalate (piecesEach ns) ++ [.bare ")"])) := by
  have hns : Piece.Clear ([.bare separator].intercalate (piecesEach ns)) := by
    intro t ht
    rcases Piece.mem_intercalate.mp ht with ⟨ps, hps, ht⟩ | ⟨ht, -⟩
    · rw [piecesEach_eq_map] at hps
      obtain ⟨n, hn, rfl⟩ := List.mem_map.mp hps
      exact h n hn t ht
    · cases List.mem_singleton.mp ht
      exact hs
  simpa using hns

mutual

/-- References have quotes around names and keys only. -/
theorem Reference.clear {n : Node} (h : n.Reference) : Piece.Clear n.pieces := by
  match h with
  | .root s => exact Piece.clear_ofText (by simp [root])
  | .item s => simp [pieces]
  | .field s name h => simp [pieces, h.clear]
  | .arrayElement s hi h => simp [pieces, h.clear, quote_notMem_index hi]
  | .mapElement s key h => simp [pieces, h.clear]
  | .filter h hc => simp [pieces, h.clear, hc.clear]
  | .accessor t s h => exact h.clear

theorem Expression.clear {n : Node} (h : n.Expression) : Piece.Clear n.pieces := by
  match h with
  | .reference h => exact h.clear
  | .literal h => exact clear_literal h
  | .comparison op hl hr => simp [pieces, hl.clear, hr.clear, quote_notMem_symbol op]
  | .conjunction _ h => exact clear_group (by simp) fun n hn => (h n hn).clear
  | .disjunction _ h => exact clear_group (by simp) fun n hn => (h n hn).clear
  | .negation h => simp [pieces, h.clear]
  | .accessor t s h => exact h.clear

end

/-- Quoting loses nothing and marks its own end: from the first quote on, exactly the text is read
back and what follows is left. So no two texts are quoted alike, and no quoted text is the beginning
of another one. In a path this holds of each name, key and text. Where no quote stands outside of
these, the quotes of the whole path open and close nothing but them, in their order; and none does
in what is composed of references, literals, comparisons and groups. -/
theorem quoting_self_delimiting :
    (∀ s rest : String,
      Text.unquote (Text.quote s ++ rest).toList = some (s.toList, rest.toList)) ∧
    Function.Injective Text.quote ∧
    (∀ s t : String, (Text.quote s).toList <+: (Text.quote t).toList → s = t) ∧
    ∀ (n : Node) (path : String), n.compile = .ok path →
      (∀ k s, StandsIn k n → k.Quotes s → .quoted s ∈ n.pieces) ∧
      (∀ before s after, n.pieces = before ++ .quoted s :: after →
        path = Piece.joined before ++ Text.quote s ++ Piece.joined after ∧
        Text.unquote (Text.quote s ++ Piece.joined after).toList =
          some (s.toList, (Piece.joined after).toList)) ∧
      (Piece.Clear n.pieces → Text.quotations path.toList = some (Piece.texts n.pieces)) ∧
      (n.Composed → Piece.Clear n.pieces) := by
  have hread : ∀ s rest : String,
      Text.unquote (Text.quote s ++ rest).toList = some (s.toList, rest.toList) := by
    intro s rest
    rw [String.toList_append]
    exact Text.unquote_quote s rest.toList
  refine ⟨hread, Text.quote_injective, fun s t => Text.eq_of_quote_isPrefix, ?_⟩
  intro n path hp
  have hpath : path = Piece.joined n.pieces := by rw [(compile_eq_ok.mp hp).2, render_eq_joined]
  refine ⟨fun k s hk hs => hk.pieces_subset hs.mem_pieces, ?_, ?_,
    fun hn => hn.seen.expression.clear⟩
  · intro before s after hn
    exact ⟨by simp [hpath, hn, String.append_assoc], hread s _⟩
  · intro hc
    rw [hpath]
    exact hc.quotations_joined

/-- A record whose only member has a backslash for its name, under every key. -/
def backslashShape : Shape := .map (.record "" [⟨"\\", .string, false, ""⟩])

/-- A key that looks like the end of its own quotes, a name that could take the closing quote away,
and a text that does both. -/
theorem lookalikes_stay_quoted : ∃ (n : Node) (path : String),
    path = "$['a\\'] || [\\'b']['\\\\'] == 'it\\'s\\\\'" ∧ n.Composed ∧ n.compile = .ok path ∧
    Text.quotations path.toList = some ["a'] || ['b", "\\", "it's\\"] := by
  have hroot := Composed.root (s := backslashShape) rfl
  have hentry := @Composed.entry _ _ "a'] || ['b" hroot rfl
  have hmember := @Composed.member _ _ "\\" hentry rfl
  have hn := @Composed.compare _ _ .equals (.value (.text "it's\\")) hmember (by rintro _ ⟨⟩) rfl
  have hread {n : Node} {path : String} (hn : n.Composed) (hp : n.compile = .ok path) :
      Text.quotations path.toList = some (Piece.texts n.pieces) := by
    obtain ⟨-, -, hread, hclear⟩ := quoting_self_delimiting.2.2.2 n path hp
    exact hread (hclear hn)
  exact ⟨_, _, rfl, hn, rfl, hread hn rfl⟩

end Node

end TypedPath
