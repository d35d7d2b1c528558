import TypedPath.Proofs.Query.Sound

/-! The scope of the current element and of the root. A filter looks at one element of its
collection at a time; its condition sees that element, and never the root. -/
namespace TypedPath

namespace Node

variable {n m k parent condition : Node} {parents : List Node} {scope : Option Shape}
  {s t : Shape}

/-- The nodes directly below a node that see the same current element as the node itself. -/
def alongside : Node → List Node
  | filter parent _ => [parent]
  | n => n.children

/-- `m` stands in `n`, inside the conditions of filters of `parents`, the innermost first. -/
inductive OccursIn (m : Node) : List Node → Node → Prop
  | here : OccursIn m [] m
  | alongside {n k : Node} {parents : List Node} :
      k ∈ n.alongside → OccursIn m parents k → OccursIn m parents n
  | condition {condition : Node} {parents : List Node} (parent : Node) :
      OccursIn m parents condition → OccursIn m (parents ++ [parent]) (filter parent condition)

theorem mem_children_of_alongside (h : k ∈ n.alongside) : k ∈ n.children := by
  cases n with
  | filter parent condition =>
    rw [List.mem_singleton.mp h]
    exact List.mem_cons_self
  | _ => exact h

/-- Whatever stands in a node has its place among the filters there. -/
theorem standsIn_iff_occursIn : StandsIn m n ↔ ∃ parents, OccursIn m parents n := by
  constructor
  · intro h
    induction h with
    | here => exact ⟨[], .here⟩
    | @under n k hk _ ih =>
      obtain ⟨parents, ih⟩ := ih
      cases n with
      | filter parent condition =>
        simp only [children, List.mem_cons, List.not_mem_nil, or_false] at hk
        rcases hk with rfl | rfl
        · exact ⟨parents, .alongside (List.mem_singleton_self _) ih⟩
        · exact ⟨parents ++ [parent], .condition parent ih⟩
      | _ => exact ⟨parents, .alongside hk ih⟩
  · rintro ⟨parents, h⟩
    induction h with
    | here => exact .here
    | alongside hk _ ih => exact .under (mem_children_of_alongside hk) ih
    | condition _ _ ih => exact .under (List.mem_cons_of_mem _ (List.mem_singleton_self _)) ih

theorem OccursIn.of_children (h : OccursIn m parents n) (hn : n.type? ≠ some .filter) :
    (m = n ∧ parents = []) ∨ ∃ k ∈ n.children, OccursIn m parents k := by
  cases h with
  | here => exact .inl ⟨rfl, rfl⟩
  | alongside hk h => exact .inr ⟨_, mem_children_of_alongside hk, h⟩
  | condition => exact absurd rfl hn

theorem OccursIn.of_filter (h : OccursIn m parents (Node.filter parent condition)) :
    (m = Node.filter parent condition ∧ parents = []) ∨ OccursIn m parents parent ∨
      ∃ inner, parents = inner ++ [parent] ∧ OccursIn m inner condition := by
  cases h with
  | here => exact .inl ⟨rfl, rfl⟩
  | alongside hk h =>
    rw [List.mem_singleton.mp hk] at h
    exact .inr (.inl h)
  | condition _ h => exact .inr (.inr ⟨_, rfl, h⟩)

/-- The shape of the current element inside the conditions of filters of `parents`: an item of the
collection that the innermost filters. Outside of all filters it is what `scope` says. -/
def CurrentIs (scope : Option Shape) (t : Shape) : List Node → Prop
  | [] => scope = some t
  | parent :: _ => ∃ s, parent.shape? = some s ∧ s.Holds t

theorem CurrentIs.append {u : Shape} (h : CurrentIs (some u) t parents)
    (hp : parent.shape? = some s) (hs : s.Holds u) : CurrentIs scope t (parents ++ [parent]) := by
  cases parents with
  | nil =>
    cases h
    exact ⟨s, hp, hs⟩
  | cons inner outer => exact h

/-- Every current element in `n` is of the shape that its place has, and the root stands outside of
all filters. -/
structure Scoped (scope : Option Shape) (n : Node) : Prop where
  current : ∀ t parents, OccursIn (item t) parents n → CurrentIs scope t parents
  root : ∀ t parents, OccursIn (identifier t root) parents n → parents = [] ∧ scope = none

theorem Scoped.of_children (hn : n.type? ∉ [some .item, some .identifier, some .filter])
    (h : ∀ k ∈ n.children, Scoped scope k) : Scoped scope n := by
  simp only [List.mem_cons, List.not_mem_nil, or_false, not_or] at hn
  obtain ⟨hi, hr, hf⟩ := hn
  constructor
  · intro t parents ho
    rcases ho.of_children hf with ⟨rfl, -⟩ | ⟨k, hk, ho⟩
    · exact absurd rfl hi
    · exact (h k hk).current t parents ho
  · intro t parents ho
    rcases ho.of_children hf with ⟨rfl, -⟩ | ⟨k, hk, ho⟩
    · exact absurd rfl hr
    · exact (h k hk).root t parents ho

theorem scoped_item (t : Shape) : Scoped (some t) (item t) := by
  constructor
  · intro u parents ho
    rcases ho.of_children (by simp [type?]) with ⟨heq, rfl⟩ | ⟨k, hk, -⟩
    · cases heq
      exact rfl
    · cases hk
  · intro u parents ho
    rcases ho.of_children (by simp [type?]) with ⟨heq, -⟩ | ⟨k, hk, -⟩
    · cases heq
    · cases hk

/-- The root is in scope outside of filters, and a literal everywhere. -/
theorem scoped_identifier {value : String} (h : value = Node.root → scope = none) :
    Scoped scope (identifier s value) := by
  constructor
  · intro u parents ho
    rcases ho.of_children (by simp [type?]) with ⟨heq, -⟩ | ⟨k, hk, -⟩
    · cases heq
    · cases hk
  · intro u parents ho
    rcases ho.of_children (by simp [type?]) with ⟨heq, rfl⟩ | ⟨k, hk, -⟩
    · cases heq
      exact ⟨rfl, h rfl⟩
    · cases hk

theorem Scoped.of_child (hn : n.type? ∉ [some .item, some .identifier, some .filter])
    (hc : n.children = [k]) (h : Scoped scope k) : Scoped scope n := by
  apply Scoped.of_children hn
  rw [hc]
  exact List.forall_mem_singleton.mpr h

/-- The condition of a filter has the items of its collection in scope. The collection itself sees
what the filter sees. -/
theorem Scoped.filter (hp : Scoped scope parent) (hs : parent.shape? = some s) (ht : s.Holds t)
    (hc : Scoped (some t) condition) : Scoped scope (filter parent condition) := by
  constructor
  · intro u parents ho
    rcases ho.of_filter with ⟨heq, -⟩ | ho | ⟨inner, rfl, hi⟩
    · cases heq
    · exact hp.current u parents ho
    · exact (hc.current u inner hi).append hs ht
  · intro u parents ho
    rcases ho.of_filter with ⟨heq, -⟩ | ho | ⟨inner, rfl, hi⟩
    · cases heq
    · exact hp.root u parents ho
    · cases (hc.root u inner hi).2

theorem Scoped.accessor (h : Scoped scope n) (s : Shape) : Scoped scope (s.accessor n) := by
  cases s with
  | absent => exact .of_children (by simp [type?]) (by simp [children])
  | _ => exact .of_child (by simp [type?]) rfl h

theorem Scoped.truth (h : Scoped scope n) : Scoped scope n.truth := h.accessor .bool

theorem shape?_accessor_holds (h : s.Holds t) (e : Node) :
    ∃ u, (s.accessor e).shape? = some u ∧ u.Holds t := by
  rcases shape?_of_holds h e with hu | hu
  · exact ⟨_, hu, .inl (.inl rfl)⟩
  · exact ⟨_, hu, .inr rfl⟩

end Node

open Node (Scoped)

mutual

/-- Following steps stays in the scope that the walk starts in. A filter on the way opens a scope of
its own for its condition only. -/
theorem Reaches.scoped {s t : Shape} {e f : Node} {steps : List Step} {scope : Option Shape}
    (h : Reaches s e steps t f) (he : Scoped scope e) : Scoped scope f := by
  match h with
  | .nil => exact he
  | .field _ _ h => exact h.scoped (.of_child (by simp [Node.type?]) rfl (he.accessor _))
  | .index _ _ _ h => exact h.scoped (.of_child (by simp [Node.type?]) rfl (he.accessor _))
  | .key _ h => exact h.scoped (.of_child (by simp [Node.type?]) rfl (he.accessor _))
  | .filter _ hu hp h =>
    obtain ⟨v, hv, hholds⟩ := Node.shape?_accessor_holds hu e
    have hc := hp.scoped (Node.scoped_item _)
    exact h.scoped ((he.accessor s).filter hv hholds hc)
  | .narrow _ _ h => exact h.scoped (he.accessor _)

theorem States.scoped {s : Shape} {e c : Node} {p : Predicate} {scope : Option Shape}
    (h : States s e p c) (he : Scoped scope e) : Scoped scope c := by
  match h with
  | .all _ h => exact .truth (.of_children (by simp [Node.type?]) (h.scoped he))
  | .any _ h => exact .truth (.of_children (by simp [Node.type?]) (h.scoped he))
  | .negated _ h => exact .truth (.of_child (by simp [Node.type?]) rfl (h.scoped he))
  | @States.compare _ t u _ _ _ _ _ _ text _ h hv _ =>
    have hl := (h.scoped he).accessor t
    have hr : Scoped scope (.identifier u text) :=
      Node.scoped_identifier fun heq => absurd heq (Value.literal_text_ne_dollar hv)
    refine .truth (.of_children (by simp [Node.type?]) ?_)
    exact List.forall_mem_cons.mpr ⟨hl, List.forall_mem_singleton.mpr hr⟩
  | .fits _ h _ => exact .truth (.of_child (by simp [Node.type?]) rfl ((h.scoped he).accessor _))

theorem StatesEach.scoped {s : Shape} {e : Node} {ps : List Predicate} {cs : List Node}
    {scope : Option Shape} (h : StatesEach s e ps cs) (he : Scoped scope e) :
    ∀ c ∈ cs, Scoped scope c := by
  match h with
  | .nil => simp
  | .cons h hr => exact List.forall_mem_cons.mpr ⟨h.scoped he, hr.scoped he⟩

end

namespace Query

theorem Builds.scoped {s : Shape} {n : Node} {q : Query} (h : Builds s q n) : Scoped none n := by
  have hroot : Scoped none (.identifier s Node.root) := Node.scoped_identifier fun _ => rfl
  unfold Builds at h
  split at h
  · exact h.scoped hroot
  · obtain ⟨t, f, h, rfl⟩ := h
    exact (h.scoped hroot).accessor t

/-- Every node of an expression has its place among the filters. In whatever a query builds, every
current element stands inside the condition of a filter, and its shape is that of the items of the
collection that the innermost such filter narrows. The root stands in no condition of a filter. -/
theorem build_wellScoped {s : Shape} {root n : Node} {q : Query} (hr : Node.ofShape s = .ok root)
    (h : q.build root = .ok n) :
    (∀ m, Node.StandsIn m n ↔ ∃ parents, Node.OccursIn m parents n) ∧
      (∀ t parents, Node.OccursIn (.item t) parents n →
        ∃ parent outer u, parents = parent :: outer ∧ parent.shape? = some u ∧ u.Holds t) ∧
      ∀ t parents, Node.OccursIn (.identifier t Node.root) parents n → parents = [] := by
  have hn := ((build_eq_ok hr).mp h).scoped
  refine ⟨fun m => Node.standsIn_iff_occursIn, ?_, ?_⟩
  · intro t parents ho
    have hc := hn.current t parents ho
    cases parents with
    | nil => cases hc
    | cons parent outer =>
      obtain ⟨u, hu, ht⟩ := hc
      exact ⟨parent, outer, u, rfl, hu, ht⟩
  · intro t parents ho
    exact (hn.root t parents ho).1

/-- A board with lists of cards, each with a set of labels. -/
def boardShape : Shape :=
  .record "Board" [⟨"lists", .array (.record "List" [⟨"labels", .set .string, false, ""⟩]),
    false, ""⟩]

/-- The lists whose first label other than "new" is not "old", and of these the first. -/
def boardQuery : Query :=
  { select := [{ field := "lists" },
      { filter := some {
          path := [{ field := "labels" }, { filter := some { notEquals := .text "new" } },
            { index := some 0 }]
          notEquals := .text "old" } },
      { index := some 0 }] }

/-- The inner filter stands inside the condition of the outer one, and hides its element. -/
theorem boardQuery_wellScoped :
    ∃ root n, Node.ofShape boardShape = .ok root ∧ boardQuery.build root = .ok n ∧
      n.compile = .ok "$['lists'][?(@['labels'][?(@ != 'new')][0] != 'old')][0]" ∧
      (∃ parents, Node.OccursIn (.item .string) parents n ∧ parents.length = 2) ∧
      (∀ m, Node.StandsIn m n ↔ ∃ parents, Node.OccursIn m parents n) ∧
      (∀ t parents, Node.OccursIn (.item t) parents n →
        ∃ parent outer u, parents = parent :: outer ∧ parent.shape? = some u ∧ u.Holds t) ∧
      ∀ t parents, Node.OccursIn (.identifier t Node.root) parents n → parents = [] := by
  refine ⟨_, _, rfl, rfl, rfl, ?_, build_wellScoped (s := boardShape) (q := boardQuery) rfl rfl⟩
  -- Down to the outer filter and into its condition, then down to the inner filter and into its.
  exact ⟨_, .alongside (.head _) <| .alongside (.head _) <| .alongside (.head _) <| .condition _ <|
    .alongside (.head _) <| .alongside (.head _) <| .alongside (.head _) <| .alongside (.head _) <|
    .alongside (.head _) <| .condition _ <|
    .alongside (.head _) <| .alongside (.head _) <| .alongside (.head _) .here, rfl⟩

end Query

end TypedPath
