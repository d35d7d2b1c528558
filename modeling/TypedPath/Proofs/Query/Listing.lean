import Mathlib.Data.List.Forall2
import Mathlib.Data.List.Nodup
import TypedPath.Node.Listing
import TypedPath.Proofs.Query.Sound
import TypedPath.Proofs.Text.Quoted

/-! The listing of a record's members. It has an entry for every chain of names that a query can
follow through nested records, and none for anything else. -/
namespace TypedPath

namespace Shape

variable {s : Shape} {name : String} {names : List String} {m : Member Shape}
  {ms : List (Member Shape)}

mutual

/-- The chains of names that lead through nested records from a value of a shape. Each stands
directly before the ones that go on from it. -/
def chains : Shape → List (List String)
  | record _ ms => chainsOfMembers ms
  | _ => []

def chainsOfMembers : List (Member Shape) → List (List String)
  | [] => []
  | m :: rest => chainsOfMember m ++ chainsOfMembers rest

def chainsOfMember : Member Shape → List (List String)
  | ⟨name, shape, _, _⟩ => [name] :: shape.chains.map (name :: ·)

end

/-- The member that stands at the end of a chain of names. -/
def declared? : Shape → List String → Option (Member Shape)
  | _, [] => none
  | s, [name] => s.member? name
  | s, name :: next :: rest => (s.member? name).bind fun m => m.shape.declared? (next :: rest)

theorem chainsOfMember_eq (m : Member Shape) :
    chainsOfMember m = [m.name] :: m.shape.chains.map (m.name :: ·) := by
  cases m
  rw [chainsOfMember]

theorem chains_record : (record name ms).chains = ms.flatMap chainsOfMember := by
  rw [chains]
  induction ms with
  | nil => rfl
  | cons m rest ih => rw [chainsOfMembers, ih, List.flatMap_cons]

theorem sizeOf_member (h : m ∈ s.members) : sizeOf m.shape < sizeOf s := by
  cases s with
  | record name ms =>
    have hm : sizeOf m < sizeOf ms := List.sizeOf_lt_of_mem h
    have hs : sizeOf m.shape < sizeOf m := by
      cases m
      simp
      omega
    simp
    omega
  | _ => cases h

/-- What passes from the shapes of its members to a shape holds of every shape. -/
theorem induction_members {P : Shape → Prop} (h : ∀ s, (∀ m ∈ s.members, P m.shape) → P s)
    (s : Shape) : P s := by
  apply h
  intro m hm
  have hlt := sizeOf_member hm
  exact induction_members h m.shape
termination_by sizeOf s

/-- A chain starts with the name of a member, and goes on from the shape of that member. -/
theorem mem_chains_record : names ∈ (record name ms).chains ↔
    ∃ m ∈ ms, names = [m.name] ∨ ∃ rest ∈ m.shape.chains, names = m.name :: rest := by
  simp only [chains_record, List.mem_flatMap, chainsOfMember_eq, List.mem_cons, List.mem_map,
    eq_comm (b := names)]

theorem ne_nil_of_mem_chains (h : names ∈ s.chains) : names ≠ [] := by
  cases s with
  | record name ms =>
    obtain ⟨m, -, rfl | ⟨rest, -, rfl⟩⟩ := mem_chains_record.mp h <;> simp
  | _ => cases h

/-- Members of different names start different chains. -/
theorem RecordsBuilt.nodup_chains (h : s.RecordsBuilt) : s.chains.Nodup := by
  induction s using induction_members with
  | h s ih =>
    cases s with
    | record name ms =>
      rw [chains_record, List.nodup_flatMap]
      constructor
      · intro m hm
        have hs := ih m hm ((recordsBuilt_record.mp h).2 m hm)
        rw [chainsOfMember_eq, List.nodup_cons]
        refine ⟨?_, hs.map List.cons_injective⟩
        intro hmem
        obtain ⟨rest, hrest, heq⟩ := List.mem_map.mp hmem
        exact ne_nil_of_mem_chains hrest (List.cons.inj heq).2
      · refine (List.pairwise_map.mp h.nodup).imp ?_
        intro m k hne names hm hk
        simp only [chainsOfMember_eq, List.mem_cons, List.mem_map] at hm hk
        grind
    | _ => exact List.nodup_nil

end Shape

/-- The steps along a chain of names. -/
def fieldSteps (names : List String) : List Step := names.map fun name => { field := name }

/-- What a chain of names adds to a path. -/
def chainText (names : List String) : String :=
  String.join (names.map fun name => "[" ++ Text.quote name ++ "]")

theorem toList_chainText_cons (name : String) (rest : List String) :
    (chainText (name :: rest)).toList
      = '[' :: ((Text.quote name).toList ++ ']' :: (chainText rest).toList) := by
  simp [chainText]

/-- A quoted name ends at one place only, so names can be read back one by one. -/
theorem chainText_injective : Function.Injective chainText := by
  intro names names' h
  replace h := congrArg String.toList h
  induction names generalizing names' with
  | nil =>
    cases names' with
    | nil => rfl
    | cons name' rest' => simp [chainText] at h
  | cons name rest ih =>
    cases names' with
    | nil => simp [chainText] at h
    | cons name' rest' =>
      rw [toList_chainText_cons, toList_chainText_cons] at h
      obtain ⟨rfl, ht⟩ := Text.quote_append_inj (List.cons.inj h).2
      rw [ih (List.cons.inj ht).2]

theorem Step.move?_field_of_ne {name : String} (h : name ≠ "") :
    Step.move? { field := name } = some (.field name) := by
  simp [move?, h]

theorem Step.move?_field {name : String} {m : Move}
    (h : Step.move? { field := name } = some m) : m = .field name ∧ name ≠ "" := by
  unfold move? at h
  grind

section Reaches

variable {s t : Shape} {e f : Node} {name : String} {names : List String} {steps rest : List Step}

/-- A member can be asked of a record only. -/
theorem Reaches.of_field (h : Reaches s e ({ field := name } :: rest) t f) :
    ∃ record ms m, s = .record record ms ∧ (Shape.record record ms).lastMember? name = some m ∧
      name ≠ "" ∧ Reaches m.shape (.field m.shape (s.accessor e) name) rest t f := by
  cases h with
  | field hm hl h =>
    obtain ⟨heq, hne⟩ := Step.move?_field hm
    cases heq
    exact ⟨_, _, _, rfl, hl, hne, h⟩
  | index hm => cases (Step.move?_field hm).1
  | key hm => cases (Step.move?_field hm).1
  | filter hm => cases (Step.move?_field hm).1
  | narrow hm => cases (Step.move?_field hm).1

theorem Reaches.of_append (h : Reaches s e (steps ++ rest) t f) :
    ∃ u g, Reaches s e steps u g ∧ Reaches u g rest t f := by
  induction steps generalizing s e with
  | nil => exact ⟨s, e, .nil, h⟩
  | cons st steps ih =>
    cases h with
    | field hm hl h =>
      obtain ⟨u, g, hu, hr⟩ := ih h
      exact ⟨u, g, .field hm hl hu, hr⟩
    | index hm hs hi h =>
      obtain ⟨u, g, hu, hr⟩ := ih h
      exact ⟨u, g, .index hm hs hi hu, hr⟩
    | key hm h =>
      obtain ⟨u, g, hu, hr⟩ := ih h
      exact ⟨u, g, .key hm hu, hr⟩
    | filter hm hs hp h =>
      obtain ⟨u, g, hu, hr⟩ := ih h
      exact ⟨u, g, .filter hm hs hp hu, hr⟩
    | narrow hm hn h =>
      obtain ⟨u, g, hu, hr⟩ := ih h
      exact ⟨u, g, .narrow hm hn hu, hr⟩

theorem Reaches.render_fields (h : Reaches s e (fieldSteps names) t f) (hs : s.check = .ok ()) :
    f.render = e.render ++ chainText names := by
  induction names generalizing s e with
  | nil =>
    cases h
    simp [chainText]
  | cons name rest ih =>
    obtain ⟨record, ms, m, rfl, hl, -, h⟩ := h.of_field
    have hc := Shape.check_record.mp hs m (Shape.lastMember?_mem hl).1
    rw [ih h hc, Node.render, Node.render_accessor hs]
    simp [chainText, String.append_assoc]

/-- Names that can be followed are a chain. -/
theorem Reaches.mem_chains (h : Reaches s e (fieldSteps names) t f) (hne : names ≠ []) :
    names ∈ s.chains := by
  induction names generalizing s e with
  | nil => exact absurd rfl hne
  | cons name rest ih =>
    obtain ⟨record, ms, m, rfl, hl, -, h⟩ := h.of_field
    obtain ⟨hm, rfl⟩ := Shape.lastMember?_mem hl
    refine Shape.mem_chains_record.mpr ⟨m, hm, ?_⟩
    by_cases hr : rest = []
    · exact .inl (by rw [hr])
    · exact .inr ⟨rest, ih h hr, rfl⟩

/-- Every proper beginning of names that can be followed ends in a record. -/
theorem Reaches.of_isPrefix {pre : List String} (h : Reaches s e (fieldSteps names) t f)
    (hp : pre <+: names) (hne : pre ≠ names) :
    ∃ record ms g, Reaches s e (fieldSteps pre) (.record record ms) g := by
  obtain ⟨rest, rfl⟩ := hp
  cases rest with
  | nil => simp at hne
  | cons name rest =>
    rw [fieldSteps, List.map_append] at h
    obtain ⟨u, g, hu, hr⟩ := h.of_append
    obtain ⟨record, ms, _, rfl, -⟩ := hr.of_field
    exact ⟨record, ms, g, hu⟩

end Reaches

/-- An entry lists the member at the end of a chain of names, under the text of the node that the
names lead to from the accessor of `s` written as `e`. -/
def Lists (s : Shape) (e : Node) (names : List String) (entry : PathEntry) : Prop :=
  ∃ m f, s.declared? names = some m ∧ Reaches s e (fieldSteps names) m.shape f ∧
    entry = ⟨f.render, m.shape, m.optional, m.doc⟩

theorem Reaches.cons_field {t : Shape} {e f : Node} {record : String} {names : List String}
    {ms : List (Member Shape)} {m : Member Shape} (hb : (Shape.record record ms).RecordsBuilt)
    (hm : m ∈ ms) (h : Reaches m.shape (.field m.shape ((Shape.record record ms).accessor e) m.name)
      (fieldSteps names) t f) :
    Reaches (.record record ms) e (fieldSteps (m.name :: names)) t f :=
  .field (Step.move?_field_of_ne (hb.name_ne_empty hm)) (hb.lastMember?_eq hm) h

theorem Lists.exists_reaches {s : Shape} {e : Node} {names : List String} {entry : PathEntry}
    (h : Lists s e names entry) : ∃ t f, Reaches s e (fieldSteps names) t f := by
  obtain ⟨m, f, -, hf, -⟩ := h
  exact ⟨m.shape, f, hf⟩

/-- What is listed below a member is listed for the record. -/
theorem Lists.cons {record : String} {ms : List (Member Shape)} {m : Member Shape} {e : Node}
    {names : List String} {entry : PathEntry} (hb : (Shape.record record ms).RecordsBuilt)
    (hm : m ∈ ms)
    (h : Lists m.shape (.field m.shape ((Shape.record record ms).accessor e) m.name) names entry) :
    Lists (.record record ms) e (m.name :: names) entry := by
  obtain ⟨k, f, hk, hr, rfl⟩ := h
  refine ⟨k, f, ?_, hr.cons_field hb hm, rfl⟩
  cases names with
  | nil => cases hk
  | cons next rest => rw [Shape.declared?, hb.member?_eq hm, Option.bind_some, hk]

namespace Node

variable {s : Shape} {e n : Node} {name : String} {m : Member Shape} {ms : List (Member Shape)}

theorem listersOf_eq_map (ms : List (Member Shape)) :
    listersOf ms = ms.map fun m => (m.name, listerOf m.shape) := by
  induction ms with
  | nil => rfl
  | cons m rest ih =>
    cases m
    simp [listersOf, listerOfMember, ih]

/-- Where names are distinct, what lies below a member is listed by its own shape. -/
theorem lookup_listersOf (h : (ms.map (·.name)).Nodup) (hm : m ∈ ms) :
    (listersOf ms).reverse.lookup m.name = some (listerOf m.shape) := by
  obtain ⟨before, after, rfl⟩ := List.append_of_mem hm
  rw [listersOf_eq_map, ← List.map_reverse, List.lookup_eq_some_iff]
  refine ⟨after.reverse.map fun m => (m.name, listerOf m.shape),
    before.reverse.map fun m => (m.name, listerOf m.shape), by simp, ?_⟩
  simp only [List.map_append, List.map_cons, List.nodup_append, List.nodup_cons] at h
  grind

/-- The members of a record are listed one after the other, each with what lies below it. -/
theorem listMembers_eq {below : List (String × Lister)} {R : List String → PathEntry → Prop}
    (h : ∀ m ∈ ms, ∃ f path nested, n.member m.name = .ok f ∧ f.compile = .ok path ∧
      ((below.reverse.lookup m.name).getD fun _ => .ok []) f = .ok nested ∧
      List.Forall₂ R (Shape.chainsOfMember m) (⟨path, m.shape, m.optional, m.doc⟩ :: nested)) :
    ∃ entries, listMembers below n ms = .ok entries ∧
      List.Forall₂ R (ms.flatMap Shape.chainsOfMember) entries := by
  induction ms with
  | nil => exact ⟨[], rfl, .nil⟩
  | cons m rest ih =>
    obtain ⟨⟨f, path, nested, hf, hp, hn, hR⟩, hrest⟩ := List.forall_mem_cons.mp h
    obtain ⟨others, ho, hRs⟩ := ih hrest
    refine ⟨⟨path, m.shape, m.optional, m.doc⟩ :: (nested ++ others), ?_, ?_⟩
    · simp [listMembers, hf, hp, hn, ho, inContext_ok]
    · rw [List.flatMap_cons]
      exact List.rel_append hR hRs

/-- The members of a checked record are listed chain by chain. -/
theorem exists_listing (hb : s.RecordsBuilt) (hs : s.check = .ok ()) (he : e.Sound) :
    ∃ entries, listerOf s (s.accessor e) = .ok entries ∧
      List.Forall₂ (Lists s e) s.chains entries := by
  induction s using Shape.induction_members generalizing e with
  | h s ih =>
    cases s with
    | record name ms =>
      rw [Shape.chains_record, listerOf]
      apply listMembers_eq
      intro m hm
      have hl := hb.lastMember?_eq hm
      have hc := Shape.check_record.mp hs m hm
      have hf := Sound.field m.shape (sound_accessor hs he) (hb.name_ne_empty hm)
      obtain ⟨nested, hn, hR⟩ := ih m hm ((Shape.recordsBuilt_record.mp hb).2 m hm) hc hf
      refine ⟨_, _, nested, (member_eq_ok hs).mpr ⟨name, ms, m, rfl, hl, rfl⟩,
        (sound_accessor hc hf).compile_eq, ?_, ?_⟩
      · rw [lookup_listersOf hb.nodup hm]
        exact hn
      · rw [Shape.chainsOfMember_eq, render_accessor hc]
        have hone : Lists (.record name ms) e [m.name]
            ⟨(field m.shape ((Shape.record name ms).accessor e) m.name).render, m.shape,
              m.optional, m.doc⟩ :=
          ⟨m, _, hb.member?_eq hm, Reaches.cons_field hb hm .nil, rfl⟩
        refine .cons hone ?_
        rw [List.forall₂_map_left_iff]
        exact hR.imp fun _ _ h => h.cons hb hm
    | _ => exact ⟨[], rfl, .nil⟩

theorem ofRecord_eq_ok : ofRecord s = .ok n ↔
    ofShape s = .ok n ∧ ∃ name ms, s = .record name ms := by
  rw [ofRecord]
  constructor
  · intro h
    split at h
    case h_1 => cases h
    case h_2 k hk =>
      obtain ⟨hs, rfl⟩ := ofShape_eq_ok.mp hk
      cases s <;> simp_all [as, type?]
  · rintro ⟨h, name, ms, rfl⟩
    obtain ⟨hs, rfl⟩ := ofShape_eq_ok.mp h
    rw [h]
    rfl

/-- Steps end in a record exactly if they lead to the accessor of one. -/
theorem walk_struct_iff {root : Node} {steps : List Step} (hr : ofShape s = .ok root) :
    (∃ n, root.walk steps = .ok n ∧ n.type? = some (.accessor .struct)) ↔
      ∃ name ms f, Reaches s (identifier s Node.root) steps (.record name ms) f := by
  obtain ⟨hs, rfl⟩ := ofShape_eq_ok.mp hr
  constructor
  · rintro ⟨n, hn, ht⟩
    obtain ⟨t, f, h, rfl⟩ := reaches_of_walkFrom hs hn
    cases t with
    | record name ms => exact ⟨name, ms, f, h⟩
    | _ => simp [type?] at ht
  · rintro ⟨name, ms, f, h⟩
    exact ⟨_, walkFrom_of_reaches hs h 0, rfl⟩

end Node

namespace Query

variable {s : Shape} {root : Node} {title : String} {names : List String} {r : Compiled}

/-- The query that selects along a chain of names. -/
def ofFields (title : String) (names : List String) : Query :=
  { name := title, select := fieldSteps names }

theorem compile_ofFields (hr : Node.ofShape s = .ok root) :
    (ofFields title names).compile root = .ok r ↔
      (∃ t f, Reaches s (.identifier s Node.root) (fieldSteps names) t f) ∧
        r = ⟨title, "$" ++ chainText names, Node.queryId ("$" ++ chainText names)⟩ := by
  have hs := (Node.ofShape_eq_ok.mp hr).1
  have htext : ∀ {t f}, Reaches s (.identifier s Node.root) (fieldSteps names) t f →
      (t.accessor f).render = "$" ++ chainText names := by
    intro t f h
    rw [Node.render_accessor (h.check hs), h.render_fields hs, Node.render, Node.root]
  rw [compile_eq_ok hr]
  constructor
  · rintro ⟨n, ⟨t, f, h, rfl⟩, rfl⟩
    exact ⟨⟨t, f, h⟩, by rw [htext h, ofFields]⟩
  · rintro ⟨⟨t, f, h⟩, rfl⟩
    exact ⟨t.accessor f, ⟨t, f, h, rfl⟩, by rw [htext h, ofFields]⟩

/-- A query can select along names: there is one, the query compiles, and every proper beginning of
the names ends in a record. -/
structure Selects (root : Node) (title : String) (names : List String) : Prop where
  ne_nil : names ≠ []
  compiles : ∃ r, (ofFields title names).compile root = .ok r
  records : ∀ pre, pre <+: names → pre ≠ names →
    ∃ n, root.walk (fieldSteps pre) = .ok n ∧ n.type? = some (.accessor .struct)

/-- An entry has what the member at the end of a chain declares, and the path of the query that
selects along the chain. -/
structure Describes (s : Shape) (root : Node) (title : String) (names : List String)
    (entry : PathEntry) : Prop where
  member : ∃ m, s.declared? names = some m ∧ entry.shape = m.shape ∧
    entry.optional = m.optional ∧ entry.doc = m.doc
  path : ∃ r, (ofFields title names).compile root = .ok r ∧ entry.path = r.path

theorem Describes.of_lists {entry : PathEntry} (title : String) (hr : Node.ofShape s = .ok root)
    (h : Lists s (.identifier s Node.root) names entry) : Describes s root title names entry := by
  obtain ⟨m, f, hm, hf, rfl⟩ := h
  have hs := (Node.ofShape_eq_ok.mp hr).1
  refine ⟨⟨m, hm, rfl, rfl, rfl⟩, _, (compile_ofFields hr).mpr ⟨⟨_, f, hf⟩, rfl⟩, ?_⟩
  rw [hf.render_fields hs, Node.render, Node.root]

theorem Describes.path_eq {entry : PathEntry} (h : Describes s root title names entry)
    (hr : Node.ofShape s = .ok root) : entry.path = "$" ++ chainText names := by
  obtain ⟨r, hc, hp⟩ := h.path
  rw [hp, ((compile_ofFields hr).mp hc).2]

theorem Selects.mem_chains (h : Selects root title names) (hr : Node.ofShape s = .ok root) :
    names ∈ s.chains := by
  obtain ⟨r, hc⟩ := h.compiles
  obtain ⟨⟨t, f, hf⟩, -⟩ := (compile_ofFields hr).mp hc
  exact hf.mem_chains h.ne_nil

theorem selects_of_reaches {t : Shape} {f : Node} (hr : Node.ofShape s = .ok root)
    (hne : names ≠ []) (h : Reaches s (.identifier s Node.root) (fieldSteps names) t f) :
    Selects root title names := by
  refine ⟨hne, ⟨_, (compile_ofFields hr).mpr ⟨⟨t, f, h⟩, rfl⟩⟩, ?_⟩
  intro pre hp hpne
  exact (Node.walk_struct_iff hr).mpr (h.of_isPrefix hp hpne)

/-- The listing of a record has one entry for each chain of names that a query can select along, in
the order of the chains, and no path occurs twice in it. -/
theorem paths_list_selectable (title : String) (hb : s.RecordsBuilt)
    (hr : Node.ofRecord s = .ok root) :
    ∃ entries, root.paths = .ok entries ∧
      List.Forall₂ (Describes s root title) s.chains entries ∧
      (∀ names, names ∈ s.chains ↔ Selects root title names) ∧
      s.chains.Nodup ∧ (entries.map (·.path)).Nodup := by
  obtain ⟨hr, name, ms, rfl⟩ := Node.ofRecord_eq_ok.mp hr
  obtain ⟨hs, rfl⟩ := Node.ofShape_eq_ok.mp hr
  have he : (Node.identifier (.record name ms) Node.root).Sound := .identifier _ (by decide)
  obtain ⟨entries, hl, hR⟩ := Node.exists_listing hb hs he
  have hd := hR.imp fun _ _ h => Describes.of_lists title hr h
  refine ⟨entries, hl, hd, fun names => ⟨?_, fun h => h.mem_chains hr⟩, hb.nodup_chains, ?_⟩
  · intro hn
    have hall := (List.forall₂_and_left _ _).mp (hR.imp fun _ _ h => ⟨h.exists_reaches, h⟩)
    obtain ⟨t, f, hf⟩ := hall.1 names hn
    exact selects_of_reaches hr (Shape.ne_nil_of_mem_chains hn) hf
  · have hpaths : entries.map (·.path)
        = (Shape.record name ms).chains.map fun names => "$" ++ chainText names := by
      refine List.forall₂_eq_eq_eq ▸ ?_
      rw [List.forall₂_map_left_iff, List.forall₂_map_right_iff]
      exact (hd.imp fun _ _ h => h.path_eq hr).flip
    rw [hpaths]
    refine hb.nodup_chains.map ?_
    intro names names' h
    exact chainText_injective (String.append_right_inj _ |>.mp h)

/-- A profile with a nested record under a name that has to be escaped, and with records in an
array, which are not listed. -/
def profileShape : Shape :=
  .record "Profile" [
    ⟨"owner's", .record "Owner" [⟨"since", .timestamp, false, "First seen."⟩,
      ⟨"tags", .set .string, true, ""⟩], true, ""⟩,
    ⟨"notes", .array (.record "Note" [⟨"text", .string, false, ""⟩]), false, ""⟩]

theorem profileShape_recordsBuilt : profileShape.RecordsBuilt := by
  simp only [profileShape, Shape.recordsBuilt_record, List.forall_mem_cons,
    Shape.recordsBuilt_array, Shape.recordsBuilt_set]
  refine ⟨rfl, ⟨rfl, ?_, ?_, by simp⟩, ⟨rfl, ?_, by simp⟩, by simp⟩ <;> rintro _ _ ⟨⟩

theorem profileShape_listed :
    ∃ root entries, Node.ofRecord profileShape = .ok root ∧ profileShape.RecordsBuilt ∧
      root.paths = .ok entries ∧
      entries.map (·.path) = ["$['owner\\'s']", "$['owner\\'s']['since']",
        "$['owner\\'s']['tags']", "$['notes']"] ∧
      List.Forall₂ (Describes profileShape root "q")
        [["owner's"], ["owner's", "since"], ["owner's", "tags"], ["notes"]] entries ∧
      ¬ Selects root "q" ["notes", "text"] := by
  obtain ⟨entries, hp, hd, hs, -⟩ := paths_list_selectable "q" profileShape_recordsBuilt rfl
  have hn : ["notes", "text"] ∉ profileShape.chains := by decide
  refine ⟨_, entries, rfl, profileShape_recordsBuilt, hp, ?_, hd, mt (hs _).mpr hn⟩
  cases hp
  rfl

end Query

end TypedPath
