import Mathlib.Data.List.Forall2
import Mathlib.Data.Set.Finite.Lattice
import Mathlib.Logic.Relation
import TypedPath.Proofs.Shape.OfSchema

/-! How far a shape follows its schema. A value of a schema is a tree that may go on without end. It
has a shape only if the tree stays within the limit, and the shape then shows all of it. -/
namespace TypedPath

namespace Shape

open Schema

variable {σ : Type} {look : σ → View σ} {v w : σ} {hint : String} {room : Nat} {s : Shape}
  {fields : List (Schema.Field σ)} {ms : List (Member Shape)} {ws : List σ}
  {convert : String → σ → Except ConversionFault Shape}

/-- The values that are met one level below a value. -/
inductive Child (look : σ → View σ) (v : σ) : σ → Prop
  | item (hk : (look v).kinds.NonNull [.list]) : Child look v (look v).item
  | field {fields : List (Schema.Field σ)} {f : Schema.Field σ}
      (hk : (look v).kinds.NonNull [.struct]) (hf : (look v).fields = some fields)
      (hm : f ∈ fields) : Child look v f.value
  | pattern {item : σ} (hk : (look v).kinds.NonNull [.struct]) (hf : (look v).fields = some [])
      (hp : (look v).pattern = some item) : Child look v item

/-- What is below a value, each under the one before. -/
def IsBelow (look : σ → View σ) (v : σ) (ws : List σ) : Prop := (v :: ws).IsChain (Child look)

/-- No value lies more than 32 levels below. -/
def Shallow (look : σ → View σ) (v : σ) : Prop := ∀ ws, IsBelow look v ws → ws.length ≤ 32

/-- The member that a field gives, its shape apart. -/
structure Declares (look : σ → View σ) (f : Schema.Field σ) (m : Member Shape) : Prop where
  name : m.name = f.name
  optional : m.optional = true ↔ f.optional = true ∨ (look f.value).kinds.Nullable
  doc : m.doc = f.doc

/-- A shape shows all that there is of a value: one item shape for the items of a list or a map and
one member for each field, in their order, down to values without parts. -/
inductive Mirrors (look : σ → View σ) : String → σ → Shape → Prop
  | leaf {hint : String} {v : σ} {s : Shape} (h : (look v).kinds.Leaf hint s) :
      Mirrors look hint v s
  | array {hint : String} {v : σ} {s : Shape} (hk : (look v).kinds.NonNull [.list])
      (hh : hint ≠ "set") (h : Mirrors look "" (look v).item s) : Mirrors look hint v (.array s)
  | set {v : σ} {s : Shape} (hk : (look v).kinds.NonNull [.list])
      (h : Mirrors look "" (look v).item s) : Mirrors look "set" v (.set s)
  | map {hint : String} {v item : σ} {s : Shape} (hk : (look v).kinds.NonNull [.struct])
      (hf : (look v).fields = some []) (hp : (look v).pattern = some item)
      (h : Mirrors look "" item s) : Mirrors look hint v (.map s)
  | record {hint : String} {v : σ} {fields : List (Schema.Field σ)} {ms : List (Member Shape)}
      (hk : (look v).kinds.NonNull [.struct]) (hf : (look v).fields = some fields)
      (hp : fields = [] → (look v).pattern = none) (hms : List.Forall₂ (Declares look) fields ms)
      (h : ∀ p ∈ fields.zip ms, Mirrors look p.1.hint p.1.value p.2.shape) :
      Mirrors look hint v (.record (look v).recordName ms)

/-- A value that stands for a shape, if all below it do. -/
structure Describable (look : σ → View σ) (v : σ) : Prop where
  supported : (look v).kinds.Supported
  listed : (look v).kinds.NonNull [.struct] → ∃ fields, (look v).fields = some fields ∧
    (∀ f ∈ fields, f.name ≠ "") ∧ (fields.map (·.name)).Nodup

theorem membersOf_eq_ok : membersOf look convert fields = .ok ms ↔
    List.Forall₂ (fun f m => convert f.hint f.value = .ok m.shape ∧ Declares look f m)
      fields ms := by
  induction fields generalizing ms with
  | nil => simp [membersOf, eq_comm]
  | cons f rest ih =>
    simp only [membersOf, bind_eq_ok, List.forall₂_cons_left_iff, ih]
    constructor
    · rintro ⟨t, ht, ks, hks, h⟩
      cases h
      refine ⟨_, ks, ⟨ht, rfl, ?_, rfl⟩, hks, rfl⟩
      rw [Bool.or_eq_true, Kinds.isNullable_iff]
    · rintro ⟨m, ks, ⟨ht, hm⟩, hks, rfl⟩
      refine ⟨m.shape, ht, ks, hks, ?_⟩
      have hopt : m.optional = (f.optional || (look f.value).kinds.isNullable) := by
        rw [Bool.eq_iff_iff, Bool.or_eq_true, Kinds.isNullable_iff, hm.optional]
      rw [← hopt, ← hm.name, ← hm.doc]
      rfl

theorem exists_membersOf (h : ∀ f ∈ fields, ∃ s, convert f.hint f.value = .ok s) :
    ∃ ms, membersOf look convert fields = .ok ms := by
  induction fields with
  | nil => exact ⟨[], rfl⟩
  | cons f rest ih =>
    obtain ⟨s, hs⟩ := h f List.mem_cons_self
    obtain ⟨ms, hms⟩ := ih fun g hg => h g (List.mem_cons_of_mem _ hg)
    exact ⟨_, bind_eq_ok.mpr ⟨s, hs, bind_eq_ok.mpr ⟨ms, hms, rfl⟩⟩⟩

/-- A shape says all that there is to say of a value, however much room there was. -/
theorem ofLevels_mirrors (h : ofLevels look room hint v = .ok s) : Mirrors look hint v s := by
  induction room generalizing hint v s with
  | zero => cases h
  | succ room ih =>
    rcases ofLevels_eq_ok.mp h with hk | ⟨hk, t, ht, rfl⟩ | ⟨hk, fields, hf, ms, hms, hs⟩
    · exact .leaf (Kinds.leaf_of_shapeClass hk)
    · have hlist := Kinds.shapeClass_eq_list.mp hk
      split
      case isTrue hh =>
        subst hh
        exact .set hlist (ih ht)
      case isFalse hh => exact .array hlist hh (ih ht)
    · have hstruct := Kinds.shapeClass_eq_struct.mp hk
      have hms := membersOf_eq_ok.mp hms
      rcases hs with ⟨rfl, item, t, hp, ht, rfl⟩ | ⟨hp, hr⟩
      · rw [List.forall₂_nil_right_iff] at hms
        subst hms
        exact .map hstruct hf hp (ih ht)
      · obtain ⟨rfl, -⟩ := newRecord_eq_ok_iff.mp hr
        refine .record hstruct hf ?_ (hms.imp fun _ _ h => h.2) fun p hp => ?_
        · rintro rfl
          rw [List.forall₂_nil_left_iff] at hms
          exact hp.resolve_left fun hne => hne hms
        · exact ih ((List.forall₂_zip hms hp).1)

/-- All that is one level below a value has a shape if the value has one. -/
theorem ofLevels_child (h : ofLevels look (room + 1) hint v = .ok s) (hw : Child look v w) :
    ∃ hint t, ofLevels look room hint w = .ok t := by
  rcases ofLevels_eq_ok.mp h with hk | ⟨hk, t, ht, -⟩ | ⟨hk, fields, hf, ms, hms, hs⟩
  · cases hw with
    | item hl => cases hk.symm.trans (Kinds.shapeClass_eq_list.mpr hl)
    | field hl | pattern hl => cases hk.symm.trans (Kinds.shapeClass_eq_struct.mpr hl)
  · cases hw with
    | item => exact ⟨"", t, ht⟩
    | field hl | pattern hl => cases hk.symm.trans (Kinds.shapeClass_eq_struct.mpr hl)
  · have hms := membersOf_eq_ok.mp hms
    cases hw with
    | item hl => cases hk.symm.trans (Kinds.shapeClass_eq_list.mpr hl)
    | field _ hf' hm =>
      cases hf.symm.trans hf'
      have hconverted := hms.imp fun f m h =>
        (⟨⟨_, m.shape, h.1⟩, h.2⟩ : (∃ hint t, ofLevels look room hint f.value = .ok t) ∧ _)
      exact ((List.forall₂_and_left _ _).mp hconverted).1 _ hm
    | pattern _ hf' hp =>
      cases hf.symm.trans hf'
      rw [List.forall₂_nil_left_iff] at hms
      rcases hs with ⟨-, item, t, hp', ht, -⟩ | ⟨hne | hnone, -⟩
      · cases hp.symm.trans hp'
        exact ⟨"", t, ht⟩
      · exact absurd hms hne
      · cases hp.symm.trans hnone

theorem ofLevels_below (h : ofLevels look room hint v = .ok s) (hws : IsBelow look v ws) :
    ws.length < room := by
  induction room generalizing hint v s ws with
  | zero => cases h
  | succ room ih =>
    cases ws with
    | nil => exact Nat.zero_lt_succ room
    | cons w ws =>
      obtain ⟨hw, hrest⟩ := List.isChain_cons_cons.mp hws
      obtain ⟨_, t, ht⟩ := ofLevels_child h hw
      exact Nat.succ_lt_succ (ih ht hrest)

theorem map_name_eq (h : List.Forall₂ (Declares look) fields ms) :
    ms.map (·.name) = fields.map (·.name) := by
  have heq : List.Forall₂ (· = ·) (ms.map (·.name)) (fields.map (·.name)) := by
    rw [List.forall₂_map_left_iff, List.forall₂_map_right_iff]
    exact (h.imp fun _ _ hm => hm.name).flip
  rwa [List.forall₂_eq_eq_eq] at heq

/-- Fields with distinct names that are not empty make a record. -/
theorem newRecord_of_fields (hne : ∀ f ∈ fields, f.name ≠ "") (hnd : (fields.map (·.name)).Nodup)
    (hms : membersOf look (ofLevels look room) fields = .ok ms) (name : String) :
    newRecord name ms = .ok (record name ms) := by
  have hnames := map_name_eq ((membersOf_eq_ok.mp hms).imp fun _ _ h => h.2)
  refine newRecord_eq_ok_iff.mpr ⟨rfl, fun m hm => ⟨?_, ?_⟩, hnames ▸ hnd⟩
  · have hmem : m.name ∈ fields.map (·.name) := hnames ▸ List.mem_map_of_mem hm
    obtain ⟨f, hf, heq⟩ := List.mem_map.mp hmem
    exact heq ▸ hne f hf
  · have hu := membersOf_usable (fun _ _ _ => ofLevels_usable) hms m hm
    intro habsent
    exact hu.not_part_absent (habsent ▸ .here)

/-- Where nothing lies too deep and each value is of a kind that has a shape, there is one. -/
theorem exists_ofLevels (hdepth : ∀ ws, IsBelow look v ws → ws.length < room)
    (hd : ∀ w, Relation.ReflTransGen (Child look) v w → Describable look w) :
    ∃ s, ofLevels look room hint v = .ok s := by
  induction room generalizing hint v with
  | zero => exact absurd (hdepth [] (.singleton v)) (Nat.not_lt_zero _)
  | succ room ih =>
    -- Below a child there is one level less, whichever of the three ways leads to it.
    have hchild (hint : String) {w : σ} (hw : Child look v w) :
        ∃ s, ofLevels look room hint w = .ok s := by
      refine ih (fun ws hws => ?_) fun u hu => hd u (.head hw hu)
      exact Nat.lt_of_succ_lt_succ (hdepth (w :: ws) (.cons_cons hw hws))
    simp only [ofLevels_eq_ok]
    cases hk : (look v).kinds.shapeClass hint with
    | leaf s => exact ⟨s, .inl rfl⟩
    | list =>
      obtain ⟨t, ht⟩ := hchild "" (.item (Kinds.shapeClass_eq_list.mp hk))
      exact ⟨_, .inr (.inl ⟨rfl, t, ht, rfl⟩)⟩
    | struct =>
      have hstruct := Kinds.shapeClass_eq_struct.mp hk
      obtain ⟨fields, hf, hne, hnd⟩ := (hd v .refl).listed hstruct
      obtain ⟨ms, hms⟩ := exists_membersOf fun f hm => hchild f.hint (.field hstruct hf hm)
      have hrecord := newRecord_of_fields hne hnd hms (look v).recordName
      by_cases hr : ms ≠ [] ∨ (look v).pattern = none
      · exact ⟨_, .inr (.inr ⟨rfl, fields, hf, ms, hms, .inr ⟨hr, hrecord⟩⟩)⟩
      · obtain ⟨hnil, hsome⟩ := not_or.mp hr
        obtain ⟨item, hp⟩ := Option.ne_none_iff_exists'.mp hsome
        obtain rfl : ms = [] := not_not.mp hnil
        obtain rfl := List.forall₂_nil_right_iff.mp (membersOf_eq_ok.mp hms)
        obtain ⟨t, ht⟩ := hchild "" (.pattern hstruct hf hp)
        exact ⟨_, .inr (.inr ⟨rfl, [], hf, [], hms, .inl ⟨rfl, item, t, hp, ht, rfl⟩⟩)⟩
    | unsupported => exact absurd hk ((hd v .refl).supported.shapeClass_ne hint)

theorem finite_child (look : σ → View σ) (v : σ) : {w | Child look v w}.Finite := by
  refine (List.finite_toSet ((look v).item :: (((look v).fields.getD []).map (·.value) ++
    (look v).pattern.toList))).subset fun w hw => ?_
  cases hw with
  | item => simp
  | field _ hf hm =>
    refine .tail _ (List.mem_append_left _ ?_)
    rw [hf]
    exact List.mem_map_of_mem hm
  | pattern _ _ hp => simp [hp]

/-- Down to any depth there are finitely many ways to go. -/
theorem finite_below (look : σ → View σ) (v : σ) (n : Nat) :
    {ws | IsBelow look v ws ∧ ws.length ≤ n}.Finite := by
  induction n generalizing v with
  | zero =>
    refine (Set.finite_singleton []).subset fun ws hws => ?_
    exact List.length_eq_zero_iff.mp (Nat.le_zero.mp hws.2)
  | succ n ih =>
    have hrest := (finite_child look v).biUnion fun w _ => (ih w).image (w :: ·)
    refine ((Set.finite_singleton []).union hrest).subset fun ws hws => ?_
    obtain ⟨hws, hlen⟩ := hws
    cases ws with
    | nil => exact .inl rfl
    | cons w ws =>
      obtain ⟨hw, hws⟩ := List.isChain_cons_cons.mp hws
      exact .inr (Set.mem_biUnion hw ⟨ws, ⟨hws, Nat.le_of_succ_le_succ hlen⟩, rfl⟩)

theorem ofSchema_eq_ok : ofSchema look v = .ok s ↔
    (look v).invalid = false ∧ ofLevels look (depthLimit + 1) "" v = .ok s := by
  unfold ofSchema
  split
  case isTrue h => simp [h]
  case isFalse h => simp [h]

theorem shallow_of_ofSchema (h : ofSchema look v = .ok s) : Shallow look v :=
  fun _ hws => Nat.le_of_lt_succ (ofLevels_below (ofSchema_eq_ok.mp h).2 hws)

/-- A value has a shape only if nothing lies too deep below it, and the shape then shows all of it.
If it is no error and nothing lies too deep, then only kinds without a shape and fields that make no
record are in the way. No value that unfolds without end has a shape. -/
theorem ofSchema_unfolds (look : σ → View σ) (v : σ) :
    (∀ s, ofSchema look v = .ok s → Shallow look v ∧ Mirrors look "" v s) ∧
    ((look v).invalid = false → Shallow look v →
      (∀ w, Relation.ReflTransGen (Child look) v w → Describable look w) →
      ∃ s, ofSchema look v = .ok s) ∧
    ({ws | IsBelow look v ws}.Infinite → ∃ err, ofSchema look v = .error err) := by
  refine ⟨fun s h => ?_, fun hne hs hd => ?_, fun hinf => ?_⟩
  · exact ⟨shallow_of_ofSchema h, ofLevels_mirrors (ofSchema_eq_ok.mp h).2⟩
  · obtain ⟨s, h⟩ := exists_ofLevels (fun ws hws => Nat.lt_succ_of_le (hs ws hws)) hd
    exact ⟨s, ofSchema_eq_ok.mpr ⟨hne, h⟩⟩
  · cases h : ofSchema look v with
    | error err => exact ⟨err, rfl⟩
    | ok s =>
      have hfinite := finite_below look v 32
      refine absurd (hfinite.subset fun ws hws => ?_) hinf
      exact ⟨hws, shallow_of_ofSchema h ws hws⟩

/-- Lists in lists: as many as the number says, around texts, or without end. -/
def towers : Option Nat → View (Option Nat)
  | none => ⟨false, .only .list, "#Endless", none, "Endless", none, none, none⟩
  | some 0 => ⟨false, .only .string, "#Text", none, "Text", none, none, none⟩
  | some (n + 1) => ⟨false, .only .list, "#Tower", none, "Tower", none, some n, none⟩

theorem towers_unfolded : Shallow towers (some 32) ∧
    (∃ s, ofSchema towers (some 32) = .ok s ∧ Mirrors towers "" (some 32) s) ∧
    ¬Shallow towers (some 33) ∧ ∃ err, ofSchema towers none = .error err := by
  have hlist : (Kinds.only .list).NonNull [.list] := (Kinds.apartFromNull_eq rfl).mp rfl
  have hstring : (Kinds.only .string).NonNull [.string] := (Kinds.apartFromNull_eq rfl).mp rfl
  have hd : ∀ w, Describable towers w := by
    intro w
    refine ⟨?_, fun hk => ?_⟩
    · match w with
      | none | some (_ + 1) => exact .inr (.inr ⟨_, by simp, hlist⟩)
      | some 0 => exact .inr (.inr ⟨_, .head _, hstring⟩)
    · match w with
      | none | some 0 | some (_ + 1) => cases (Kinds.apartFromNull_eq rfl).mpr hk
  have hself : Child towers none none := .item hlist
  have hinf : {ws | IsBelow towers none ws}.Infinite := by
    refine Set.infinite_of_injective_forall_mem (List.replicate_left_injective none) fun n => ?_
    exact List.isChain_replicate_of_rel (n + 1) hself
  obtain ⟨hok, hconverse, -⟩ := ofSchema_unfolds towers (some 32)
  obtain ⟨-, hdeep, -⟩ := ofSchema_unfolds towers (some 33)
  obtain ⟨-, -, hendless⟩ := ofSchema_unfolds towers none
  have hshallow : Shallow towers (some 32) := (hok _ rfl).1
  obtain ⟨s, hs⟩ := hconverse rfl hshallow fun w _ => hd w
  refine ⟨hshallow, ⟨s, hs, (hok s hs).2⟩, fun h => ?_, hendless hinf⟩
  obtain ⟨_, h⟩ := hdeep rfl h fun w _ => hd w
  cases h

end Shape

end TypedPath
