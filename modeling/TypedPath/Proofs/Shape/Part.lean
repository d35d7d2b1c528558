import Mathlib.Data.List.Nodup
import TypedPath.Node.Accessor
import TypedPath.Shape.Record

/-! The parts of a shape: what a checked record and a complete shape promise of them. -/
namespace TypedPath

@[simp] theorem inContext_eq_ok {α : Type} {c : Context} {r : Except Error α} {a : α} :
    inContext c r = .ok a ↔ r = .ok a := by
  cases r <;> simp [inContext, Except.mapError]

namespace Shape

variable {r s : Shape} {m : Member Shape} {name : String} {ms : List (Member Shape)}

/-- `r` is `s` or the shape of a member or an item somewhere in it. -/
inductive Part (r : Shape) : Shape → Prop
  | here : Part r r
  | array {s : Shape} : Part r s → Part r (array s)
  | set {s : Shape} : Part r s → Part r (set s)
  | map {s : Shape} : Part r s → Part r (map s)
  | member {name : String} {ms : List (Member Shape)} {m : Member Shape} :
      m ∈ ms → Part r m.shape → Part r (record name ms)

/-- Every record in a shape is one that `newRecord` returns. -/
def RecordsBuilt (s : Shape) : Prop :=
  ∀ name ms, Part (record name ms) s → newRecord name ms = .ok (record name ms)

theorem recordsBuilt_array : (array s).RecordsBuilt ↔ s.RecordsBuilt := by
  refine ⟨fun h name ms hp => h name ms (.array hp), fun h name ms hp => ?_⟩
  cases hp with
  | array hp => exact h name ms hp

theorem recordsBuilt_set : (set s).RecordsBuilt ↔ s.RecordsBuilt := by
  refine ⟨fun h name ms hp => h name ms (.set hp), fun h name ms hp => ?_⟩
  cases hp with
  | set hp => exact h name ms hp

theorem recordsBuilt_map : (map s).RecordsBuilt ↔ s.RecordsBuilt := by
  refine ⟨fun h name ms hp => h name ms (.map hp), fun h name ms hp => ?_⟩
  cases hp with
  | map hp => exact h name ms hp

theorem recordsBuilt_record : (record name ms).RecordsBuilt ↔
    newRecord name ms = .ok (record name ms) ∧ ∀ m ∈ ms, m.shape.RecordsBuilt := by
  constructor
  · intro h
    exact ⟨h name ms .here, fun m hm n ks hp => h n ks (.member hm hp)⟩
  · rintro ⟨hn, hms⟩ n ks hp
    cases hp with
    | here => exact hn
    | member hm hp => exact hms _ hm n ks hp

theorem memberFault?_eq_none_iff (position : Nat) (seen : List String)
    (ms : List (Member Shape)) :
    memberFault? position seen ms = none ↔
      (∀ m ∈ ms, m.name ≠ "" ∧ m.name ∉ seen ∧ m.shape ≠ absent) ∧ (ms.map (·.name)).Nodup := by
  induction ms generalizing position seen with
  | nil => simp [memberFault?]
  | cons m rest ih =>
    rw [memberFault?]
    by_cases hn : m.name = ""
    · simp [hn]
    by_cases hs : m.name ∈ seen
    · simp [hn, hs]
    rw [if_neg hn, if_neg hs]
    split
    case h_1 ha => simp [ha]
    case h_2 ha =>
      have ha : m.shape ≠ absent := fun h => ha h
      simp only [ih, List.mem_cons, not_or, List.map_cons, List.nodup_cons, List.mem_map]
      grind

theorem newRecord_eq_ok_iff : newRecord name ms = .ok r ↔
    r = record name ms ∧ (∀ m ∈ ms, m.name ≠ "" ∧ m.shape ≠ absent) ∧
      (ms.map (·.name)).Nodup := by
  have hf := memberFault?_eq_none_iff 0 [] ms
  simp only [List.not_mem_nil, not_false_eq_true, true_and] at hf
  rw [newRecord, ← hf]
  cases memberFault? 0 [] ms with
  | none => simp [@eq_comm _ r]
  | some fault => simp

theorem RecordsBuilt.nodup (h : (record name ms).RecordsBuilt) : (ms.map (·.name)).Nodup :=
  (newRecord_eq_ok_iff.mp (h name ms .here)).2.2

/-- No record in a shape has a member without a name. -/
def Named (s : Shape) : Prop :=
  ∀ name ms, Part (record name ms) s → ∀ m ∈ ms, m.name ≠ ""

theorem RecordsBuilt.named (h : s.RecordsBuilt) : s.Named := by
  intro name ms hp m hm
  exact ((newRecord_eq_ok_iff.mp (h name ms hp)).2.1 m hm).1

theorem RecordsBuilt.name_ne_empty (h : (record name ms).RecordsBuilt) (hm : m ∈ ms) :
    m.name ≠ "" :=
  h.named name ms .here m hm

theorem lastMember?_mem {n : String} (h : (record name ms).lastMember? n = some m) :
    m ∈ ms ∧ m.name = n := by
  have hm := List.mem_of_find?_eq_some h
  have hn := List.find?_some h
  exact ⟨by simpa [members] using hm, by simpa using hn⟩

/-- Where names are distinct, a member is found under its name. -/
theorem find?_name_eq (h : (ms.map (·.name)).Nodup) (hm : m ∈ ms) :
    ms.find? (·.name = m.name) = some m := by
  cases hl : ms.find? (·.name = m.name) with
  | none =>
    have hn := List.find?_eq_none.mp hl m hm
    simp at hn
  | some k =>
    have hk := List.mem_of_find?_eq_some hl
    have he : k.name = m.name := by simpa using List.find?_some hl
    rw [List.inj_on_of_nodup_map h hk hm he]

theorem member?_eq_some_iff {n : String} (h : (ms.map (·.name)).Nodup) :
    (record name ms).member? n = some m ↔ m ∈ ms ∧ m.name = n := by
  constructor
  · intro hm
    exact ⟨List.mem_of_find?_eq_some hm, by simpa using List.find?_some hm⟩
  · rintro ⟨hm, rfl⟩
    exact find?_name_eq h hm

/-- Where names are distinct, the last member of a name is the first. -/
theorem lastMember?_eq_member? (h : (ms.map (·.name)).Nodup) (n : String) :
    (record name ms).lastMember? n = (record name ms).member? n := by
  cases hm : (record name ms).member? n with
  | none =>
    have hnone := List.find?_eq_none.mp hm
    exact List.find?_eq_none.mpr fun m hr => hnone m (List.mem_reverse.mp hr)
  | some m =>
    obtain ⟨hmem, rfl⟩ := (member?_eq_some_iff h).mp hm
    have hn : (ms.reverse.map (·.name)).Nodup := by
      rw [List.map_reverse, List.nodup_reverse]
      exact h
    exact find?_name_eq hn (List.mem_reverse.mpr hmem)

/-- A name is declared exactly if a member is found under it. -/
theorem exists_member?_iff {n : String} : (∃ m, s.member? n = some m) ↔ n ∈ s.names := by
  rw [← Option.isSome_iff_exists, member?, List.find?_isSome, names, List.mem_map]
  simp

theorem RecordsBuilt.member?_eq (h : (record name ms).RecordsBuilt) (hm : m ∈ ms) :
    (record name ms).member? m.name = some m :=
  find?_name_eq h.nodup hm

/-- The last member of a name is the only one. -/
theorem RecordsBuilt.lastMember?_eq (h : (record name ms).RecordsBuilt) (hm : m ∈ ms) :
    (record name ms).lastMember? m.name = some m := by
  rw [lastMember?_eq_member? h.nodup]
  exact h.member?_eq hm

theorem check_array : (array s).check = .ok () ↔ s.check = .ok () := by
  cases s with
  | absent => exact iff_of_false nofun nofun
  | _ => exact inContext_eq_ok

theorem check_set : (set s).check = .ok () ↔ s.check = .ok () := by
  cases s with
  | absent => exact iff_of_false nofun nofun
  | _ => exact inContext_eq_ok

theorem check_map : (map s).check = .ok () ↔ s.check = .ok () := by
  cases s with
  | absent => exact iff_of_false nofun nofun
  | _ => exact inContext_eq_ok

theorem checkMembers_eq_ok : checkMembers ms = .ok () ↔ ∀ m ∈ ms, m.shape.check = .ok () := by
  induction ms with
  | nil => simp [checkMembers]
  | cons m rest ih =>
    have hm : checkMember m = .ok () ↔ m.shape.check = .ok () := by
      cases m
      simp [checkMember]
    rw [List.forall_mem_cons, ← ih, ← hm, checkMembers]
    cases checkMember m <;> simp

theorem check_record : (record name ms).check = .ok () ↔ ∀ m ∈ ms, m.shape.check = .ok () :=
  checkMembers_eq_ok

end Shape

end TypedPath
