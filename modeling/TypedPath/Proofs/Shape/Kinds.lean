import Mathlib.Tactic.ByContra
import TypedPath.Shape.OfSchema

/-! Which shape stands for which kinds. Null beside other kinds does not count, and kinds that no
shape stands for are told apart from those that have one. -/
namespace TypedPath

namespace Schema.Kinds

variable {kinds : Kinds} {hint : String} {s : Shape}

/-- Apart from null a value is of the kinds `ks`. A value that is null alone or anything at all is
taken as it is. -/
structure NonNull (kinds : Kinds) (ks : List BasicKind) : Prop where
  ne_null : kinds ≠ only .null
  ne_all : kinds ≠ all
  mem_iff : ∀ k, k ≠ .null → (k ∈ kinds.members ↔ k ∈ ks)

/-- A value may be null, and something else that is not just anything. -/
structure Nullable (kinds : Kinds) : Prop where
  ne_null : kinds ≠ only .null
  ne_all : kinds ≠ all
  mem : .null ∈ kinds.members

/-- Kinds without parts, and the shape that stands for them. -/
inductive Leaf (hint : String) (kinds : Kinds) : Shape → Prop
  | string (h : kinds.NonNull [.string]) (hh : hint ≠ "timestamp") : Leaf hint kinds .string
  | timestamp (h : kinds.NonNull [.string]) (hh : hint = "timestamp") : Leaf hint kinds .timestamp
  | integer (h : kinds.NonNull [.integer]) : Leaf hint kinds .integer
  | float (h : kinds.NonNull [.float]) : Leaf hint kinds .number
  | number (h : kinds.NonNull [.integer, .float]) : Leaf hint kinds .number
  | bool (h : kinds.NonNull [.bool]) : Leaf hint kinds .bool
  | binary (h : kinds.NonNull [.bytes]) : Leaf hint kinds .binary
  | nothing (h : kinds = only .null) : Leaf hint kinds .nothing
  | any (h : kinds = all) (hh : hint ≠ "unknown") : Leaf hint kinds .any
  | unknown (h : kinds = all) (hh : hint = "unknown") : Leaf hint kinds .unknown

/-- Kinds that some shape stands for. -/
def Supported (kinds : Kinds) : Prop :=
  kinds = only .null ∨ kinds = all ∨ ∃ ks ∈ [[.string], [.integer], [.float], [.integer, .float],
    [.bool], [.bytes], [.list], [.struct]], kinds.NonNull ks

theorem isNullable_iff : kinds.isNullable = true ↔ kinds.Nullable := by
  simp only [isNullable, contains, Bool.and_eq_true, bne_iff_ne, List.contains_iff_mem]
  exact ⟨fun h => ⟨h.1.1, h.1.2, h.2⟩, fun h => ⟨⟨h.ne_null, h.ne_all⟩, h.mem⟩⟩

theorem mem_without {k l : BasicKind} :
    l ∈ (kinds.without k).members ↔ l ∈ kinds.members ∧ l ≠ k := by
  have hall : l ∈ BasicKind.all := by cases l <;> decide
  simp [without, ofPredicate, contains, hall]

theorem apartFromNull_of_ne (hn : kinds ≠ only .null) (ha : kinds ≠ all) :
    kinds.apartFromNull = kinds.without .null := if_neg (not_or.mpr ⟨hn, ha⟩)

/-- Null is left of a set only if it stands alone or among all kinds. -/
theorem null_mem_apartFromNull (h : .null ∈ kinds.apartFromNull.members) :
    kinds = only .null ∨ kinds = all := by
  by_contra hne
  obtain ⟨hn, ha⟩ := not_or.mp hne
  rw [apartFromNull_of_ne hn ha] at h
  exact (mem_without.mp h).2 rfl

theorem apartFromNull_eq_null : kinds.apartFromNull = only .null ↔ kinds = only .null := by
  refine ⟨fun h => ?_, fun h => by rw [h]; rfl⟩
  obtain hn | rfl := null_mem_apartFromNull (by rw [h]; exact List.mem_singleton_self _)
  · exact hn
  · cases h

theorem apartFromNull_eq_all : kinds.apartFromNull = all ↔ kinds = all := by
  refine ⟨fun h => ?_, fun h => by rw [h]; rfl⟩
  obtain rfl | ha := null_mem_apartFromNull (by rw [h]; exact .head _)
  · cases h
  · exact ha

/-- Kinds without null are told apart by their members, as long as these are listed in order. -/
theorem apartFromNull_eq {ks : List BasicKind}
    (hks : BasicKind.all.filter (fun k => ks.contains k && k != .null) = ks) :
    kinds.apartFromNull = ⟨ks⟩ ↔ kinds.NonNull ks := by
  have hnull : .null ∉ ks := by
    rw [← hks]
    simp
  constructor
  · intro h
    have hne : ∀ k : Kinds, .null ∈ k.members → k.apartFromNull = k → kinds ≠ k := by
      rintro k hm hk rfl
      rw [hk] at h
      rw [h] at hm
      exact hnull hm
    have hn : kinds ≠ only .null := hne _ (.head _) rfl
    have ha : kinds ≠ all := hne _ (.head _) rfl
    rw [apartFromNull_of_ne hn ha] at h
    refine ⟨hn, ha, fun k hk => ?_⟩
    have hm : k ∈ (kinds.without .null).members ↔ _ := mem_without
    rw [h] at hm
    simpa [hk] using hm.symm
  · intro h
    rw [apartFromNull_of_ne h.ne_null h.ne_all, without, ofPredicate]
    congr 1
    refine (List.filter_congr fun k _ => ?_).trans hks
    rw [Bool.eq_iff_iff]
    simp only [contains, Bool.and_eq_true, List.contains_iff_mem, bne_iff_ne]
    exact and_congr_left (h.mem_iff k)

/-- What the class of kinds tells about them. -/
inductive Classed (hint : String) (kinds : Kinds) : ShapeClass → Prop
  | leaf {s : Shape} (h : kinds.Leaf hint s) : Classed hint kinds (.leaf s)
  | list (h : kinds.NonNull [.list]) : Classed hint kinds .list
  | struct (h : kinds.NonNull [.struct]) : Classed hint kinds .struct
  | unsupported (h : ¬kinds.Supported) : Classed hint kinds .unsupported

theorem classed {c : ShapeClass} (h : kinds.shapeClass hint = c) : Classed hint kinds c := by
  subst h
  dsimp only [shapeClass]
  -- The tests are taken in their order, and kinds that pass none of them are not supported.
  refine iteInduction (fun hk => ?_) fun hstring => ?_
  · by_cases hh : hint = "timestamp"
    · rw [if_pos hh]
      exact .leaf (.timestamp ((apartFromNull_eq rfl).mp hk) hh)
    · rw [if_neg hh]
      exact .leaf (.string ((apartFromNull_eq rfl).mp hk) hh)
  refine iteInduction (fun hk => ?_) fun hinteger => ?_
  · exact .leaf (.integer ((apartFromNull_eq rfl).mp hk))
  refine iteInduction (fun hk => ?_) fun hnumber => ?_
  · rcases hk with hk | hk
    · exact .leaf (.float ((apartFromNull_eq rfl).mp hk))
    · exact .leaf (.number ((apartFromNull_eq rfl).mp hk))
  refine iteInduction (fun hk => ?_) fun hbool => ?_
  · exact .leaf (.bool ((apartFromNull_eq rfl).mp hk))
  refine iteInduction (fun hk => ?_) fun hbytes => ?_
  · exact .leaf (.binary ((apartFromNull_eq rfl).mp hk))
  refine iteInduction (fun hk => ?_) fun hnull => ?_
  · exact .leaf (.nothing (apartFromNull_eq_null.mp hk))
  refine iteInduction (fun hk => ?_) fun hall => ?_
  · by_cases hh : hint = "unknown"
    · rw [if_pos hh]
      exact .leaf (.unknown (apartFromNull_eq_all.mp hk) hh)
    · rw [if_neg hh]
      exact .leaf (.any (apartFromNull_eq_all.mp hk) hh)
  refine iteInduction (fun hk => ?_) fun hlist => ?_
  · exact .list ((apartFromNull_eq rfl).mp hk)
  refine iteInduction (fun hk => ?_) fun hstruct => ?_
  · exact .struct ((apartFromNull_eq rfl).mp hk)
  obtain ⟨hfloat, hnumber⟩ := not_or.mp hnumber
  refine .unsupported fun h => ?_
  rcases h with h | h | ⟨ks, hks, h⟩
  · exact hnull (apartFromNull_eq_null.mpr h)
  · exact hall (apartFromNull_eq_all.mpr h)
  · simp only [List.mem_cons, List.not_mem_nil, or_false] at hks
    rcases hks with rfl | rfl | rfl | rfl | rfl | rfl | rfl | rfl <;>
      exact absurd ((apartFromNull_eq rfl).mpr h) ‹_›

theorem leaf_of_shapeClass (h : kinds.shapeClass hint = .leaf s) : kinds.Leaf hint s := by
  cases classed h with
  | leaf h => exact h

theorem shapeClass_eq_list : kinds.shapeClass hint = .list ↔ kinds.NonNull [.list] := by
  constructor
  · intro h
    cases classed h with
    | list h => exact h
  · intro h
    rw [shapeClass, (apartFromNull_eq rfl).mpr h]
    rfl

theorem shapeClass_eq_struct : kinds.shapeClass hint = .struct ↔ kinds.NonNull [.struct] := by
  constructor
  · intro h
    cases classed h with
    | struct h => exact h
  · intro h
    rw [shapeClass, (apartFromNull_eq rfl).mpr h]
    rfl

theorem Supported.shapeClass_ne (h : kinds.Supported) (hint : String) :
    kinds.shapeClass hint ≠ .unsupported := by
  intro hu
  cases classed hu with
  | unsupported hn => exact hn h

end Schema.Kinds

end TypedPath
