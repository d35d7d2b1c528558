import TypedPath.Proofs.Shape.Kinds
import TypedPath.Proofs.Shape.Part

/-! The shapes that a schema describes. No part of them is missing, and their records are
checked. -/
namespace TypedPath

theorem bind_eq_ok {ε α β : Type} {r : Except ε α} {f : α → Except ε β} {b : β} :
    (r >>= f) = .ok b ↔ ∃ a, r = .ok a ∧ f a = .ok b := by
  cases r <;> simp [bind, Except.bind]

namespace Shape

open Schema

variable {σ : Type} {look : σ → View σ} {value : σ} {hint : String} {room : Nat}
  {convert : String → σ → Except ConversionFault Shape} {r s : Shape}

/-- A shape that accessors can be made for, down to the last member. -/
structure Usable (s : Shape) : Prop where
  check : s.check = .ok ()
  recordsBuilt : s.RecordsBuilt

theorem Part.check (h : Part r s) (hs : s.check = .ok ()) : r.check = .ok () := by
  induction h with
  | here => exact hs
  | array _ ih => exact ih (check_array.mp hs)
  | set _ ih => exact ih (check_set.mp hs)
  | map _ ih => exact ih (check_map.mp hs)
  | member hm _ ih => exact ih (check_record.mp hs _ hm)

theorem Usable.not_part_absent (h : s.Usable) : ¬Part absent s := by
  intro hp
  have hc := hp.check h.check
  simp [Shape.check] at hc

theorem Usable.array (h : s.Usable) : (array s).Usable :=
  ⟨check_array.mpr h.check, recordsBuilt_array.mpr h.recordsBuilt⟩

theorem Usable.set (h : s.Usable) : (set s).Usable :=
  ⟨check_set.mpr h.check, recordsBuilt_set.mpr h.recordsBuilt⟩

theorem Usable.map (h : s.Usable) : (map s).Usable :=
  ⟨check_map.mpr h.check, recordsBuilt_map.mpr h.recordsBuilt⟩

theorem Usable.newRecord {name : String} {ms : List (Member Shape)}
    (hms : ∀ m ∈ ms, m.shape.Usable) (h : newRecord name ms = .ok s) : s.Usable := by
  obtain ⟨rfl, -⟩ := newRecord_eq_ok_iff.mp h
  exact ⟨check_record.mpr fun m hm => (hms m hm).check,
    recordsBuilt_record.mpr ⟨h, fun m hm => (hms m hm).recordsBuilt⟩⟩

/-- Values without members and items have a shape of their own. -/
theorem usable_leaf {kinds : Kinds} (h : kinds.shapeClass hint = .leaf s) : s.Usable := by
  cases Kinds.leaf_of_shapeClass h <;> exact ⟨rfl, by rintro _ _ ⟨⟩⟩

theorem membersOf_usable {fields : List (Schema.Field σ)} {ms : List (Member Shape)}
    (hc : ∀ hint value s, convert hint value = .ok s → s.Usable)
    (h : membersOf look convert fields = .ok ms) : ∀ m ∈ ms, m.shape.Usable := by
  induction fields generalizing ms with
  | nil =>
    cases h
    simp
  | cons f rest ih =>
    rw [membersOf] at h
    obtain ⟨t, ht, h⟩ := bind_eq_ok.mp h
    obtain ⟨ks, hk, h⟩ := bind_eq_ok.mp h
    cases h
    exact List.forall_mem_cons.mpr ⟨hc _ _ t ht, ih hk⟩

/-- What the shape of a value is made of, level by level. A struct without fields is a map if any
field is let in, and a record otherwise. -/
theorem ofLevels_eq_ok : ofLevels look (room + 1) hint value = .ok s ↔
    (look value).kinds.shapeClass hint = .leaf s ∨
    (look value).kinds.shapeClass hint = .list ∧
      (∃ t, ofLevels look room "" (look value).item = .ok t ∧
        s = if hint = "set" then set t else array t) ∨
    (look value).kinds.shapeClass hint = .struct ∧
      ∃ fields, (look value).fields = some fields ∧
        ∃ ms, membersOf look (ofLevels look room) fields = .ok ms ∧
        ((ms = [] ∧ ∃ item t, (look value).pattern = some item ∧
            ofLevels look room "" item = .ok t ∧ s = map t) ∨
          (ms ≠ [] ∨ (look value).pattern = none) ∧
            newRecord (look value).recordName ms = .ok s) := by
  rw [ofLevels]
  cases (look value).kinds.shapeClass hint with
  | leaf t => simp [eq_comm]
  | list => simp [bind_eq_ok, pure, Except.pure, @eq_comm _ s]
  | struct =>
    cases hf : (look value).fields with
    | none => simp [bind, Except.bind]
    | some fields =>
      simp only [reduceCtorEq, false_and, false_or, true_and, bind_eq_ok, Except.ok.injEq,
        exists_eq_left', Option.some.injEq]
      refine exists_congr fun ms => and_congr_right fun _ => ?_
      cases ms with
      | nil =>
        cases (look value).pattern with
        | none => cases hr : newRecord (look value).recordName [] <;> simp [hr, pure, Except.pure]
        | some item => simp [bind_eq_ok, pure, Except.pure, @eq_comm _ s]
      | cons m ms =>
        cases hr : newRecord (look value).recordName (m :: ms) <;> simp [hr, pure, Except.pure]
  | unsupported => simp

/-- However many levels there is room for, a shape that comes out is usable. -/
theorem ofLevels_usable (h : ofLevels look room hint value = .ok s) : s.Usable := by
  induction room generalizing hint value s with
  | zero => cases h
  | succ room ih =>
    rcases ofLevels_eq_ok.mp h with hleaf | ⟨-, t, ht, rfl⟩ | ⟨-, fields, -, ms, hms, hs⟩
    · exact usable_leaf hleaf
    · split
      · exact (ih ht).set
      · exact (ih ht).array
    · rcases hs with ⟨-, item, t, -, ht, rfl⟩ | ⟨-, hr⟩
      · exact (ih ht).map
      · exact .newRecord (membersOf_usable (fun _ _ _ => ih) hms) hr

theorem ofSchema_usable (h : ofSchema look value = .ok s) : s.Usable := by
  unfold ofSchema at h
  split at h
  · cases h
  · exact ofLevels_usable h

end Shape

end TypedPath
