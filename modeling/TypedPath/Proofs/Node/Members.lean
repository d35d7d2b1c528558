import Mathlib.Logic.Function.Basic
import TypedPath.Proofs.Node.Accessor

/-! The accessors of a record's members. They can be looked up when they are asked for, or all be
entered into a table when the accessor of the record is made. Where names are distinct, either way
gives each member's own accessor under its name and nothing under any other. -/
namespace TypedPath

namespace Node

variable {parent base : Node} {name key : String} {ms : List (Member Shape)}

/-- Accessors under the names that they were entered by. -/
abbrev Table := String → Option Node

/-- Makes the accessors of members of `parent` one after the other and enters each under its name,
in place of what was entered under that name before. -/
def tabulate (parent : Node) (table : Table) : List (Member Shape) → Except Error Table
  | [] => .ok table
  | m :: rest =>
    match inContext (.field m.name) (dispatch m.shape (field m.shape parent m.name)) with
    | .error e => .error e
    | .ok f => tabulate parent (Function.update table m.name (some f)) rest

/-- Entering a member fails as the check of its shape does. -/
theorem inContext_dispatch_member (m : Member Shape) (e : Node) :
    inContext (.field m.name) (dispatch m.shape e) =
      (Shape.checkMember m).map fun _ => m.shape.accessor e := by
  rw [Shape.checkMember, dispatch_eq]
  cases m.shape.check <;> rfl

/-- The table is filled exactly if all members pass their check, and fails as that check does. -/
theorem tabulate_map_unit (parent : Node) (table : Table) (ms : List (Member Shape)) :
    (tabulate parent table ms).map (fun _ => ()) = Shape.checkMembers ms := by
  induction ms generalizing table with
  | nil => rfl
  | cons m rest ih =>
    rw [tabulate, inContext_dispatch_member, Shape.checkMembers]
    cases Shape.checkMember m with
    | error e => rfl
    | ok => exact ih _

/-- The accessor of a record is made exactly if the table of its members is. -/
theorem dispatch_record (name : String) (ms : List (Member Shape)) (base : Node) :
    dispatch (.record name ms) base =
      (tabulate (accessor .struct (.record name ms) base) (fun _ => none) ms).map
        fun _ => accessor .struct (.record name ms) base := by
  have h := tabulate_map_unit (accessor .struct (.record name ms) base) (fun _ => none) ms
  rw [dispatch_eq, Shape.check, ← h]
  cases tabulate (accessor .struct (.record name ms) base) (fun _ => none) ms <;> rfl

theorem exists_tabulate (hc : (Shape.record name ms).check = .ok ()) (base : Node) :
    ∃ table, tabulate (accessor .struct (.record name ms) base) (fun _ => none) ms = .ok table := by
  have hd : dispatch (.record name ms) base = .ok _ := dispatch_eq_ok.mpr ⟨hc, rfl⟩
  rw [dispatch_record] at hd
  cases ht : tabulate (accessor .struct (.record name ms) base) (fun _ => none) ms with
  | error e =>
    rw [ht] at hd
    cases hd
  | ok table => exact ⟨table, rfl⟩

/-- A table holds what was entered last, and else what it held before. -/
theorem tabulate_apply {table filled : Table} (h : tabulate parent table ms = .ok filled)
    (key : String) :
    filled key = ((ms.reverse.find? (·.name = key)).map fun m =>
      m.shape.accessor (field m.shape parent key)).or (table key) := by
  induction ms generalizing table with
  | nil =>
    cases h
    rfl
  | cons m rest ih =>
    rw [tabulate, inContext_dispatch_member] at h
    cases hm : Shape.checkMember m with
    | error e =>
      rw [hm] at h
      cases h
    | ok =>
      rw [hm] at h
      rw [ih h, List.reverse_cons, List.find?_append]
      -- The entry of `m` is seen only if no member after it has its name.
      by_cases hk : m.name = key
      · subst hk
        cases rest.reverse.find? (·.name = m.name) <;> simp
      · have hs : ([m].find? (·.name = key)) = none := by simp [hk]
        rw [hs, Option.or_none, Function.update_of_ne (Ne.symm hk)]

/-- What a record's accessor answers for a name is what the table has under it. -/
theorem tabulate_eq_member {table : Table}
    (h : tabulate (accessor .struct (.record name ms) base) (fun _ => none) ms = .ok table)
    (key : String) :
    table key = ((accessor .struct (.record name ms) base).member key).toOption := by
  have hms : Shape.checkMembers ms = .ok () := by
    rw [← tabulate_map_unit _ (fun _ => none) ms, h]
    rfl
  rw [tabulate_apply h, Option.or_none]
  change ((Shape.record name ms).lastMember? key).map _ = _
  rw [member]
  cases hl : (Shape.record name ms).lastMember? key with
  | none => rfl
  | some m =>
    have hc := Shape.checkMembers_eq_ok.mp hms m (Shape.lastMember?_mem hl).1
    simp [dispatch_eq, hc, Except.map, Except.toOption]

section Distinct

variable {m : Member Shape} (hd : (ms.map (·.name)).Nodup)
include hd

/-- Under the name of a member, the accessor of a record has that of the member's shape. -/
theorem exists_member_of_declared (hc : (Shape.record name ms).check = .ok ())
    (hm : (Shape.record name ms).member? key = some m) :
    ∃ f, (accessor .struct (.record name ms) base).member key = .ok f ∧
      dispatch m.shape (field m.shape (accessor .struct (.record name ms) base) key) = .ok f := by
  have hs := Shape.check_record.mp hc m ((Shape.member?_eq_some_iff hd).mp hm).1
  rw [member, Shape.lastMember?_eq_member? hd, hm]
  exact ⟨_, dispatch_eq_ok.mpr ⟨hs, rfl⟩, dispatch_eq_ok.mpr ⟨hs, rfl⟩⟩

theorem member_of_undeclared (hm : (Shape.record name ms).member? key = none) :
    (accessor .struct (.record name ms) base).member key =
      .error (.cause (.noField (.record name ms) key)) := by
  rw [member, Shape.lastMember?_eq_member? hd, hm]

end Distinct

/-- A record is made of members exactly if each has a name of its own and a shape, and keeps them in
order. Its accessor then answers for the declared names and no others: with the accessor of the
member's shape, found in the record under that name. What it answers is what it has in the table
that its members were entered into one by one. -/
theorem accessor_agrees_with_declaration (name : String) (ms : List (Member Shape)) :
    ((∃ r, Shape.newRecord name ms = .ok r) ↔
      (∀ m ∈ ms, m.name ≠ "") ∧ (ms.map (·.name)).Nodup ∧ ∀ m ∈ ms, m.shape ≠ .absent) ∧
    ∀ r, Shape.newRecord name ms = .ok r → r = .record name ms ∧
      ∀ base n, dispatch r base = .ok n →
        n = accessor .struct r base ∧ n.names = ms.map (·.name) ∧
        (∃ table, tabulate n (fun _ => none) ms = .ok table ∧
          ∀ key, table key = (n.member key).toOption) ∧
        ∀ key,
          ((∃ f, n.member key = .ok f) ↔ ∃ m, r.member? key = some m) ∧
          ((∃ m, r.member? key = some m) ↔ key ∈ n.names) ∧
          (∀ m, r.member? key = some m → m ∈ ms ∧ m.name = key ∧
            ∃ f, n.member key = .ok f ∧ dispatch m.shape (field m.shape n key) = .ok f) ∧
          (r.member? key = none →
            ∃ err, n.member key = .error err ∧ err.is .invalidKey = true) := by
  refine ⟨?_, fun r hr => ?_⟩
  · simp only [Shape.newRecord_eq_ok_iff, exists_eq_left, forall_and, and_assoc]
    exact and_congr_right fun _ => and_comm
  obtain ⟨rfl, -, hd⟩ := Shape.newRecord_eq_ok_iff.mp hr
  refine ⟨rfl, fun base n hn => ?_⟩
  obtain ⟨hc, rfl⟩ := dispatch_eq_ok.mp hn
  rw [Shape.accessor_record]
  obtain ⟨table, ht⟩ := exists_tabulate hc base
  refine ⟨rfl, rfl, ⟨table, ht, tabulate_eq_member ht⟩, fun key => ⟨⟨?_, ?_⟩, ?_, ?_, ?_⟩⟩
  · rintro ⟨f, hf⟩
    cases hm : (Shape.record name ms).member? key with
    | none =>
      rw [member_of_undeclared hd hm] at hf
      cases hf
    | some m => exact ⟨m, rfl⟩
  · rintro ⟨m, hm⟩
    obtain ⟨f, hf, -⟩ := exists_member_of_declared hd hc hm
    exact ⟨f, hf⟩
  · exact Shape.exists_member?_iff
  · intro m hm
    obtain ⟨hmem, hname⟩ := (Shape.member?_eq_some_iff hd).mp hm
    exact ⟨hmem, hname, exists_member_of_declared hd hc hm⟩
  · intro hm
    exact ⟨_, member_of_undeclared hd hm, rfl⟩

/-- What a parcel has on it. Its owner is a record in which a name is declared twice. -/
def parcelMembers : List (Member Shape) :=
  [⟨"id", .integer, false, ""⟩, ⟨"stamps", .set .timestamp, true, "when it was seen"⟩,
    ⟨"owner", .record "" [⟨"id", .string, false, ""⟩, ⟨"id", .bool, false, ""⟩], false, ""⟩]

theorem parcelMembers_agree : ∃ r n, Shape.newRecord "Parcel" parcelMembers = .ok r ∧
    dispatch r (hole none) = .ok n ∧ n.names = ["id", "stamps", "owner"] ∧
    (∃ f, n.member "stamps" = .ok f ∧
      dispatch (.set .timestamp) (field (.set .timestamp) n "stamps") = .ok f) ∧
    ∃ err, n.member "stamp" = .error err ∧ err.is .invalidKey = true := by
  obtain ⟨-, hagree⟩ := accessor_agrees_with_declaration "Parcel" parcelMembers
  obtain ⟨-, hagree⟩ := hagree _ rfl
  obtain ⟨-, hnames, -, hkey⟩ := hagree (hole none) _ rfl
  obtain ⟨-, -, hfound, -⟩ := hkey "stamps"
  obtain ⟨-, -, -, hmissing⟩ := hkey "stamp"
  exact ⟨_, _, rfl, rfl, hnames, (hfound _ rfl).2.2, hmissing rfl⟩

end Node

end TypedPath
