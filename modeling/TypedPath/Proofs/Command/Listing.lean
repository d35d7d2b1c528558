import TypedPath.Proofs.Command.Agreement
import TypedPath.Proofs.Query.Listing
import TypedPath.Proofs.Shape.OfSchema

/-! Listing the paths of a definition. Whatever a schema describes can be listed, so the command
fails only where the definition cannot be loaded. -/
namespace TypedPath

open Schema (View)

section Shape

variable {s : Shape} {name : String} {ms : List (Member Shape)}

theorem Shape.Usable.ofRecord_eq (h : (record name ms).Usable) :
    Node.ofRecord (record name ms)
      = .ok ((record name ms).accessor (.identifier (record name ms) Node.root)) :=
  Node.ofRecord_eq_ok.mpr ⟨Node.ofShape_eq_ok.mpr ⟨h.check, rfl⟩, name, ms, rfl⟩

theorem Shape.Usable.exists_paths (h : (record name ms).Usable) {root : Node}
    (hr : Node.ofRecord (record name ms) = .ok root) : ∃ entries, root.paths = .ok entries := by
  rw [h.ofRecord_eq] at hr
  cases hr
  have he : (Node.identifier (record name ms) Node.root).Sound := .identifier _ (by decide)
  obtain ⟨entries, hl, -⟩ := Node.exists_listing h.recordsBuilt h.check he
  exact ⟨entries, hl⟩

end Shape

/-- A definition that is ready for queries: a usable record, seen from the root. -/
structure Loaded.Ready (l : Loaded) : Prop where
  isRecord : ∃ name ms, l.record = .record name ms
  usable : l.record.Usable
  root : Node.ofRecord l.record = .ok l.root

theorem Loaded.Ready.exists_paths {l : Loaded} (h : l.Ready) :
    ∃ entries, l.root.paths = .ok entries := by
  obtain ⟨name, ms, hr⟩ := h.isRecord
  have hu := h.usable
  have hroot := h.root
  rw [hr] at hu hroot
  exact hu.exists_paths hroot

namespace Schema

variable (s : Schema) (directory definition : String) (count : Nat)

/-- A definition is there and has the shape `r`. -/
def Defines (r : Shape) : Prop :=
  ∃ path value, path? definition = some path ∧ s.lookup? path = some value ∧
    Shape.ofSchema s.view value = .ok r

/-- The codes of what can keep a definition from being loaded, once there is a schema: it is not
there, it has no shape, or it is no record. -/
def definitionCodes : List String := ["E101", "E102", "E103"]

/-- A definition is loaded exactly if it is that of a record, and then it is ready. -/
theorem recordAt_cases :
    (∃ name ms loaded, s.Defines definition (.record name ms) ∧
      s.recordAt directory definition count = .ok loaded ∧ loaded.record = .record name ms ∧
      loaded.Ready) ∨
    ∃ failure, s.recordAt directory definition count = .error failure ∧
      failure.toFault.code ∈ definitionCodes ∧
      ∀ name ms, ¬s.Defines definition (.record name ms) := by
  unfold recordAt Defines
  cases hp : path? definition with
  | none => exact .inr ⟨_, rfl, by decide, by simp⟩
  | some path =>
    cases hv : s.lookup? path with
    | none => exact .inr ⟨_, by simp only [hv]; rfl, .head _, by simp [hv]⟩
    | some value =>
      simp only [hv, bind, Except.bind]
      cases hs : Shape.ofSchema s.view value with
      | error fault =>
        right
        cases fault with
        | invalid => exact ⟨_, rfl, by decide, by simp [hv, hs]⟩
        | unsupported f => exact ⟨_, rfl, .tail _ (.head _), by simp [hv, hs]⟩
      | ok r =>
        have hu := Shape.ofSchema_usable hs
        cases r with
        | record name ms =>
          simp only [hu.ofRecord_eq]
          exact .inl ⟨name, ms, _, ⟨path, value, rfl, hv, hs⟩, rfl, rfl, ⟨name, ms, rfl⟩, hu,
            hu.ofRecord_eq⟩
        | _ => exact .inr ⟨_, rfl, .tail _ (.tail _ (.head _)), by simp [hv, hs]⟩

/-- The codes of what can keep a schema from being read. -/
def packageCodes : List String := ["E002", "E003", "E004", "E005", "E006"]

theorem ofFiles_eq_error {sources : List (String × String)} {failure : LoadFailure}
    (h : ofFiles sources = .error failure) : failure.toFault.code ∈ packageCodes := by
  simp only [ofFiles] at h
  split at h
  · split at h
    · split at h <;> cases h
      decide
    · cases h
      decide
  · cases h
    decide

end Schema

/-- Loading a definition comes down to finding it in a schema, unless there is no schema to be
read. -/
theorem Files.loadSchema_cases (files : Files) (directory name : String) :
    (∃ (schema : Schema) (count : Nat), files.loadSchema directory name
      = schema.recordAt directory (Schema.definitionPath name) count) ∨
    ∃ failure, files.loadSchema directory name = .error failure ∧
      failure.toFault.code ∈ Schema.packageCodes := by
  have hcode (code message : String) (h : code ∈ Schema.packageCodes) :
      (LoadFailure.fault { code, message }).toFault.code ∈ Schema.packageCodes := h
  unfold loadSchema
  split
  · exact .inr ⟨_, rfl, hcode _ _ (by decide)⟩
  · exact .inr ⟨_, rfl, hcode _ _ (by decide)⟩
  · exact .inr ⟨_, rfl, hcode _ _ (by decide)⟩
  · split
    · exact .inr ⟨_, rfl, hcode _ _ (by decide)⟩
    · rename_i found place _ _ _
      cases hs : Schema.ofFiles (files.schemaSources place) with
      | error failure => exact .inr ⟨failure, rfl, Schema.ofFiles_eq_error hs⟩
      | ok schema => exact .inl ⟨schema, found.length, rfl⟩
    · exact .inr ⟨_, rfl, hcode _ _ (by decide)⟩
    · exact .inr ⟨_, rfl, hcode _ _ (by decide)⟩

/-- What is loaded is ready, and what is not loaded failed before there was an accessor. -/
theorem Files.loadSchema_outcome (files : Files) (directory name : String) :
    (∃ loaded, files.loadSchema directory name = .ok loaded ∧ loaded.Ready) ∨
    ∃ failure, files.loadSchema directory name = .error failure ∧
      failure.toFault.code ∈ Schema.packageCodes ++ Schema.definitionCodes := by
  simp only [List.mem_append]
  obtain ⟨schema, count, hs⟩ | ⟨failure, hf, hc⟩ := files.loadSchema_cases directory name
  · rw [hs]
    obtain ⟨_, _, loaded, -, hl, -, hr⟩ | ⟨failure, hf, hc, -⟩ :=
      schema.recordAt_cases directory (Schema.definitionPath name) count
    · exact .inl ⟨loaded, hl, hr⟩
    · exact .inr ⟨failure, hf, .inr hc⟩
  · exact .inr ⟨failure, hf, .inl hc⟩

theorem Files.ready_of_loadSchema {files : Files} {directory name : String} {loaded : Loaded}
    (h : files.loadSchema directory name = .ok loaded) : loaded.Ready := by
  obtain ⟨other, ho, hr⟩ | ⟨failure, hf, -⟩ := files.loadSchema_outcome directory name
  · cases h.symm.trans ho
    exact hr
  · cases h.symm.trans hf

theorem Files.code_of_loadSchema {files : Files} {directory name : String} {failure : LoadFailure}
    (h : files.loadSchema directory name = .error failure) :
    failure.toFault.code ∈ Schema.packageCodes ++ Schema.definitionCodes := by
  obtain ⟨loaded, hl, -⟩ | ⟨other, ho, hc⟩ := files.loadSchema_outcome directory name
  · cases h.symm.trans hl
  · cases h.symm.trans ho
    exact hc

namespace Command

/-- The classes of error that accessors and listings have for shapes that are not usable. -/
def shapeSentinels : List Sentinel := [.unsupportedShape, .invalidKey, .invalidExpression]

theorem code_notMem_of_shapeSentinels : ∀ s ∈ shapeSentinels,
    (Error.sentinel s).code ∉ Schema.packageCodes ++ Schema.definitionCodes := by
  decide

/-- Whatever a schema describes can be used and listed. So loading a definition fails only where it
is not there or is no record, and a definition that is loaded is listed. -/
theorem schema_shapes_usable (f : Formatter) (files : Files) (o : Options)
    (directory name : String) :
    (∀ {σ : Type} (look : σ → View σ) (value : σ) (s : Shape), Shape.ofSchema look value = .ok s →
      ¬Shape.Part .absent s ∧
      (∀ n ms, Shape.Part (.record n ms) s →
        (∀ m ∈ ms, m.name ≠ "") ∧ (ms.map (·.name)).Nodup) ∧
      (∃ root, Node.ofShape s = .ok root) ∧
      ∀ n ms, s = .record n ms →
        ∃ root entries, Node.ofRecord s = .ok root ∧ root.paths = .ok entries) ∧
    (∀ (s : Schema) (definition : String) (count : Nat) (n : String) (ms : List (Member Shape)),
      s.Defines definition (.record n ms) →
        ∃ loaded, s.recordAt directory definition count = .ok loaded) ∧
    (∀ failure, files.loadSchema directory name = .error failure →
      failure.toFault.code ∈ Schema.packageCodes ++ Schema.definitionCodes ∧
      ∀ s ∈ shapeSentinels, failure.toFault.code ≠ (Error.sentinel s).code) ∧
    ∀ loaded, files.loadSchema directory name = .ok loaded →
      ∃ entries, loaded.root.paths = .ok entries ∧
        ofVerb f files o directory name .paths
          = (.after (logLoaded f directory loaded) (.ofPaths f loaded.definition entries), files) ∧
        (ofVerb f files o directory name .paths).1.exitCode = 0 := by
  refine ⟨fun look value s h => ?_, fun s definition count n ms hd => ?_, fun failure h => ?_,
    fun loaded h => ?_⟩
  · have hu := Shape.ofSchema_usable h
    refine ⟨hu.not_part_absent, fun n ms hp => ?_, ⟨_, Node.ofShape_eq_ok.mpr ⟨hu.check, rfl⟩⟩, ?_⟩
    · obtain ⟨-, hms, hd⟩ := Shape.newRecord_eq_ok_iff.mp (hu.recordsBuilt n ms hp)
      exact ⟨fun m hm => (hms m hm).1, hd⟩
    · rintro n ms rfl
      obtain ⟨entries, he⟩ := hu.exists_paths hu.ofRecord_eq
      exact ⟨_, entries, hu.ofRecord_eq, he⟩
  · obtain ⟨_, _, loaded, -, hl, -, -⟩ | ⟨-, -, -, hn⟩ :=
      s.recordAt_cases directory definition count
    · exact ⟨loaded, hl⟩
    · exact absurd hd (hn n ms)
  · have hc := Files.code_of_loadSchema h
    exact ⟨hc, fun s hs he => code_notMem_of_shapeSentinels s hs (he ▸ hc)⟩
  · obtain ⟨entries, he⟩ := (Files.ready_of_loadSchema h).exists_paths
    have hv : ofVerb f files o directory name .paths
        = (.after (logLoaded f directory loaded) (.ofPaths f loaded.definition entries),
          files) := by
      simp only [ofVerb, h, Except.mapError, paths, he]
    exact ⟨entries, he, hv, by rw [hv]; rfl⟩

/-- A crate with an owner, some items and their weights by name. -/
def crateFiles : Files :=
  { here := []
    entries := [
      (["schema", "crate.cue"], .file ("package schema\n"
        ++ "#Crate: label: string\n#Crate: owner: name: string\n"
        ++ "#Crate: items: [...string]\n#Crate: weights: [string]: int\n"))] }

theorem crateFiles_paths : (crateFiles.loadSchema "schema" "Crate").toOption.bind (fun l =>
      l.root.paths.toOption.map (·.map (·.path)))
    = some ["$['label']", "$['owner']", "$['owner']['name']", "$['items']", "$['weights']"] := by
  decide +kernel

theorem crateFiles_box : ∃ failure, crateFiles.loadSchema "schema" "Box" = .error failure := by
  have hnone : (crateFiles.loadSchema "schema" "Box").toOption.isNone := by decide +kernel
  cases h : crateFiles.loadSchema "schema" "Box" with
  | error failure => exact ⟨failure, rfl⟩
  | ok loaded => simp [h, Except.toOption] at hnone

theorem crateFiles_listed :
    (∃ (schema : Schema) (count : Nat) (n : String) (ms : List (Member Shape)) (loaded : Loaded),
      schema.Defines "#Crate" (.record n ms) ∧ ¬Shape.Part .absent (.record n ms) ∧
      schema.recordAt "schema" "#Crate" count = .ok loaded) ∧
    (∃ loaded entries, crateFiles.loadSchema "schema" "Crate" = .ok loaded ∧
      loaded.root.paths = .ok entries ∧
      entries.map (·.path)
        = ["$['label']", "$['owner']", "$['owner']['name']", "$['items']", "$['weights']"] ∧
      (ofVerb {} crateFiles {} "schema" "Crate" .paths).1.exitCode = 0) ∧
    ∃ failure, crateFiles.loadSchema "schema" "Box" = .error failure ∧
      failure.toFault.code ≠ (Error.sentinel .unsupportedShape).code := by
  obtain ⟨loaded, hl, hp⟩ := Option.bind_eq_some_iff.mp crateFiles_paths
  obtain ⟨entries, he, hpaths⟩ := Option.map_eq_some_iff.mp hp
  replace hl := toOption_eq_some.mp hl
  replace he := toOption_eq_some.mp he
  obtain ⟨failure, hf⟩ := crateFiles_box
  obtain ⟨hshape, hrecord, -, hlisted⟩ :=
    schema_shapes_usable {} crateFiles {} "schema" "Crate"
  obtain ⟨-, -, hfailure, -⟩ := schema_shapes_usable {} crateFiles {} "schema" "Box"
  refine ⟨?_, ⟨loaded, entries, hl, he, hpaths, ?_⟩,
    failure, hf, (hfailure failure hf).2 _ (.head _)⟩
  · obtain ⟨schema, count, hs⟩ | ⟨other, ho, -⟩ := crateFiles.loadSchema_cases "schema" "Crate"
    · obtain ⟨n, ms, _, hd, -, -, -⟩ | ⟨other, ho, -, -⟩ :=
        schema.recordAt_cases "schema" "#Crate" count
      · obtain ⟨_, value, -, -, hv⟩ := id hd
        obtain ⟨again, ha⟩ := hrecord schema "#Crate" count n ms hd
        exact ⟨schema, count, n, ms, again, hd, (hshape schema.view value _ hv).1, ha⟩
      · cases hl.symm.trans (hs.trans ho)
    · cases hl.symm.trans ho
  · obtain ⟨_, -, -, hexit⟩ := hlisted loaded hl
    exact hexit

end Command

end TypedPath
