import TypedPath.Schema.Lookup

/-! A schema made of one or several files. -/
namespace TypedPath

/-- A schema whose declarations have been checked. -/
structure Schema where
  root : Schema.Value
  steps : Nat

namespace Schema

/-- More steps than it takes to work out declarations of this many tokens. -/
def enoughSteps (size : Nat) : Nat := 64 + 8 * size

/-- A schema of declarations, unless a name is not declared or something in it contradicts itself.
-/
def ofDecls? (position : Option Position) (size : Nat) (ds : List Decl) : Option Schema :=
  let start := position.getD ⟨"", 0, 0⟩
  let body : Expr := .struct ds start
  let root : Value := ⟨[], [{ expr := body, frames := [],
                              origin := position.map fun p => ⟨p, p, [], []⟩ }]⟩
  let steps := enoughSteps size
  if body.resolves [] && verdict steps root ≠ .impossible then some ⟨root, steps⟩ else none

/-- The schema of a single text. -/
def parse? (text : String) : Option Schema := do
  let f ← File.parse? "" text
  ofDecls? f.position f.size f.decls

variable (s : Schema)

def lookup? (path : List Selector) : Option Value := s.root.lookup? s.steps path

def view (v : Value) : View Value := v.view s.steps

end Schema

end TypedPath
