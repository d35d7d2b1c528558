/-! A writer collects the tokens of a path. Separators are told apart from content, so that the last
one can be taken back before a group is closed. -/
namespace TypedPath

structure Token where
  text : String
  separator : Bool := false
  deriving Repr, DecidableEq

/-- The tokens written so far, the latest first. -/
structure Writer where
  tokens : List Token
  deriving Repr, DecidableEq

namespace Writer

def empty : Writer := ⟨[]⟩

def write (w : Writer) (text : String) : Writer := ⟨⟨text, false⟩ :: w.tokens⟩

def separate (w : Writer) (text : String) : Writer := ⟨⟨text, true⟩ :: w.tokens⟩

/-- Takes back the latest token if it is a separator, and tells whether it was. -/
def pop (w : Writer) : Writer × Bool :=
  match w.tokens with
  | ⟨_, true⟩ :: rest => (⟨rest⟩, true)
  | _ => (w, false)

def length (w : Writer) : Nat := w.tokens.length

def text (w : Writer) : String := String.join (w.tokens.reverse.map (·.text))

end Writer

end TypedPath
