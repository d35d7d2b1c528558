import TypedPath.Report.Data

/-! Output of commands: reports go to one stream, log lines and diagnostics to another. -/
namespace TypedPath

/-- What is written to the two streams. -/
structure Written where
  out : String := ""
  err : String := ""
  deriving Repr, DecidableEq

namespace Written

instance : Append Written := ⟨fun a b => ⟨a.out ++ b.out, a.err ++ b.err⟩⟩

def lines (ls : List String) : Written := { out := String.join (ls.map (· ++ "\n")) }

def all (ws : List Written) : Written := ws.foldl (· ++ ·) {}

end Written

inductive Colour
  | red
  | green
  deriving Repr, DecidableEq

def Colour.paint (c : Colour) (s : String) : String :=
  let code := match c with
    | red => "31"
    | green => "32"
  "\x1b[" ++ code ++ "m" ++ s ++ "\x1b[0m"

/-- How output is written. Any format but JSON is text. `colour` tells whether the terminal shows
it, and without `separate` everything goes to the one stream. -/
structure Formatter where
  format : String := "text"
  verbose : Bool := false
  noColour : Bool := false
  colour : Bool := false
  separate : Bool := true
  deriving Repr, DecidableEq

namespace Formatter

variable (f : Formatter)

def isJson : Bool := f.format = "json"

def paint (c : Colour) (s : String) : String :=
  if f.colour && !f.noColour && !f.isJson then c.paint s else s

/-- The result of a command. -/
def success (data : Data) : Written :=
  if f.isJson then
    .lines [(Data.object (("status", .text "ok") :: Data.optionalField "data" data)).compact]
  else .lines [data.plain]

def errorData (code message : String) (details : Data) : Data :=
  .object ([("code", .text code), ("message", .text message)]
    ++ Data.optionalField "details" details)

/-- The error that stopped a command. -/
def error (code message : String) (details : Data) : Written :=
  if f.isJson then
    .lines [(Data.object [("status", .text "error"),
      ("error", errorData code message details)]).compact]
  else
    .lines ((f.paint .red "Error" ++ " [" ++ code ++ "]: " ++ message)
      :: if f.verbose && !details.isAbsent then ["Details: " ++ details.plain] else [])

def check (message : String) : Written := .lines [f.paint .green "✓" ++ " " ++ message]

def cross (message : String) : Written := .lines [f.paint .red "✗" ++ " " ++ message]

/-- Text for diagnostics. -/
def aside (text : String) : Written := if f.separate then { err := text } else { out := text }

def diagnostic (message : String) : Written := f.aside (message ++ "\n")

/-- A log line, if they are wanted. -/
def log (message : String) (attributes : List (String × String)) : Written :=
  if f.verbose then f.aside (Text.logLine message attributes) else {}

end Formatter

end TypedPath
