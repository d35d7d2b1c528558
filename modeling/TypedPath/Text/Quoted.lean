/-! Single-quoted text, as member names, map keys and text literals stand in a path.

A backslash and a quote inside the text are written behind a backslash, so the first quote that is
not behind a backslash closes the text. -/
namespace TypedPath.Text

def escape : List Char → List Char
  | [] => []
  | c :: rest =>
    if c = '\\' ∨ c = '\x27' then '\\' :: c :: escape rest else c :: escape rest

def quote (s : String) : String :=
  String.ofList ('\x27' :: (escape s.toList ++ ['\x27']))

/-- Reads up to the first quote that is not behind a backslash, and gives the rest. -/
def unescape : List Char → Option (List Char × List Char)
  | [] => none
  | '\\' :: c :: rest => (unescape rest).map fun r => (c :: r.1, r.2)
  | c :: rest =>
    if c = '\\' then none
    else if c = '\x27' then some ([], rest)
    else (unescape rest).map fun r => (c :: r.1, r.2)

/-- Reads one quoted text at the start of `s`. -/
def unquote : List Char → Option (List Char × List Char)
  | '\x27' :: rest => unescape rest
  | _ => none

end TypedPath.Text
