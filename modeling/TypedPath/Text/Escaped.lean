import TypedPath.Text.Printable

/-! Double-quoted text in messages, where what cannot be printed is written as an escape, and log
lines: keys with values, of which the ones that would be unclear are quoted. -/
namespace TypedPath.Text

/-- The last `width` hexadecimal digits of `n`. -/
def hex (width n : Nat) : String :=
  String.ofList ((List.range width).reverse.map fun i => Nat.digitChar (n >>> (4 * i) % 16))

def escapeChar (c : Char) : String :=
  if c = '"' then "\\\""
  else if c = '\\' then "\\\\"
  else if isPrintable c then c.toString
  else match c.toNat with
    | 0x07 => "\\a"
    | 0x08 => "\\b"
    | 0x0c => "\\f"
    | 0x0a => "\\n"
    | 0x0d => "\\r"
    | 0x09 => "\\t"
    | 0x0b => "\\v"
    | n =>
      if n < 0x20 ∨ n = 0x7f then "\\x" ++ hex 2 n
      else if n < 0x10000 then "\\u" ++ hex 4 n
      else "\\U" ++ hex 8 n

def escaped (s : String) : String :=
  "\"" ++ String.join (s.toList.map escapeChar) ++ "\""

/-- Whether a character of a value calls for quotes. -/
def callsForQuotes (c : Char) : Bool :=
  if c.toNat < 0x80 then c.toNat ≤ 0x20 || c = '=' || c = '"'
  else c = '\ufffd' || !isPrintable c

def logValue (s : String) : String :=
  if s = "" || s.toList.any callsForQuotes then escaped s else s

/-- A line at debug level. -/
def logLine (message : String) (attributes : List (String × String)) : String :=
  " ".intercalate (("level=DEBUG msg=" ++ logValue message)
    :: attributes.map fun (k, v) => logValue k ++ "=" ++ logValue v) ++ "\n"

end TypedPath.Text
