import TypedPath.Command.Help
import TypedPath.Error

/-! Flags of the commands and the settings that they make. -/
namespace TypedPath

/-- A flag. A switch needs no value; without one it is on. -/
structure Flag where
  name : String
  short : Option Char := none
  isSwitch : Bool
  deriving Repr, DecidableEq

namespace Flag

def verbose : Flag := { name := "verbose", short := some 'v', isSwitch := true }
def format : Flag := { name := "format", isSwitch := false }
def noColour : Flag := { name := "no-color", isSwitch := true }
def help : Flag := { name := "help", short := some 'h', isSwitch := true }
def output : Flag := { name := "output", short := some 'o', isSwitch := false }

/-- The flags of every command. -/
def shared : List Flag := [verbose, format, noColour]

/-- The flags of one command, or of the program itself. -/
def ofVerb : Option Verb → List Flag
  | some .compile => shared ++ [help, output]
  | _ => shared ++ [help]

def label (f : Flag) : String :=
  match f.short with
  | some c => "-" ++ c.toString ++ ", --" ++ f.name
  | none => "--" ++ f.name

end Flag

/-- What the flags say. -/
structure Options where
  verbose : Bool := false
  format : String := "text"
  noColour : Bool := false
  help : Bool := false
  output : String := ""
  deriving Repr, DecidableEq

/-- The words for truth values. -/
def switchValue? (s : String) : Option Bool :=
  if ["1", "t", "T", "TRUE", "true", "True"].contains s then some true
  else if ["0", "f", "F", "FALSE", "false", "False"].contains s then some false
  else none

namespace Options

def setSwitch (o : Options) (f : Flag) (value : Bool) : Options :=
  if f = .verbose then { o with verbose := value }
  else if f = .noColour then { o with noColour := value }
  else { o with help := value }

def setText (o : Options) (f : Flag) (value : String) : Options :=
  if f = .format then { o with format := value } else { o with output := value }

def set (o : Options) (f : Flag) (value : String) : Except Error Options :=
  if f.isSwitch then
    match switchValue? value with
    | some b => .ok (o.setSwitch f b)
    | none => .error (.plain ("invalid argument " ++ Text.escaped value ++ " for "
        ++ Text.escaped f.label ++ " flag: strconv.ParseBool: parsing " ++ Text.escaped value
        ++ ": invalid syntax"))
  else .ok (o.setText f value)

end Options

end TypedPath
