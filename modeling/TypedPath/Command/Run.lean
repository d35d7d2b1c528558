import TypedPath.Command.Answer
import TypedPath.Command.Arguments

/-! Runs commands on files. A command takes what it loads as given, so that what it says about it
can be compared with what another command says. -/
namespace TypedPath

namespace Command

variable (f : Formatter)

def logLoaded (directory : String) (loaded : Loaded) : Written :=
  f.log "schema loaded" [("dir", directory), ("definition", loaded.definition),
    ("files", toString loaded.fileCount)]

def logCompiled (c : Compiled) : Written :=
  f.log "query compiled" [("query", c.name), ("path", c.path), ("id", c.id)]

/-- Lists the paths of a definition. -/
def paths (directory : String) : Except LoadFault Loaded → Answer
  | .error fault => .ofError f (.load fault)
  | .ok loaded =>
    .after (logLoaded f directory loaded) (match loaded.root.paths with
      | .error e => .ofError f e
      | .ok entries => .ofPaths f loaded.definition entries)

/-- Compiles a document. With the name of a file, the result is written there too. -/
def compile (files : Files) (directory file : String) :
    Except LoadFault Source → Answer × Files
  | .error fault => (.ofError f (.load fault), files)
  | .ok ⟨document, loaded⟩ =>
    let log := logLoaded f directory loaded
      ++ .all ((document.compiledBeforeError loaded.root).map (logCompiled f))
    let (answer, files) := match document.compile loaded.root with
      | .error e => (.ofCompilationError f e, files)
      | .ok queries =>
        let c : Compilation := ⟨loaded.definition, queries⟩
        if file = "" then (.ofCompilation f c file, files)
        else match files.write file c.data.indented with
          | .error e => (.ofWriteError f file e, files)
          | .ok files => (.ofCompilation f c file, files)
    (.after log answer, files)

/-- Checks every query of a document. -/
def validate : Except LoadFault Source → Answer
  | .error fault => .ofError f (.load fault)
  | .ok ⟨document, loaded⟩ =>
    let log := document.queries.map fun q =>
      f.log "validating query" [("query", q.name)] ++ match q.compile loaded.root with
        | .ok c => logCompiled f c
        | .error _ => {}
    .after (.all log) (.ofReview f (document.review loaded.root))

/-- Runs a command on its two arguments. -/
def ofVerb (files : Files) (o : Options) (directory name : String) : Verb → Answer × Files
  | .paths => (paths f directory ((files.loadSchema directory name).mapError (·.toFault)), files)
  | .compile => compile f files directory o.output (files.source directory name)
  | .validate => (validate f (files.source directory name), files)

end Command

namespace Answer

/-- An error about the command line. -/
def misuse (e : Error) : Answer := { error := some e }

def ofLines (lines : List String) : Answer := { written := .lines lines }

/-- An error about the command line, with a reminder of how the program is used. -/
def misuseWithUsage (e : Error) : Answer :=
  { reminder := Help.programUsage ++ [""], error := some e }

def exitCode (a : Answer) : Int := (a.error.map (·.exitCode)).getD 0

/-- What is written where all output is collected, the reminder included. -/
def collected (a : Answer) : Written := a.written ++ .lines a.reminder

/-- What is written to a terminal. The reminder is no output there, and an error of no command is
named at the last. -/
def total (a : Answer) : Written :=
  a.written ++ { err := (Written.lines a.reminder).out } ++ match a.error with
    | none | some (.exit ..) => {}
    | some e => { err := "Error: " ++ e.message ++ "\n" }

end Answer

/-- The way of writing that the settings ask for. -/
def Options.formatter (o : Options) (colour : Bool) : Formatter :=
  { format := o.format, verbose := o.verbose, noColour := o.noColour, colour := colour }

namespace Program

/-- The formats that a command can answer in. -/
def formats : List String := ["text", "json"]

def checkFormat (o : Options) : Except Error Unit :=
  if formats.contains o.format then .ok ()
  else .error (.plain ("invalid format " ++ Text.escaped o.format ++ ": must be one of ["
    ++ " ".intercalate formats ++ "]"))

variable (files : Files) (colour : Bool)

/-- Runs a command with its arguments. -/
def runVerb (v : Verb) (arguments : List String) : Answer × Files :=
  match Arguments.parse (Flag.ofVerb (some v)) arguments {} with
  | .error e => (.misuse e, files)
  | .ok (o, others) =>
    if o.help then (.ofLines (Help.verb v), files)
    else match others, checkFormat o with
      | [directory, name], .ok _ =>
        Command.ofVerb (o.formatter colour) files o directory name v
      | [_, _], .error e => (.misuse e, files)
      | _, _ =>
        (.misuse (.plain ("accepts 2 arg(s), received " ++ toString others.length)), files)

/-- The program without a command says what it is for. -/
def runBare (arguments : List String) : Answer :=
  match Arguments.parse (Flag.ofVerb none) arguments {} with
  | .error e => .misuseWithUsage e
  | .ok _ => .ofLines Help.program

/-- Says more about a command. -/
def runHelp (arguments : List String) : Answer :=
  match Arguments.parse (Flag.ofVerb none) arguments {} with
  | .error e => .misuseWithUsage e
  | .ok (o, topics) =>
    match checkFormat o, topics with
    | .error e, _ => .misuseWithUsage e
    | .ok _, [] => .ofLines Help.program
    | .ok _, topic :: _ =>
      match Verb.ofName? topic with
      | some v => .ofLines (Help.verb v)
      | none =>
        { reminder := ("Unknown help topic [\x60" ++ "\x60 \x60".intercalate topics ++ "\x60]")
            :: Help.programUsage }

/-- Says which shells there are scripts for. The scripts themselves are left out. -/
def runCompletion (arguments : List String) : Answer :=
  match Arguments.parse (Flag.ofVerb none) arguments {} with
  | .error e => .misuseWithUsage e
  | .ok _ => .ofLines Help.completion

/-- Runs the program. `colour` tells whether the terminal shows colours. -/
def run (arguments : List String) : Answer × Files :=
  match Arguments.commandWord? arguments with
  | none => (runBare arguments, files)
  | some word =>
    let rest := Arguments.dropWord word arguments
    match Verb.ofName? word with
    | some v => runVerb files colour v rest
    | none =>
      if word = "help" then (runHelp rest, files)
      else if word = "completion" then (runCompletion rest, files)
      else (.misuse (Arguments.unknownCommand word), files)

end Program

end TypedPath
