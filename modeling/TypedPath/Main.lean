import TypedPath.Command.Run

/-! The program on the files of a disk. What the arguments name is read before the run, and what the
run changed is written after it. -/
namespace TypedPath.Disk

/-- The names of files and directories in a command line. -/
def named (arguments : List String) : List String :=
  let parsed := do
    let word ← Arguments.commandWord? arguments
    let verb ← Verb.ofName? word
    (Arguments.parse (Flag.ofVerb (some verb)) (Arguments.dropWord word arguments) {}).toOption
  match parsed with
  | some (o, others) => (others ++ [o.output]).filter (· ≠ "")
  | none => []

def textOf (name : String) : IO String := do
  return (String.fromUTF8? (← IO.FS.readBinFile ((← IO.currentDir) / name))).getD ""

/-- What stands under a name, with everything below it. -/
partial def entriesAt (name : String) (place : List String) :
    IO (List (List String × FileKind)) := do
  let path := (← IO.currentDir) / name
  if ← path.isDir then
    let mut entries := [(place, FileKind.directory)]
    for e in ← path.readDir do
      entries := entries ++ (← entriesAt e.path.toString (place ++ [e.fileName]))
    return entries
  else if ← path.pathExists then
    return [(place, .file (← textOf name))]
  else return []

/-- The directory that a place lies in. -/
def parentOf (place : List String) : IO (List (List String × FileKind)) := do
  let parent := place.dropLast
  if ← ((← IO.currentDir) / ("/" ++ "/".intercalate parent)).isDir then
    return [(parent, .directory)]
  else return []

/-- The files that a command line can reach. -/
def filesFor (arguments : List String) : IO Files := do
  let here := (Files.parts (← IO.currentDir).toString).filter (· ≠ "")
  let mut files : Files := { here := here, entries := [] }
  for name in named arguments do
    let place := (Files.parts name).foldl Files.step (files.start name)
    let entries := (← entriesAt name place) ++ (← parentOf place)
    files := { files with entries := files.entries ++ entries }
  return files

/-- Writes the files that are new or different. -/
def save (before after : Files) : IO Unit := do
  for (place, kind) in after.entries do
    match kind with
    | .file text =>
      if before.kindAt? place ≠ some (.file text) then
        IO.FS.writeFile ("/" ++ "/".intercalate place) text
    | .directory => pure ()

/-- Whether the terminal shows colours. -/
def showsColour : IO Bool := do
  let refused := (← IO.getEnv "NO_COLOR").any (· ≠ "")
  let plain := (← IO.getEnv "TERM") == some "dumb"
  return !refused && !plain && (← (← IO.getStdout).isTty)

end TypedPath.Disk

open TypedPath in
def main (arguments : List String) : IO UInt32 := do
  let files ← Disk.filesFor arguments
  let (answer, changed) := Program.run files (← Disk.showsColour) arguments
  Disk.save files changed
  (← IO.getStdout).putStr answer.total.out
  (← IO.getStderr).putStr answer.total.err
  return answer.exitCode.toNat.toUInt32
