import TypedPath.Files.Basic

/-! The files in a directory and everything below it. -/
namespace TypedPath.Files

/-- The shortest name for the same place: no empty parts, no dots, and no way back. -/
def cleanParts (absolute : Bool) : List String → List String → List String
  | kept, [] => kept.reverse
  | kept, part :: rest =>
    if part = "" ∨ part = "." then cleanParts absolute kept rest
    else if part = ".." then
      match kept with
      | [] => cleanParts absolute (if absolute then [] else [".."]) rest
      | k :: more => cleanParts absolute (if k = ".." then ".." :: k :: more else more) rest
    else cleanParts absolute (part :: kept) rest

def clean (name : String) : String :=
  let absolute := isAbsolute name
  let cleaned := "/".intercalate (cleanParts absolute [] (parts name))
  if absolute then "/" ++ cleaned else if cleaned = "" then "." else cleaned

/-- The name of something in a directory. -/
def join (directory name : String) : String := clean (directory ++ "/" ++ name)

/-- The part of a name from its last dot on. -/
def extension (name : String) : String :=
  let last := ((parts name).getLast?.getD "").toList.reverse
  if last.contains '.' then String.ofList ('.' :: (last.takeWhile (· ≠ '.')).reverse) else ""

variable (files : Files)

/-- The files at a place and below it that `keep` selects by name, directory by directory. -/
def below (keep : String → Bool) : Nat → String → List String → List String
  | 0, _, _ => []
  | fuel + 1, name, place =>
    match files.kindAt? place with
    | some (.file _) => if keep name then [name] else []
    | some .directory =>
      (files.namesIn place).flatMap fun n => below keep fuel (join name n) (place ++ [n])
    | none => []

/-- More levels than there are directories inside each other. -/
def height : Nat := (files.entries.map (·.1.length)).foldl max files.here.length + 2

/-- The files under a name, by names of their own that start with it. -/
def walk (keep : String → Bool) (name : String) : Except FileError (List String) := do
  let place ← files.locate name
  match files.kindAt? place with
  | some _ => .ok (files.below keep files.height name place)
  | none => .error .notFound

end TypedPath.Files
