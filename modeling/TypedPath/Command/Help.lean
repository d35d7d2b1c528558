/-! The commands of the program and what is said about them. -/
namespace TypedPath

inductive Verb
  | paths
  | compile
  | validate
  deriving Repr, DecidableEq

namespace Verb

def name : Verb → String
  | paths => "paths"
  | compile => "compile"
  | validate => "validate"

def all : List Verb := [paths, compile, validate]

def ofName? (name : String) : Option Verb := all.find? (·.name = name)

def usage : Verb → String
  | paths => "paths <schema-dir> <definition>"
  | compile => "compile <schema-dir> <queries.yaml>"
  | validate => "validate <schema-dir> <queries.yaml>"

def description : Verb → List String
  | paths => [
    "List every record member reachable from a definition, with the",
    "JSONPath that addresses it and its shape.",
    "",
    "Members of nested records are listed below their parent. Members inside",
    "arrays and maps are not listed; address them with index, key or filter",
    "steps in a query document."]
  | compile => [
    "Compile the queries of a YAML query document to JSONPath strings.",
    "",
    "The document names a record definition from the CUE package in",
    "schema-dir. Each query is built through the typed accessor tree of that",
    "definition and rendered with a stable content-addressed ID."]
  | validate => [
    "Check every query of a YAML query document against its schema.",
    "",
    "Unlike compile, validate does not stop at the first rejected query: all",
    "queries are checked and every failure is reported."]

end Verb

namespace Help

def programName : String := "shapepath"

/-- The words that are offered for one that is no command. -/
def offeredNames : List String := Verb.all.map (·.name) ++ ["completion"]

def sharedFlags : List String := [
  "      --format string   output format (json|text) (default \"text\")",
  "      --no-color        disable colored output",
  "  -v, --verbose         verbose output"]

/-- How the program is used. -/
def programUsage : List String := [
  "Usage:",
  "  shapepath [command]",
  "",
  "Available Commands:",
  "  compile     Compile a query document to JSONPath",
  "  completion  Generate the autocompletion script for the specified shell",
  "  help        Help about any command",
  "  paths       List the query paths of a record definition",
  "  validate    Check a query document without writing output",
  "",
  "Flags:",
  "      --format string   output format (json|text) (default \"text\")",
  "  -h, --help            help for shapepath",
  "      --no-color        disable colored output",
  "  -v, --verbose         verbose output",
  "",
  "Use \"shapepath [command] --help\" for more information about a command."]

def program : List String := [
  "Build JSONPath-style queries that are checked against a CUE schema.",
  "",
  "Record definitions are loaded from a CUE package. Queries are written in",
  "YAML and compiled through a typed accessor tree, so a query that names an",
  "unknown field or compares a string with a number is rejected before it is",
  "ever run.",
  ""] ++ programUsage

/-- What is said about one command. -/
def verb (v : Verb) : List String :=
  let flags := match v with
    | .compile => [
      "  -h, --help            help for compile",
      "  -o, --output string   output file path"]
    | v => ["  -h, --help   help for " ++ v.name]
  v.description ++ ["", "Usage:", "  shapepath " ++ v.usage ++ " [flags]", "", "Flags:"] ++ flags
    ++ ["", "Global Flags:"] ++ sharedFlags

/-- What is said about scripts that complete command lines. -/
def completion : List String := [
  "Generate the autocompletion script for shapepath for the specified shell.",
  "See each sub-command\x27s help for details on how to use the generated script.",
  "",
  "Usage:",
  "  shapepath completion [command]",
  "",
  "Available Commands:",
  "  bash        Generate the autocompletion script for bash",
  "  fish        Generate the autocompletion script for fish",
  "  powershell  Generate the autocompletion script for powershell",
  "  zsh         Generate the autocompletion script for zsh",
  "",
  "Flags:",
  "  -h, --help   help for completion",
  "",
  "Global Flags:"] ++ sharedFlags ++ [
  "",
  "Use \"shapepath completion [command] --help\" for more information about a command."]

end Help

end TypedPath
