import RuleLexer.Files.SourceFile
import RuleLexer.Rules.Minilang
import RuleLexer.Vocabulary

/-!
# The command line

A run of the program is a function of the file system and the arguments: what is written to the two
output channels, and the exit code. Files are processed one after the other, each on its own, and a
file that fails does not keep the next from being processed.
-/

namespace RuleLexer.Command
open Text

structure Outcome where
  code : Nat
  stdout : String
  stderr : String
  deriving DecidableEq

/-- A line of text. -/
def line (s : String) : String := s ++ "\n"

def usage : String :=
  String.join <| List.map line [
    "Usage: lexconf <command> [--config FILE] [files...]",
    "",
    "Commands:",
    "  tokens     Print every token of each file",
    "  check      Check that each file tokenizes",
    "  constants  Print the configuration's constants as Rust",
    "",
    "Without --config the bundled minilang configuration is used.",
    "Set RUST_LOG=debug for diagnostics.",
    "",
    "Examples:",
    "  lexconf tokens main.ml",
    "  lexconf check --config lang.json src/*.ml",
    "  lexconf constants --config lang.json > src/constants.rs"]

/-- A run that is refused before any file is processed. -/
def refusal (message : String) : Outcome := ⟨2, "", message⟩

/-! ## Arguments -/

structure Arguments where
  config : Option String
  files : List String
  deriving DecidableEq

/-- Splits the arguments behind the command; none when an option lacks its value. Of several
configurations the last counts. -/
def splitArguments : List String → Option Arguments
  | [] => some ⟨none, []⟩
  | "--config" :: [] => none
  | "--config" :: path :: rest =>
    (splitArguments rest).map fun a => { a with config := a.config <|> some path }
  | file :: rest => (splitArguments rest).map fun a => { a with files := file :: a.files }

def loadRules (files : FileSystem) : Option String → Except LoadError Rules
  | some path => Rules.ofFile files path
  | none => Minilang.rules

/-! ## Files -/

/-- What one file contributes to a run. -/
structure Report where
  stdout : String
  stderr : String
  failed : Bool
  deriving DecidableEq

/-- Blanks up to `column`, with the tabs of the line kept, so that what follows stands under the
character there at any tab width. -/
def caretPadding (line : List Char) (column : Nat) : List Char :=
  (line.take (column - 1)).map fun c => if c = '\t' then '\t' else ' '

def tokenLine (r : Rules) (s : Source) (t : Token) : String :=
  line s!"{t.location.render}\t{t.label r.subkindDelimiter}\t{quoteString (t.value s)}"

/-- The error, the line it is on, and a caret under its place. -/
def errorReport (path : String) (s : Source) (e : LexError) : String :=
  let shown :=
    match e.position.sourceLine? s with
    | some text =>
      let padding := String.ofList (caretPadding text.toList e.position.column)
      line s!"    {text}" ++ line s!"    {padding}^"
    | none => ""
  line s!"{path}: {e.message}" ++ shown

/-- Processes one file; `listing` asks for its tokens to be printed. -/
def processFile (files : FileSystem) (r : Rules) (listing : Bool) (path : String) : Report :=
  match Source.load files path with
  | .error e => ⟨"", line e.message, true⟩
  | .ok s =>
    match r.tokenize s with
    | .error e => ⟨"", errorReport path s e, true⟩
    | .ok tokens =>
      if listing then ⟨String.join (tokens.map (tokenLine r s)), "", false⟩
      else ⟨"", line s!"{path}: ok ({tokens.length} token(s))", false⟩

/-- Processes all files in order. -/
def processFiles (files : FileSystem) (r : Rules) (listing : Bool) (paths : List String) :
    Outcome :=
  let reports := paths.map (processFile files r listing)
  ⟨if reports.any (·.failed) then 1 else 0, String.join (reports.map (·.stdout)),
    String.join (reports.map (·.stderr))⟩

/-! ## Runs -/

def runCommand (files : FileSystem) (r : Rules) (command : String) (paths : List String) :
    Outcome :=
  if command = "constants" then ⟨0, (Vocabulary.ofRules r).render, ""⟩
  else if command = "tokens" ∨ command = "check" then
    if paths.isEmpty then refusal (line "Error: no files specified")
    else processFiles files r (command = "tokens") paths
  else refusal (line s!"Unknown command: {command}")

def run (files : FileSystem) : List String → Outcome
  | [] => refusal usage
  | command :: rest =>
    if command = "--help" ∨ command = "-h" then refusal usage
    else
      match splitArguments rest with
      | none => refusal (line "Error: --config needs a file")
      | some arguments =>
        match loadRules files arguments.config with
        | .error e =>
          let name := arguments.config.getD "minilang"
          refusal (line s!"{name}: {e.message}")
        | .ok r => runCommand files r command arguments.files

/-- The files that a run may read. -/
def paths : List String → List String
  | [] => []
  | _ :: rest =>
    match splitArguments rest with
    | none => []
    | some arguments => arguments.config.toList ++ arguments.files

end RuleLexer.Command
