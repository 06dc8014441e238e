import RuleLexer.Files.ReadError
import RuleLexer.Scan.Tokens

/-!
# Sources from files

A source is named by the path it was read from. A byte order mark at its start is dropped.
-/

namespace RuleLexer

structure SourceError where
  name : String
  cause : ReadError
  deriving DecidableEq

def SourceError.message (e : SourceError) : String := s!"cannot read {e.name}: {e.cause.message}"

def Source.load (files : FileSystem) (path : String) : Except SourceError Source :=
  match files path with
  | .ok text => .ok (.loaded path (withoutByteOrderMark text))
  | .error cause => .error ⟨path, cause⟩

inductive FileError where
  | source (error : SourceError)
  | lex (error : LexError)
  deriving DecidableEq

def FileError.message : FileError → String
  | source e => e.message
  | lex e => e.message

/-- The number of tokens in a file. -/
def Rules.countTokens (r : Rules) (files : FileSystem) (path : String) : Except FileError Nat := do
  let source ← (Source.load files path).mapError .source
  let tokens ← (r.tokenize source).mapError .lex
  return tokens.length

end RuleLexer
