import RuleLexer.Position
import RuleLexer.Text.Quoted

/-!
# Scanning errors

A text that cannot be scanned gives one error: its kind, the character it is about if there is one,
the position, and sometimes a hint.
-/

namespace RuleLexer
open Text

namespace LexError

inductive Kind where
  /-- A character that starts no token. -/
  | unexpectedCharacter
  /-- A character that does not fit into the number before it. -/
  | invalidNumber
  | operatorTooLong (max : Nat)
  | identifierTooLong (max : Nat)
  | unterminatedString
  | unterminatedComment
  | sourceNotLoaded
  deriving DecidableEq

namespace Kind

def message : Kind → String
  | unexpectedCharacter => "unexpected character"
  | invalidNumber => "unexpected character in numeric literal"
  | operatorTooLong max => s!"operator longer than {max} characters"
  | identifierTooLong max => s!"identifier longer than {max} characters"
  | unterminatedString => "unterminated string literal"
  | unterminatedComment => "unterminated block comment"
  | sourceNotLoaded => "source is not loaded"

/-- The limit that was exceeded. -/
def limit? : Kind → Option Nat
  | operatorTooLong max | identifierTooLong max => some max
  | _ => none

end Kind

end LexError

structure LexError where
  kind : LexError.Kind
  /-- The offending character, none at the end of the text. -/
  ch : Option Char
  position : Position
  hint : Option String
  deriving DecidableEq

namespace LexError

/-- Whether the error is about a character that fits nowhere. -/
def isUnexpectedCharacter (e : LexError) : Bool :=
  match e.kind with
  | .unexpectedCharacter | .invalidNumber | .operatorTooLong _ | .identifierTooLong _ => true
  | .unterminatedString | .unterminatedComment | .sourceNotLoaded => false

def message (e : LexError) : String :=
  let ch := (e.ch.map fun c => " " ++ quoteChar c).getD ""
  let hint := (e.hint.map fun h => s!" ({h})").getD ""
  s!"{e.kind.message}{ch} at line {e.position.line}, column {e.position.column}{hint}"

end LexError

end RuleLexer
