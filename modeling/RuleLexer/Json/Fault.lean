import RuleLexer.Json.Value
import RuleLexer.Number.Shortest
import RuleLexer.Text.Quoted

/-!
# Faults of a document

A document is refused for one `Problem`: the text ends too early, it is no JSON, or its values are
not what the reader asked for. A `Fault` is a problem and the byte offset it is reported at, which a
document that never was text does not have.
-/

namespace RuleLexer.Json
open Text

/-- What stands where something else was wanted. -/
inductive Found where
  | scalar (value : Scalar)
  | list
  | object
  deriving DecidableEq

def Number.describe : Number → String
  | .integer i => s!"integer `{i}`"
  | .float negative x =>
    let sign := if negative then "-" else ""
    s!"floating point `{sign}{x.render}`"

def Found.describe : Found → String
  | .scalar .null => "null"
  | .scalar (.bool b) => s!"boolean `{b}`"
  | .scalar (.number n) => n.describe
  | .scalar (.string s) => s!"string {quoteString s}"
  | .list => "sequence"
  | .object => "map"

inductive Problem where
  | endInValue
  | endInObject
  | endInList
  | endInString
  | expectedValue
  | expectedLiteral
  | expectedColon
  | expectedObjectComma
  | expectedListComma
  | keyMustBeString
  | trailingComma
  | trailingCharacters
  | invalidNumber
  | numberOutOfRange
  | invalidEscape
  | brokenSurrogatePair
  | loneSurrogate
  | controlCharacter
  | tooDeep
  | unknownField (name : String) (known : List String)
  | duplicateField (name : String)
  | missingField (name : String)
  | invalidType (found : Found) (wanted : String)
  | invalidValue (found : Found) (wanted : String)
  | invalidLength (length : Nat) (wanted : String)
  | refused (reason : String)
  deriving DecidableEq

namespace Problem

inductive Category where
  /-- The text ends too early. -/
  | truncated
  /-- The text is no JSON. -/
  | malformed
  /-- The values do not fit. -/
  | mismatched
  deriving DecidableEq

def category : Problem → Category
  | endInValue | endInObject | endInList | endInString => .truncated
  | unknownField .. | duplicateField _ | missingField _ | invalidType .. | invalidValue ..
  | invalidLength .. | refused _ => .mismatched
  | _ => .malformed

def ticked (name : String) : String := s!"`{name}`"

/-- The fields of a record, as an error names them. -/
def oneOf : List String → String
  | [a] => ticked a
  | [a, b] => s!"{ticked a} or {ticked b}"
  | names => "one of " ++ ", ".intercalate (names.map ticked)

def message : Problem → String
  | endInValue => "EOF while parsing a value"
  | endInObject => "EOF while parsing an object"
  | endInList => "EOF while parsing a list"
  | endInString => "EOF while parsing a string"
  | expectedValue => "expected value"
  | expectedLiteral => "expected ident"
  | expectedColon => "expected `:`"
  | expectedObjectComma => "expected `,` or `\x7d`"
  | expectedListComma => "expected `,` or `]`"
  | keyMustBeString => "key must be a string"
  | trailingComma => "trailing comma"
  | trailingCharacters => "trailing characters"
  | invalidNumber => "invalid number"
  | numberOutOfRange => "number out of range"
  | invalidEscape => "invalid escape"
  | brokenSurrogatePair => "unexpected end of hex escape"
  | loneSurrogate => "lone leading surrogate in hex escape"
  | controlCharacter => "control character (\\u0000-\\u001F) found while parsing a string"
  | tooDeep => "recursion limit exceeded"
  | unknownField name known => s!"unknown field {ticked name}, expected {oneOf known}"
  | duplicateField name => s!"duplicate field {ticked name}"
  | missingField name => s!"missing field {ticked name}"
  | invalidType found wanted => s!"invalid type: {found.describe}, expected {wanted}"
  | invalidValue found wanted => s!"invalid value: {found.describe}, expected {wanted}"
  | invalidLength length wanted => s!"invalid length {length}, expected {wanted}"
  | refused reason => reason

end Problem

structure Fault where
  problem : Problem
  offset : Option Nat
  deriving DecidableEq

/-- A fault that has no place yet is reported at `offset`. -/
def Fault.orAt (f : Fault) (offset : Option Nat) : Fault :=
  { f with offset := f.offset <|> offset }

/-- A place in a document: the line, and the bytes before it on that line. -/
structure Place where
  line : Nat
  column : Nat
  deriving DecidableEq

/-- The place of byte `offset`; `index` bytes stand before `cs`. -/
def placeFrom (offset index lineStart line : Nat) : List Char → Place
  | [] => ⟨line, offset - lineStart⟩
  | c :: cs =>
    if offset ≤ index then ⟨line, offset - lineStart⟩
    else
      let next := index + c.utf8Size
      if c = '\n' then placeFrom offset next next (line + 1) cs
      else placeFrom offset next lineStart line cs

def placeOf (text : String) (offset : Nat) : Place :=
  placeFrom offset 0 0 1 text.toList

end RuleLexer.Json
