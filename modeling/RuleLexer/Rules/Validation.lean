import RuleLexer.Rules.Basic

/-!
# Consistency of rules

Rules can contradict each other: a character may belong to two classes, a comment marker may be out
of reach, a number base may be ambiguous. `Rules.violation?` is the first contradiction in a fixed
order, and rules without one are valid. Each violation names the key it is found at.
-/

namespace RuleLexer
open Text

/-- The three sets of characters that must not overlap. -/
inductive CharClassKey where
  | whitespace
  | operator
  | delimiter
  deriving DecidableEq

def CharClassKey.name : CharClassKey → String
  | whitespace => "whitespace.chars"
  | operator => "operator.chars"
  | delimiter => "delimiter.chars"

inductive CommentFamily where
  | comment
  | document
  deriving DecidableEq

def CommentFamily.name : CommentFamily → String
  | comment => "comment"
  | document => "document"

/-- The markers that open a comment. -/
inductive MarkerKey where
  | line (family : CommentFamily)
  | blockBegin (family : CommentFamily)
  deriving DecidableEq

def MarkerKey.name : MarkerKey → String
  | line family => s!"{family.name}.line"
  | blockBegin family => s!"{family.name}.block.begin"

inductive Violation where
  | shadowing (key : CharClassKey) (c : Char)
  | overlap (key other : CharClassKey) (c : Char)
  | operatorLength
  | spelledWithOperators (text : String)
  | quoteTaken (quote : Char)
  | escapeIsQuote (escape : Char)
  | baseLetter (letter : Char)
  | baseTwice (letter : Char)
  | baseDigits (letter : Char)
  | baseMark (letter : Char)
  | separator (c : Char)
  | markerEmpty (key : MarkerKey)
  | markerForeign (key : MarkerKey) (c : Char)
  | markerLength (key : MarkerKey)
  | blockEndEmpty (family : CommentFamily)
  | wordLength
  | nameTwice (name : String)
  deriving DecidableEq

namespace Violation

def baseKey (letter : Char) : String := s!"number.bases.{letter}"

def key : Violation → String
  | shadowing key _ | overlap key _ _ => key.name
  | operatorLength => "operator.max_length"
  | spelledWithOperators _ => "operator.chars"
  | quoteTaken _ => "string.quotes"
  | escapeIsQuote _ => "string.escape"
  | baseLetter p | baseTwice p | baseDigits p | baseMark p => baseKey p
  | separator _ => "number.separator"
  | markerEmpty key | markerForeign key _ | markerLength key => key.name
  | blockEndEmpty family => s!"{family.name}.block.end"
  | wordLength => "word.max_length"
  | nameTwice _ => "tokens"

def reason : Violation → String
  | shadowing _ c => s!"'{c}' would shadow words or numbers"
  | overlap _ other c => s!"'{c}' also appears in {other.name}"
  | operatorLength | wordLength => "must be at least 1"
  | spelledWithOperators text => s!"must not be empty, token `{text}` is spelled with operators"
  | quoteTaken c => s!"quote '{c}' is already used by another character class"
  | escapeIsQuote c => s!"'{c}' is also a quote character"
  | baseLetter _ => "base prefix must be a letter"
  | baseTwice _ => "base prefix is defined twice ignoring case"
  | baseDigits _ => "digits must hold at least two distinct symbols"
  | baseMark _ => "digits may not contain '.' or the separator"
  | separator c => s!"'{c}' cannot separate digits"
  | markerEmpty _ | blockEndEmpty _ => "must not be empty"
  | markerForeign _ c => s!"'{c}' is not an operator character"
  | markerLength _ => "is longer than operator.max_length"
  | nameTwice name => s!"name `{name}` is given to more than one token"

def message (v : Violation) : String := s!"invalid configuration at `{v.key}`: {v.reason}"

end Violation

namespace Rules

def charClass (r : Rules) : CharClassKey → CharSet
  | .whitespace => r.whitespace.chars
  | .operator => r.operators.chars
  | .delimiter => r.delimiters.chars

/-- Looks at one set of characters and its overlaps with the sets behind it. -/
def charClassViolation? (r : Rules) (key : CharClassKey) (others : List CharClassKey) :
    Option Violation :=
  let chars := (r.charClass key).toList
  ((chars.find? isAlphanumeric).map (.shadowing key)) <|>
    others.findSome? fun other =>
      (chars.find? (r.charClass other).contains).map (.overlap key other)

def isDelimiterText (r : Rules) (text : String) : Bool :=
  match text.toList with
  | [c] => r.delimiters.chars.contains c
  | _ => false

def operatorViolation? (r : Rules) : Option Violation :=
  if r.operators.maxLength = 0 then some .operatorLength
  else if r.operators.chars.isEmpty then
    (r.tokens.keys.find? (!r.isDelimiterText ·)).map .spelledWithOperators
  else none

def classesViolation? (r : Rules) : Option Violation :=
  r.charClassViolation? .whitespace [.operator, .delimiter] <|>
    r.charClassViolation? .operator [.delimiter] <|>
    r.charClassViolation? .delimiter [] <|>
    r.operatorViolation?

def stringsViolation? (r : Rules) : Option Violation :=
  ((r.strings.quotes.keys.find? fun q => isAlphanumeric q || r.isBoundary q).map .quoteTaken) <|>
    r.strings.escape.bind fun e =>
      if r.strings.quotes.contains e then some (.escapeIsQuote e) else none

/-- The distinct symbols of a digit alphabet in lower case. -/
def lowerSymbols (b : NumberBase) : OrderedSet Char :=
  OrderedSet.ofList (b.digits.toList.flatMap lower)

/-- Looks at one base; `earlier` are the letters of the bases before it. -/
def baseViolation? (r : Rules) (earlier : List Char) (letter : Char) (b : NumberBase) :
    Option Violation :=
  let symbols := (lowerSymbols b).size
  if !isAlphabetic letter then some (.baseLetter letter)
  else if earlier.any (sameLetter · letter) then some (.baseTwice letter)
  else if symbols < 2 ∨ symbols ≠ b.digits.toList.length then some (.baseDigits letter)
  else if b.digits.toList.contains '.' || r.numbers.separator.any b.accepts then
    some (.baseMark letter)
  else none

def basesViolation? (r : Rules) (earlier : List Char) : List (Char × NumberBase) → Option Violation
  | [] => none
  | (letter, b) :: rest =>
    r.baseViolation? earlier letter b <|> r.basesViolation? (letter :: earlier) rest

def numbersViolation? (r : Rules) : Option Violation :=
  r.basesViolation? [] r.numbers.bases.entries <|>
    r.numbers.separator.bind fun c =>
      if c.isDigit ∨ c = '.' then some (.separator c) else none

/-- A marker is found among the runs of operator characters, so it has to be such a run. -/
def markerViolation? (r : Rules) (key : MarkerKey) (marker : String) : Option Violation :=
  if marker.toList.isEmpty then some (.markerEmpty key)
  else
    match marker.toList.find? (!r.operators.chars.contains ·) with
    | some c => some (.markerForeign key c)
    | none =>
      if r.operators.maxLength < marker.toList.length then some (.markerLength key) else none

def commentRules (r : Rules) : CommentFamily → CommentRules
  | .comment => r.comments
  | .document => r.documentation

def familyViolation? (r : Rules) (family : CommentFamily) : Option Violation :=
  let c := r.commentRules family
  (c.line.bind (r.markerViolation? (.line family))) <|>
    c.block.bind fun b =>
      r.markerViolation? (.blockBegin family) b.opening <|>
        if b.closing.toList.isEmpty then some (.blockEndEmpty family) else none

def wordsViolation? (r : Rules) : Option Violation :=
  if r.words.maxLength = 0 then some .wordLength else none

/-- The first name that stands in `seen` or earlier in the list. -/
def firstRepeated? (seen : List String) : List String → Option String
  | [] => none
  | n :: rest => if seen.contains n then some n else firstRepeated? (n :: seen) rest

def tokensViolation? (r : Rules) : Option Violation :=
  (firstRepeated? [] r.tokens.values).map .nameTwice

/-- The first contradiction among the rules. -/
def violation? (r : Rules) : Option Violation :=
  r.classesViolation? <|> r.stringsViolation? <|> r.numbersViolation? <|>
    r.familyViolation? .comment <|> r.familyViolation? .document <|>
    r.wordsViolation? <|> r.tokensViolation?

def validate (r : Rules) : Except Violation Unit :=
  match r.violation? with
  | some v => .error v
  | none => .ok ()

end Rules

end RuleLexer
