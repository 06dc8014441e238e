import RuleLexer.Rules.Basic
import RuleLexer.Token

/-!
# Token streams

A stream is a cursor over the tokens of one source. Past the last token it either asks the
end-of-tokens handler for a substitute or fails. A token that is not the expected one is reported
to the handler for unexpected tokens, which acts on a state that the stream carries, or is an error
when there is no such handler. The cursor moves only past tokens that are taken.

A stream, its tokens and their substitutes are of one source. A token holds the range of its text
and not the source, so its text is read from the source of the stream.

`TokenStream.step` performs one operation given as a value, and `TokenStream.run` a list of them.
-/

namespace RuleLexer
open Text

/-- The part of a token that is compared. -/
inductive MatchCategory where
  | value
  | kind
  | subkind
  deriving DecidableEq

namespace MatchCategory

def name : MatchCategory → String
  | value => "value"
  | kind => "kind"
  | subkind => "subkind"

def field (s : Source) (t : Token) : MatchCategory → String
  | value => t.value s
  | kind => t.kind
  | subkind => t.subkind

end MatchCategory

inductive StreamError where
  | endOfTokens (sourceName : String)
  | unexpectedToken (category : MatchCategory) (expected : List String) (found : String)
      (position : Position)
  deriving DecidableEq

def StreamError.message : StreamError → String
  | endOfTokens name => s!"unexpected end of tokens in {name}"
  | unexpectedToken category expected found p =>
    let wanted := " or ".intercalate expected
    s!"unexpected token {category.name} {quoteString found} at line {p.line}, " ++
      s!"column {p.column}, expected {wanted}"

/-- What the handler for unexpected tokens is told. -/
structure Unexpected where
  source : Source
  token : Token
  expected : List String
  category : MatchCategory
  found : String
  deriving DecidableEq

/-- Indices into lists of tokens are words of 64 bits. -/
def indexLimit : Nat := 0x10000000000000000

/-- The sum of two indices, when that is an index. -/
def addIndex? (i j : Nat) : Option Nat := if i + j < indexLimit then some (i + j) else none

structure TokenStream (σ : Type) where
  source : Source
  tokens : List Token
  index : Nat
  subkindDelimiter : Option String
  onUnexpected : Option (Unexpected → σ → σ)
  onEndOfTokens : Option (Source → Token)
  /-- What the handler for unexpected tokens has made of its calls. -/
  state : σ

namespace TokenStream
variable {σ : Type}

/-- A stream at its first token, without handlers. -/
def new (source : Source) (tokens : List Token) (state : σ) : TokenStream σ :=
  ⟨source, tokens, 0, none, none, none, state⟩

/-- A stream that joins kind and subkind as the rules say. -/
def withRules (source : Source) (tokens : List Token) (rules : Rules) (state : σ) :
    TokenStream σ :=
  { new source tokens state with subkindDelimiter := rules.subkindDelimiter }

def withSubkindDelimiter (s : TokenStream σ) (delimiter : String) : TokenStream σ :=
  { s with subkindDelimiter := some delimiter }

def withUnexpectedHandler (s : TokenStream σ) (handler : Unexpected → σ → σ) : TokenStream σ :=
  { s with onUnexpected := some handler }

def withEndOfTokensHandler (s : TokenStream σ) (handler : Source → Token) : TokenStream σ :=
  { s with onEndOfTokens := some handler }

def size (s : TokenStream σ) : Nat := s.tokens.length

def isEmpty (s : TokenStream σ) : Bool := s.tokens.isEmpty

/-- Whether the cursor is past the last token. -/
def atEnd (s : TokenStream σ) : Bool := s.size ≤ s.index

/-- The token under the cursor, or the substitute past the end. -/
def current (s : TokenStream σ) : Except StreamError Token :=
  match s.tokens[s.index]? with
  | some t => .ok t
  | none =>
    match s.onEndOfTokens with
    | some handler => .ok (handler s.source)
    | none => .error (.endOfTokens s.source.name)

/-- The token `offset` places behind the cursor. The sum of the two has to be an index. -/
def peek? (s : TokenStream σ) (offset : Nat) : Option Token :=
  (addIndex? s.index offset).bind fun i => s.tokens[i]?

def advance (s : TokenStream σ) : TokenStream σ :=
  if s.index < s.size then { s with index := s.index + 1 } else s

/-- The current token; the cursor moves past it. -/
def next (s : TokenStream σ) : Except StreamError Token × TokenStream σ :=
  match s.current with
  | .ok t => (.ok t, s.advance)
  | .error e => (.error e, s)

/-- Whether the compared part of the current token is among the expected ones. -/
def is (s : TokenStream σ) (category : MatchCategory) (expected : List String) : Bool :=
  match s.current with
  | .ok t => expected.contains (category.field s.source t)
  | .error _ => false

/-- Takes the current token if it is one of the expected. -/
def accept (s : TokenStream σ) (category : MatchCategory) (expected : List String) :
    Bool × TokenStream σ :=
  if s.is category expected then (true, s.advance) else (false, s)

/-- Takes the current token if it is one of the expected, and else reports it or fails. -/
def expect (s : TokenStream σ) (category : MatchCategory) (expected : List String) :
    Except StreamError Bool × TokenStream σ :=
  match s.current with
  | .error e => (.error e, s)
  | .ok t =>
    let found := category.field s.source t
    if expected.contains found then (.ok true, s.advance)
    else
      match s.onUnexpected with
      | some handler =>
        (.ok false, { s with state := handler ⟨s.source, t, expected, category, found⟩ s.state })
      | none => (.error (.unexpectedToken category expected found t.location), s)

def location (s : TokenStream σ) : Except StreamError Position := s.current.map (·.location)

def value (s : TokenStream σ) : Except StreamError String := s.current.map (·.value s.source)

/-- The kind of the current token, joined to its subkind by the delimiter of the stream. -/
def compositeKind (s : TokenStream σ) : Except StreamError String :=
  s.current.map (·.label s.subkindDelimiter)

def describe (s : TokenStream σ) : String :=
  let delimiter :=
    match s.subkindDelimiter with
    | some d => s!"Some({quoteString d})"
    | none => "None"
  s!"TokenStream \x7b source: {quoteString s.source.name}, index: {s.index}, len: {s.size}, " ++
    s!"subkind_delimiter: {delimiter}, .. \x7d"

/-! ## Operations as values -/

inductive Op where
  | current
  | next
  | peek (offset : Nat)
  | location
  | value
  | compositeKind
  | advance
  | size
  | isEmpty
  | source
  | describe
  | is (category : MatchCategory) (expected : List String)
  | accept (category : MatchCategory) (expected : List String)
  | expect (category : MatchCategory) (expected : List String)
  deriving DecidableEq

inductive Answer where
  | done
  | token (t : Token)
  | noToken
  | position (p : Position)
  | text (s : String)
  | count (n : Nat)
  | truth (b : Bool)
  | failed (e : StreamError)
  deriving DecidableEq

def Answer.ofResult {α : Type} (f : α → Answer) : Except StreamError α → Answer
  | .ok a => f a
  | .error e => .failed e

def step (s : TokenStream σ) : Op → Answer × TokenStream σ
  | .current => (.ofResult .token s.current, s)
  | .next => (.ofResult .token s.next.1, s.next.2)
  | .peek offset => ((s.peek? offset).elim .noToken .token, s)
  | .location => (.ofResult .position s.location, s)
  | .value => (.ofResult .text s.value, s)
  | .compositeKind => (.ofResult .text s.compositeKind, s)
  | .advance => (.done, s.advance)
  | .size => (.count s.size, s)
  | .isEmpty => (.truth s.isEmpty, s)
  | .source => (.text s.source.render, s)
  | .describe => (.text s.describe, s)
  | .is category expected => (.truth (s.is category expected), s)
  | .accept category expected =>
    let (taken, s') := s.accept category expected
    (.truth taken, s')
  | .expect category expected =>
    let (result, s') := s.expect category expected
    (.ofResult .truth result, s')

def run (s : TokenStream σ) : List Op → List Answer × TokenStream σ
  | [] => ([], s)
  | op :: ops =>
    let (answer, s') := s.step op
    let (answers, last) := s'.run ops
    (answer :: answers, last)

end TokenStream

end RuleLexer
