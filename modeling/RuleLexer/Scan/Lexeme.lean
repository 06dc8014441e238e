import RuleLexer.Scan.Error
import RuleLexer.Token

/-!
# Lexemes

A scanner looks at the text from some place on and either takes a lexeme off its head or fails.
Neither outcome knows the position: a lexeme consists of the characters it takes and those it
leaves, and a failure counts from the start of the lexeme. A scanner `Splits` its text when it
loses nothing and takes at least one character.
-/

namespace RuleLexer

/-- What a token says beyond its place. -/
structure Label where
  kind : String
  subkind : String
  base : Nat := 10
  suffix : String := ""
  deriving DecidableEq

structure Lexeme where
  taken : List Char
  rest : List Char
  /-- None for a lexeme that yields no token. -/
  label : Option Label
  deriving DecidableEq

structure Failure where
  kind : LexError.Kind
  /-- The characters of the lexeme before the place of the failure. -/
  before : List Char
  ch : Option Char
  hint : Option String
  deriving DecidableEq

/-- The failure seen from one character earlier. -/
def Failure.behind (c : Char) (f : Failure) : Failure := { f with before := c :: f.before }

/-- The error of a lexeme that starts at `p`. -/
def Failure.toError (f : Failure) (text : List Char) (p : Position) : LexError :=
  ⟨f.kind, f.ch, p.walk text f.before, f.hint⟩

namespace Lexeme

def Splits (l : Lexeme) (cs : List Char) : Prop := l.taken ++ l.rest = cs ∧ l.taken ≠ []

theorem Splits.length_rest_lt {l : Lexeme} {cs : List Char} (h : l.Splits cs) :
    l.rest.length < cs.length := by
  have := List.length_pos_iff.2 h.2
  simp only [← h.1, List.length_append]
  omega

/-- The token of a lexeme that starts at `p`. -/
def token? (l : Lexeme) (p : Position) : Option Token :=
  l.label.map fun label => {
    kind := label.kind, subkind := label.subkind
    start := p.index, stop := p.index + Text.byteLength l.taken
    location := p, base := label.base, suffix := label.suffix }

end Lexeme

/-- The lexeme of `c` and the characters behind it that satisfy `p`. -/
def runLexeme (p : Char → Bool) (c : Char) (cs : List Char) (label : Option Label) : Lexeme :=
  ⟨c :: cs.takeWhile p, cs.dropWhile p, label⟩

theorem runLexeme_splits (p : Char → Bool) (c : Char) (cs : List Char) (label : Option Label) :
    (runLexeme p c cs label).Splits (c :: cs) := by
  simp [runLexeme, Lexeme.Splits, List.takeWhile_append_dropWhile]

end RuleLexer
