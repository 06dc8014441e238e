import RuleLexer.Scan.Numbers
import RuleLexer.Scan.Operators
import RuleLexer.Scan.Strings
import RuleLexer.Scan.Words

/-!
# From text to tokens

The first character of a lexeme decides which scanner takes it. The classes are tried in the order
of `CharClass.precedence`, and a character in none of them is an error. Every lexeme takes at least
one character, so scanning ends with the text, and the tokens end with one for the end of the text.
-/

namespace RuleLexer
open Text

/-- What a character can start. -/
inductive CharClass where
  | whitespace
  | quote
  | digit
  | delimiter
  | operator
  | letter
  deriving DecidableEq

def CharClass.precedence : List CharClass :=
  [.whitespace, .quote, .digit, .delimiter, .operator, .letter]

namespace Rules

def belongs (r : Rules) (c : Char) : CharClass → Bool
  | .whitespace => r.whitespace.chars.contains c
  | .quote => r.strings.quotes.contains c
  | .digit => c.isDigit
  | .delimiter => r.delimiters.chars.contains c
  | .operator => r.operators.chars.contains c
  | .letter => isAlphabetic c

def whitespaceLexeme (r : Rules) (c : Char) (cs : List Char) : Lexeme :=
  runLexeme r.whitespace.chars.contains c cs
    (if r.whitespace.keep then some ⟨r.kinds.whitespace, "", 10, ""⟩ else none)

def delimiterLexeme (r : Rules) (c : Char) (cs : List Char) : Lexeme :=
  let subkind := (r.tokenName? (String.ofList [c])).getD ""
  ⟨[c], cs, some ⟨r.kinds.delimiter, subkind, 10, ""⟩⟩

/-- The lexeme that starts with `c`, a character of the given class. -/
def lexemeOf (r : Rules) (c : Char) (cs : List Char) : CharClass → Except Failure Lexeme
  | .whitespace => .ok (r.whitespaceLexeme c cs)
  | .quote => r.stringLexeme c cs
  | .digit => r.numberLexeme (c :: cs)
  | .delimiter => .ok (r.delimiterLexeme c cs)
  | .operator => r.operatorLexeme c cs
  | .letter => r.wordLexeme c cs

/-- The lexeme that starts with `c`, when classes are tried in the given order. -/
def lexeme (r : Rules) (order : List CharClass) (c : Char) (cs : List Char) :
    Except Failure Lexeme :=
  match order.find? (r.belongs c) with
  | some cls => r.lexemeOf c cs cls
  | none => .error ⟨.unexpectedCharacter, [], some c, none⟩

theorem lexemeOf_splits {r : Rules} {c : Char} {cs : List Char} {cls : CharClass} {l : Lexeme}
    (hc : r.belongs c cls = true) (h : r.lexemeOf c cs cls = .ok l) : l.Splits (c :: cs) := by
  cases cls with
  | whitespace =>
    cases h
    exact runLexeme_splits ..
  | quote => exact stringLexeme_splits h
  | digit => exact numberLexeme_splits hc h
  | delimiter =>
    cases h
    exact ⟨rfl, List.cons_ne_nil _ _⟩
  | operator => exact operatorLexeme_splits h
  | letter => exact wordLexeme_splits h

theorem lexeme_splits {r : Rules} {order : List CharClass} {c : Char} {cs : List Char} {l : Lexeme}
    (h : r.lexeme order c cs = .ok l) : l.Splits (c :: cs) := by
  rw [lexeme] at h
  split at h
  · next cls hcls => exact lexemeOf_splits (List.find?_some hcls) h
  · cases h

/-- The tokens of `cs`, which stands at `p` in `text`. -/
def tokensFrom (r : Rules) (order : List CharClass) (text : List Char) (p : Position)
    (cs : List Char) : Except LexError (List Token) :=
  match cs with
  | [] =>
    let stop := byteLength text
    .ok [{ kind := r.kinds.eof, start := stop, stop := stop, location := p }]
  | c :: rest =>
    match h : r.lexeme order c rest with
    | .error f => .error (f.toError text p)
    | .ok l =>
      have := (lexeme_splits h).length_rest_lt
      (r.tokensFrom order text (p.walk text l.taken) l.rest).map ((l.token? p).toList ++ ·)
termination_by cs.length
decreasing_by exact this

/-- The tokens of a text, when classes are tried in the given order. -/
def tokensIn (r : Rules) (order : List CharClass) (text : List Char) :
    Except LexError (List Token) :=
  r.tokensFrom order text (.start text) text

/-- The tokens of a source, or the first error. -/
def tokenize (r : Rules) (s : Source) : Except LexError (List Token) :=
  match s.text? with
  | some text => r.tokensIn CharClass.precedence text.toList
  | none => .error ⟨.sourceNotLoaded, none, .start [], none⟩

end Rules

end RuleLexer
