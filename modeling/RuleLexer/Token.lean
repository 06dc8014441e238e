import RuleLexer.Position
import RuleLexer.Text.Quoted

/-!
# Tokens

A token names a stretch of a source: its kind, a finer subkind that may be empty, and the byte range
it covers. Numbers also carry their base and the suffix of letters behind their digits. A token does
not hold its source: its text is read back from the source that it was found in, which is the same
one for all tokens of a text and of a stream.
-/

namespace RuleLexer
open Text

structure Token where
  kind : String
  subkind : String := ""
  start : Nat
  stop : Nat
  location : Position
  base : Nat := 10
  suffix : String := ""
  deriving DecidableEq

namespace Token

/-- The text covered by the token, empty when its range is no slice of the source. -/
def value (t : Token) (s : Source) : String :=
  (s.slice? t.start t.stop).getD ""

def isEmpty (t : Token) : Bool := t.stop ≤ t.start

/-- The kind, joined to the subkind when a delimiter is given and the subkind adds something. -/
def label (t : Token) (delimiter : Option String) : String :=
  match delimiter with
  | some d => if t.subkind = "" ∨ t.subkind = t.kind then t.kind else t.kind ++ d ++ t.subkind
  | none => t.kind

def render (t : Token) (s : Source) : String :=
  s!"[ {t.kind} {t.subkind} {quoteString (t.value s)} {t.location.render} ]"

/-- All that the token holds, field by field. -/
def describe (t : Token) (s : Source) : String :=
  let p := t.location
  let location := s!"SourcePosition \x7b index: {p.index}, line: {p.line}, column: {p.column}, " ++
    s!"line_start: {p.lineStart}, line_end: {p.lineEnd} \x7d"
  s!"Token \x7b source: {quoteString s.name}, location: {location}, kind: {quoteString t.kind}, " ++
    s!"subkind: {quoteString t.subkind}, value: {quoteString (t.value s)}, base: {t.base}, " ++
    s!"suffix: {quoteString t.suffix} \x7d"

end Token

end RuleLexer
