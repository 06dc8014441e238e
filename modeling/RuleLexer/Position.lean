import RuleLexer.Source

/-!
# Positions

A position is a byte offset with the line and column it falls on, both counted from one and in
characters, and the bounds of that line. It is reached by stepping over the characters before it;
only a newline changes the line.
-/

namespace RuleLexer
open Text

/-- The offset of the first newline at or after `offset`, or the length of the text. -/
def lineEndFrom (text : List Char) (offset : Nat) : Nat :=
  match dropBytes offset text with
  | some rest => offset + byteLength (rest.takeWhile (· != '\n'))
  | none => byteLength text

structure Position where
  index : Nat
  line : Nat
  column : Nat
  lineStart : Nat
  lineEnd : Nat
  deriving DecidableEq

namespace Position

def start (text : List Char) : Position :=
  { index := 0, line := 1, column := 1, lineStart := 0, lineEnd := lineEndFrom text 0 }

/-- The position behind `c`, the character that stands here. -/
def advance (text : List Char) (p : Position) (c : Char) : Position :=
  let index := p.index + c.utf8Size
  if c = '\n' then
    { index, line := p.line + 1, column := 1, lineStart := index,
      lineEnd := lineEndFrom text index }
  else
    { p with index, column := p.column + 1 }

/-- The position behind all of `cs`. -/
def walk (text : List Char) (p : Position) (cs : List Char) : Position :=
  cs.foldl (advance text) p

@[simp] theorem walk_nil (text : List Char) (p : Position) : p.walk text [] = p := rfl

@[simp] theorem walk_cons (text : List Char) (p : Position) (c : Char) (cs : List Char) :
    p.walk text (c :: cs) = (p.advance text c).walk text cs := rfl

theorem walk_append (text : List Char) (p : Position) (as bs : List Char) :
    p.walk text (as ++ bs) = (p.walk text as).walk text bs := by
  simp [walk]

/-- The whole line this position is on. -/
def sourceLine? (p : Position) (s : Source) : Option String :=
  s.slice? p.lineStart p.lineEnd

def render (p : Position) : String := s!"{p.line}:{p.column}"

end Position

end RuleLexer
