import RuleLexer.Text.Bytes

/-!
# Sources

A source is a named text. A source that is not loaded has a name only, and every access to its text
gives nothing. Offsets count bytes.
-/

namespace RuleLexer

structure Source where
  name : String
  text? : Option String
  deriving DecidableEq

namespace Source
open Text

def loaded (name text : String) : Source := ⟨name, some text⟩

def unloaded (name : String) : Source := ⟨name, none⟩

def isLoaded (s : Source) : Bool := s.text?.isSome

/-- The characters of the text, none when the source is not loaded. -/
def chars (s : Source) : List Char :=
  match s.text? with
  | some text => text.toList
  | none => []

def size (s : Source) : Nat := byteLength s.chars

def isEmpty (s : Source) : Bool := s.size == 0

/-- The character that starts at byte `index`. -/
def get? (s : Source) (index : Nat) : Option Char := do
  let text ← s.text?
  let rest ← dropBytes index text.toList
  rest.head?

/-- The text from byte `start` up to byte `stop`, when both fall between characters. -/
def slice? (s : Source) (start stop : Nat) : Option String := do
  let text ← s.text?
  let part ← sliceBytes start stop text.toList
  return String.ofList part

def render (s : Source) : String :=
  s!"[ '{s.name}' | {s.chars.length} characters ]"

/-- The text of a file without the byte order mark it may start with. -/
def withoutByteOrderMark (text : String) : String :=
  match text.toList with
  | '\uFEFF' :: rest => String.ofList rest
  | _ => text

end Source

end RuleLexer
