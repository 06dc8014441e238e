import RuleLexer.Files.ReadError
import RuleLexer.Rules.Decoding
import RuleLexer.Rules.Validation

/-!
# Loading rules

Rules are loaded from a text, from a reader of bytes, from a JSON value or from a file, and are
checked to be consistent. The same fault may be placed differently in a text, where its offset is
known, and by a reader, which counts lines and columns as the bytes come in.
-/

namespace RuleLexer

/-- The place of a fault in the text that it is found in. -/
def Json.Fault.placeIn (f : Json.Fault) (text : String) : Option Json.Place :=
  f.offset.map (Json.placeOf text)

/-- A reader hands out bytes piece by piece; all pieces together spell a text. -/
structure Reader where
  pieces : List ByteArray
  spells : (pieces.foldl (· ++ ·) ByteArray.empty).IsValidUTF8
  /-- Where the reader has counted a fault to be. -/
  place : Json.Fault → Option Json.Place

namespace Reader

def bytes (r : Reader) : ByteArray := r.pieces.foldl (· ++ ·) ByteArray.empty

/-- The text of a reader that is read to its end. -/
def text (r : Reader) : String := .ofByteArray r.bytes r.spells

/-- The reader that hands out a text in one piece and places faults as they are in the text. -/
def ofText (text : String) : Reader where
  pieces := [text.toUTF8]
  spells := by simpa using text.isValidUTF8
  place := (·.placeIn text)

theorem text_eq {r : Reader} {text : String} (h : r.bytes = text.toUTF8) : r.text = text :=
  String.toByteArray_inj.1 h

end Reader

inductive LoadError where
  | unreadable (path : String) (cause : ReadError)
  | malformed (problem : Json.Problem) (place : Option Json.Place)
  | invalid (violation : Violation)
  deriving DecidableEq

namespace LoadError

def message : LoadError → String
  | unreadable path cause => s!"cannot read configuration {path}: {cause.message}"
  | malformed problem none => s!"malformed configuration: {problem.message}"
  | malformed problem (some p) =>
    s!"malformed configuration: {problem.message} at line {p.line} column {p.column}"
  | invalid v => v.message

/-- The error without the place of a fault in the text. -/
def withoutPlace : LoadError → LoadError
  | malformed problem _ => malformed problem none
  | e => e

end LoadError

namespace Rules

def checked (r : Rules) : Except LoadError Rules :=
  match r.validate with
  | .error v => .error (.invalid v)
  | .ok () => .ok r

/-- Reads rules out of a JSON text without checking them. -/
def parse (text : String) : Except Json.Fault Rules := do
  let document := Json.readDocument text
  let rules ← Rules.decode document.tree
  match document.trailing with
  | some f => throw f
  | none => return rules

/-- Reads and checks rules, where `place` tells the places of faults. -/
def load (place : Json.Fault → Option Json.Place) (text : String) : Except LoadError Rules :=
  match parse text with
  | .error f => .error (.malformed f.problem (place f))
  | .ok r => r.checked

def ofText (text : String) : Except LoadError Rules := load (·.placeIn text) text

def ofReader (reader : Reader) : Except LoadError Rules := load reader.place reader.text

/-- Reads rules out of a JSON value without checking them. -/
def ofJsonUnchecked (j : Json) : Except LoadError Rules :=
  (Rules.decode j.toTree).mapError fun f => .malformed f.problem none

def ofJson (j : Json) : Except LoadError Rules :=
  (ofJsonUnchecked j).bind checked

def ofFile (files : FileSystem) (path : String) : Except LoadError Rules :=
  match files path with
  | .error cause => .error (.unreadable path cause)
  | .ok text => ofText text

end Rules

end RuleLexer
