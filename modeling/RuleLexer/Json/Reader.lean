import RuleLexer.Json.Scalar
import RuleLexer.Json.Tree

/-!
# Reading a document

`readTree` reads a text into a `Tree`. Each part of the reader hands back a cursor that stands
further on than the one it was given, which is why reading ends. A document may nest 127 containers.
-/

namespace RuleLexer.Json
open Text

/-- A place in a text: what is left of it, and how many bytes are behind. -/
structure Cursor where
  rest : List Char
  offset : Nat

def isBlank (c : Char) : Bool := c == ' ' || c == '\n' || c == '\t' || c == '\r'

namespace Cursor

/-- The cursor behind the first `n` characters. -/
def skip (c : Cursor) (n : Nat) : Cursor :=
  ⟨c.rest.drop n, c.offset + byteLength (c.rest.take n)⟩

/-- The cursor at the first character that is no blank. -/
def skipBlanks (c : Cursor) : Cursor :=
  c.skip (c.rest.takeWhile isBlank).length

/-- A fault at the character under the cursor. -/
def fault (c : Cursor) (problem : Problem) : Fault :=
  .at problem (if c.rest.isEmpty then c.offset else c.offset + 1)

/-- Where reading stands when a container that ends with `close` is left here. -/
def leaving (c : Cursor) (close : Char) : Nat :=
  if c.rest.head? = some close then c.offset + 1 else c.offset

theorem length_skip_le (c : Cursor) (n : Nat) : (c.skip n).rest.length ≤ c.rest.length := by
  simp [skip]

theorem length_skip_lt {c : Cursor} {n : Nat} (hc : c.rest ≠ []) (hn : 0 < n) :
    (c.skip n).rest.length < c.rest.length := by
  have := List.length_pos_iff.2 hc
  simp only [skip, List.length_drop]
  omega

theorem length_skipBlanks_le (c : Cursor) : c.skipBlanks.rest.length ≤ c.rest.length :=
  c.length_skip_le _

end Cursor

/-- A cursor that stands further on than `c`. -/
def Beyond (c : Cursor) := { d : Cursor // d.rest.length < c.rest.length }

/-- Whether a list may end behind an element; `c` stands at what follows the element. -/
def surplusAt (c : Cursor) : Option Fault :=
  match c.rest with
  | [] => some (c.fault .endInList)
  | ']' :: _ => none
  | ',' :: _ =>
    let d := (c.skip 1).skipBlanks
    match d.rest with
    | ']' :: _ => some (d.fault .trailingComma)
    | _ => some (d.fault .trailingCharacters)
  | _ => some (c.fault .trailingCharacters)

/-- Where reading stands when a list is left at `c`, behind an element. -/
def leavingList (c : Cursor) : Nat :=
  match c.rest with
  | ']' :: _ => c.offset + 1
  | ',' :: _ => (c.skip 1).skipBlanks.offset
  | _ => c.offset

mutual

/-- Reads the value at `c`, where no blank stands; at most `depth` containers may nest in it. -/
def readValue (depth : Nat) (c : Cursor) : Tree × Option (Beyond c) :=
  match hc : c.rest with
  | [] => (.broken (c.fault .endInValue), none)
  | ch :: rest =>
    have inner : (c.skip 1).skipBlanks.rest.length < c.rest.length :=
      Nat.lt_of_le_of_lt (Cursor.length_skipBlanks_le _)
        (Cursor.length_skip_lt (by simp [hc]) Nat.one_pos)
    if ch = '[' then
      if depth = 0 then (.broken (c.fault .tooDeep), none)
      else
        let d := (c.skip 1).skipBlanks
        match d.rest with
        | [] => (.list c.offset [] (.error (d.fault .endInList)), none)
        | ']' :: _ => (.list c.offset [] (.ok (some (d.offset + 1))),
            some ⟨d.skip 1, Nat.lt_of_le_of_lt (d.length_skip_le 1) inner⟩)
        | _ =>
          let (elements, ending) := readElements (depth - 1) d
          match ending with
          | .error f => (.list c.offset elements (.error f), none)
          | .ok after => (.list c.offset elements (.ok (some after.1.offset)),
              some ⟨after.1, Nat.lt_trans after.2 inner⟩)
    else if ch = '{' then
      if depth = 0 then (.broken (c.fault .tooDeep), none)
      else
        let d := (c.skip 1).skipBlanks
        match d.rest with
        | [] => (.object c.offset [] (.error (d.fault .endInObject)), none)
        | '}' :: _ => (.object c.offset [] (.ok (some (d.offset + 1))),
            some ⟨d.skip 1, Nat.lt_of_le_of_lt (d.length_skip_le 1) inner⟩)
        | '"' :: _ =>
          let (members, ending) := readMembers (depth - 1) d
          match ending with
          | .error f => (.object c.offset members (.error f), none)
          | .ok after => (.object c.offset members (.ok (some after.1.offset)),
              some ⟨after.1, Nat.lt_trans after.2 inner⟩)
        | _ => (.object c.offset [] (.error (d.fault .keyMustBeString)), none)
    else
      match readScalar c.offset ch rest with
      | .error f => (.broken f, none)
      | .ok (s, read) =>
        let d := c.skip (max 1 read)
        (.scalar s (some d.offset), some ⟨d, Cursor.length_skip_lt (by simp [hc]) (by omega)⟩)
termination_by 2 * c.rest.length
decreasing_by all_goals omega

/-- Reads the elements of a list from the one at `c` to the closing bracket. -/
def readElements (depth : Nat) (c : Cursor) :
    List (Element Tree) × Except Fault (Beyond c) :=
  match readValue depth c with
  | (value, none) => ([⟨value, none, none⟩], .error (c.fault .endInList))
  | (value, some behind) =>
    let d := behind.1.skipBlanks
    have hd : d.rest.length < c.rest.length :=
      Nat.lt_of_le_of_lt (Cursor.length_skipBlanks_le _) behind.2
    let element : Element Tree := ⟨value, some (leavingList d), surplusAt d⟩
    match d.rest with
    | [] => ([element], .error (d.fault .endInList))
    | ']' :: _ => ([element], .ok ⟨d.skip 1, Nat.lt_of_le_of_lt (d.length_skip_le 1) hd⟩)
    | ',' :: _ =>
      let e := (d.skip 1).skipBlanks
      have he : e.rest.length < c.rest.length :=
        Nat.lt_of_le_of_lt (Nat.le_trans (Cursor.length_skipBlanks_le _) (d.length_skip_le 1)) hd
      match e.rest with
      | [] => ([element], .error (e.fault .endInValue))
      | ']' :: _ => ([element], .error (e.fault .trailingComma))
      | _ =>
        let (elements, ending) := readElements depth e
        (element :: elements, ending.map fun after => ⟨after.1, Nat.lt_trans after.2 he⟩)
    | _ => ([element], .error (d.fault .expectedListComma))
termination_by 2 * c.rest.length + 1
decreasing_by all_goals grind

/-- Reads the members of an object from the one whose key starts at `c` to the closing brace. -/
def readMembers (depth : Nat) (c : Cursor) : List (Member Tree) × Except Fault (Beyond c) :=
  match hc : c.rest with
  | [] => ([], .error (c.fault .endInObject))
  | _ :: rest =>
    match readString (c.offset + 1) 1 [] .plain rest with
    | .error f => ([], .error f)
    | .ok (key, read) =>
      let d := (c.skip (max 1 read)).skipBlanks
      have hd : d.rest.length < c.rest.length :=
        Nat.lt_of_le_of_lt (Cursor.length_skipBlanks_le _)
          (Cursor.length_skip_lt (by simp [hc]) (by omega))
      let afterKey := d.leaving '}'
      match d.rest with
      | [] => ([⟨key, afterKey, .broken (d.fault .endInObject), none⟩],
          .error (d.fault .endInObject))
      | ':' :: _ =>
        let v := (d.skip 1).skipBlanks
        have hv : v.rest.length < c.rest.length :=
          Nat.lt_of_le_of_lt (Nat.le_trans (Cursor.length_skipBlanks_le _) (d.length_skip_le 1)) hd
        match readValue depth v with
        | (value, none) => ([⟨key, afterKey, value, none⟩], .error (v.fault .endInObject))
        | (value, some behind) =>
          let e := behind.1.skipBlanks
          have he : e.rest.length < c.rest.length :=
            Nat.lt_trans (Nat.lt_of_le_of_lt (Cursor.length_skipBlanks_le _) behind.2) hv
          let member : Member Tree := ⟨key, afterKey, value, e.leaving '}'⟩
          match e.rest with
          | [] => ([member], .error (e.fault .endInObject))
          | '}' :: _ => ([member], .ok ⟨e.skip 1, Nat.lt_of_le_of_lt (e.length_skip_le 1) he⟩)
          | ',' :: _ =>
            let k := (e.skip 1).skipBlanks
            have hk : k.rest.length < c.rest.length :=
              Nat.lt_of_le_of_lt
                (Nat.le_trans (Cursor.length_skipBlanks_le _) (e.length_skip_le 1)) he
            match k.rest with
            | [] => ([member], .error (k.fault .endInValue))
            | '"' :: _ =>
              let (members, ending) := readMembers depth k
              (member :: members, ending.map fun after => ⟨after.1, Nat.lt_trans after.2 hk⟩)
            | '}' :: _ => ([member], .error (k.fault .trailingComma))
            | _ => ([member], .error (k.fault .keyMustBeString))
          | _ => ([member], .error (e.fault .expectedObjectComma))
      | _ => ([⟨key, afterKey, .broken (d.fault .expectedColon), none⟩],
          .error (d.fault .expectedColon))
termination_by 2 * c.rest.length + 1
decreasing_by all_goals grind

end

/-- A whole text: the document in it, and what is wrong with the text behind the document. -/
structure Document where
  tree : Tree
  trailing : Option Fault

def maxDepth : Nat := 127

/-- The document in the characters of a text. -/
def readCharacters (cs : List Char) : Document :=
  let start := (Cursor.mk cs 0).skipBlanks
  match readValue maxDepth start with
  | (tree, none) => ⟨tree, none⟩
  | (tree, some behind) =>
    let d := behind.1.skipBlanks
    ⟨tree, if d.rest.isEmpty then none else some (d.fault .trailingCharacters)⟩

def readDocument (text : String) : Document := readCharacters text.toList

/-- The value a text denotes, if it is JSON. -/
def parse (text : String) : Except Fault Json := do
  let document := readDocument text
  let value ← document.tree.toJson
  match document.trailing with
  | some f => .error f
  | none => return value

end RuleLexer.Json
