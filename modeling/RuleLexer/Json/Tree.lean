import RuleLexer.Json.Fault

/-!
# Documents as they are met

A `Tree` is a document in the order in which it is read, together with the places at which faults
are reported. Where reading cannot go on, the tree holds the fault in place of the missing part, so
a consumer that finds fault with something earlier never gets to see it.

`Tree.toJson` is the value of a whole tree: of members with one key the last counts. `Json.toTree`
is a tree without places, whose members stand in the order of their keys.
-/

namespace RuleLexer.Json

/-- An element of a list. -/
structure Element (α : Type) where
  value : α
  /-- Where reading stands when the list is left behind this element. -/
  after : Option Nat
  /-- Why the list does not end with this element, if it does not. -/
  surplus : Option Fault

/-- A member of an object. -/
structure Member (α : Type) where
  key : String
  /-- Where reading stands when the object is left behind the key. -/
  afterKey : Option Nat
  value : α
  /-- Where reading stands when the object is left behind the value. -/
  after : Option Nat

inductive Tree where
  | scalar (value : Scalar) (stop : Option Nat)
  | list (start : Option Nat) (elements : List (Element Tree)) (ending : Except Fault (Option Nat))
  | object (start : Option Nat) (members : List (Member Tree)) (ending : Except Fault (Option Nat))
  | broken (fault : Fault)

namespace Tree

mutual

def toJson : Tree → Except Fault Json
  | .scalar s _ => .ok (.scalar s)
  | .list _ elements ending => do
    let items ← itemsToJson elements
    let _ ← ending
    return .list items
  | .object _ members ending => do
    let entries ← entriesToJson members
    let _ ← ending
    return .ofMembers entries
  | .broken fault => .error fault

def itemsToJson : List (Element Tree) → Except Fault (List Json)
  | [] => .ok []
  | ⟨value, _, _⟩ :: rest => do
    let j ← value.toJson
    let js ← itemsToJson rest
    return j :: js

def entriesToJson : List (Member Tree) → Except Fault (List (String × Json))
  | [] => .ok []
  | ⟨key, _, value, _⟩ :: rest => do
    let j ← value.toJson
    let es ← entriesToJson rest
    return (key, j) :: es

end

end Tree

def tooManyElements (length : Nat) : Fault :=
  ⟨.invalidLength length "fewer elements in array", none⟩

mutual

def toTree : Json → Tree
  | .scalar s => .scalar s none
  | .list items => .list none (toElements items.length items) (.ok none)
  | .object members => .object none (toMembers members) (.ok none)

/-- The elements of a list of `length` items. -/
def toElements (length : Nat) : List Json → List (Element Tree)
  | [] => []
  | j :: rest =>
    ⟨j.toTree, none, if rest.isEmpty then none else some (tooManyElements length)⟩ ::
      toElements length rest

def toMembers : List (String × Json) → List (Member Tree)
  | [] => []
  | (key, j) :: rest => ⟨key, none, j.toTree, none⟩ :: toMembers rest

end

end RuleLexer.Json
