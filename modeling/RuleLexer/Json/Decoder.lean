import RuleLexer.Json.Tree

/-!
# Decoders

A decoder reads a value of some type out of a document and stops at the first fault it meets. The
decoders here are those of single values, lists and maps; records are composed from named fields in
the module on records.
-/

namespace RuleLexer.Json

abbrev Decoder (α : Type) := Tree → Except Fault α

/-- The fault of a value of the wrong type. -/
def Tree.mismatch (wanted : String) : Tree → Fault
  | .scalar s stop => ⟨.invalidType (.scalar s) wanted, stop⟩
  | .list start _ _ => ⟨.invalidType .list wanted, start⟩
  | .object start _ _ => ⟨.invalidType .object wanted, start⟩
  | .broken fault => fault

namespace Decoder
variable {α β κ : Type}

protected def map (f : α → β) (d : Decoder α) : Decoder β := fun t => (d t).map f

def text : Decoder String
  | .scalar (.string s) _ => .ok s
  | t => .error (t.mismatch "a string")

def bool : Decoder Bool
  | .scalar (.bool b) _ => .ok b
  | t => .error (t.mismatch "a boolean")

/-- The single character that `s` consists of. -/
def singleChar (s : String) : Except Problem Char :=
  match s.toList with
  | [c] => .ok c
  | _ => .error (.invalidValue (.scalar (.string s)) "a character")

def char : Decoder Char
  | .scalar (.string s) stop => (singleChar s).mapError (⟨·, stop⟩)
  | t => .error (t.mismatch "a character")

/-- A whole number that is not negative. -/
def size : Decoder Nat
  | .scalar (.number (.integer i)) stop =>
    if 0 ≤ i then .ok i.toNat
    else .error ⟨.invalidValue (.scalar (.number (.integer i))) "usize", stop⟩
  | t => .error (t.mismatch "usize")

/-- Null stands for absence. -/
def optional (d : Decoder α) : Decoder (Option α)
  | .scalar .null _ => .ok none
  | t => (d t).map some

def elements (d : Decoder α) : List (Element Tree) → Except Fault (List α)
  | [] => .ok []
  | e :: rest => do
    let a ← d e.value
    let as ← elements d rest
    return a :: as

def list (d : Decoder α) : Decoder (List α)
  | .list _ es ending => do
    let as ← elements d es
    let _ ← ending
    return as
  | t => .error (t.mismatch "a sequence")

def entries (key : String → Except Problem κ) (d : Decoder β) :
    List (Member Tree) → Except Fault (List (κ × β))
  | [] => .ok []
  | m :: rest => do
    let k ← (key m.key).mapError (⟨·, m.afterKey⟩)
    let v ← d m.value
    let es ← entries key d rest
    return (k, v) :: es

/-- A map from the keys of an object; of equal keys the last counts. -/
def mapping [Ord κ] [Std.TransOrd κ] [Std.LawfulEqOrd κ]
    (key : String → Except Problem κ) (d : Decoder β) : Decoder (OrderedMap κ β)
  | .object _ members ending => do
    let es ← entries key d members
    let _ ← ending
    return .ofList es
  | t => .error (t.mismatch "a map")

end Decoder

end RuleLexer.Json
