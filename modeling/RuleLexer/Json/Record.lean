import RuleLexer.Json.Decoder

/-!
# Records

A record is an object with a fixed set of fields, or a list of their values in declared order. A
`Record` is composed from single fields as an applicative functor and keeps two things: the fields,
each with a check of its value, and the way to build the result from the values found.

Reading goes through the document once with the checks, so faults are met in the order of the
document; the result is then built by looking the fields up, so it depends on no order.
-/

namespace RuleLexer.Json

/-- A field of a record, as far as it matters for finding faults. -/
structure Field where
  name : String
  check : Tree → Except Fault Unit
  isOptional : Bool

/-- The values found for the fields of a record. -/
abbrev Bindings := List (String × Tree)

structure Record (α : Type) where
  fields : List Field
  build : Bindings → Except Fault α

namespace Record
variable {α β : Type}

instance : Functor Record where
  map f r := { fields := r.fields, build := fun b => (r.build b).map f }

instance : Applicative Record where
  pure a := { fields := [], build := fun _ => .ok a }
  seq f r := {
    fields := f.fields ++ (r ()).fields
    build := fun b => do
      let g ← f.build b
      let a ← (r ()).build b
      return g a }

def checkOf (d : Decoder α) (t : Tree) : Except Fault Unit := (d t).map fun _ => ()

/-- A field that has to be there. -/
def field (name : String) (d : Decoder α) : Record α where
  fields := [⟨name, checkOf d, false⟩]
  build b :=
    match b.lookup name with
    | some t => d t
    | none => .error ⟨.missingField name, none⟩

/-- A field that may be absent, and then has the value `fallback`. -/
def fieldOr (name : String) (d : Decoder α) (fallback : α) : Record α where
  fields := [⟨name, checkOf d, true⟩]
  build b :=
    match b.lookup name with
    | some t => d t
    | none => .ok fallback

/-- Checks the members of an object in written order; `seen` are the keys before them. -/
def checkMembers (fields : List Field) (seen : List String) :
    List (Member Tree) → Except Fault Unit
  | [] => .ok ()
  | m :: rest =>
    match fields.find? (·.name == m.key) with
    | none => .error ⟨.unknownField m.key (fields.map (·.name)), m.afterKey⟩
    | some f => do
      if seen.contains m.key then throw ⟨.duplicateField m.key, m.afterKey⟩
      (f.check m.value).mapError (·.orAt m.after)
      checkMembers fields (m.key :: seen) rest

def missing? (fields : List Field) (members : List (Member Tree)) : Option Field :=
  fields.find? fun f => !f.isOptional && !members.any (·.key == f.name)

/-- Checks the elements of a list against the fields they stand for. `index` counts the fields
before them, and `surplus` is why the list does not end behind the last one read. -/
def checkElements (wanted : String) (ending : Except Fault (Option Nat)) (index : Nat)
    (surplus : Option Fault) : List Field → List (Element Tree) → Except Fault Unit
  | [], _ =>
    match surplus with
    | some f => .error f
    | none => .ok ()
  | f :: fields, e :: rest => do
    (f.check e.value).mapError (·.orAt e.after)
    checkElements wanted ending (index + 1) e.surplus fields rest
  | f :: fields, [] => do
    let stop ← ending
    match (f :: fields).findIdx? (!·.isOptional) with
    | some i => .error ⟨.invalidLength (index + i) wanted, stop⟩
    | none => .ok ()

def wantedElements (name : String) (count : Nat) : String :=
  if count = 1 then s!"struct {name} with 1 element" else s!"struct {name} with {count} elements"

def decode (name : String) (r : Record α) : Decoder α
  | .object _ members ending => do
    checkMembers r.fields [] members
    let stop ← ending
    match missing? r.fields members with
    | some f => .error ⟨.missingField f.name, stop⟩
    | none => r.build (members.map fun m => (m.key, m.value))
  | .list _ elements ending => do
    checkElements (wantedElements name r.fields.length) ending 0 none r.fields elements
    r.build ((r.fields.map (·.name)).zip (elements.map (·.value)))
  | t => .error (t.mismatch s!"struct {name}")

end Record

end RuleLexer.Json
