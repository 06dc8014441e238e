import RuleLexer.Collection.OrderedMap
import RuleLexer.Number.Binary64

/-!
# JSON values

A value is a scalar, a list, or an object. A whole number that fits into 64 bits is kept exactly,
with or without a sign; any other number is a double.
-/

namespace RuleLexer

namespace Json

inductive Number where
  | integer (value : Int)
  | float (negative : Bool) (magnitude : Binary64)
  deriving DecidableEq

inductive Scalar where
  | null
  | bool (value : Bool)
  | number (value : Number)
  | string (value : String)
  deriving DecidableEq

end Json

/-- An object lists its members in increasing order of their keys, each key once. -/
inductive Json where
  | scalar (value : Json.Scalar)
  | list (items : List Json)
  | object (members : List (String × Json))

namespace Json

def null : Json := .scalar .null

def bool (b : Bool) : Json := .scalar (.bool b)

def nat (n : Nat) : Json := .scalar (.number (.integer n))

def string (s : String) : Json := .scalar (.string s)

/-- The object of a list of members; of two with one key the later counts. -/
def ofMembers (members : List (String × Json)) : Json :=
  .object (members.foldl (fun sorted m => OrderedMap.insertEntry m.1 m.2 sorted) [])

end Json

end RuleLexer
