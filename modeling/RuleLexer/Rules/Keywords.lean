import RuleLexer.Rules.Basic

/-!
# Keyword tables

A table lists its subsets by name and keeps the word lists apart. It gives keyword rules exactly
when the names and the lists correspond one to one.
-/

namespace RuleLexer
open Text

structure KeywordTable where
  subkind : String
  reserved : WordSet
  subkinds : List String
  lists : OrderedMap String WordSet

namespace KeywordTable

inductive Mismatch where
  /-- A subset without a list of its own. -/
  | withoutWords (name : String)
  /-- A list that no subset uses. -/
  | unnamed (key : String)
  deriving DecidableEq

def Mismatch.message : Mismatch → String
  | withoutWords name => s!"keyword subset `{name}` has no word list"
  | unnamed key => s!"keyword word list `{key}` is not named in `subkinds`"

/-- Takes the list of each name in turn, and gives the subsets and the lists left over. -/
def takeLists : OrderedMap String WordSet → List String →
    Except Mismatch (List KeywordSubset × OrderedMap String WordSet)
  | lists, [] => .ok ([], lists)
  | lists, name :: names =>
    match lists.get? name with
    | none => .error (.withoutWords name)
    | some words => do
      let (subsets, left) ← takeLists (lists.erase name) names
      return (⟨uppercase name, words⟩ :: subsets, left)

def toRules (t : KeywordTable) : Except Mismatch KeywordRules := do
  let (subsets, left) ← takeLists t.lists t.subkinds
  match left.keys with
  | key :: _ => throw (.unnamed key)
  | [] => return ⟨uppercase t.subkind, t.reserved, subsets⟩

end KeywordTable

end RuleLexer
