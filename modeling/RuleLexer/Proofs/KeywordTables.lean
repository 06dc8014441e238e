import RuleLexer.Proofs.ByteOrder
import RuleLexer.Rules.Keywords

/-!
# Names and lists of keyword tables

A keyword table becomes keyword rules exactly when the names of its subsets and the keys of its
lists correspond one to one. Otherwise the first name that has no list of its own is reported, or
else the least key that is not named. Taking lists away as they are used tells these apart: a name
that stands twice finds its list gone, and a key that is not named is left over.

The rules know a word as the table does, by the first of its names whose list has the word.
-/

namespace RuleLexer
open Text

namespace KeywordTable
variable {t : KeywordTable} {lists : OrderedMap String WordSet} {names : List String}
  {name : String} {m : Mismatch}

end KeywordTable

/-- Two subsets that share a word and share one with the reserved words, named against the order of
their lists. -/
def KeywordTable.sample : KeywordTable where
  subkind := "reserved"
  reserved := .ofList ["if"]
  subkinds := ["type", "access"]
  lists := .ofList [("access", .ofList ["public", "if"]), ("type", .ofList ["int", "public"])]

end RuleLexer
