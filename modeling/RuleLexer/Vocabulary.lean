import RuleLexer.Rules.Basic
import RuleLexer.Text.Quoted

/-!
# Vocabulary

The vocabulary lists every name that the rules give to tokens, as named constants: kinds, operators
and delimiters, subkinds, and keywords. Of constants with one name the first is kept.
-/

namespace RuleLexer
open Text

structure Constant where
  name : String
  value : String
  deriving DecidableEq

structure Vocabulary where
  constants : List Constant
  deriving DecidableEq

namespace Constant

def ofKind (category kind : String) : Constant := ⟨"TK_" ++ uppercase category, kind⟩

def ofToken (text name : String) : Constant := ⟨uppercase name, text⟩

def ofSubkind (subkind : String) : Constant := ⟨"SK_" ++ uppercase subkind, uppercase subkind⟩

def ofKeyword (word : String) : Constant := ⟨"KW_" ++ uppercase word, word⟩

def render (c : Constant) : String := s!"pub const {c.name}: &str = {quoteString c.value};\n"

end Constant

namespace Vocabulary

/-- All constants that the rules call for, in order and with repeated names. -/
def entries (r : Rules) : List Constant :=
  r.kinds.entries.map (fun e => .ofKind e.1 e.2) ++
    r.tokens.entries.map (fun e => .ofToken e.1 e.2) ++
    r.strings.quotes.values.map .ofSubkind ++
    .ofSubkind r.keywords.subkind :: r.keywords.reserved.toList.map .ofKeyword ++
    r.keywords.subsets.flatMap
      (fun s => .ofSubkind s.name :: s.words.toList.map .ofKeyword) ++
    [.ofSubkind r.words.subkind, .ofSubkind r.numbers.subkind, .ofSubkind r.numbers.floatSubkind]

/-- The constants whose name no earlier one has. -/
def firstOfName : List Constant → List Constant
  | [] => []
  | c :: cs => c :: (firstOfName cs).filter (·.name != c.name)

def ofRules (r : Rules) : Vocabulary := ⟨firstOfName (entries r)⟩

def get? (v : Vocabulary) (name : String) : Option String :=
  (v.constants.find? (·.name == name)).map (·.value)

def size (v : Vocabulary) : Nat := v.constants.length

def isEmpty (v : Vocabulary) : Bool := v.constants.isEmpty

/-- One constant declaration a line. -/
def render (v : Vocabulary) : String := String.join (v.constants.map Constant.render)

end Vocabulary

end RuleLexer
