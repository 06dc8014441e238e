import RuleLexer.Collection.OrderedMap
import RuleLexer.Text.Case
import RuleLexer.Text.Word

/-!
# Lexical rules

`Rules` is all that the scanner goes by: which characters separate, delimit or form operators, how
strings, numbers and comments are written, which words are keywords, and the names that the tokens
get. The lookups that the rules answer stand with them.
-/

namespace RuleLexer
open Text

abbrev CharSet := OrderedSet Char

abbrev WordSet := OrderedSet String

def CharSet.ofString (s : String) : CharSet := OrderedSet.ofList s.toList

/-- The names that tokens of each kind get. -/
structure KindNames where
  whitespace : String
  word : String
  keyword : String
  number : String
  delimiter : String
  operator : String
  string : String
  comment : String
  documentation : String
  eof : String
  deriving DecidableEq

/-- Every kind as its category and the name it gets. -/
def KindNames.entries (k : KindNames) : List (String × String) :=
  [("whitespace", k.whitespace), ("word", k.word), ("keyword", k.keyword), ("number", k.number),
    ("delimiter", k.delimiter), ("operator", k.operator), ("string", k.string),
    ("comment", k.comment), ("documentation", k.documentation), ("eof", k.eof)]

structure WhitespaceRules where
  chars : CharSet
  /-- Whether runs of whitespace become tokens. -/
  keep : Bool
  deriving DecidableEq

structure StringRules where
  escape : Option Char
  /-- The quote characters, each with the subkind of its strings. -/
  quotes : OrderedMap Char String
  deriving DecidableEq

def StringRules.subkind? (r : StringRules) (quote : Char) : Option String :=
  r.quotes.get? quote

/-- The digits that a base prefix calls for. -/
structure NumberBase where
  digits : String
  subkind : String
  deriving DecidableEq

namespace NumberBase

/-- The number of digits, as far as 32 bits hold it. -/
def radix (b : NumberBase) : Nat := min b.digits.toList.length 0xFFFFFFFF

/-- Whether `c` is a digit of the base; case does not matter. -/
def accepts (b : NumberBase) (c : Char) : Bool := b.digits.toList.any (sameLetter · c)

end NumberBase

structure NumberRules where
  subkind : String
  floatSubkind : String
  /-- A mark that may stand between digits and means nothing. -/
  separator : Option Char
  bases : OrderedMap Char NumberBase
  deriving DecidableEq

/-- The base that a letter behind a leading zero calls for; case does not matter. -/
def NumberRules.base? (r : NumberRules) (letter : Char) : Option NumberBase :=
  (r.bases.entries.find? fun e => sameLetter e.1 letter).map (·.2)

structure OperatorRules where
  chars : CharSet
  maxLength : Nat
  deriving DecidableEq

structure DelimiterRules where
  chars : CharSet
  deriving DecidableEq

structure BlockMarkers where
  opening : String
  closing : String
  subkind : String
  deriving DecidableEq

/-- One family of comments: plain comments, or documentation. -/
structure CommentRules where
  line : Option String
  /-- The subkind of comments that end with their line. -/
  subkind : String
  /-- Whether comments of the family become tokens. -/
  keep : Bool
  block : Option BlockMarkers
  deriving DecidableEq

structure KeywordSubset where
  name : String
  words : WordSet
  deriving DecidableEq

structure KeywordRules where
  subkind : String
  reserved : WordSet
  /-- Further groups of keywords, in the order in which they are tried. -/
  subsets : List KeywordSubset
  deriving DecidableEq

/-- The subkind of a keyword, none for any other word. Reserved words come first, then the first
subset that has the word. -/
def KeywordRules.classify (r : KeywordRules) (word : String) : Option String :=
  if r.reserved.contains word then some r.subkind
  else (r.subsets.find? (·.words.contains word)).map (·.name)

structure WordRules where
  subkind : String
  maxLength : Nat
  deriving DecidableEq

structure Rules where
  kinds : KindNames
  whitespace : WhitespaceRules
  strings : StringRules
  numbers : NumberRules
  operators : OperatorRules
  delimiters : DelimiterRules
  comments : CommentRules
  documentation : CommentRules
  keywords : KeywordRules
  words : WordRules
  /-- The names of operators and delimiters by their text. -/
  tokens : OrderedMap String String
  /-- Stands between kind and subkind where both are shown. -/
  subkindDelimiter : Option String
  deriving DecidableEq

namespace Rules

/-- The name of an operator or delimiter. -/
def tokenName? (r : Rules) (text : String) : Option String := r.tokens.get? text

/-- The first text that has the given name. -/
def tokenText? (r : Rules) (name : String) : Option String :=
  (r.tokens.entries.find? fun e => e.2 == name).map (·.1)

/-- Whether `c` ends a number without being part of it. -/
def isBoundary (r : Rules) (c : Char) : Bool :=
  r.whitespace.chars.contains c || r.delimiters.chars.contains c || r.operators.chars.contains c

end Rules

end RuleLexer
