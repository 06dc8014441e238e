import RuleLexer.Json.Reader
import RuleLexer.Json.Record
import RuleLexer.Rules.Keywords

/-!
# Rules in JSON

The fields of each record stand in declared order, which is the order of the list form and the
order in which missing fields are reported. Keyword rules are no plain record: the keys that are
not fields of their own are the word lists of the subsets.
-/

namespace RuleLexer
open Text Json Json.Record

def charSet : Decoder CharSet := Decoder.text.map CharSet.ofString

def upperText : Decoder String := Decoder.text.map uppercase

def KindNames.decode : Decoder KindNames :=
  Record.decode "KindNames" <|
    KindNames.mk <$> field "whitespace" .text <*> field "word" .text <*> field "keyword" .text <*>
      field "number" .text <*> field "delimiter" .text <*> field "operator" .text <*>
      field "string" .text <*> field "comment" .text <*> field "documentation" .text <*>
      field "eof" .text

def WhitespaceRules.decode : Decoder WhitespaceRules :=
  Record.decode "WhitespaceConfig" <|
    WhitespaceRules.mk <$> field "chars" charSet <*> fieldOr "include" .bool false

def StringRules.decode : Decoder StringRules :=
  Record.decode "StringConfig" <|
    StringRules.mk <$> fieldOr "escape" (.optional .char) none <*>
      field "quotes" (.mapping Decoder.singleChar .text)

def NumberBase.decode : Decoder NumberBase :=
  Record.decode "NumberBase" <|
    NumberBase.mk <$> field "digits" .text <*> field "subkind" .text

def NumberRules.decode : Decoder NumberRules :=
  Record.decode "NumberConfig" <|
    NumberRules.mk <$> field "subkind" .text <*> field "float_subkind" .text <*>
      fieldOr "separator" (.optional .char) none <*>
      fieldOr "bases" (.mapping Decoder.singleChar NumberBase.decode) ∅

def OperatorRules.decode : Decoder OperatorRules :=
  Record.decode "OperatorConfig" <|
    OperatorRules.mk <$> field "chars" charSet <*> field "max_length" .size

def DelimiterRules.decode : Decoder DelimiterRules :=
  Record.decode "DelimiterConfig" <| DelimiterRules.mk <$> field "chars" charSet

def BlockMarkers.decode : Decoder BlockMarkers :=
  Record.decode "BlockMarkers" <|
    BlockMarkers.mk <$> field "begin" .text <*> field "end" .text <*> field "subkind" .text

def CommentRules.decode : Decoder CommentRules :=
  Record.decode "CommentConfig" <|
    CommentRules.mk <$> fieldOr "line" (.optional .text) none <*> field "subkind" .text <*>
      fieldOr "include" .bool false <*> fieldOr "block" (.optional BlockMarkers.decode) none

def WordRules.decode : Decoder WordRules :=
  Record.decode "WordConfig" <|
    WordRules.mk <$> field "subkind" upperText <*> field "max_length" .size

/-! ## Keywords -/

namespace KeywordTable

def words : Decoder (List String) := .list .text

/-- The fields of a table that are no word lists. -/
def fields : List Field :=
  [⟨"subkind", checkOf .text, false⟩, ⟨"reserved", checkOf words, false⟩,
    ⟨"subkinds", checkOf words, true⟩]

/-- Any value will do, if it is whole. -/
def anyValue (t : Tree) : Except Fault Unit := t.toJson.map fun _ => ()

/-- Checks the members in written order; a word list is only read through. -/
def checkMembers (seen : List String) : List (Member Tree) → Except Fault Unit
  | [] => .ok ()
  | m :: rest =>
    match fields.find? (·.name == m.key) with
    | none => do
      anyValue m.value
      checkMembers seen rest
    | some f => do
      if seen.contains m.key then throw ⟨.duplicateField m.key, m.afterKey⟩
      f.check m.value
      checkMembers (m.key :: seen) rest

/-- Word lists are judged when the whole table has been read, so their faults are reported where the
table ends. -/
def atTableEnd (stop : Option Nat) (f : Fault) : Fault := ⟨f.problem, stop⟩

def wordLists (members : List (Member Tree)) : Except Fault (List (String × List String)) :=
  (members.filter fun m => !fields.any (·.name == m.key)).mapM fun m =>
    (words m.value).map fun ws => (m.key, ws)

def decode : Decoder KeywordTable
  | .object _ members ending => do
    checkMembers [] members
    let stop ← ending
    match missing? fields members with
    | some f => throw ⟨.missingField f.name, stop⟩
    | none =>
      let bindings := members.map fun m => (m.key, m.value)
      let table : Record (String × List String × List String) :=
        (fun subkind reserved subkinds => (subkind, reserved, subkinds)) <$>
          field "subkind" .text <*> field "reserved" words <*> fieldOr "subkinds" words []
      let (subkind, reserved, subkinds) ← table.build bindings
      let lists ← (wordLists members).mapError (atTableEnd stop)
      return ⟨subkind, .ofList reserved, subkinds,
        .ofList (lists.map fun l => (l.1, OrderedSet.ofList l.2))⟩
  | t => .error (t.mismatch "struct KeywordTable")

end KeywordTable

def KeywordRules.decode : Decoder KeywordRules := fun t => do
  let table ← KeywordTable.decode t
  table.toRules.mapError fun m => ⟨.refused m.message, none⟩

/-! ## The whole document -/

def Rules.decode : Decoder Rules :=
  Record.decode "LexerConfig" <|
    Rules.mk <$> field "kinds" KindNames.decode <*> field "whitespace" WhitespaceRules.decode <*>
      field "string" StringRules.decode <*> field "number" NumberRules.decode <*>
      field "operator" OperatorRules.decode <*> field "delimiter" DelimiterRules.decode <*>
      field "comment" CommentRules.decode <*> field "document" CommentRules.decode <*>
      field "keyword" KeywordRules.decode <*> field "word" WordRules.decode <*>
      fieldOr "tokens" (.mapping .ok .text) ∅ <*>
      fieldOr "subkind_delimiter" (.optional .text) none

end RuleLexer
