import RuleLexer.Rules.Basic
import RuleLexer.Scan.Lexeme

/-!
# Words

A word is a whole run of word characters behind a letter. It is a keyword when the rules list it.
-/

namespace RuleLexer
open Text

namespace Rules

def wordLabel (r : Rules) (word : String) : Label :=
  match r.keywords.classify word with
  | some subkind => ⟨r.kinds.keyword, subkind, 10, ""⟩
  | none => ⟨r.kinds.word, r.words.subkind, 10, ""⟩

/-- The word that starts with the letter `c`. -/
def wordLexeme (r : Rules) (c : Char) (cs : List Char) : Except Failure Lexeme :=
  let run := c :: cs.takeWhile isWordChar
  let max := r.words.maxLength
  if max < run.length then .error ⟨.identifierTooLong max, run.take max, run[max]?, none⟩
  else .ok (runLexeme isWordChar c cs (some (r.wordLabel (String.ofList run))))

theorem wordLexeme_splits {r : Rules} {c : Char} {cs : List Char} {l : Lexeme}
    (h : r.wordLexeme c cs = .ok l) : l.Splits (c :: cs) := by
  rw [wordLexeme] at h
  split at h
  · cases h
  · cases h
    exact runLexeme_splits ..

end Rules

end RuleLexer
