import RuleLexer.Scan.Tokens

/-!
# Sample rules and text

Rules with lexemes of every form and a text that has most of them, small enough for statements
about them to be evaluated.
-/

namespace RuleLexer

def Rules.sample : Rules where
  kinds := {
    whitespace := "SPACE", word := "WORD", keyword := "KEYWORD", number := "NUMBER"
    delimiter := "DELIMITER", operator := "OPERATOR", string := "STRING", comment := "COMMENT"
    documentation := "DOCUMENTATION", eof := "EOF" }
  whitespace := ⟨.ofString " \n", false⟩
  strings := ⟨some '\\', .ofList [('"', "DOUBLE")]⟩
  numbers := ⟨"INTEGER", "FLOAT", some '_', .ofList [('x', ⟨"0123456789abcdef", "HEXADECIMAL"⟩)]⟩
  operators := ⟨.ofString "+-*/", 3⟩
  delimiters := ⟨.ofString "(),"⟩
  comments := ⟨some "//", "LINE", false, some ⟨"/*", "*/", "BLOCK"⟩⟩
  documentation := ⟨some "///", "LINE", true, none⟩
  keywords := ⟨"RESERVED", .ofList ["if"], [⟨"TYPE", .ofList ["int"]⟩]⟩
  words := ⟨"NAME", 8⟩
  tokens := .ofList [("+", "ADD"), ("(", "OPEN")]
  subkindDelimiter := none

/-- Comments of all forms, an escape in a string, a base and a suffix. -/
def Source.sample : Source := .loaded "s" "if x1 /* é\n */(0x1f+2.5e_)\"\\\"é\"///d\n//"

/-- What is true of the result, if there is one, shows that there is one. -/
theorem exists_ok_of_toOption_map {ε α β : Type} {outcome : Except ε α} {f : α → β} {b : β}
    (h : outcome.toOption.map f = some b) : ∃ a, outcome = .ok a ∧ f a = b := by
  cases outcome with
  | error e => cases h
  | ok a => exact ⟨a, rfl, Option.some.inj h⟩

/-- Counting its tokens shows that a text has any. -/
theorem exists_tokens_of_length {outcome : Except LexError (List Token)} {n : Nat}
    (h : outcome.toOption.map List.length = some n) :
    ∃ tokens, outcome = .ok tokens ∧ tokens.length = n :=
  exists_ok_of_toOption_map h

end RuleLexer
