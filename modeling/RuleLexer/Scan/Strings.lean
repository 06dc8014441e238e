import RuleLexer.Rules.Basic
import RuleLexer.Scan.Lexeme

/-!
# String literals

A string ends with the quote character that opened it. The escape character takes the character
behind it along, whatever that is.
-/

namespace RuleLexer

/-- The text behind an opening quote, cut behind the closing one. -/
def splitAtQuote (escape : Option Char) (quote : Char) : List Char → Option (List Char × List Char)
  | [] => none
  | c :: cs =>
    if some c = escape then
      match cs with
      | [] => none
      | d :: ds => (splitAtQuote escape quote ds).map fun (body, rest) => (c :: d :: body, rest)
    else if c = quote then some ([c], cs)
    else (splitAtQuote escape quote cs).map fun (body, rest) => (c :: body, rest)

theorem splitAtQuote_append {escape : Option Char} {quote : Char} {cs body rest : List Char}
    (h : splitAtQuote escape quote cs = some (body, rest)) : body ++ rest = cs := by
  fun_induction splitAtQuote escape quote cs generalizing body rest with
  | case1 => cases h
  | case2 => cases h
  | case3 c _ d ds ih =>
    obtain ⟨⟨b, r⟩, hb, hr⟩ := Option.map_eq_some_iff.1 h
    obtain ⟨rfl, rfl⟩ := Prod.mk.inj hr
    simp [ih hb]
  | case4 =>
    obtain ⟨rfl, rfl⟩ := Prod.mk.inj (Option.some.inj h)
    rfl
  | case5 c cs _ _ ih =>
    obtain ⟨⟨b, r⟩, hb, hr⟩ := Option.map_eq_some_iff.1 h
    obtain ⟨rfl, rfl⟩ := Prod.mk.inj hr
    simp [ih hb]

def Rules.stringLexeme (r : Rules) (quote : Char) (cs : List Char) : Except Failure Lexeme :=
  match splitAtQuote r.strings.escape quote cs with
  | none => .error ⟨.unterminatedString, [], some quote, none⟩
  | some (body, rest) =>
    .ok ⟨quote :: body, rest, some ⟨r.kinds.string, (r.strings.subkind? quote).getD "", 10, ""⟩⟩

theorem Rules.stringLexeme_splits {r : Rules} {quote : Char} {cs : List Char} {l : Lexeme}
    (h : r.stringLexeme quote cs = .ok l) : l.Splits (quote :: cs) := by
  rw [stringLexeme] at h
  split at h
  · cases h
  · next body rest hs =>
    cases h
    exact ⟨by simp [splitAtQuote_append hs], by simp⟩

end RuleLexer
