import RuleLexer.Proofs.Driver
import RuleLexer.Proofs.Sample

/-!
# The grammar of string literals

A string literal is a quote, a body and the same quote again. In the body the escape character goes
with the character behind it, whatever that is, and every other character stands for itself unless
it is the quote. As the escape is no quote, a text starts with one literal at most. The scanner takes
it, or reports at the opening quote that there is none.
-/

namespace RuleLexer
open Text

/-- What may stand between the quotes. -/
inductive StringBody (escape : Option Char) (quote : Char) : List Char → Prop where
  | nil : StringBody escape quote []
  | escaped {e : Char} (d : Char) {body : List Char} (he : escape = some e)
      (hbody : StringBody escape quote body) : StringBody escape quote (e :: d :: body)
  | plain {c : Char} {body : List Char} (he : escape ≠ some c) (hq : c ≠ quote)
      (hbody : StringBody escape quote body) : StringBody escape quote (c :: body)

def IsStringLiteral (escape : Option Char) (quote : Char) (literal : List Char) : Prop :=
  ∃ body, StringBody escape quote body ∧ literal = quote :: (body ++ [quote])

section Grammar
variable {escape : Option Char} {quote : Char} {cs body taken rest : List Char}

/-- Without an escape only the quote itself is kept out of a body. -/
theorem stringBody_none_iff : StringBody none quote body ↔ quote ∉ body := by
  constructor
  · intro hbody
    induction hbody with
    | nil => exact List.not_mem_nil
    | escaped d he => cases he
    | plain _ hq _ ih => exact List.not_mem_cons_of_ne_of_not_mem hq.symm ih
  · intro hbody
    induction body with
    | nil => exact .nil
    | cons c body ih =>
      obtain ⟨hc, hrest⟩ := List.ne_and_not_mem_of_not_mem_cons hbody
      exact .plain nofun hc.symm (ih hrest)

theorem splitAtQuote_complete (hescape : escape ≠ some quote) (hbody : StringBody escape quote body)
    (rest : List Char) :
    splitAtQuote escape quote (body ++ quote :: rest) = some (body ++ [quote], rest) := by
  induction hbody with
  | nil =>
    unfold splitAtQuote
    simp [hescape.symm]
  | escaped d he _ ih =>
    rw [List.cons_append, List.cons_append, splitAtQuote, if_pos he.symm, ih]
    rfl
  | plain he hq _ ih =>
    unfold splitAtQuote
    simp [he.symm, hq, ih]

theorem splitAtQuote_sound (h : splitAtQuote escape quote cs = some (taken, rest)) :
    ∃ body, StringBody escape quote body ∧ taken = body ++ [quote] := by
  fun_induction splitAtQuote escape quote cs generalizing taken rest with
  | case1 => cases h
  | case2 => cases h
  | case3 c he d ds ih =>
    obtain ⟨⟨taken, rest⟩, hsplit, heq⟩ := Option.map_eq_some_iff.1 h
    obtain ⟨rfl, rfl⟩ := Prod.mk.inj heq
    obtain ⟨body, hbody, rfl⟩ := ih hsplit
    exact ⟨c :: d :: body, .escaped d he.symm hbody, rfl⟩
  | case4 cs he =>
    obtain ⟨rfl, rfl⟩ := Prod.mk.inj (Option.some.inj h)
    exact ⟨[], .nil, rfl⟩
  | case5 c cs he hq ih =>
    obtain ⟨⟨taken, rest⟩, hsplit, heq⟩ := Option.map_eq_some_iff.1 h
    obtain ⟨rfl, rfl⟩ := Prod.mk.inj heq
    obtain ⟨body, hbody, rfl⟩ := ih hsplit
    exact ⟨c :: body, .plain (Ne.symm he) hq hbody, rfl⟩

theorem splitAtQuote_eq_some_iff (hescape : escape ≠ some quote) :
    splitAtQuote escape quote cs = some (taken, rest) ↔
      IsStringLiteral escape quote (quote :: taken) ∧ cs = taken ++ rest := by
  constructor
  · intro h
    obtain ⟨body, hbody, htaken⟩ := splitAtQuote_sound h
    exact ⟨⟨body, hbody, by rw [htaken]⟩, (splitAtQuote_append h).symm⟩
  · rintro ⟨⟨body, hbody, htaken⟩, rfl⟩
    obtain rfl : taken = body ++ [quote] := (List.cons.inj htaken).2
    rw [List.append_assoc]
    exact splitAtQuote_complete hescape hbody rest

theorem IsStringLiteral.eq_cons {literal : List Char}
    (h : IsStringLiteral escape quote literal) : ∃ taken, literal = quote :: taken := by
  obtain ⟨body, -, rfl⟩ := h
  exact ⟨_, rfl⟩

/-- Two literals that start one text are the same. -/
theorem IsStringLiteral.unique (hescape : escape ≠ some quote) {text literal literal' : List Char}
    (h : IsStringLiteral escape quote literal) (hfront : literal <+: text)
    (h' : IsStringLiteral escape quote literal') (hfront' : literal' <+: text) :
    literal = literal' := by
  obtain ⟨rest, rfl⟩ := hfront
  obtain ⟨rest', heq⟩ := hfront'
  obtain ⟨taken, rfl⟩ := h.eq_cons
  obtain ⟨taken', rfl⟩ := h'.eq_cons
  have hsplit : splitAtQuote escape quote (taken ++ rest) = some (taken, rest) :=
    (splitAtQuote_eq_some_iff hescape).2 ⟨h, rfl⟩
  have hsplit' := (splitAtQuote_eq_some_iff hescape).2 ⟨h', (List.cons.inj heq).2.symm⟩
  rw [(Prod.mk.inj (Option.some.inj (hsplit.symm.trans hsplit'))).1]

end Grammar

namespace Rules
variable {r : Rules} {quote : Char} {subkind : String} {cs : List Char} {l : Lexeme}

theorem contains_of_subkind? {strings : StringRules} (hq : strings.subkind? quote = some subkind) :
    strings.quotes.contains quote = true := by
  rw [OrderedMap.contains, ← StringRules.subkind?, hq, Option.isSome_some]

/-- The scanner takes a string exactly where a literal starts the text. -/
theorem stringLexeme_eq_ok_iff (hv : r.validate = .ok ())
    (hq : r.strings.subkind? quote = some subkind) :
    r.stringLexeme quote cs = .ok l ↔
      ∃ literal rest, IsStringLiteral r.strings.escape quote literal ∧
        quote :: cs = literal ++ rest ∧
        l = ⟨literal, rest, some ⟨r.kinds.string, subkind, 10, ""⟩⟩ := by
  have hescape := escape_ne_of_validate hv (contains_of_subkind? hq)
  rw [stringLexeme, hq, Option.getD_some]
  cases hsplit : splitAtQuote r.strings.escape quote cs with
  | none =>
    constructor
    · intro h
      cases h
    · rintro ⟨literal, rest, hliteral, hcs, -⟩
      obtain ⟨taken, rfl⟩ := hliteral.eq_cons
      obtain rfl : cs = taken ++ rest := (List.cons.inj hcs).2
      rw [(splitAtQuote_eq_some_iff hescape).2 ⟨hliteral, rfl⟩] at hsplit
      cases hsplit
  | some parts =>
    obtain ⟨taken, rest⟩ := parts
    obtain ⟨hliteral, rfl⟩ := (splitAtQuote_eq_some_iff hescape).1 hsplit
    dsimp only
    rw [Except.ok.injEq]
    constructor
    · rintro rfl
      exact ⟨quote :: taken, rest, hliteral, rfl, rfl⟩
    · rintro ⟨literal, rest', hliteral', hcs, rfl⟩
      obtain rfl : quote :: taken = literal := hliteral.unique hescape
        ⟨rest, rfl⟩ hliteral' ⟨rest', hcs.symm⟩
      have hrest : (quote :: taken) ++ rest = (quote :: taken) ++ rest' := hcs
      rw [List.append_cancel_left hrest]

theorem stringLexeme_of_no_literal (hv : r.validate = .ok ())
    (hq : r.strings.subkind? quote = some subkind)
    (hnone : ∀ literal, IsStringLiteral r.strings.escape quote literal →
      ¬ literal <+: quote :: cs) :
    r.stringLexeme quote cs = .error ⟨.unterminatedString, [], some quote, none⟩ := by
  cases h : r.stringLexeme quote cs with
  | ok l =>
    obtain ⟨literal, rest, hliteral, hcs, -⟩ := (stringLexeme_eq_ok_iff hv hq).1 h
    exact absurd ⟨rest, hcs.symm⟩ (hnone literal hliteral)
  | error f =>
    rw [stringLexeme] at h
    split at h
    · rw [← h]
    · cases h

end Rules

/-- Where a run meets a quote, it takes the string literal that starts the rest of the text, and there
is one such literal at most. Without one the run ends at the quote. -/
theorem tokensBehind_string {r : Rules} (hv : r.validate = .ok ()) {quote : Char} {subkind : String}
    (hq : r.strings.subkind? quote = some subkind) (before cs : List Char) :
    (∀ literal rest, IsStringLiteral r.strings.escape quote literal → quote :: cs = literal ++ rest →
      r.tokensBehind before (quote :: cs) =
        (r.tokensBehind (before ++ literal) rest).map
          (Label.over ⟨r.kinds.string, subkind, 10, ""⟩ before literal rest :: ·)) ∧
    (∀ literal literal', IsStringLiteral r.strings.escape quote literal →
      IsStringLiteral r.strings.escape quote literal' →
      literal <+: quote :: cs → literal' <+: quote :: cs → literal = literal') ∧
    ((∀ literal, IsStringLiteral r.strings.escape quote literal → ¬ literal <+: quote :: cs) →
      r.tokensBehind before (quote :: cs) =
        .error ⟨.unterminatedString, some quote, .between before (quote :: cs), none⟩) ∧
    ((∃ l, r.stringLexeme quote cs = .ok l) ↔
      ∃ literal, IsStringLiteral r.strings.escape quote literal ∧ literal <+: quote :: cs) ∧
    (r.strings.escape = none → ∀ literal, IsStringLiteral r.strings.escape quote literal ↔
      ∃ body, quote ∉ body ∧ literal = quote :: (body ++ [quote])) := by
  have hescape := Rules.escape_ne_of_validate hv (Rules.contains_of_subkind? hq)
  have hquote : r.belongs quote .quote = true := Rules.contains_of_subkind? hq
  have hlexeme : r.lexeme CharClass.precedence quote cs = r.stringLexeme quote cs :=
    Rules.lexeme_of_belongs hv hquote cs
  refine ⟨?_, ?_, ?_, ?_, ?_⟩
  · intro literal rest hliteral hcs
    have hok := (Rules.stringLexeme_eq_ok_iff hv hq).2 ⟨literal, rest, hliteral, hcs, rfl⟩
    rw [Rules.tokensBehind_of_ok (hlexeme.trans hok)]
    rfl
  · intro literal literal' hliteral hliteral' hfront hfront'
    exact hliteral.unique hescape hfront hliteral' hfront'
  · intro hnone
    have herror := Rules.stringLexeme_of_no_literal hv hq hnone
    rw [Rules.tokensBehind_of_error (hlexeme.trans herror) rfl, List.append_nil]
  · constructor
    · rintro ⟨l, hl⟩
      obtain ⟨literal, rest, hliteral, hcs, -⟩ := (Rules.stringLexeme_eq_ok_iff hv hq).1 hl
      exact ⟨literal, hliteral, rest, hcs.symm⟩
    · rintro ⟨literal, hliteral, rest, hcs⟩
      exact ⟨_, (Rules.stringLexeme_eq_ok_iff hv hq).2 ⟨literal, rest, hliteral, hcs.symm, rfl⟩⟩
  · intro hnone literal
    rw [hnone, IsStringLiteral]
    simp only [stringBody_none_iff]

/-- An escaped quote does not close a string, and an escape at the end of the text leaves it open. -/
theorem tokensBehind_string_sample :
    Rules.sample.validate = .ok () ∧ Rules.sample.strings.subkind? '"' = some "DOUBLE" ∧
      (∃ e, Rules.sample.tokensBehind ['+'] ['"', '\\', '"', 'é', '"'] =
        .ok [Label.over ⟨"STRING", "DOUBLE", 10, ""⟩ ['+'] ['"', '\\', '"', 'é', '"'] [], e]) ∧
      Rules.sample.tokensBehind ['+'] ['"', 'é', '\\'] =
        .error ⟨.unterminatedString, some '"', .between ['+'] ['"', 'é', '\\'], none⟩ := by
  have hv : Rules.sample.validate = .ok () := Rules.validate_eq_ok_iff.2 (by decide +kernel)
  have hq : Rules.sample.strings.subkind? '"' = some "DOUBLE" := by decide
  have hbody : StringBody (some '\\') '"' ['\\', '"', 'é'] :=
    .escaped '"' rfl (.plain (by decide) (by decide) .nil)
  have hopen : Rules.sample.stringLexeme '"' ['é', '\\'] =
      .error ⟨.unterminatedString, [], some '"', none⟩ := rfl
  refine ⟨hv, hq, ?_, ?_⟩
  · obtain ⟨htaken, -⟩ := tokensBehind_string hv hq ['+'] ['\\', '"', 'é', '"']
    have hrun := htaken _ [] ⟨_, hbody, rfl⟩ rfl
    rw [Rules.tokensBehind_nil] at hrun
    exact ⟨_, hrun⟩
  · obtain ⟨-, -, hunterminated, hiff, -⟩ := tokensBehind_string hv hq ['+'] ['é', '\\']
    refine hunterminated fun literal hliteral hfront => ?_
    obtain ⟨l, hl⟩ := hiff.2 ⟨literal, hliteral, hfront⟩
    cases hopen.symm.trans hl

end RuleLexer
