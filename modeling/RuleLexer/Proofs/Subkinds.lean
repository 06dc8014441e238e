import RuleLexer.Proofs.Case
import RuleLexer.Proofs.Constants
import RuleLexer.Proofs.Loading
import RuleLexer.Proofs.Relexing

/-!
# Subkinds and their constants

The scanner and the vocabulary get the subkinds of strings, words and decimal numbers from the same
rules. So each of these subkinds has a constant, under its name in upper case. A token name comes
before the subkinds and takes the constant of a subkind when it is written the same.

The value of a constant is in upper case too. The subkinds of keywords and other words are put in
upper case when rules are read, so they are the values of their constants.
-/

namespace RuleLexer
open Text

/-! ## The constants of subkinds -/

namespace Constant
variable {s u : String}

theorem name_ofKind_ne (category kind u : String) : (ofKind category kind).name ≠ "SK_" ++ u := by
  intro h
  have hchars := congrArg String.toList h
  simp [ofKind] at hchars

theorem name_ofKeyword_ne (word u : String) : (ofKeyword word).name ≠ "SK_" ++ u := by
  intro h
  have hchars := congrArg String.toList h
  simp [ofKeyword] at hchars

theorem value_of_name_ofSubkind (h : (ofSubkind s).name = "SK_" ++ u) : (ofSubkind s).value = u := by
  have hchars := congrArg String.toList h
  simpa [ofSubkind, String.toList_inj] using hchars

end Constant

namespace Rules
variable {r : Rules} {s u : String} {c : Char} {cs : List Char} {l : Lexeme}

/-- The subkinds of keywords and other words. -/
def wordSubkinds (r : Rules) : List String :=
  r.keywords.subkind :: r.keywords.subsets.map (·.name) ++ [r.words.subkind]

/-- The subkinds of strings, keywords, other words and decimal numbers. -/
def subkinds (r : Rules) : List String :=
  r.strings.quotes.values ++ r.wordSubkinds ++ [r.numbers.subkind, r.numbers.floatSubkind]

/-- The constants behind those of kinds and of token names. -/
def subkindConstants (r : Rules) : List Constant :=
  r.strings.quotes.values.map .ofSubkind ++
    .ofSubkind r.keywords.subkind :: r.keywords.reserved.toList.map .ofKeyword ++
    r.keywords.subsets.flatMap
      (fun s => .ofSubkind s.name :: s.words.toList.map .ofKeyword) ++
    [.ofSubkind r.words.subkind, .ofSubkind r.numbers.subkind, .ofSubkind r.numbers.floatSubkind]

theorem vocabulary_entries (r : Rules) :
    Vocabulary.entries r = r.kinds.entries.map (fun e => .ofKind e.1 e.2) ++
      r.tokens.entries.map (fun e => .ofToken e.1 e.2) ++ r.subkindConstants := by
  simp [Vocabulary.entries, subkindConstants]

theorem ofSubkind_mem_subkindConstants (hs : s ∈ r.subkinds) :
    .ofSubkind s ∈ r.subkindConstants := by
  simp only [subkinds, wordSubkinds, List.mem_append, List.mem_cons, List.mem_map] at hs
  simp only [subkindConstants, List.mem_append, List.mem_cons, List.mem_flatMap, List.mem_map]
  grind

theorem mem_subkindConstants {d : Constant} (hd : d ∈ r.subkindConstants) :
    (∃ s, d = .ofSubkind s) ∨ ∃ word, d = .ofKeyword word := by
  simp only [subkindConstants, List.mem_append, List.mem_cons, List.mem_flatMap, List.mem_map] at hd
  grind

/-- The text of the first operator or delimiter whose name is written as the constant `name`. -/
def takenByToken? (r : Rules) (name : String) : Option String :=
  (r.tokens.entries.find? fun e => uppercase e.2 == name).map (·.1)

theorem find?_subkindConstants (hs : s ∈ r.subkinds) :
    ∃ d, r.subkindConstants.find? (·.name == "SK_" ++ uppercase s) = some d ∧
      d.value = uppercase s := by
  have hfound : (r.subkindConstants.find? (·.name == "SK_" ++ uppercase s)).isSome :=
    List.find?_isSome.2 ⟨.ofSubkind s, ofSubkind_mem_subkindConstants hs, beq_self_eq_true _⟩
  obtain ⟨d, hd⟩ := Option.isSome_iff_exists.1 hfound
  have hname := List.find?_some hd
  rw [beq_iff_eq] at hname
  refine ⟨d, hd, ?_⟩
  rcases mem_subkindConstants (List.mem_of_find?_eq_some hd) with ⟨s', rfl⟩ | ⟨word, rfl⟩
  · exact Constant.value_of_name_ofSubkind hname
  · exact absurd hname (Constant.name_ofKeyword_ne word _)

/-- A subkind has its constant, unless the name of a token is written as that constant. -/
theorem get?_subkind (hs : s ∈ r.subkinds) :
    (Vocabulary.ofRules r).get? ("SK_" ++ uppercase s) =
      some ((r.takenByToken? ("SK_" ++ uppercase s)).getD (uppercase s)) := by
  have hkinds : (r.kinds.entries.map fun e => Constant.ofKind e.1 e.2).find?
      (·.name == "SK_" ++ uppercase s) = none := by
    rw [List.find?_map, Option.map_eq_none_iff, List.find?_eq_none]
    intro e _ he
    exact Constant.name_ofKind_ne e.1 e.2 _ (beq_iff_eq.1 he)
  have htokens : (r.tokens.entries.map fun e => Constant.ofToken e.1 e.2).find?
      (·.name == "SK_" ++ uppercase s) =
        (r.tokens.entries.find? fun e => uppercase e.2 == "SK_" ++ uppercase s).map
          fun e => Constant.ofToken e.1 e.2 := List.find?_map ..
  obtain ⟨d, hd, hvalue⟩ := find?_subkindConstants hs
  rw [Vocabulary.get?_ofRules, vocabulary_entries, List.find?_append, List.find?_append, hkinds,
    htokens, hd, takenByToken?]
  cases r.tokens.entries.find? fun e => uppercase e.2 == "SK_" ++ uppercase s with
  | none => simp [hvalue]
  | some e => simp [Constant.ofToken]

/-! ## The subkinds of tokens -/

/-- Texts of keywords and of other words. -/
def IsWord (r : Rules) (text : List Char) : Prop :=
  ∃ c cs, text = c :: cs ∧ r.belongs c .letter = true

/-- Texts of strings, of words and of numbers without a base prefix. -/
inductive HasConstant (r : Rules) : List Char → Prop where
  | string {c : Char} {cs : List Char} (hc : r.belongs c .quote = true) : HasConstant r (c :: cs)
  | word {text : List Char} (h : r.IsWord text) : HasConstant r text
  | decimal {c : Char} {cs : List Char} (hc : r.belongs c .digit = true)
      (hbase : r.basePrefix? (c :: cs) = none) : HasConstant r (c :: cs)

theorem mem_subkinds_of_stringLexeme (h : r.stringLexeme c cs = .ok l) {label : Label}
    (hlabel : l.label = some label) (hne : label.subkind ≠ "") : label.subkind ∈ r.subkinds := by
  rw [stringLexeme] at h
  split at h
  · cases h
  · cases h
    cases hlabel
    dsimp only at hne ⊢
    cases hq : r.strings.subkind? c with
    | none => simp [hq] at hne
    | some s => simp [subkinds, OrderedMap.mem_values_of_get? hq]

theorem wordLabel_subkind_mem (word : String) :
    (r.wordLabel word).subkind ∈ r.wordSubkinds := by
  unfold wordLabel
  split
  · next subkind hclass =>
    rw [KeywordRules.classify] at hclass
    split at hclass
    · cases hclass
      simp [wordSubkinds]
    · obtain ⟨subset, hsubset, rfl⟩ := Option.map_eq_some_iff.1 hclass
      have hmem := List.mem_of_find?_eq_some hsubset
      simp only [wordSubkinds, List.mem_append, List.mem_cons, List.mem_map]
      exact .inl (.inr ⟨subset, hmem, rfl⟩)
  · simp [wordSubkinds]

theorem mem_wordSubkinds_of_wordLexeme (h : r.wordLexeme c cs = .ok l) {label : Label}
    (hlabel : l.label = some label) : label.subkind ∈ r.wordSubkinds := by
  rw [wordLexeme] at h
  split at h
  · cases h
  · cases h
    obtain rfl := Option.some.inj hlabel
    exact r.wordLabel_subkind_mem _

theorem mem_subkinds_of_decimalLexeme (h : r.decimalLexeme cs = .ok l) {label : Label}
    (hlabel : l.label = some label) : label.subkind ∈ r.subkinds := by
  unfold decimalLexeme at h
  cases hd : r.splitDecimal .whole cs with
  | error f =>
    rw [hd] at h
    cases h
  | ok d =>
    rw [hd] at h
    cases h
    obtain rfl := Option.some.inj hlabel
    cases d.hasPoint <;> simp [subkinds]

theorem lexemeOf_of_belongs (hv : r.validate = .ok ())
    (h : r.lexeme CharClass.precedence c cs = .ok l) {cls : CharClass}
    (hc : r.belongs c cls = true) : r.lexemeOf c cs cls = .ok l := by
  rw [← lexeme_of_belongs hv hc cs, h]

theorem mem_wordSubkinds_of_lexeme (hv : r.validate = .ok ())
    (h : r.lexeme CharClass.precedence c cs = .ok l) {label : Label}
    (hlabel : l.label = some label) (hword : r.IsWord (c :: cs)) :
    label.subkind ∈ r.wordSubkinds := by
  obtain ⟨_, _, heq, hc⟩ := hword
  cases heq
  exact mem_wordSubkinds_of_wordLexeme (lexemeOf_of_belongs hv h hc) hlabel

theorem mem_subkinds_of_lexeme (hv : r.validate = .ok ())
    (h : r.lexeme CharClass.precedence c cs = .ok l) {label : Label}
    (hlabel : l.label = some label) (hclass : r.HasConstant (c :: cs)) (hne : label.subkind ≠ "") :
    label.subkind ∈ r.subkinds := by
  cases hclass with
  | string hc => exact mem_subkinds_of_stringLexeme (lexemeOf_of_belongs hv h hc) hlabel hne
  | word hword => simp [subkinds, mem_wordSubkinds_of_lexeme hv h hlabel hword]
  | decimal hc hbase =>
    have hnumber : r.numberLexeme (c :: cs) = .ok l := lexemeOf_of_belongs hv h hc
    rw [numberLexeme, hbase] at hnumber
    exact mem_subkinds_of_decimalLexeme hnumber hlabel

/-- The lexeme behind a token that has a subkind. -/
theorem exists_lexeme_of_mem {name text : String} {tokens : List Token} {t : Token}
    (h : r.tokenize (.loaded name text) = .ok tokens) (ht : t ∈ tokens) (hne : t.subkind ≠ "") :
    ∃ c cs l label, (t.value (.loaded name text)).toList = c :: cs ∧
      r.lexeme CharClass.precedence c cs = .ok l ∧ l.label = some label ∧
      label.subkind = t.subkind := by
  rcases eq_endToken_or_lexeme h ht with rfl | ⟨c, cs, hvalue, hlexeme⟩
  · exact absurd rfl hne
  · exact ⟨c, cs, _, _, hvalue, hlexeme, rfl, rfl⟩

/-! ## The subkinds that reading puts in upper case -/

theorem upper_subkind_of_wordRules {w : WordRules} {t : Json.Tree}
    (h : WordRules.decode t = .ok w) : uppercase w.subkind = w.subkind := by
  obtain ⟨b, hb⟩ := Json.Record.exists_build_of_decode h
  simp only [Json.Record.exists_build_seq, Json.Record.exists_build_map] at hb
  obtain ⟨subkind, hsubkind, _, -, rfl⟩ := hb
  obtain ⟨t', ht'⟩ := Json.Record.exists_of_build_field hsubkind
  obtain ⟨written, -, rfl⟩ := Json.map_eq_ok_iff.1 ht'
  exact uppercase_uppercase written

theorem upper_name_of_takeLists {names : List String} {lists left : OrderedMap String WordSet}
    {subsets : List KeywordSubset} (h : KeywordTable.takeLists lists names = .ok (subsets, left)) :
    ∀ s ∈ subsets, uppercase s.name = s.name := by
  induction names generalizing lists left subsets with
  | nil =>
    cases h
    simp
  | cons name names ih =>
    rw [KeywordTable.takeLists] at h
    split at h
    · cases h
    · obtain ⟨⟨subsets', left'⟩, hrest, h⟩ := Json.bind_eq_ok_iff.1 h
      cases h
      rw [List.forall_mem_cons]
      exact ⟨uppercase_uppercase name, ih hrest⟩

theorem upper_subkinds_of_keywordRules {k : KeywordRules} {t : Json.Tree}
    (h : KeywordRules.decode t = .ok k) :
    ∀ s ∈ k.subkind :: k.subsets.map (·.name), uppercase s = s := by
  obtain ⟨table, -, h⟩ := Json.bind_eq_ok_iff.1 h
  rw [Json.mapError_eq_ok_iff] at h
  obtain ⟨⟨subsets, left⟩, hsubsets, h⟩ := Json.bind_eq_ok_iff.1 h
  dsimp only at h
  split at h
  · cases h
  · cases h
    rw [List.forall_mem_cons, List.forall_mem_map]
    exact ⟨uppercase_uppercase table.subkind, upper_name_of_takeLists hsubsets⟩

theorem exists_decode_words {t : Json.Tree} (h : Rules.decode t = .ok r) :
    (∃ t', KeywordRules.decode t' = .ok r.keywords) ∧ ∃ t', WordRules.decode t' = .ok r.words := by
  obtain ⟨b, hb⟩ := Json.Record.exists_build_of_decode h
  simp only [Json.Record.exists_build_seq, Json.Record.exists_build_map] at hb
  obtain ⟨_, -, _, -, _, -, _, -, _, -, _, -, _, -, _, -, keywords, hkeywords, words, hwords, _, -,
    _, -, rfl⟩ := hb
  exact ⟨Json.Record.exists_of_build_field hkeywords, Json.Record.exists_of_build_field hwords⟩

theorem upper_of_mem_wordSubkinds {t : Json.Tree} (h : Rules.decode t = .ok r)
    (hs : s ∈ r.wordSubkinds) : uppercase s = s := by
  obtain ⟨⟨_, hkeywords⟩, _, hwords⟩ := exists_decode_words h
  rcases List.mem_append.1 hs with hs | hs
  · exact upper_subkinds_of_keywordRules hkeywords s hs
  · obtain rfl := List.mem_singleton.1 hs
    exact upper_subkind_of_wordRules hwords

end Rules

/-- A token's subkind that is its own upper case is found under its constant, unless the name of an
operator or delimiter is written as that constant. The subkinds of keywords and other words are
their own upper case if the rules were read from a document. -/
theorem get?_subkind_of_token {r : Rules} {name text : String} {tokens : List Token} {t : Token}
    (hv : r.validate = .ok ()) (h : r.tokenize (.loaded name text) = .ok tokens) (ht : t ∈ tokens)
    (hclass : r.HasConstant (t.value (.loaded name text)).toList) (hne : t.subkind ≠ "") :
    (uppercase t.subkind = t.subkind →
      (Vocabulary.ofRules r).get? ("SK_" ++ uppercase t.subkind) =
        some ((r.takenByToken? ("SK_" ++ uppercase t.subkind)).getD t.subkind)) ∧
    ((∃ document, Rules.decode document = .ok r) →
      r.IsWord (t.value (.loaded name text)).toList → uppercase t.subkind = t.subkind) := by
  obtain ⟨c, cs, l, label, hvalue, hl, hlabel, hsubkind⟩ := Rules.exists_lexeme_of_mem h ht hne
  rw [← hsubkind] at hne ⊢
  rw [hvalue] at hclass ⊢
  refine ⟨fun hupper => ?_, ?_⟩
  · have hget := Rules.get?_subkind (Rules.mem_subkinds_of_lexeme hv hl hlabel hclass hne)
    rwa [hupper] at hget ⊢
  · rintro ⟨document, hdocument⟩ hword
    exact Rules.upper_of_mem_wordSubkinds hdocument
      (Rules.mem_wordSubkinds_of_lexeme hv hl hlabel hword)

-- The characters of the text are put in before it is read, as taking them off a string is slow.
set_option maxRecDepth 4000 in
/-- The word `x` under rules that were read with `name` as the subkind of words. -/
theorem get?_subkind_of_token_sample :
    ∃ r tokens t, Rules.decode (Json.readDocument Rules.sampleText).tree = .ok r ∧
      r.validate = .ok () ∧ r.tokenize (.loaded "s" "x") = .ok tokens ∧ t ∈ tokens ∧
      t.subkind = "NAME" ∧ (Vocabulary.ofRules r).get? "SK_NAME" = some "NAME" := by
  have hchars : Json.readDocument Rules.sampleText = Json.readCharacters _ :=
    congrArg Json.readCharacters String.toList_ofList
  have hread : (Rules.decode (Json.readDocument Rules.sampleText).tree).toOption.map
      (fun r => (r.violation?.isNone && r.belongs 'x' .letter && (r.takenByToken? "SK_NAME").isNone,
        (r.tokenize (.loaded "s" "x")).toOption.map
          (·.map fun t => (t.subkind, (t.value (.loaded "s" "x")).toList)))) =
      some (true, some [("NAME", ['x']), ("", [])]) := by
    rw [hchars]
    decide +kernel
  obtain ⟨r, hr, hread⟩ := exists_ok_of_toOption_map hread
  obtain ⟨hrules, htokens⟩ := Prod.mk.inj hread
  simp only [Bool.and_eq_true, Option.isNone_iff_eq_none] at hrules
  obtain ⟨⟨hvalid, hletter⟩, htaken⟩ := hrules
  obtain ⟨tokens, hok, htokens⟩ := exists_ok_of_toOption_map htokens
  obtain ⟨t, rest, rfl, ht, -⟩ := List.map_eq_cons_iff.1 htokens
  obtain ⟨hsubkind, hvalue⟩ := Prod.mk.inj ht
  have hv := Rules.validate_eq_ok_iff.2 hvalid
  have hword : r.IsWord (t.value (.loaded "s" "x")).toList := ⟨'x', [], hvalue, hletter⟩
  obtain ⟨hget, hupper⟩ := get?_subkind_of_token hv hok List.mem_cons_self (.word hword)
    (by simp [hsubkind])
  have hname : "SK_" ++ uppercase t.subkind = "SK_NAME" := by
    rw [hupper ⟨_, hr⟩ hword, hsubkind]
    rfl
  have hconstant := hget (hupper ⟨_, hr⟩ hword)
  rw [hname, htaken, hsubkind] at hconstant
  exact ⟨r, _, t, hr, hv, hok, List.mem_cons_self, hsubkind, hconstant⟩

/-- Rules with an operator named like the constant of a subkind, with the decimal digits as a base
of its own, and with a subkind of strings in lower case. -/
def Rules.lostSubkinds : Rules :=
  { Rules.sample with
    strings := ⟨none, .ofList [('"', "double")]⟩
    numbers := { Rules.sample.numbers with bases := .ofList [('d', ⟨"0123456789", "TEN"⟩)] }
    tokens := .ofList [("+", "SK_NAME")] }

/-- A word, a number in base ten and a string whose subkinds are not found under their constants. -/
theorem get?_subkind_lostSubkinds :
    Rules.lostSubkinds.validate = .ok () ∧
    ∃ name number string rest,
      Rules.lostSubkinds.tokenize (.loaded "s" "x 0d5 \"a\"") =
        .ok (name :: number :: string :: rest) ∧
      (name.value (.loaded "s" "x 0d5 \"a\"") = "x" ∧ name.subkind = "NAME" ∧
        (Vocabulary.ofRules Rules.lostSubkinds).get? ("SK_" ++ uppercase "NAME") = some "+") ∧
      (number.value (.loaded "s" "x 0d5 \"a\"") = "0d5" ∧ number.base = 10 ∧
        number.subkind = "TEN" ∧
        (Vocabulary.ofRules Rules.lostSubkinds).get? ("SK_" ++ uppercase "TEN") = none) ∧
      string.value (.loaded "s" "x 0d5 \"a\"") = "\"a\"" ∧ string.subkind = "double" ∧
        (Vocabulary.ofRules Rules.lostSubkinds).get? ("SK_" ++ uppercase "double") =
          some "DOUBLE" := by
  have htokens : (Rules.lostSubkinds.tokenize (.loaded "s" "x 0d5 \"a\"")).toOption.map
      (·.map fun t => (t.value (.loaded "s" "x 0d5 \"a\""), t.base, t.subkind)) =
      some [("x", 10, "NAME"), ("0d5", 10, "TEN"), ("\"a\"", 10, "double"), ("", 10, "")] := by
    decide +kernel
  obtain ⟨tokens, hok, htokens⟩ := exists_ok_of_toOption_map htokens
  obtain ⟨name, _, rfl, hname, htokens⟩ := List.map_eq_cons_iff.1 htokens
  obtain ⟨number, _, rfl, hnumber, htokens⟩ := List.map_eq_cons_iff.1 htokens
  obtain ⟨string, rest, rfl, hstring, -⟩ := List.map_eq_cons_iff.1 htokens
  simp only [Prod.mk.injEq] at hname hnumber hstring
  refine ⟨Rules.validate_eq_ok_iff.2 (by decide +kernel), name, number, string, rest, hok,
    ⟨hname.1, hname.2.2, ?_⟩, ⟨hnumber.1, hnumber.2.1, hnumber.2.2, ?_⟩, hstring.1, hstring.2.2, ?_⟩
  all_goals decide +kernel

end RuleLexer
