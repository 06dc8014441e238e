import RuleLexer.Proofs.Driver
import RuleLexer.Proofs.Extension
import RuleLexer.Proofs.Sample

/-!
# The grammar of words

Where a run of the scanner meets a letter, it takes all the word characters there. Too many of them
are an error at the first one beyond the limit; the limit counts characters. Otherwise the word as a
whole is classified: it is a keyword when it is reserved or in one of the subsets, of which the
first one counts, and an ordinary word when it is in none.
-/

namespace RuleLexer
open Text

/-- The text `word ++ rest` starts with the word characters of `word` and no more of them. -/
structure WordRun (word rest : List Char) : Prop where
  chars : ∀ d ∈ word, isWordChar d = true
  stops : ∀ d ∈ rest.head?, isWordChar d = false

theorem exists_wordRun (cs : List Char) : ∃ word rest, cs = word ++ rest ∧ WordRun word rest := by
  obtain ⟨word, rest, hcs, hchars, hstops⟩ := exists_run isWordChar cs
  exact ⟨word, rest, hcs, hchars, hstops⟩

/-- A run that a letter starts has the letter. -/
theorem WordRun.eq_cons {word rest cs : List Char} {c : Char} (h : WordRun word rest)
    (hc : isAlphabetic c = true) (hcs : c :: cs = word ++ rest) :
    ∃ tail, word = c :: tail ∧ cs = tail ++ rest := by
  cases word with
  | cons d tail =>
    obtain ⟨rfl, rfl⟩ := List.cons.inj hcs
    exact ⟨tail, rfl, rfl⟩
  | nil =>
    obtain rfl : c :: cs = rest := hcs
    have hstop := h.stops c rfl
    rw [isWordChar_of_isAlphabetic hc] at hstop
    cases hstop

namespace Rules
variable {r : Rules} {word : String} {label : Label} {c : Char} {tail rest : List Char}

/-- What a word is under the rules. -/
inductive Classifies (r : Rules) (word : String) : Label → Prop where
  | reserved (hreserved : r.keywords.reserved.contains word = true) :
      r.Classifies word ⟨r.kinds.keyword, r.keywords.subkind, 10, ""⟩
  | subset {earlier later : List KeywordSubset} {s : KeywordSubset}
      (hreserved : r.keywords.reserved.contains word = false)
      (hsubsets : r.keywords.subsets = earlier ++ s :: later)
      (hearlier : ∀ e ∈ earlier, e.words.contains word = false)
      (hword : s.words.contains word = true) :
      r.Classifies word ⟨r.kinds.keyword, s.name, 10, ""⟩
  | ordinary (hreserved : r.keywords.reserved.contains word = false)
      (hsubsets : ∀ s ∈ r.keywords.subsets, s.words.contains word = false) :
      r.Classifies word ⟨r.kinds.word, r.words.subkind, 10, ""⟩

theorem classifies_wordLabel (r : Rules) (word : String) :
    r.Classifies word (r.wordLabel word) := by
  unfold wordLabel KeywordRules.classify
  cases hreserved : r.keywords.reserved.contains word with
  | true => exact .reserved hreserved
  | false =>
    cases hfind : r.keywords.subsets.find? (·.words.contains word) with
    | none =>
      have hsubsets := List.find?_eq_none.1 hfind
      exact .ordinary hreserved fun s hs => Bool.eq_false_iff.2 (hsubsets s hs)
    | some s =>
      obtain ⟨hword, earlier, later, hsubsets, hearlier⟩ := List.find?_eq_some_iff_append.1 hfind
      exact .subset hreserved hsubsets (fun e he => by simpa using hearlier e he) hword

theorem Classifies.eq_wordLabel (h : r.Classifies word label) : label = r.wordLabel word := by
  unfold wordLabel KeywordRules.classify
  cases h with
  | reserved hreserved => rw [if_pos hreserved]
  | @subset earlier later s hreserved hsubsets hearlier hword =>
    have hfind : r.keywords.subsets.find? (·.words.contains word) = some s :=
      List.find?_eq_some_iff_append.2
        ⟨hword, earlier, later, hsubsets, fun e he => by simpa using hearlier e he⟩
    rw [hfind, if_neg (by simp [hreserved])]
    rfl
  | ordinary hreserved hsubsets =>
    have hfind : r.keywords.subsets.find? (·.words.contains word) = none :=
      List.find?_eq_none.2 fun s hs => Bool.eq_false_iff.1 (hsubsets s hs)
    rw [hfind, if_neg (by simp [hreserved])]
    rfl

/-- The scanner sees the whole word at once. -/
theorem wordLexeme_run (h : WordRun (c :: tail) rest) :
    r.wordLexeme c (tail ++ rest) =
      if r.words.maxLength < (c :: tail).length then
        .error ⟨.identifierTooLong r.words.maxLength, (c :: tail).take r.words.maxLength,
          (c :: tail)[r.words.maxLength]?, none⟩
      else .ok ⟨c :: tail, rest, some (r.wordLabel (String.ofList (c :: tail)))⟩ := by
  obtain ⟨htake, hdrop⟩ :=
    takeWhile_run (fun d hd => h.chars d (List.mem_cons_of_mem c hd)) h.stops
  rw [wordLexeme, runLexeme, htake, hdrop]

end Rules

/-- Where a run meets a letter, it takes the word there as the rules classify it. A word that is too
long ends the run at its first character beyond the limit. -/
theorem tokensBehind_word {r : Rules} (hv : r.validate = .ok ()) {c : Char}
    (hc : isAlphabetic c = true) (before cs : List Char) :
    (∃ word rest, c :: cs = word ++ rest ∧ WordRun word rest) ∧
    ∀ word rest, c :: cs = word ++ rest → WordRun word rest →
      (∀ front d back, word = front ++ d :: back → front.length = r.words.maxLength →
        r.tokensBehind before (c :: cs) =
          .error ⟨.identifierTooLong r.words.maxLength, some d,
            .between (before ++ front) (d :: (back ++ rest)), none⟩) ∧
      (∃! label, r.Classifies (String.ofList word) label) ∧
      ∀ label, word.length ≤ r.words.maxLength → r.Classifies (String.ofList word) label →
        r.tokensBehind before (c :: cs) =
          (r.tokensBehind (before ++ word) rest).map (label.over before word rest :: ·) := by
  refine ⟨exists_wordRun (c :: cs), ?_⟩
  intro word rest hcs hrun
  obtain ⟨tail, rfl, rfl⟩ := hrun.eq_cons hc hcs
  have hletter : r.belongs c .letter = true := hc
  have hlexeme : r.lexeme CharClass.precedence c (tail ++ rest) = _ :=
    (Rules.lexeme_of_belongs hv hletter (tail ++ rest)).trans (Rules.wordLexeme_run hrun)
  refine ⟨?_, ?_, ?_⟩
  · intro front d back hsplit hlength
    have hlong : r.words.maxLength < (c :: tail).length := by
      rw [hsplit, ← hlength, List.length_append, List.length_cons]
      omega
    rw [if_pos hlong] at hlexeme
    exact Rules.tokensBehind_of_overlong hlexeme rfl hsplit hlength
  · exact ⟨_, r.classifies_wordLabel _, fun label hlabel => hlabel.eq_wordLabel⟩
  · intro label hlength hlabel
    rw [if_neg (Nat.not_lt.2 hlength), ← hlabel.eq_wordLabel] at hlexeme
    rw [Rules.tokensBehind_of_ok hlexeme]
    rfl

/-- A keyword of a subset in front of an operator, and a word of nine characters where eight are
allowed, each of two bytes. -/
theorem tokensBehind_word_sample :
    Rules.sample.validate = .ok () ∧ isAlphabetic 'i' = true ∧ isAlphabetic 'é' = true ∧
      WordRun ['i', 'n', 't'] ['+'] ∧
      Rules.sample.tokensBehind ['('] ['i', 'n', 't', '+'] =
        (Rules.sample.tokensBehind ['(', 'i', 'n', 't'] ['+']).map
          (Label.over ⟨"KEYWORD", "TYPE", 10, ""⟩ ['('] ['i', 'n', 't'] ['+'] :: ·) ∧
      Rules.sample.tokensBehind ['('] (List.replicate 9 'é') =
        .error ⟨.identifierTooLong 8, some 'é', .between ('(' :: List.replicate 8 'é') ['é'],
          none⟩ := by
  have hv : Rules.sample.validate = .ok () := Rules.validate_eq_ok_iff.2 (by decide +kernel)
  have hi : isAlphabetic 'i' = true := by decide
  have hé : isAlphabetic 'é' = true := by decide +kernel
  have hint : WordRun ['i', 'n', 't'] ['+'] :=
    ⟨List.all_eq_true.1 (by decide), by rintro d ⟨⟩; decide⟩
  have htype : Rules.sample.Classifies (String.ofList ['i', 'n', 't'])
      ⟨"KEYWORD", "TYPE", 10, ""⟩ := by
    refine .subset (s := ⟨"TYPE", .ofList ["int"]⟩) ?_ (List.nil_append _).symm ?_ ?_
    · decide
    · exact nofun
    · decide
  have hlong : WordRun (List.replicate 9 'é') [] := by
    refine ⟨fun d hd => ?_, nofun⟩
    rw [(List.mem_replicate.1 hd).2]
    exact isWordChar_of_isAlphabetic hé
  refine ⟨hv, hi, hé, hint, ?_, ?_⟩
  · obtain ⟨-, hwords⟩ := tokensBehind_word hv hi ['('] ['n', 't', '+']
    obtain ⟨-, -, htaken⟩ := hwords ['i', 'n', 't'] ['+'] rfl hint
    exact htaken _ (by decide) htype
  · obtain ⟨-, hwords⟩ := tokensBehind_word hv hé ['('] (List.replicate 8 'é')
    obtain ⟨htoo, -⟩ := hwords (List.replicate 9 'é') [] rfl hlong
    exact htoo (List.replicate 8 'é') 'é' [] rfl rfl

end RuleLexer
