import RuleLexer.Proofs.Driver
import RuleLexer.Proofs.Extension
import RuleLexer.Proofs.Tiling

/-!
# Tokens on their own

What a token says about its text depends on that text alone. So the text of a token, taken as a
source of its own, is scanned into that token and the one of the end.
-/

namespace RuleLexer
open Text

/-- The token as it stands in a source that holds its text and nothing else. -/
def Token.alone (t : Token) (value : String) : Token :=
  { t with start := 0, stop := byteLength value.toList, location := .start value.toList }

theorem Lexeme.token?_alone {l : Lexeme} {p : Position} {t : Token} (h : l.token? p = some t) :
    (l.followedBy []).token? (.start l.taken) = some (t.alone (String.ofList l.taken)) := by
  obtain ⟨label, hlabel, rfl⟩ := Option.map_eq_some_iff.1 h
  unfold token? followedBy Token.alone
  rw [hlabel, String.toList_ofList, Option.map_some, Option.some.injEq]
  simp [Position.start]

namespace Rules
variable {r : Rules} {order : List CharClass} {c : Char} {cs : List Char} {l : Lexeme}

theorem scan_taken (h : r.lexeme order c cs = .ok l) :
    r.scan order l.taken = ⟨[l.followedBy []], none⟩ := by
  obtain ⟨body, ht, -⟩ := exists_taken_of_lexeme h
  have hrest : (l.followedBy []).rest = [] := rfl
  rw [ht, scan_of_ok (lexeme_alone h ht), hrest, scan_nil]

theorem tokensIn_taken (h : r.lexeme order c cs = .ok l) {p : Position} {t : Token}
    (ht : l.token? p = some t) :
    r.tokensIn order l.taken = .ok [t.alone (String.ofList l.taken),
      r.endToken l.taken ((Position.start l.taken).walk l.taken l.taken)] := by
  rw [tokensIn_eq_ok_iff, scan_taken h]
  refine ⟨rfl, ?_⟩
  rw [placed_cons_some [] (Lexeme.token?_alone ht)]
  rfl

/-- A token is the one of the end, or its text on its own is the lexeme that the token is of. -/
theorem eq_endToken_or_lexeme {name text : String} {tokens : List Token} {t : Token}
    (h : r.tokenize (.loaded name text) = .ok tokens) (ht : t ∈ tokens) :
    t = r.endToken text.toList (.between text.toList []) ∨
      ∃ c cs, (t.value (.loaded name text)).toList = c :: cs ∧
        r.lexeme CharClass.precedence c cs =
          .ok ⟨c :: cs, [], some ⟨t.kind, t.subkind, t.base, t.suffix⟩⟩ := by
  rw [tokenize_eq_tokensBehind] at h
  rcases exists_over_of_mem h ht with
    hend | ⟨before, c, cs, taken, rest, label, htext, hlexeme, rfl⟩
  · exact .inl hend
  · have hsplit : taken ++ rest = c :: cs := (lexeme_splits hlexeme).1
    have hplace : text.toList = before ++ (taken ++ rest) := by rw [htext, hsplit]
    obtain ⟨body, rfl, -⟩ := exists_taken_of_lexeme hlexeme
    refine .inr ⟨c, body, ?_, lexeme_alone hlexeme rfl⟩
    rw [List.nil_append, label.value_over name hplace, String.toList_ofList]

end Rules

/-- The text of a token scans into the token alone, whatever stood around it. -/
theorem tokenize_value {r : Rules} {name text : String} {tokens : List Token} {t : Token}
    (h : r.tokenize (.loaded name text) = .ok tokens) (ht : t ∈ tokens.dropLast) (name' : String) :
    ∃ e, r.tokenize (.loaded name' (t.value (.loaded name text))) =
        .ok [t.alone (t.value (.loaded name text)), e] ∧
      e.IsEnd r (.loaded name' (t.value (.loaded name text))) := by
  obtain ⟨hscan, rfl⟩ := Rules.tokensIn_eq_ok_iff.1 h
  rw [List.dropLast_concat] at ht
  have htext := (Rules.takenBy_scan hscan).symm.trans (List.append_nil _).symm
  obtain ⟨before, l, after, hls, hsplit, hat⟩ := token?_of_mem_placed htext ht
  have hmem : l ∈ (r.scan CharClass.precedence text.toList).lexemes := by
    rw [hls]
    simp
  obtain ⟨c, rest, hl⟩ := Rules.exists_of_mem_scan hmem
  rw [(Lexeme.token?_standsAt hat).value hsplit, Rules.tokenize_loaded, String.toList_ofList]
  refine ⟨_, Rules.tokensIn_taken hl hat, rfl, rfl, ?_, ?_⟩
  · simp [Rules.endToken, Source.size]
  · simp [Rules.endToken, Source.size]

theorem tokenize_value_sample :
    ∃ tokens t e, Rules.sample.keepAll.tokenize Source.sample = .ok tokens ∧
      t ∈ tokens.dropLast ∧ t.value Source.sample = "/* é\n */" ∧ t.subkind = "BLOCK" ∧
      Rules.sample.keepAll.tokenize (.loaded "t" "/* é\n */") = .ok [t.alone "/* é\n */", e] ∧
      e.IsEnd Rules.sample.keepAll (.loaded "t" "/* é\n */") := by
  have hcount : (Rules.sample.keepAll.tokenize Source.sample).toOption.map List.length =
      some 15 := by decide +kernel
  have hcomment : (Rules.sample.keepAll.tokenize Source.sample).toOption.map (fun tokens =>
      tokens.dropLast[4]?.map fun t => (t.value Source.sample, t.subkind)) =
      some (some ("/* é\n */", "BLOCK")) := by decide +kernel
  obtain ⟨tokens, htokens, -⟩ := exists_tokens_of_length hcount
  rw [htokens] at hcomment
  obtain ⟨t, hget, hvalue⟩ := Option.map_eq_some_iff.1 (Option.some.inj hcomment)
  obtain ⟨hvalue, hsubkind⟩ := Prod.mk.inj hvalue
  have ht := List.mem_of_getElem? hget
  obtain ⟨e, he, hend⟩ := tokenize_value htokens ht "t"
  change Rules.sample.keepAll.tokenize (.loaded "t" (t.value Source.sample)) =
    .ok [t.alone (t.value Source.sample), e] at he
  change e.IsEnd Rules.sample.keepAll (.loaded "t" (t.value Source.sample)) at hend
  rw [hvalue] at he hend
  exact ⟨tokens, t, e, htokens, ht, hvalue, hsubkind, he, hend⟩

end RuleLexer
