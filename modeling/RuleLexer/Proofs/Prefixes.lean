import Mathlib.Data.List.Forall2
import RuleLexer.Proofs.Alike
import RuleLexer.Proofs.Extension
import RuleLexer.Proofs.Failures
import RuleLexer.Proofs.Sample
import RuleLexer.Proofs.Tokens

/-!
# Texts that go on

Scanning never goes back on a lexeme that ends before the end of the text, whatever text is put
behind: at most its last lexeme and the token of the end may change. A failure about a character is
final as well. Only the line on which the text ended may grow.
-/

namespace RuleLexer
open Text

/-- `q` is the place of `p` in a text that goes on. -/
structure Position.Continues (p q : Position) : Prop where
  index : q.index = p.index
  line : q.line = p.line
  column : q.column = p.column
  lineStart : q.lineStart = p.lineStart
  lineEnd : p.lineEnd ≤ q.lineEnd

/-- The tokens differ in their places at most, which continue. -/
structure Token.Continues (t u : Token) : Prop where
  same : u = { t with location := u.location }
  location : t.location.Continues u.location

/-- The errors differ in their places at most, which continue. -/
structure LexError.Continues (e e' : LexError) : Prop where
  same : e' = { e with position := e'.position }
  position : e.position.Continues e'.position

/-! ## Failures about a character -/

/-- The failure is about a character that is there, and not about one that is missing. -/
structure Failure.Settled (f : Failure) : Prop where
  character : f.ch.isSome = true
  string : f.kind ≠ .unterminatedString
  comment : f.kind ≠ .unterminatedComment

theorem Failure.settled_of_toError {f : Failure} {text : List Char} {p : Position}
    (hkind : (f.toError text p).isUnexpectedCharacter = true)
    (hch : (f.toError text p).ch.isSome = true) : f.Settled := by
  refine ⟨hch, ?_, ?_⟩
  · intro hstring
    rw [LexError.isUnexpectedCharacter, toError, hstring] at hkind
    cases hkind
  · intro hcomment
    rw [LexError.isUnexpectedCharacter, toError, hcomment] at hkind
    cases hkind

theorem takeWhile_append_eq (p : Char → Bool) (cs more : List Char) :
    ∃ longer, (cs ++ more).takeWhile p = cs.takeWhile p ++ longer := by
  rw [List.takeWhile_append]
  split
  · next hall =>
    refine ⟨more.takeWhile p, ?_⟩
    rw [(List.takeWhile_prefix p).eq_of_length hall]
  · exact ⟨[], (List.append_nil _).symm⟩

/-- The first character beyond a limit is the same in a longer run. -/
theorem overlong_append {run : List Char} {max : Nat} (h : max < run.length)
    (longer : List Char) :
    max < (run ++ longer).length ∧ (run ++ longer).take max = run.take max ∧
      (run ++ longer)[max]? = run[max]? := by
  refine ⟨?_, List.take_append_of_le_length h.le, List.getElem?_append_left h⟩
  rw [List.length_append]
  omega

namespace Rules
variable {r : Rules} {order : List CharClass} {c : Char} {cs : List Char} {f : Failure}
  {l : Lexeme} (more : List Char)

theorem splitDecimal_error_append {part : DecimalPart} (h : r.splitDecimal part cs = .error f) :
    r.splitDecimal part (cs ++ more) = .error f := by
  fun_induction splitDecimal r part cs generalizing f with
  | case1 => cases h
  | case2 c cs hc ih =>
    obtain ⟨f₀, hf, rfl⟩ := error_of_mapError_map h
    rw [List.cons_append, splitDecimal, if_pos hc, ih hf]
    rfl
  | case3 => cases h
  | case4 c cs hc hb =>
    cases h
    rw [List.cons_append, splitDecimal, if_neg hc, if_neg hb]
  | case5 part c cs hp hc ih =>
    obtain ⟨f₀, hf, rfl⟩ := error_of_mapError_map h
    rw [List.cons_append, splitDecimal, if_pos hc, ih hf]
    · rfl
    · exact hp
  | case6 cs hp hc =>
    cases h
    rw [List.cons_append, splitDecimal, if_neg hc, if_pos rfl, if_pos rfl]
    exact hp
  | case7 part cs hp hc hf ih =>
    obtain ⟨f₀, hf₀, rfl⟩ := error_of_mapError_map h
    rw [List.cons_append, splitDecimal, if_neg hc, if_pos rfl, if_neg hf, ih hf₀]
    · rfl
    · exact hp
  | case8 part c cs hp hc hpoint ha ih =>
    obtain ⟨f₀, hf, rfl⟩ := error_of_mapError_map h
    rw [List.cons_append, splitDecimal, if_neg hc, if_neg hpoint, if_pos ha, ih hf]
    · rfl
    · exact hp
  | case9 => cases h
  | case10 part c cs hp hc hpoint ha hb =>
    cases h
    rw [List.cons_append, splitDecimal, if_neg hc, if_neg hpoint, if_neg ha, if_neg hb]
    exact hp

theorem splitBased_error_append {b : NumberBase} (h : r.splitBased b cs = .error f) :
    r.splitBased b (cs ++ more) = .error f := by
  fun_induction splitBased r b cs generalizing f with
  | case1 => cases h
  | case2 c cs hc ih =>
    obtain ⟨f₀, hf, rfl⟩ := error_of_mapError_map h
    rw [List.cons_append, splitBased, if_pos hc, ih hf]
    rfl
  | case3 cs hc =>
    cases h
    rw [List.cons_append, splitBased, if_neg hc, if_pos rfl]
  | case4 => cases h
  | case5 c cs hc hpoint hb =>
    cases h
    rw [List.cons_append, splitBased, if_neg hc, if_neg hpoint, if_neg hb]

/-- Missing digits are reported at the character in their place, and it must be there. -/
theorem basedLexeme_error_append {letter : Char} {b : NumberBase}
    (h : r.basedLexeme letter b cs = .error f) (hch : f.ch.isSome = true) :
    r.basedLexeme letter b (cs ++ more) = .error f := by
  unfold basedLexeme at h ⊢
  split at h
  · next g hg =>
    cases h
    rw [splitBased_error_append more hg]
  · next digits rest hs =>
    dsimp only at h
    split at h
    · cases h
    · next hnone =>
      cases h
      obtain ⟨d, ds, rfl⟩ : ∃ d ds, rest = d :: ds :=
        List.exists_cons_of_ne_nil fun hnil => by simp [hnil] at hch
      have hlonger : r.splitBased b (digits ++ (d :: ds ++ more)) =
          .ok (digits, d :: ds ++ more) := splitBased_followedBy hs (Replaces.append nofun)
      rw [← splitBased_append hs, List.append_assoc, hlonger]
      dsimp only
      rw [if_neg hnone]
      rfl

theorem numberLexeme_error_append (hc : c.isDigit = true)
    (h : r.numberLexeme (c :: cs) = .error f) (hch : f.ch.isSome = true) :
    r.numberLexeme (c :: (cs ++ more)) = .error f := by
  unfold numberLexeme at h ⊢
  cases hp : r.basePrefix? (c :: cs) with
  | some found =>
    obtain ⟨letter, b, rest⟩ := found
    rw [hp] at h
    obtain ⟨rfl, rfl⟩ := List.cons.inj (basePrefix?_eq_some hp)
    have hb : r.numbers.base? letter = some b := by
      simpa [basePrefix?] using hp
    have hlonger : r.basePrefix? ('0' :: (letter :: rest ++ more)) =
        some (letter, b, rest ++ more) := by
      simp [basePrefix?, hb]
    rw [hlonger]
    exact basedLexeme_error_append more h hch
  | none =>
    rw [hp] at h
    -- a digit alone is a number, so the failure lies behind it
    have hne : cs ≠ [] := by
      rintro rfl
      simp [decimalLexeme, splitDecimal, hc, Except.map, Except.mapError] at h
    rw [basePrefix?_replace hp (Replaces.append fun hnil => absurd hnil hne)]
    unfold decimalLexeme at h ⊢
    cases hd : r.splitDecimal .whole (c :: cs) with
    | ok d =>
      rw [hd] at h
      cases h
    | error g =>
      rw [hd] at h
      rw [← List.cons_append, splitDecimal_error_append more hd]
      exact h

theorem operatorLexeme_error_append (h : r.operatorLexeme c cs = .error f)
    (hkind : f.kind ≠ .unterminatedComment) : r.operatorLexeme c (cs ++ more) = .error f := by
  unfold operatorLexeme at h ⊢
  dsimp only at h
  split at h
  · next hlong =>
    cases h
    obtain ⟨longer, hlonger⟩ := takeWhile_append_eq r.operators.chars.contains cs more
    obtain ⟨hlength, htake, hget⟩ := overlong_append hlong longer
    dsimp only
    rw [hlonger, ← List.cons_append, if_pos hlength, htake, hget]
  · split at h
    · unfold commentLexeme at h
      split at h
      · cases h
      · cases h
        exact absurd rfl hkind
    · cases h

theorem wordLexeme_error_append (h : r.wordLexeme c cs = .error f) :
    r.wordLexeme c (cs ++ more) = .error f := by
  unfold wordLexeme at h ⊢
  dsimp only at h
  split at h
  · next hlong =>
    cases h
    obtain ⟨longer, hlonger⟩ := takeWhile_append_eq isWordChar cs more
    obtain ⟨hlength, htake, hget⟩ := overlong_append hlong longer
    dsimp only
    rw [hlonger, ← List.cons_append, if_pos hlength, htake, hget]
  · cases h

theorem lexeme_error_append (h : r.lexeme order c cs = .error f) (hf : f.Settled) :
    r.lexeme order c (cs ++ more) = .error f := by
  unfold lexeme at h ⊢
  split at h
  · next cls hcls =>
    cases cls with
    | whitespace | delimiter => cases h
    | quote =>
      unfold lexemeOf stringLexeme at h
      dsimp only at h
      split at h
      · cases h
        exact absurd rfl hf.string
      · cases h
    | digit =>
      have hdigit : r.belongs c .digit = true := List.find?_some hcls
      exact numberLexeme_error_append more hdigit h hf.character
    | operator => exact operatorLexeme_error_append more h hf.comment
    | letter => exact wordLexeme_error_append more h
  · exact h

/-! ## Scans -/

/-- A lexeme that stops before the end of the text is taken alike when the text goes on. -/
theorem scan_append_of_ok (h : r.lexeme order c cs = .ok l) (hrest : l.rest ≠ []) :
    r.scan order (c :: cs ++ more) =
      ⟨l.extend more :: (r.scan order (l.rest ++ more)).lexemes,
        (r.scan order (l.rest ++ more)).failure⟩ :=
  scan_of_ok (lexeme_extend h fun hnil => absurd hnil hrest)

/-- All lexemes but the last are taken alike when the text goes on. -/
theorem scan_append (r : Rules) (order : List CharClass) (cs : List Char) :
    ∃ ls, (r.scan order (cs ++ more)).lexemes =
      (r.scan order cs).lexemes.dropLast.map (·.extend more) ++ ls := by
  fun_induction scan r order cs with
  | case1 => exact ⟨_, rfl⟩
  | case2 => exact ⟨_, rfl⟩
  | case3 c rest l hl _ s ih =>
    by_cases hs : s.lexemes = []
    · rw [hs]
      exact ⟨_, rfl⟩
    · have hrest : l.rest ≠ [] := by
        intro hnil
        apply hs
        simp [s, hnil]
      obtain ⟨ls, hls⟩ := ih
      refine ⟨ls, ?_⟩
      rw [scan_append_of_ok more hl hrest, hls, List.dropLast_cons_of_ne_nil hs, List.map_cons,
        List.cons_append]

/-- A failure about a character stays when the text goes on, and so do the lexemes before it. -/
theorem scan_append_of_failure (h : (r.scan order cs).failure = some f) (hf : f.Settled) :
    r.scan order (cs ++ more) =
      ⟨(r.scan order cs).lexemes.map (·.extend more), some f⟩ := by
  fun_induction scan r order cs with
  | case1 => cases h
  | case2 c rest g hg =>
    obtain rfl : g = f := Option.some.inj h
    exact scan_of_error (lexeme_error_append more hg hf)
  | case3 c rest l hl _ s ih =>
    have hrest : l.rest ≠ [] := by
      intro hnil
      simp [s, hnil] at h
    rw [scan_append_of_ok more hl hrest, ih h, List.map_cons]

end Rules

/-! ## Places in a text that goes on -/

theorem Position.between_continues (before after more : List Char) :
    (between before after).Continues (between before (after ++ more)) := by
  obtain ⟨longer, hlonger⟩ := takeWhile_append_eq notNewline after more
  refine ⟨rfl, rfl, rfl, rfl, ?_⟩
  simp only [between, hlonger, byteLength_append]
  omega

theorem Lexeme.token?_continues {p q : Position} (hpq : p.Continues q) (l : Lexeme)
    (more : List Char) :
    List.Forall₂ Token.Continues (l.token? p).toList ((l.extend more).token? q).toList := by
  unfold token? extend
  cases l.label with
  | none => exact .nil
  | some label => exact .cons ⟨by simp only [hpq.index], hpq⟩ .nil

theorem placed_continues {text before after : List Char} {ls : List Lexeme}
    (h : text = before ++ (takenBy ls ++ after)) (more : List Char) :
    List.Forall₂ Token.Continues
      (placed text (.between before (takenBy ls ++ after)) ls)
      (placed (text ++ more) (.between before (takenBy ls ++ (after ++ more)))
        (ls.map (·.extend more))) := by
  induction ls generalizing before with
  | nil => exact .nil
  | cons l ls ih =>
    simp only [takenBy_cons, List.append_assoc, List.map_cons] at h ⊢
    have hlonger : text ++ more =
        before ++ (l.taken ++ (takenBy ls ++ (after ++ more))) := by
      simp [h]
    have hhere := Position.between_continues before (l.taken ++ (takenBy ls ++ after)) more
    simp only [List.append_assoc] at hhere
    rw [placed, placed, Lexeme.extend_taken, Position.walk_between _ h,
      Position.walk_between _ hlonger]
    exact List.rel_append (Lexeme.token?_continues hhere l more)
      (ih (h.trans (List.append_assoc ..).symm))

theorem stop_le_of_mem_placed {text : List Char} {p : Position} {ls : List Lexeme} {t : Token}
    (ht : t ∈ placed text p ls) : t.stop ≤ p.index + byteLength (takenBy ls) := by
  obtain ⟨before, l, after, rfl, hl⟩ := mem_placed_iff.1 ht
  rw [Lexeme.stop_of_token? hl, Position.walk_index, takenBy_append, takenBy_cons,
    byteLength_append, byteLength_append]
  omega

/-- The tokens that end before the end of the text are those of all lexemes but the last. -/
theorem filter_stop_placed {text : List Char} {ls : List Lexeme} {e : Token}
    (htaken : takenBy ls = text) (hne : ∀ l ∈ ls, l.taken ≠ []) (he : e.stop = byteLength text) :
    (placed text (.start text) ls ++ [e]).filter (fun t => t.stop < byteLength text) =
      placed text (.start text) ls.dropLast := by
  have hend : [e].filter (fun t => t.stop < byteLength text) = [] := by
    simp [he]
  rcases List.eq_nil_or_concat ls with rfl | ⟨init, last, rfl⟩
  · simpa [placed] using hend
  · have hlength : byteLength text = byteLength (takenBy init) + byteLength last.taken := by
      rw [← htaken, List.concat_eq_append, takenBy_append, byteLength_append]
      simp
    have hpos := byteLength_pos (hne last (by simp))
    have hinit : ∀ t ∈ placed text (.start text) init, t.stop < byteLength text := by
      intro t ht
      have hle := stop_le_of_mem_placed ht
      have hzero : (Position.start text).index = 0 := rfl
      omega
    have hlast : ∀ t ∈ (last.token? ((Position.start text).walk text (takenBy init))).toList,
        ¬ t.stop < byteLength text := by
      intro t ht
      rw [Lexeme.stop_of_token? (Option.mem_toList.1 ht), Position.walk_index]
      have hzero : (Position.start text).index = 0 := rfl
      omega
    rw [List.concat_eq_append, List.dropLast_concat, placed_append, placed, placed,
      List.append_nil, List.filter_append, List.filter_append, hend,
      List.filter_eq_self.2 (by simpa using hinit), List.filter_eq_nil_iff.2 (by simpa using hlast),
      List.append_nil, List.append_nil]

/-- Behind a text another one may be put: the tokens that end before the end of the first stay,
and so does an error about a character. Only the end of the line that they stand on may move. -/
theorem tokenize_append (r : Rules) (name a b : String) :
    (∀ ts us, r.tokenize (.loaded name a) = .ok ts → r.tokenize (.loaded name (a ++ b)) = .ok us →
      ∃ vs rest, us = vs ++ rest ∧
        List.Forall₂ Token.Continues (ts.filter fun t => t.stop < byteLength a.toList) vs) ∧
    ∀ e, r.tokenize (.loaded name a) = .error e → e.isUnexpectedCharacter = true →
      e.ch.isSome = true →
      ∃ e', r.tokenize (.loaded name (a ++ b)) = .error e' ∧ e.Continues e' := by
  simp only [Rules.tokenize_loaded, String.toList_append]
  constructor
  · intro ts us hts hus
    obtain ⟨hscan, rfl⟩ := Rules.tokensIn_eq_ok_iff.1 hts
    obtain ⟨-, rfl⟩ := Rules.tokensIn_eq_ok_iff.1 hus
    obtain ⟨ls, hls⟩ := r.scan_append b.toList CharClass.precedence a.toList
    have htaken := Rules.takenBy_scan hscan
    rw [filter_stop_placed htaken (fun l hl => Rules.taken_ne_nil_of_mem_scan hl) rfl, hls,
      placed_append, List.append_assoc]
    refine ⟨_, _, rfl, ?_⟩
    obtain ⟨tail, htail⟩ := List.dropLast_prefix (r.scan CharClass.precedence a.toList).lexemes
    have htext : a.toList = [] ++
        (takenBy (r.scan CharClass.precedence a.toList).lexemes.dropLast ++ takenBy tail) := by
      rw [List.nil_append, ← takenBy_append, htail, htaken]
    have hcontinues := placed_continues htext b.toList
    rw [← List.append_assoc _ (takenBy tail), ← List.nil_append (_ ++ takenBy tail), ← htext,
      ← Position.start_eq_between, ← Position.start_eq_between] at hcontinues
    exact hcontinues
  · intro e he hkind hch
    obtain ⟨f, hf, rfl⟩ := Rules.tokensIn_eq_error_iff.1 he
    have hsettled := Failure.settled_of_toError hkind hch
    have hlonger := Rules.scan_append_of_failure b.toList hf hsettled
    obtain ⟨c, rest, htext, hlexeme⟩ := Rules.scan_failure hf
    obtain ⟨after, hafter, -⟩ := Rules.pointsInto_of_lexeme hlexeme
    rw [hafter] at htext
    have htext' : a.toList ++ b.toList =
        takenBy (r.scan CharClass.precedence a.toList).lexemes ++
          (f.before ++ (after ++ b.toList)) := by
      conv_lhs => rw [htext]
      simp
    refine ⟨_, Rules.tokensIn_eq_error_iff.2 ⟨f, by rw [hlonger], rfl⟩, rfl, ?_⟩
    rw [hlonger, takenBy_map fun l => l.extend_taken b.toList, Failure.toError_position htext,
      Failure.toError_position htext']
    exact Position.between_continues ..

theorem tokenize_append_sample :
    (∃ ts us vs rest, Rules.sample.tokenize (.loaded "s" "x1 /*\n*/0x1f -2") = .ok ts ∧
      Rules.sample.tokenize (.loaded "s" ("x1 /*\n*/0x1f -2" ++ ".5(é)")) = .ok us ∧
      us = vs ++ rest ∧ vs.length = 3 ∧ rest.length = 5 ∧
      List.Forall₂ Token.Continues
        (ts.filter fun t => t.stop < byteLength "x1 /*\n*/0x1f -2".toList) vs) ∧
    ∃ e e', Rules.sample.tokenize (.loaded "s" "if 1.2.") = .error e ∧
      e.isUnexpectedCharacter = true ∧ e.ch.isSome = true ∧
      Rules.sample.tokenize (.loaded "s" ("if 1.2." ++ " @")) = .error e' ∧ e.Continues e' := by
  constructor
  · have hshort : (Rules.sample.tokenize (.loaded "s" "x1 /*\n*/0x1f -2")).toOption.map
        List.length = some 5 := by decide +kernel
    have hlonger : (Rules.sample.tokenize
        (.loaded "s" ("x1 /*\n*/0x1f -2" ++ ".5(é)"))).toOption.map List.length = some 8 := by decide +kernel
    have hstay : (Rules.sample.tokenize (.loaded "s" "x1 /*\n*/0x1f -2")).toOption.map (fun ts =>
        (ts.filter fun t => t.stop < byteLength "x1 /*\n*/0x1f -2".toList).length) = some 3 := by
      decide +kernel
    obtain ⟨ts, hts, -⟩ := exists_tokens_of_length hshort
    obtain ⟨us, hus, hlength⟩ := exists_tokens_of_length hlonger
    obtain ⟨vs, rest, rfl, hcontinues⟩ := (tokenize_append _ _ _ _).1 ts us hts hus
    rw [hts] at hstay
    have hvs : vs.length = 3 := hcontinues.length_eq.symm.trans (Option.some.inj hstay)
    rw [List.length_append, hvs] at hlength
    exact ⟨ts, _, vs, rest, hts, hus, rfl, hvs, by omega, hcontinues⟩
  · have he : Rules.sample.tokenize (.loaded "s" "if 1.2.") =
        .error ⟨.invalidNumber, some '.', ⟨6, 1, 7, 0, 7⟩, some "second decimal point"⟩ := by
      decide +kernel
    obtain ⟨e', he', hcontinues⟩ := (tokenize_append _ _ _ " @").2 _ he rfl rfl
    exact ⟨_, e', he, rfl, rfl, he', hcontinues⟩

end RuleLexer
