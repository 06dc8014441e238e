import RuleLexer.Proofs.Consistency
import RuleLexer.Proofs.Extension
import RuleLexer.Proofs.Sample
import RuleLexer.Proofs.Tokens

/-!
# Texts joined by a newline

A newline ends every lexeme that the end of the text ends, when it is a whitespace character that
numbers do not use. So the tokens of two texts joined by a newline are those of the first, followed
by those of the second with their places shifted.
-/

namespace RuleLexer
open Text

/-! ## Shifts -/

/-- The same place behind `bytes` more bytes and `lines` more lines of text. -/
def Position.shift (bytes lines : Nat) (p : Position) : Position where
  index := p.index + bytes
  line := p.line + lines
  column := p.column
  lineStart := p.lineStart + bytes
  lineEnd := p.lineEnd + bytes

def Token.shift (bytes lines : Nat) (t : Token) : Token :=
  { t with
    start := t.start + bytes
    stop := t.stop + bytes
    location := t.location.shift bytes lines }

def LexError.shift (bytes lines : Nat) (e : LexError) : LexError :=
  { e with position := e.position.shift bytes lines }

theorem lineEndFrom_add (front text : List Char) (n : Nat) :
    lineEndFrom (front ++ text) (byteLength front + n) = lineEndFrom text n + byteLength front := by
  unfold lineEndFrom
  rw [dropBytes_add]
  cases dropBytes n text with
  | none => exact (byteLength_append front text).trans (Nat.add_comm _ _)
  | some rest =>
    dsimp only
    omega

section Shift
variable {front text : List Char} {lines : Nat}

theorem Position.advance_shift (p : Position) (c : Char) :
    (p.shift (byteLength front) lines).advance (front ++ text) c =
      (p.advance text c).shift (byteLength front) lines := by
  have hindex : p.index + byteLength front + c.utf8Size =
      byteLength front + (p.index + c.utf8Size) := by omega
  unfold advance
  by_cases hc : c = '\n'
  · rw [if_pos hc, if_pos hc]
    simp only [shift, hindex, lineEndFrom_add]
    simp only [mk.injEq, and_true, true_and]
    omega
  · rw [if_neg hc, if_neg hc]
    simp only [shift, mk.injEq, and_true]
    omega

theorem Position.walk_shift (p : Position) (cs : List Char) :
    (p.shift (byteLength front) lines).walk (front ++ text) cs =
      (p.walk text cs).shift (byteLength front) lines := by
  induction cs generalizing p with
  | nil => rfl
  | cons c cs ih => rw [walk_cons, advance_shift, ih, walk_cons]

theorem Lexeme.token?_shift (l : Lexeme) (bytes : Nat) (p : Position) :
    l.token? (p.shift bytes lines) = (l.token? p).map (Token.shift bytes lines) := by
  unfold token?
  cases l.label with
  | none => rfl
  | some label =>
    simp only [Option.map_some, Option.some.injEq, Token.shift, Position.shift, Token.mk.injEq,
      true_and, and_true]
    omega

theorem placed_shift (p : Position) (ls : List Lexeme) :
    placed (front ++ text) (p.shift (byteLength front) lines) ls =
      (placed text p ls).map (Token.shift (byteLength front) lines) := by
  induction ls generalizing p with
  | nil => rfl
  | cons l ls ih =>
    rw [placed, placed, Position.walk_shift, ih, Lexeme.token?_shift, List.map_append,
      Option.toList_map]

/-- A scan takes no notice of the text before its place. -/
theorem Rules.tokensFrom_shift (r : Rules) (order : List CharClass) (p : Position)
    (cs : List Char) :
    r.tokensFrom order (front ++ text) (p.shift (byteLength front) lines) cs =
      ((r.tokensFrom order text p cs).map
        (List.map (Token.shift (byteLength front) lines))).mapError
          (LexError.shift (byteLength front) lines) := by
  rw [tokensFrom_eq_scan, tokensFrom_eq_scan, Position.walk_shift]
  cases (r.scan order cs).failure with
  | none =>
    simp only [placed_shift, Except.map, Except.mapError, List.map_append, List.map_cons,
      List.map_nil]
    congr 3
    simp only [endToken, Token.shift, Token.mk.injEq, byteLength_append, true_and, and_true]
    omega
  | some f =>
    simp only [Failure.toError, Position.walk_shift]
    rfl

end Shift

/-! ## A newline behind the text -/

theorem Position.between_append_newline (before after more : List Char) :
    between before (after ++ '\n' :: more) = between before after := by
  have hline : (after ++ '\n' :: more).takeWhile notNewline = after.takeWhile notNewline :=
    (takeWhile_extend fun _ d hd => by cases hd; rfl).1
  rw [between, hline, between]

theorem Position.start_append_newline (text more : List Char) :
    start (text ++ '\n' :: more) = start text := by
  rw [start_eq_between, start_eq_between, between_append_newline]

theorem placed_append_newline {text before after more : List Char} {ls : List Lexeme}
    (h : text = before ++ (takenBy ls ++ after)) :
    placed (text ++ '\n' :: more) (.between before (takenBy ls ++ after)) ls =
      placed text (.between before (takenBy ls ++ after)) ls := by
  induction ls generalizing before with
  | nil => rfl
  | cons l ls ih =>
    rw [takenBy_cons, List.append_assoc] at h ⊢
    have hlonger : text ++ '\n' :: more =
        before ++ (l.taken ++ (takenBy ls ++ after ++ '\n' :: more)) := by
      rw [h, List.append_assoc, List.append_assoc]
    have hwalk : (Position.between before (l.taken ++ (takenBy ls ++ after))).walk
        (text ++ '\n' :: more) l.taken =
        .between (before ++ l.taken) (takenBy ls ++ after) := by
      rw [← Position.between_append_newline before _ more, List.append_assoc,
        Position.walk_between _ hlonger, Position.between_append_newline]
    rw [placed, placed, hwalk, Position.walk_between _ h,
      ih (h.trans (List.append_assoc ..).symm)]

/-- Behind a newline all counts start anew, so the position is the shifted one of the start. -/
theorem Position.between_newline (front text : List Char) :
    between (front ++ ['\n']) text =
      (start text).shift (byteLength front + 1) (front.count '\n' + 1) := by
  have hbytes : byteLength (front ++ ['\n']) = byteLength front + 1 := by
    rw [byteLength_append]
    rfl
  rw [start_eq_between]
  simp [between, shift, hbytes, List.rtakeWhile_concat_neg, List.rdropWhile_concat_neg]
  omega

theorem Position.walk_start_newline (text more : List Char) :
    (start text).walk (text ++ '\n' :: more) (text ++ ['\n']) =
      (start more).shift (byteLength text + 1) (text.count '\n' + 1) := by
  have hsplit : text ++ '\n' :: more = (text ++ ['\n']) ++ more := by
    rw [List.append_assoc, List.singleton_append]
  rw [← start_append_newline text more, walk_start hsplit, between_newline]

namespace Rules
variable {r : Rules} {text : List Char} {c : Char} {cs : List Char}

/-! ## Whitespace that is left out -/

theorem lexeme_of_whitespace (hc : r.whitespace.chars.contains c = true) (cs : List Char) :
    r.lexeme CharClass.precedence c cs = .ok (r.whitespaceLexeme c cs) := by
  have hfind : CharClass.precedence.find? (r.belongs c) = some .whitespace :=
    List.find?_cons_of_pos hc
  rw [lexeme, hfind]
  rfl

theorem tokensFrom_dropWhile (hkeep : r.whitespace.keep = false) (text : List Char) (p : Position)
    (cs : List Char) :
    r.tokensFrom CharClass.precedence text p cs =
      r.tokensFrom CharClass.precedence text
        (p.walk text (cs.takeWhile r.whitespace.chars.contains))
        (cs.dropWhile r.whitespace.chars.contains) := by
  cases cs with
  | nil => rfl
  | cons c cs =>
    by_cases hc : r.whitespace.chars.contains c = true
    · have hsilent : (r.whitespaceLexeme c cs).token? p = none := by
        simp [whitespaceLexeme, runLexeme, Lexeme.token?, hkeep]
      rw [tokensFrom_of_ok (lexeme_of_whitespace hc cs), hsilent]
      simp only [Option.toList_none, List.nil_append, List.takeWhile_cons_of_pos hc,
        List.dropWhile_cons_of_pos hc]
      exact congrFun Except.map_id _
    · simp [hc]

/-- Whitespace that is left out only moves the position. -/
theorem tokensFrom_skip (hkeep : r.whitespace.keep = false) {skipped : List Char}
    (hskipped : ∀ d ∈ skipped, r.whitespace.chars.contains d = true) (text : List Char)
    (p : Position) (cs : List Char) :
    r.tokensFrom CharClass.precedence text p (skipped ++ cs) =
      r.tokensFrom CharClass.precedence text (p.walk text skipped) cs := by
  rw [tokensFrom_dropWhile hkeep, tokensFrom_dropWhile hkeep text (p.walk text skipped) cs,
    List.takeWhile_append_of_pos hskipped, List.dropWhile_append_of_pos hskipped,
    Position.walk_append]

/-! ## Joined texts -/

/-- A newline that is whitespace and means nothing to numbers ends every other lexeme. -/
theorem ends_newline (hv : r.validate = .ok ()) (hw : r.whitespace.chars.contains '\n' = true)
    (hs : r.numbers.separator ≠ some '\n')
    (hb : ∀ e ∈ r.numbers.bases.entries, '\n' ∉ e.2.digits.toList) {cls : CharClass}
    (hcls : cls ≠ .whitespace) : r.Ends '\n' cls := by
  cases cls with
  | whitespace => exact absurd rfl hcls
  | quote | delimiter => trivial
  | letter => exact isWordChar_newline
  | operator =>
    refine ⟨?_, rfl⟩
    apply Bool.eq_false_iff.2
    intro ho
    cases (charClass_of_validate hv).2 .whitespace .operator '\n' hw ho
  | digit =>
    have hbase : r.numbers.base? '\n' = none := by
      rw [NumberRules.base?, Option.map_eq_none_iff, List.find?_eq_none]
      intro e he hsame
      have hletter := isAlphabetic_of_mem_bases hv he
      rw [eq_of_sameLetter rfl hsame] at hletter
      cases hletter
    have hdigit : ∀ e ∈ r.numbers.bases.entries, e.2.accepts '\n' = false := fun e he =>
      Bool.eq_false_iff.2 fun haccepts => hb e he (mem_digits_of_accepts rfl haccepts)
    have hseparator : r.isSeparator '\n' = false := beq_eq_false_iff_ne.2 hs
    exact ⟨by simp [isBoundary, hw], isWordChar_newline, hseparator, by decide, hbase, hdigit⟩

/-- One lexeme is taken as it would be without the newline and what follows. -/
theorem tokensFrom_lexeme_newline (hkeep : r.whitespace.keep = false)
    (hends : ∀ cls, cls ≠ .whitespace → r.Ends '\n' cls) {l : Lexeme}
    (hl : r.lexeme CharClass.precedence c cs = .ok l) (text more : List Char) (p : Position) :
    r.tokensFrom CharClass.precedence text p (c :: (cs ++ '\n' :: more)) =
      (r.tokensFrom CharClass.precedence text (p.walk text l.taken) (l.rest ++ '\n' :: more)).map
        ((l.token? p).toList ++ ·) := by
  by_cases hc : r.whitespace.chars.contains c = true
  · -- the whitespace may go on behind the newline, so the lexeme itself is another one
    obtain rfl : r.whitespaceLexeme c cs = l :=
      Except.ok.inj ((lexeme_of_whitespace hc cs).symm.trans hl)
    have hsplit : (r.whitespaceLexeme c cs).taken ++ (r.whitespaceLexeme c cs).rest = c :: cs :=
      (lexeme_splits hl).1
    have hall : ∀ d ∈ (r.whitespaceLexeme c cs).taken, r.whitespace.chars.contains d = true := by
      intro d hd
      rcases List.mem_cons.1 hd with rfl | hd
      · exact hc
      · exact List.all_eq_true.1 (List.all_takeWhile ..) d hd
    have hsilent : (r.whitespaceLexeme c cs).token? p = none := by
      simp [whitespaceLexeme, runLexeme, Lexeme.token?, hkeep]
    rw [← List.cons_append, ← hsplit, List.append_assoc, tokensFrom_skip hkeep hall, hsilent]
    exact (congrFun Except.map_id _).symm
  · have hextend : r.lexeme CharClass.precedence c (cs ++ '\n' :: more) =
        .ok (l.extend ('\n' :: more)) := by
      apply lexeme_extend hl
      intro _ d hd cls hcls
      cases hd
      apply hends
      rintro rfl
      have hbelongs : r.belongs c .whitespace = true := List.find?_some hcls
      exact hc hbelongs
    rw [tokensFrom_of_ok hextend]
    rfl

/-- Scanning goes through a text and the newline behind it, and then on with the rest. -/
theorem tokensFrom_newline (hkeep : r.whitespace.keep = false)
    (hw : r.whitespace.chars.contains '\n' = true)
    (hends : ∀ cls, cls ≠ .whitespace → r.Ends '\n' cls) (text more : List Char) (p : Position)
    (h : (r.scan CharClass.precedence cs).failure = none) :
    r.tokensFrom CharClass.precedence text p (cs ++ '\n' :: more) =
      (r.tokensFrom CharClass.precedence text (p.walk text (cs ++ ['\n'])) more).map
        (placed text p (r.scan CharClass.precedence cs).lexemes ++ ·) := by
  fun_induction scan r CharClass.precedence cs generalizing p with
  | case1 =>
    have hnewline : ∀ d ∈ ['\n'], r.whitespace.chars.contains d = true := by
      intro d hd
      rwa [List.mem_singleton.1 hd]
    have hskip := tokensFrom_skip hkeep hnewline text p more
    rw [List.nil_append, ← List.singleton_append, hskip]
    exact (congrFun Except.map_id _).symm
  | case2 => cases h
  | case3 c rest l hl _ s ih =>
    have hwalk : p.walk text (c :: rest ++ ['\n']) =
        (p.walk text l.taken).walk text (l.rest ++ ['\n']) := by
      rw [← (lexeme_splits hl).1, List.append_assoc, Position.walk_append]
    rw [List.cons_append, tokensFrom_lexeme_newline hkeep hends hl, ih _ h, hwalk]
    cases r.tokensFrom CharClass.precedence text
      ((p.walk text l.taken).walk text (l.rest ++ ['\n'])) more with
    | error e => rfl
    | ok tokens => simp [Except.map, placed, s]

end Rules

/-- The tokens of two texts joined by a newline are those of the first, without the one for its
end, and those of the second behind the first text and the newline. An error of the second is
shifted alike. -/
theorem tokenize_joined {r : Rules} (hv : r.validate = .ok ())
    (hw : r.whitespace.chars.contains '\n' = true) (hkeep : r.whitespace.keep = false)
    (hs : r.numbers.separator ≠ some '\n')
    (hb : ∀ e ∈ r.numbers.bases.entries, '\n' ∉ e.2.digits.toList) {name a b : String}
    {ts : List Token} (ha : r.tokenize (.loaded name a) = .ok ts) :
    r.tokenize (.loaded name (a ++ "\n" ++ b)) =
      match r.tokenize (.loaded name b) with
      | .ok us => .ok (ts.dropLast ++
          us.map (Token.shift (byteLength a.toList + 1) (a.toList.count '\n' + 1)))
      | .error e => .error (e.shift (byteLength a.toList + 1) (a.toList.count '\n' + 1)) := by
  obtain ⟨hscan, rfl⟩ := Rules.tokensIn_eq_ok_iff.1 ha
  have hends : ∀ cls, cls ≠ .whitespace → r.Ends '\n' cls :=
    fun cls hcls => Rules.ends_newline hv hw hs hb hcls
  have htext : (a ++ "\n" ++ b).toList = a.toList ++ '\n' :: b.toList := by
    simp
  have hfront : a.toList ++ '\n' :: b.toList = (a.toList ++ ['\n']) ++ b.toList := by
    simp
  have hbytes : byteLength (a.toList ++ ['\n']) = byteLength a.toList + 1 := by
    rw [byteLength_append]
    rfl
  have hplaced : placed (a.toList ++ '\n' :: b.toList) (.start a.toList)
      (r.scan CharClass.precedence a.toList).lexemes =
      placed a.toList (.start a.toList) (r.scan CharClass.precedence a.toList).lexemes := by
    rw [Rules.start_eq_between_scan hscan]
    exact placed_append_newline (Rules.eq_append_takenBy_scan hscan)
  rw [Rules.tokenize_loaded, Rules.tokenize_loaded, Rules.tokensIn, Rules.tokensIn, htext,
    Position.start_append_newline, Rules.tokensFrom_newline hkeep hw hends _ _ _ hscan, hplaced,
    Position.walk_start_newline, ← hbytes, hfront, Rules.tokensFrom_shift, List.dropLast_concat]
  cases r.tokensFrom CharClass.precedence b.toList (.start b.toList) b.toList with
  | error e => rfl
  | ok us => rfl

theorem tokenize_joined_sample :
    ∃ ts us, Rules.sample.tokenize (.loaded "s" "x1\n3 // é") = .ok ts ∧
      Rules.sample.tokenize (.loaded "s" "/*\n*/int 0x1") = .ok us ∧
      ts.length = 3 ∧ us.length = 3 ∧
      Rules.sample.tokenize (.loaded "s" ("x1\n3 // é" ++ "\n" ++ "/*\n*/int 0x1")) =
        .ok (ts.dropLast ++ us.map (Token.shift 11 2)) := by
  have hv : Rules.sample.validate = .ok () := by decide +kernel
  have hb : ∀ e ∈ Rules.sample.numbers.bases.entries, '\n' ∉ e.2.digits.toList := by
    decide +kernel
  have hfirst : (Rules.sample.tokenize (.loaded "s" "x1\n3 // é")).toOption.map List.length =
      some 3 := by decide +kernel
  have hsecond : (Rules.sample.tokenize (.loaded "s" "/*\n*/int 0x1")).toOption.map List.length =
      some 3 := by decide +kernel
  obtain ⟨ts, hts, htsLength⟩ := exists_tokens_of_length hfirst
  obtain ⟨us, hus, husLength⟩ := exists_tokens_of_length hsecond
  have hjoined := tokenize_joined hv (by decide +kernel) rfl (by decide) hb
    (b := "/*\n*/int 0x1") hts
  have hbytes : byteLength "x1\n3 // é".toList + 1 = 11 := by decide +kernel
  have hlines : "x1\n3 // é".toList.count '\n' + 1 = 2 := by decide +kernel
  rw [hus, hbytes, hlines] at hjoined
  exact ⟨ts, us, hts, hus, htsLength, husLength, hjoined⟩

end RuleLexer
