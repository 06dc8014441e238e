import RuleLexer.Proofs.Comments
import RuleLexer.Proofs.Settling

/-!
# Passes over words, operators, comments and strings

The loops of these lexemes settle on what their scanners take. A block comment is cut off where the
text behind its opening ends with the closing marker for the first time.
-/

namespace RuleLexer
open Text
open Cursor (between between_position between_ch slice_between advance_cons advance_nil)
open Pass (LeadsTo)

variable {r : Rules} {text before front back cs : List Char} {c : Char} {start : Position}

namespace Rules

/-! ## Whitespace and words -/

theorem leadsTo_whitespace (hc : r.belongs c .whitespace) (htext : text = before ++ c :: cs) :
    LeadsTo r text start (.again .whitespace (between before (c :: cs)))
      ((r.whitespaceLexeme c cs).pass before) := by
  let p := r.whitespace.chars.contains
  let label : Option Label :=
    if r.whitespace.keep then some ⟨r.kinds.whitespace, "", 10, ""⟩ else none
  have hpass (k : Cursor) : r.loopPass text start k .whitespace =
      if k.ch.any p then .again .whitespace (k.advance text) else .done k label := rfl
  have hc' : p c := hc
  have hrun := leadsTo_takeWhile hpass htext
  rwa [List.takeWhile_cons_of_pos hc', List.dropWhile_cons_of_pos hc'] at hrun

theorem leadsTo_word (hc : isAlphabetic c) (htext : text = before ++ c :: cs)
    (hstart : start = .between before (c :: cs)) :
    LeadsTo r text start (.again (.word 0) (between before (c :: cs)))
      (settle text before (c :: cs) (Lexeme.pass before) (r.wordLexeme c cs)) := by
  have hcounts : Counts r text start isWordChar r.words.maxLength .word
      (.identifierTooLong r.words.maxLength)
      (fun k => .done k (some (r.wordLabel (String.ofList (k.slice text start.index))))) :=
    fun _ _ => rfl
  have hslice : (between (before ++ c :: cs.takeWhile isWordChar)
      (cs.dropWhile isWordChar)).slice text start.index = c :: cs.takeWhile isWordChar := by
    rw [hstart, Position.between_index, slice_between]
    rw [htext, List.cons_append, List.takeWhile_append_dropWhile]
  rw [wordLexeme]
  refine hcounts.leadsTo (isWordChar_of_isAlphabetic hc) htext (fun hlong => ?_) fun hshort => ?_
  · rw [if_pos hlong]
    rfl
  · rw [if_neg (Nat.not_lt.2 hshort), hslice]
    exact .done _ _

/-! ## Operators and comments -/

section Blocks
variable {mark body rest seen : List Char}

/-- The body of a block is the shortest text that ends with the closing marker, but for the empty
one. -/
theorem suffix_iff_of_splitBehind (h : splitBehind mark cs = some (body, rest)) :
    body ≠ [] ∧ ∀ q, q ≠ [] → q <+: body → (mark <:+ q ↔ q = body) := by
  by_cases hmark : mark = []
  · subst hmark
    cases cs with
    | nil => cases h
    | cons c cs =>
      obtain ⟨rfl, rfl⟩ : [c] = body ∧ cs = rest := by simpa [splitBehind] using h
      refine ⟨List.cons_ne_nil _ _, fun q hq hfront => ?_⟩
      have hwhole : q = [c] := by
        rcases List.prefix_cons_iff.1 hfront with rfl | ⟨tail, rfl, htail⟩
        · exact absurd rfl hq
        · rw [List.prefix_nil.1 htail]
      exact iff_of_true (List.nil_suffix) hwhole
  · obtain ⟨front, rfl, hfirst⟩ := firstBetween_of_splitBehind hmark h
    refine ⟨by simp [hmark], fun q _ hfront => ⟨?_, ?_⟩⟩
    · rintro ⟨front', rfl⟩
      obtain ⟨tail, htail⟩ := hfront
      have hle : front.length ≤ front'.length := by
        refine hfirst.first front' (tail ++ rest) ?_
        rw [hfirst.split, ← List.append_assoc, ← htail]
        simp
      have hlength := congrArg List.length htail
      simp only [List.length_append] at hlength
      rw [← htail, List.eq_nil_of_length_eq_zero (by omega : tail.length = 0), List.append_nil]
    · rintro rfl
      exact List.suffix_append _ _

theorem not_suffix_of_splitBehind (h : splitBehind mark cs = none) {q : List Char} (hq : q ≠ [])
    (hfront : q <+: cs) : ¬ mark <:+ q := by
  intro hsuffix
  by_cases hmark : mark = []
  · subst hmark
    cases cs with
    | nil => exact hq (List.prefix_nil.1 hfront)
    | cons c cs => simp [splitBehind] at h
  · exact (splitBehind_eq_none_iff hmark).1 h (hsuffix.isInfix.trans hfront.isInfix)

theorem blockPass_between (start : Position) (m : Marker) (closing : String)
    (htext : text = front ++ (seen ++ c :: cs)) :
    blockPass text start (between (front ++ seen) (c :: cs)) m closing (byteLength front) =
      if closing.toList <:+ seen ++ [c] then
        .done (between (front ++ (seen ++ [c])) cs) (commentLabel m)
      else
        .again (.blockComment m closing (byteLength front))
          (between (front ++ (seen ++ [c])) cs) := by
  have hadvance : (between (front ++ seen) (c :: cs)).advance text =
      between (front ++ (seen ++ [c])) cs := by
    rw [advance_cons (by rw [htext, List.append_assoc]), List.append_assoc]
  have hslice : (between (front ++ (seen ++ [c])) cs).slice text (byteLength front) =
      seen ++ [c] := slice_between (by rw [htext]; simp)
  rw [blockPass, between_ch, List.head?_cons]
  dsimp only
  rw [hadvance, hslice]
  simp only [List.isSuffixOf_iff_suffix]

/-- The loop of a block ends behind the first text that ends with the closing marker. -/
theorem leadsTo_closed (start : Position) (m : Marker) {closing : String}
    (htext : text = front ++ (seen ++ (body ++ rest))) (hbody : body ≠ [])
    (hfirst : ∀ q, q ≠ [] → q <+: body → (closing.toList <:+ seen ++ q ↔ q = body)) :
    LeadsTo r text start
      (.again (.blockComment m closing (byteLength front)) (between (front ++ seen) (body ++ rest)))
      (.done (between (front ++ (seen ++ body)) rest) (commentLabel m)) := by
  -- `seen` is what the loop has passed of the comment; the marker may have started in it
  induction body generalizing seen with
  | nil => exact absurd rfl hbody
  | cons c body ih =>
    rw [List.cons_append] at htext ⊢
    have hpass := blockPass_between start m closing htext
    have hbehind : text = front ++ ((seen ++ [c]) ++ (body ++ rest)) := by rw [htext]; simp
    have hhead := hfirst [c] (List.cons_ne_nil _ _) (List.cons_prefix_cons.2 ⟨rfl, List.nil_prefix⟩)
    refine .of_eq hpass ?_
    by_cases hend : body = []
    · subst hend
      rw [if_pos (hhead.2 rfl)]
      exact .done _ _
    · rw [if_neg (fun hsuffix => hend (List.cons.inj (hhead.1 hsuffix)).2.symm)]
      have hnext := ih hbehind hend fun q hq hfront => ?_
      · rwa [List.append_assoc, List.singleton_append] at hnext
      · have hlonger := hfirst (c :: q) (List.cons_ne_nil _ _)
          (List.cons_prefix_cons.2 ⟨rfl, hfront⟩)
        rwa [List.append_cons, List.cons.injEq, and_iff_right rfl] at hlonger

/-- The loop of a block that is not closed comes to the end of the text. -/
theorem leadsTo_open (r : Rules) (start : Position) (m : Marker) {closing : String}
    (htext : text = front ++ (seen ++ cs))
    (hopen : ∀ q, q ≠ [] → q <+: cs → ¬ closing.toList <:+ seen ++ q) :
    LeadsTo r text start
      (.again (.blockComment m closing (byteLength front)) (between (front ++ seen) cs))
      (.failed ⟨.unterminatedComment, none, start, some s!"expected {quoteString closing}"⟩) := by
  induction cs generalizing seen with
  | nil => exact .again (.failed _)
  | cons c cs ih =>
    have hpass := blockPass_between start m closing htext
    have hbehind : text = front ++ ((seen ++ [c]) ++ cs) := by rw [htext]; simp
    rw [if_neg (hopen [c] (List.cons_ne_nil _ _)
      (List.cons_prefix_cons.2 ⟨rfl, List.nil_prefix⟩))] at hpass
    refine .of_eq hpass (ih hbehind fun q hq hfront => ?_)
    have hlonger := hopen (c :: q) (List.cons_ne_nil _ _) (List.cons_prefix_cons.2 ⟨rfl, hfront⟩)
    rwa [List.append_cons] at hlonger

end Blocks

/-- Behind a run that is a marker the pass goes over to the comment and comes to its end. -/
theorem leadsTo_comment {run : List Char} {m : Marker}
    (hmarker : r.marker? (String.ofList run) = some m) (htext : text = before ++ (run ++ cs))
    (hstart : start = .between before (run ++ cs)) :
    LeadsTo r text start (r.operatorDone text start (between (before ++ run) cs))
      (settle text before (run ++ cs) (Lexeme.pass before) (commentLexeme m run cs)) := by
  have hslice : (between (before ++ run) cs).slice text start.index = run := by
    rw [hstart, Position.between_index, slice_between htext]
  have hbehind : text = before ++ run ++ ([] ++ cs) := by rw [htext]; simp
  rw [operatorDone, hslice, hmarker, commentLexeme, Marker.splitBody]
  dsimp only
  cases hclosing : m.closing with
  | none =>
    have hpass (k : Cursor) : r.loopPass text start k (.lineComment m) =
        if k.ch.any (· != '\n') then .again (.lineComment m) (k.advance text)
        else .done k (commentLabel m) := rfl
    have hline := leadsTo_takeWhile hpass hbehind
    rw [settle, Lexeme.pass, ← List.append_assoc]
    exact hline
  | some closing =>
    dsimp only
    rw [between_position, Position.between_index]
    cases hsplit : splitBehind closing.toList cs with
    | none =>
      have hopen := leadsTo_open r start m hbehind
        fun q hq hfront => not_suffix_of_splitBehind hsplit hq hfront
      rw [List.append_nil] at hopen
      rw [hstart] at hopen ⊢
      exact hopen
    | some parts =>
      obtain ⟨body, rest⟩ := parts
      obtain ⟨hbody, hfirst⟩ := suffix_iff_of_splitBehind hsplit
      rw [← splitBehind_append hsplit] at hbehind ⊢
      have hclosed := leadsTo_closed (r := r) start m hbehind hbody hfirst
      rw [settle, Lexeme.pass, ← List.append_assoc]
      rw [List.append_nil] at hclosed
      exact hclosed

theorem leadsTo_operator (hc : r.belongs c .operator) (htext : text = before ++ c :: cs)
    (hstart : start = .between before (c :: cs)) :
    LeadsTo r text start (.again (.operator 0) (between before (c :: cs)))
      (settle text before (c :: cs) (Lexeme.pass before) (r.operatorLexeme c cs)) := by
  let p := r.operators.chars.contains
  have hcounts : Counts r text start p r.operators.maxLength .operator
      (.operatorTooLong r.operators.maxLength) (r.operatorDone text start) := fun _ _ => rfl
  have hsplit : c :: cs = c :: cs.takeWhile p ++ cs.dropWhile p := by
    rw [List.cons_append, List.takeWhile_append_dropWhile]
  rw [operatorLexeme]
  refine hcounts.leadsTo hc htext (fun hlong => ?_) fun hshort => ?_
  · rw [if_pos hlong]
    rfl
  · rw [if_neg (Nat.not_lt.2 hshort)]
    rw [hsplit] at htext hstart ⊢
    cases hmarker : r.marker? (String.ofList (c :: cs.takeWhile p)) with
    | some m => exact leadsTo_comment hmarker htext hstart
    | none =>
      rw [operatorDone, hstart, Position.between_index, slice_between htext, hmarker]
      exact .done _ _

/-! ## Strings -/

/-- Behind the opening quote the loop comes to the closing one, or to the end of the text. -/
theorem leadsTo_string (start : Position) (quote : Char) (htext : text = front ++ cs) :
    LeadsTo r text start (.again (.string quote) (between front cs))
      (match splitAtQuote r.strings.escape quote cs with
        | none => .failed ⟨.unterminatedString, some quote, start, none⟩
        | some (body, rest) => .done (between (front ++ body) rest)
            (some ⟨r.kinds.string, (r.strings.subkind? quote).getD "", 10, ""⟩)) := by
  have hfailed {front : List Char} :
      LeadsTo r text start (.again (.string quote) (between front []))
        (.failed ⟨.unterminatedString, some quote, start, none⟩) := .again (.failed _)
  have hpass (front : List Char) (c : Char) (cs : List Char) :
      r.loopPass text start (between front (c :: cs)) (.string quote) = _ := rfl
  fun_induction splitAtQuote r.strings.escape quote cs generalizing front with
  | case1 => exact hfailed
  | case2 c hescape =>
    refine .of_eq ((hpass front c []).trans (if_pos hescape)) ?_
    rw [advance_cons htext, advance_nil]
    exact hfailed
  | case3 c hescape d ds ih =>
    have hbehind : text = front ++ [c] ++ d :: ds := by rw [htext, List.append_cons]
    refine .of_eq ((hpass front c (d :: ds)).trans (if_pos hescape)) ?_
    rw [advance_cons htext, advance_cons hbehind]
    have hbehind' : text = front ++ [c] ++ [d] ++ ds := by rw [hbehind, List.append_cons]
    have hnext := ih hbehind'
    cases hsplit : splitAtQuote r.strings.escape quote ds <;> simpa [hsplit] using hnext
  | case4 cs hescape =>
    refine .of_eq ((hpass front quote cs).trans ((if_neg hescape).trans (if_pos rfl))) ?_
    rw [advance_cons htext]
    exact .done _ _
  | case5 c cs hescape hquote ih =>
    have hbehind : text = front ++ [c] ++ cs := by rw [htext, List.append_cons]
    refine .of_eq ((hpass front c cs).trans ((if_neg hescape).trans (if_neg hquote))) ?_
    rw [advance_cons htext]
    have hnext := ih hbehind
    cases hsplit : splitAtQuote r.strings.escape quote cs <;> simpa [hsplit] using hnext

end Rules

end RuleLexer
