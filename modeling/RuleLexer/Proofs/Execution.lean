import RuleLexer.Proofs.LexemePasses
import RuleLexer.Proofs.NumberPasses

/-!
# The passes carry out the scan

A pass of the driver hands over to the loop of the next lexeme, and the loop comes back to it behind
the lexeme that the scanner takes. So the stages of a scan end with the tokens that the scanners
give, whatever the rules are.
-/

namespace RuleLexer
open Text
open Cursor (between between_position between_ch slice_between advance_cons advance_nil)
open Pass (LeadsTo)

variable {r : Rules} {text before front back cs : List Char} {c : Char} {start : Position}

namespace Rules

/-! ## The driver -/

/-- The scanner of a class and the passes behind `enter` settle on the same lexeme. -/
theorem leadsTo_enter {cls : CharClass} (hc : r.belongs c cls) (htext : text = before ++ c :: cs)
    (hstart : start = .between before (c :: cs)) :
    LeadsTo r text start (r.enter text (between before (c :: cs)) c cls)
      (settle text before (c :: cs) (Lexeme.pass before) (r.lexemeOf c cs cls)) := by
  have hbehind : text = before ++ [c] ++ cs := by rw [htext, List.append_cons]
  have hadvance : (between before (c :: cs)).advance text = _ := advance_cons htext
  cases cls with
  | whitespace => exact leadsTo_whitespace hc htext
  | quote =>
    have hstring := leadsTo_string (r := r) start c hbehind
    rw [enter, hadvance, lexemeOf, stringLexeme]
    cases hsplit : splitAtQuote r.strings.escape c cs with
    | none =>
      rw [hsplit] at hstring
      rw [hstart] at hstring ⊢
      exact hstring
    | some parts =>
      obtain ⟨body, rest⟩ := parts
      have htaken : before ++ c :: body = before ++ [c] ++ body := List.append_cons ..
      rw [hsplit] at hstring
      dsimp only
      rw [settle, Lexeme.pass, htaken]
      exact hstring
  | digit => exact leadsTo_number htext
  | delimiter =>
    have hslice : (between (before ++ [c]) cs).slice text (byteLength before) = [c] :=
      slice_between htext
    rw [enter, hadvance, between_position, Position.between_index, hslice]
    exact .done _ _
  | operator => exact leadsTo_operator hc htext hstart
  | letter => exact leadsTo_word hc htext hstart

/-- A pass of the driver starts the passes that settle on the next lexeme. -/
theorem leadsTo_lexeme (htext : text = before ++ c :: cs) :
    ∃ p, (∀ tokens, r.pass text (.driver (between before (c :: cs)) tokens) =
        stageOf (.between before (c :: cs)) tokens p) ∧
      LeadsTo r text (.between before (c :: cs)) p
        (settle text before (c :: cs) (Lexeme.pass before)
          (r.lexeme CharClass.precedence c cs)) := by
  rw [lexeme]
  cases hfind : CharClass.precedence.find? (r.belongs c) with
  | some cls =>
    refine ⟨_, fun tokens => ?_, leadsTo_enter (List.find?_some hfind) htext rfl⟩
    rw [pass, between_ch, List.head?_cons]
    dsimp only
    rw [hfind]
    rfl
  | none =>
    refine ⟨_, fun tokens => ?_, .failed _⟩
    rw [pass, between_ch, List.head?_cons]
    dsimp only
    rw [hfind]
    rfl

/-! ## The whole scan -/

theorem exists_iterate_of_leadsTo {p p' : Pass} (h : LeadsTo r text start p p')
    (tokens : List Token) :
    ∃ n, (r.next text)^[n] (stageOf start tokens p) = stageOf start tokens p' := by
  induction h with
  | done k label => exact ⟨0, rfl⟩
  | failed e => exact ⟨0, rfl⟩
  | again h ih =>
    obtain ⟨n, hn⟩ := ih
    exact ⟨n + 1, hn⟩

theorem token_between (label : Label) (before part after : List Char) :
    (between (before ++ part) after).token (.between before (part ++ after)) label =
      label.over before part after := by
  simp [Cursor.token, Label.over, byteLength_append]

/-- Behind a lexeme the driver has its token, if it yields one. -/
theorem stageOf_pass (tokens : List Token) (taken rest : List Char) (label : Option Label) :
    stageOf (.between before (taken ++ rest)) tokens (Lexeme.pass before ⟨taken, rest, label⟩) =
      .inr (.driver (between (before ++ taken) rest)
        (tokens ++ (label.map (·.over before taken rest)).toList)) := by
  simp only [Lexeme.pass, stageOf, funext (token_between · before taken rest)]

/-- From one character on, the passes come to the end of the lexeme that starts there. -/
theorem exists_iterate_eq_lexeme (htext : text = before ++ c :: cs) (tokens : List Token) :
    ∃ n, (r.next text)^[n] (.inr (.driver (between before (c :: cs)) tokens)) =
      stageOf (.between before (c :: cs)) tokens
        (settle text before (c :: cs) (Lexeme.pass before)
          (r.lexeme CharClass.precedence c cs)) := by
  obtain ⟨p, hpass, hleads⟩ := leadsTo_lexeme (r := r) htext
  obtain ⟨n, hn⟩ := exists_iterate_of_leadsTo hleads tokens
  refine ⟨n + 1, ?_⟩
  rw [Function.iterate_succ_apply, next, hpass, hn]

/-- From a cut of the text on, the passes give the tokens of the rest. -/
theorem exists_iterate_eq_tokensBehind (htext : text = before ++ cs) (tokens : List Token) :
    ∃ n, (r.next text)^[n] (.inr (.driver (between before cs) tokens)) =
      .inl ((r.tokensBehind before cs).map (tokens ++ ·)) := by
  -- what is left gets shorter with each lexeme, whatever its class
  induction hlength : cs.length using Nat.strong_induction_on generalizing before cs tokens with
  | _ length ih =>
    cases cs with
    | nil =>
      refine ⟨1, ?_⟩
      rw [tokensBehind_nil, htext, List.append_nil]
      rfl
    | cons c cs =>
      obtain ⟨n, hn⟩ := exists_iterate_eq_lexeme (r := r) htext tokens
      cases hlexeme : r.lexeme CharClass.precedence c cs with
      | error f =>
        refine ⟨n, ?_⟩
        rw [hn, hlexeme, tokensBehind, tokensFrom_of_error hlexeme, ← htext]
        rfl
      | ok l =>
        obtain ⟨taken, rest, label⟩ := l
        have hcs : taken ++ rest = c :: cs := (lexeme_splits hlexeme).1
        have hlt : rest.length < length := hlength ▸ (lexeme_splits hlexeme).length_rest_lt
        have hrest : text = before ++ taken ++ rest := by rw [htext, List.append_assoc, hcs]
        obtain ⟨m, hm⟩ := ih rest.length hlt hrest
          (tokens ++ (label.map (·.over before taken rest)).toList) rfl
        refine ⟨m + n, ?_⟩
        rw [Function.iterate_add_apply, hn, hlexeme, settle, ← hcs, stageOf_pass, hm, hcs,
          tokensBehind_of_ok hlexeme]
        cases r.tokensBehind (before ++ taken) rest with
        | error e => rfl
        | ok after => exact congrArg (fun ts => Sum.inl (Except.ok ts)) (List.append_assoc ..)

/-- The stages of a scan end with its tokens, or with its error. -/
theorem exists_stage_eq_tokenize (r : Rules) (name text : String) :
    ∃ n, r.stage text.toList n = .inl (r.tokenize (.loaded name text)) := by
  obtain ⟨n, hn⟩ := exists_iterate_eq_tokensBehind (r := r) (List.nil_append text.toList).symm []
  refine ⟨n, ?_⟩
  rw [stage, Cursor.start_eq_between, hn, tokenize_eq_tokensBehind]
  cases r.tokensBehind [] text.toList with
  | error e => rfl
  | ok tokens => rfl

end Rules

end RuleLexer
