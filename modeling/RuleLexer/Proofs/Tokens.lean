import RuleLexer.Proofs.Place
import RuleLexer.Proofs.Scan

/-!
# Where tokens stand

The tokens of a scan stand at their lexemes: between the text of the lexemes before and the text
behind, at the position of that cut, and with the characters of their own lexeme as value.
-/

namespace RuleLexer
open Text

/-- The token covers `part`, which follows `before` in the text and is followed by `after`. -/
structure Token.StandsAt (t : Token) (before part after : List Char) : Prop where
  start : t.start = byteLength before
  stop : t.stop = byteLength before + byteLength part
  location : t.location = .between before (part ++ after)

theorem Token.StandsAt.slice {t : Token} {name text : String} {before part after : List Char}
    (h : t.StandsAt before part after) (htext : text.toList = before ++ (part ++ after)) :
    (Source.loaded name text).slice? t.start t.stop = some (String.ofList part) := by
  rw [h.start, h.stop]
  exact Source.slice?_loaded htext

theorem Token.StandsAt.value {t : Token} {name text : String} {before part after : List Char}
    (h : t.StandsAt before part after) (htext : text.toList = before ++ (part ++ after)) :
    t.value (.loaded name text) = String.ofList part := by
  rw [Token.value, h.slice htext, Option.getD_some]

theorem Lexeme.token?_standsAt {l : Lexeme} {t : Token} {before after : List Char}
    (h : l.token? (.between before (l.taken ++ after)) = some t) :
    t.StandsAt before l.taken after :=
  ⟨start_of_token? h, stop_of_token? h, location_of_token? h⟩

/-- A token among others is that of a lexeme, at the place behind the lexemes before it. -/
theorem token?_of_mem_placed {text rest : List Char} {ls : List Lexeme} {t : Token}
    (htext : text = takenBy ls ++ rest) (ht : t ∈ placed text (.start text) ls) :
    ∃ before l after, ls = before ++ l :: after ∧
      text = takenBy before ++ (l.taken ++ (takenBy after ++ rest)) ∧
      l.token? (.between (takenBy before) (l.taken ++ (takenBy after ++ rest))) = some t := by
  obtain ⟨before, l, after, rfl, hl⟩ := mem_placed_iff.1 ht
  have hsplit : text = takenBy before ++ (l.taken ++ (takenBy after ++ rest)) := by
    simp [htext]
  rw [Position.walk_start hsplit] at hl
  exact ⟨before, l, after, rfl, hsplit, hl⟩

theorem standsAt_of_mem_placed {text rest : List Char} {ls : List Lexeme} {t : Token}
    (htext : text = takenBy ls ++ rest) (ht : t ∈ placed text (.start text) ls) :
    ∃ before l after, ls = before ++ l :: after ∧
      t.StandsAt (takenBy before) l.taken (takenBy after ++ rest) := by
  obtain ⟨before, l, after, hls, -, hl⟩ := token?_of_mem_placed htext ht
  exact ⟨before, l, after, hls, Lexeme.token?_standsAt hl⟩

/-- An error stands at the characters that its failure counts behind the lexemes before it. -/
theorem Failure.toError_position {f : Failure} {text before after : List Char}
    (h : text = before ++ (f.before ++ after)) :
    (f.toError text ((Position.start text).walk text before)).position =
      .between (before ++ f.before) after := by
  rw [toError, ← Position.walk_append, Position.walk_start (h.trans (List.append_assoc ..).symm)]

namespace Rules
variable {r : Rules} {text : String} {tokens : List Token} {t : Token}

/-- A scan that does not fail starts with nothing before it and leaves nothing behind. -/
theorem eq_append_takenBy_scan {order : List CharClass} {text : List Char}
    (h : (r.scan order text).failure = none) :
    text = [] ++ (takenBy (r.scan order text).lexemes ++ []) := by
  rw [List.nil_append, List.append_nil, takenBy_scan h]

theorem start_eq_between_scan {order : List CharClass} {text : List Char}
    (h : (r.scan order text).failure = none) :
    Position.start text = .between [] (takenBy (r.scan order text).lexemes ++ []) := by
  rw [List.append_nil, takenBy_scan h, Position.start_eq_between]

theorem endToken_standsAt (r : Rules) (text : List Char) :
    (r.endToken text ((Position.start text).walk text text)).StandsAt text [] [] := by
  refine ⟨rfl, rfl, ?_⟩
  exact Position.walk_start (List.append_nil text).symm

theorem endToken_value (r : Rules) (name text : String) :
    (r.endToken text.toList ((Position.start text.toList).walk text.toList text.toList)).value
      (.loaded name text) = "" :=
  (r.endToken_standsAt text.toList).value (by simp)

/-- Each token of a text is the token of a lexeme or the one of the end. -/
theorem standsAt_of_tokensIn {order : List CharClass}
    (h : r.tokensIn order text.toList = .ok tokens) (ht : t ∈ tokens) :
    ∃ before part after, text.toList = before ++ (part ++ after) ∧
      t.StandsAt before part after := by
  obtain ⟨hscan, rfl⟩ := tokensIn_eq_ok_iff.1 h
  have htaken := takenBy_scan hscan
  rcases List.mem_append.1 ht with ht | ht
  · obtain ⟨before, l, after, hls, hat⟩ :=
      standsAt_of_mem_placed (htaken.symm.trans (List.append_nil _).symm) ht
    refine ⟨takenBy before, l.taken, takenBy after ++ [], ?_, hat⟩
    rw [← htaken, hls]
    simp
  · rw [List.mem_singleton] at ht
    subst t
    exact ⟨text.toList, [], [], by simp, r.endToken_standsAt text.toList⟩

@[simp] theorem tokenize_loaded (r : Rules) (name text : String) :
    r.tokenize (.loaded name text) = r.tokensIn CharClass.precedence text.toList := rfl

end Rules

end RuleLexer
