import RuleLexer.Proofs.Failures
import RuleLexer.Proofs.Tokens

/-!
# Positions depend on the text and the offset only

Whatever path the scanner took to a place, the position it hands out there is the one that the text
determines at the byte offset, and the line it shows is a whole line of the text.
-/

namespace RuleLexer
open Text

/-- The position is the one at its own offset, and its line is the line of the text that has its
number. -/
structure Position.IsDetermined (p : Position) (s : Source) : Prop where
  inside : p.index ≤ s.size
  cut : IsCut s.chars p.index
  offset : ofOffset? s.chars p.index = some p
  line : ∃ line, p.sourceLine? s = some line ∧
    (s.chars.splitOn '\n')[p.line - 1]? = some line.toList

section Source
variable {r : Rules} {name text : String}

theorem Position.between_isDetermined {before after : List Char}
    (h : text.toList = before ++ after) :
    (between before after).IsDetermined (.loaded name text) := by
  have hcut : IsCut text.toList (byteLength before) := ⟨before, after, h, rfl⟩
  refine ⟨hcut.le_byteLength, hcut, ?_, sourceLine?_between h⟩
  rw [Source.chars_loaded, h]
  exact ofOffset?_byteLength before after

theorem location_isDetermined {order : List CharClass} {tokens : List Token} {t : Token}
    (h : r.tokensIn order text.toList = .ok tokens) (ht : t ∈ tokens) :
    t.location.index = t.start ∧ t.location.IsDetermined (.loaded name text) := by
  obtain ⟨before, part, after, htext, hat⟩ := Rules.standsAt_of_tokensIn h ht
  rw [hat.location, hat.start]
  exact ⟨rfl, Position.between_isDetermined htext⟩

/-- The failure of a scan is reported at the place it points to. -/
theorem exists_between_of_error {order : List CharClass} {e : LexError}
    (h : r.tokensIn order text.toList = .error e) :
    ∃ before after, text.toList = before ++ after ∧ e.position = .between before after ∧
      e.ch = if e.kind = .unterminatedComment then none else after.head? := by
  obtain ⟨f, hf, rfl⟩ := Rules.tokensIn_eq_error_iff.1 h
  obtain ⟨c, rest, htext, hlexeme⟩ := Rules.scan_failure hf
  obtain ⟨after, hafter, hch⟩ := Rules.pointsInto_of_lexeme hlexeme
  rw [hafter] at htext
  exact ⟨_, after, htext.trans (List.append_assoc ..).symm, Failure.toError_position htext, hch⟩

/-- Every position handed out, with a token or with an error, is determined by its offset. An error
names the character at its position, and only an unterminated comment names none. -/
theorem tokenize_positions (r : Rules) (name text : String) :
    match r.tokenize (.loaded name text) with
    | .ok tokens => ∀ t ∈ tokens,
        t.location.index = t.start ∧ t.location.IsDetermined (.loaded name text)
    | .error e => e.position.IsDetermined (.loaded name text) ∧
        e.ch = if e.kind = .unterminatedComment then none
          else (Source.loaded name text).get? e.position.index := by
  cases h : r.tokenize (.loaded name text) with
  | ok tokens =>
    intro t ht
    exact location_isDetermined h ht
  | error e =>
    obtain ⟨before, after, htext, hposition, hch⟩ := exists_between_of_error h
    dsimp only
    rw [hposition, Position.between_index, Source.get?_loaded htext]
    exact ⟨Position.between_isDetermined htext, hch⟩

end Source

end RuleLexer
