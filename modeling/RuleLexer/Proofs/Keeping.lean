import RuleLexer.Proofs.Markers
import RuleLexer.Proofs.Scan

/-!
# Rules that keep everything

Whitespace and each family of comments become tokens or are left out, as the rules say. When the
rules keep all three, every lexeme has a label and so yields a token.
-/

namespace RuleLexer

/-- Whitespace and the comments of both families become tokens. -/
structure Rules.KeepsAll (r : Rules) : Prop where
  whitespace : r.whitespace.keep = true
  comments : r.comments.keep = true
  documentation : r.documentation.keep = true

def Rules.keepAll (r : Rules) : Rules :=
  { r with
    whitespace := { r.whitespace with keep := true }
    comments := { r.comments with keep := true }
    documentation := { r.documentation with keep := true } }

theorem Rules.keepsAll_keepAll (r : Rules) : r.keepAll.KeepsAll := ⟨rfl, rfl, rfl⟩

namespace Rules
variable {r : Rules} {order : List CharClass} {c : Char} {cs : List Char} {l : Lexeme}

theorem KeepsAll.keep_of_marker? (hr : r.KeepsAll) {run : String} {m : Marker}
    (h : r.marker? run = some m) : m.keep = true := by
  obtain ⟨family, -, -, hkeep⟩ := exists_family_of_marker? h
  rw [hkeep]
  cases family with
  | comment => exact hr.comments
  | document => exact hr.documentation

theorem marker?_keepAll (r : Rules) (run : String) :
    r.keepAll.marker? run = (r.marker? run).map fun m => { m with keep := true } := by
  have hd := r.documentation.marker?_keep true r.kinds.documentation run
  have hc := r.comments.marker?_keep true r.kinds.comment run
  unfold marker?
  dsimp only [keepAll]
  rw [hd, hc]
  cases r.documentation.marker? r.kinds.documentation run with
  | none => rfl
  | some m => rfl

theorem exists_label_of_numberLexeme (h : r.numberLexeme cs = .ok l) :
    ∃ label, l.label = some label ∧ label.kind = r.kinds.number := by
  rw [numberLexeme] at h
  split at h
  · rw [basedLexeme] at h
    split at h
    · cases h
    · dsimp only at h
      split at h
      · cases h
        exact ⟨_, rfl, rfl⟩
      · cases h
  · rw [decimalLexeme] at h
    cases hd : r.splitDecimal .whole cs with
    | error f =>
      rw [hd] at h
      cases h
    | ok d =>
      rw [hd] at h
      cases h
      exact ⟨_, rfl, rfl⟩

theorem KeepsAll.label_of_operatorLexeme (hr : r.KeepsAll) (h : r.operatorLexeme c cs = .ok l) :
    l.label.isSome := by
  rw [operatorLexeme] at h
  dsimp only at h
  split at h
  · cases h
  · split at h
    · next m hm =>
      rw [commentLexeme] at h
      split at h
      · cases h
        rw [hr.keep_of_marker? hm]
        rfl
      · cases h
    · cases h
      rfl

theorem KeepsAll.label_of_lexeme (hr : r.KeepsAll) (h : r.lexeme order c cs = .ok l) :
    l.label.isSome := by
  rw [lexeme] at h
  split at h
  · next cls _ =>
    cases cls with
    | whitespace =>
      cases h
      simp [whitespaceLexeme, runLexeme, hr.whitespace]
    | quote =>
      rw [lexemeOf, stringLexeme] at h
      split at h
      · cases h
      · cases h
        rfl
    | digit =>
      obtain ⟨label, hlabel, -⟩ := exists_label_of_numberLexeme h
      rw [hlabel]
      rfl
    | delimiter =>
      cases h
      rfl
    | operator => exact hr.label_of_operatorLexeme h
    | letter =>
      rw [lexemeOf, wordLexeme] at h
      split at h
      · cases h
      · cases h
        rfl
  · cases h

theorem KeepsAll.label_of_mem_scan (hr : r.KeepsAll) (h : l ∈ (r.scan order cs).lexemes) :
    l.label.isSome := by
  obtain ⟨c, rest, hl⟩ := exists_of_mem_scan h
  exact hr.label_of_lexeme hl

end Rules

end RuleLexer
