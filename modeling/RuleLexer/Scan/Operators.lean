import RuleLexer.Rules.Basic
import RuleLexer.Scan.Lexeme

/-!
# Operators and comments

An operator is a whole run of operator characters. A run that is a comment marker starts a comment
instead: one that ends with its line, or one that ends with the closing marker of its block.
Documentation is tried before plain comments, and the line form before the block form.
-/

namespace RuleLexer
open Text

/-- What a comment marker stands for. -/
structure Marker where
  kind : String
  subkind : String
  keep : Bool
  /-- The closing marker of a block, none for a comment that ends with its line. -/
  closing : Option String
  deriving DecidableEq

/-- The marker that `run` is in one family of comments. -/
def CommentRules.marker? (r : CommentRules) (kind run : String) : Option Marker :=
  if r.line = some run then some ⟨kind, r.subkind, r.keep, none⟩
  else
    match r.block with
    | some b => if b.opening = run then some ⟨kind, b.subkind, r.keep, some b.closing⟩ else none
    | none => none

def Rules.marker? (r : Rules) (run : String) : Option Marker :=
  r.documentation.marker? r.kinds.documentation run <|> r.comments.marker? r.kinds.comment run

/-- The text cut behind the first occurrence of `mark`, and behind one character at least. -/
def splitBehind (mark : List Char) : List Char → Option (List Char × List Char)
  | [] => none
  | c :: cs =>
    if mark.isPrefixOf (c :: cs) then some ((c :: cs).splitAt (max 1 mark.length))
    else (splitBehind mark cs).map fun (body, rest) => (c :: body, rest)

theorem splitBehind_append {mark cs body rest : List Char}
    (h : splitBehind mark cs = some (body, rest)) : body ++ rest = cs := by
  fun_induction splitBehind mark cs generalizing body rest with
  | case1 => cases h
  | case2 c cs _ =>
    rw [Option.some.injEq, List.splitAt_eq] at h
    obtain ⟨rfl, rfl⟩ := Prod.mk.inj h
    exact List.take_append_drop _ _
  | case3 c cs _ ih =>
    obtain ⟨⟨b, r⟩, hb, hr⟩ := Option.map_eq_some_iff.1 h
    obtain ⟨rfl, rfl⟩ := Prod.mk.inj hr
    simp [ih hb]

/-- The body of a comment, cut off the text behind its marker. -/
def Marker.splitBody (m : Marker) (cs : List Char) : Option (List Char × List Char) :=
  match m.closing with
  | none => some (cs.takeWhile (· != '\n'), cs.dropWhile (· != '\n'))
  | some mark => splitBehind mark.toList cs

theorem Marker.splitBody_append {m : Marker} {cs body rest : List Char}
    (h : m.splitBody cs = some (body, rest)) : body ++ rest = cs := by
  rw [splitBody] at h
  split at h
  · obtain ⟨rfl, rfl⟩ := Prod.mk.inj (Option.some.inj h)
    exact List.takeWhile_append_dropWhile
  · exact splitBehind_append h

namespace Rules

def commentLexeme (m : Marker) (run cs : List Char) : Except Failure Lexeme :=
  match m.splitBody cs with
  | some (body, rest) =>
    .ok ⟨run ++ body, rest, if m.keep then some ⟨m.kind, m.subkind, 10, ""⟩ else none⟩
  | none =>
    .error ⟨.unterminatedComment, [], none,
      m.closing.map fun mark => s!"expected {quoteString mark}"⟩

/-- The operator or comment that starts with the operator character `c`. -/
def operatorLexeme (r : Rules) (c : Char) (cs : List Char) : Except Failure Lexeme :=
  let run := c :: cs.takeWhile r.operators.chars.contains
  let rest := cs.dropWhile r.operators.chars.contains
  let max := r.operators.maxLength
  if max < run.length then .error ⟨.operatorTooLong max, run.take max, run[max]?, none⟩
  else
    match r.marker? (String.ofList run) with
    | some m => commentLexeme m run rest
    | none =>
      let subkind := (r.tokenName? (String.ofList run)).getD ""
      .ok ⟨run, rest, some ⟨r.kinds.operator, subkind, 10, ""⟩⟩

theorem commentLexeme_append {m : Marker} {run cs : List Char} {l : Lexeme}
    (h : commentLexeme m run cs = .ok l) : ∃ body, l.taken = run ++ body ∧ body ++ l.rest = cs := by
  rw [commentLexeme] at h
  split at h
  · next body rest hb =>
    cases h
    exact ⟨body, rfl, Marker.splitBody_append hb⟩
  · cases h

theorem operatorLexeme_splits {r : Rules} {c : Char} {cs : List Char} {l : Lexeme}
    (h : r.operatorLexeme c cs = .ok l) : l.Splits (c :: cs) := by
  rw [operatorLexeme] at h
  have hcs := List.takeWhile_append_dropWhile (p := r.operators.chars.contains) (l := cs)
  dsimp only at h
  split at h
  · cases h
  · split at h
    · obtain ⟨body, ht, hb⟩ := commentLexeme_append h
      exact ⟨by rw [ht, List.append_assoc, hb, List.cons_append, hcs], by simp [ht]⟩
    · cases h
      exact ⟨by rw [List.cons_append, hcs], by simp⟩

end Rules

end RuleLexer
