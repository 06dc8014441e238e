import Mathlib.Data.List.DropRight
import RuleLexer.Position
import RuleLexer.Proofs.Bytes

/-!
# Positions read off the text

A walk keeps the line bounds of a position up to date and looks at the text again only behind a
newline. `Position.between` computes the same position at once from the text before and behind it,
and `walk_between` says that walking from one such position gives the next.
-/

namespace RuleLexer
open Text

def notNewline (c : Char) : Bool := c != '\n'

@[simp] theorem notNewline_newline : notNewline '\n' = false := rfl

theorem notNewline_of_ne {c : Char} (h : c ≠ '\n') : notNewline c = true := bne_iff_ne.2 h

/-! ## Lines of a text -/

theorem head?_splitOn_newline (cs : List Char) :
    (cs.splitOn '\n')[0]? = some (cs.takeWhile notNewline) := by
  induction cs with
  | nil => rfl
  | cons c cs ih =>
    rw [List.splitOn_cons_eq_if_modifyHead]
    by_cases hc : c = '\n'
    · simp [hc]
    · rw [if_neg (by simpa using hc), List.getElem?_modifyHead]
      simp [ih, notNewline_of_ne hc]

theorem length_splitOn_newline (cs : List Char) :
    (cs.splitOn '\n').length = cs.count '\n' + 1 := by
  induction cs with
  | nil => rfl
  | cons c cs ih =>
    rw [List.splitOn_cons_eq_if_modifyHead]
    by_cases hc : c = '\n'
    · simp [hc, ih]
    · simp [hc, ih]

/-- The line that a cut of the text falls on, found by counting the newlines before the cut. -/
theorem getElem?_splitOn_newline (before after : List Char) :
    ((before ++ after).splitOn '\n')[before.count '\n']? =
      some (before.rtakeWhile notNewline ++ after.takeWhile notNewline) := by
  induction before using List.reverseRecOn generalizing after with
  | nil => simpa using head?_splitOn_newline after
  | append_singleton before c ih =>
    rw [List.append_assoc, List.singleton_append]
    by_cases hc : c = '\n'
    · subst c
      rw [List.splitOn_append_cons_self, List.rtakeWhile_concat_neg _ _ _ (by simp),
        List.getElem?_append_right (by rw [length_splitOn_newline]; simp), length_splitOn_newline]
      simpa using head?_splitOn_newline after
    · have hcount : (before ++ [c]).count '\n' = before.count '\n' := by simp [hc]
      rw [hcount, ih, List.rtakeWhile_concat_pos _ _ _ (notNewline_of_ne hc),
        List.takeWhile_cons_of_pos (notNewline_of_ne hc)]
      simp

theorem lineEndFrom_byteLength (before after : List Char) :
    lineEndFrom (before ++ after) (byteLength before) =
      byteLength before + byteLength (after.takeWhile notNewline) := by
  rw [lineEndFrom, dropBytes_byteLength]
  rfl

namespace Position
variable {text before after : List Char} {p : Position}

@[simp] theorem advance_index (text : List Char) (p : Position) (c : Char) :
    (p.advance text c).index = p.index + c.utf8Size := by
  rw [advance]
  split <;> rfl

@[simp] theorem walk_index (text : List Char) (p : Position) (cs : List Char) :
    (p.walk text cs).index = p.index + byteLength cs := by
  induction cs generalizing p with
  | nil => rfl
  | cons c cs ih =>
    rw [walk_cons, ih, advance_index, byteLength_cons]
    omega

/-- The position of a cut: the line counts the newlines before it, the column the characters since
the last of them, and the line ends before the next newline. -/
def between (before after : List Char) : Position where
  index := byteLength before
  line := 1 + before.count '\n'
  column := 1 + (before.rtakeWhile notNewline).length
  lineStart := byteLength (before.rdropWhile notNewline)
  lineEnd := byteLength before + byteLength (after.takeWhile notNewline)

@[simp] theorem between_index (before after : List Char) :
    (between before after).index = byteLength before := rfl

theorem start_eq_between (text : List Char) : start text = between [] text := by
  have h : lineEndFrom text 0 = byteLength ([] : List Char) + _ := lineEndFrom_byteLength [] text
  rw [start, h]
  rfl

theorem advance_between (c : Char) (h : text = before ++ c :: after) :
    (between before (c :: after)).advance text c = between (before ++ [c]) after := by
  by_cases hc : c = '\n'
  · subst c
    have hline : lineEndFrom text (byteLength before + Char.utf8Size '\n') =
        byteLength (before ++ ['\n']) + byteLength (after.takeWhile notNewline) := by
      rw [← lineEndFrom_byteLength, List.append_assoc, List.singleton_append, ← h]
      simp
    rw [advance, if_pos rfl]
    simp [between, hline, List.rtakeWhile_concat_neg, List.rdropWhile_concat_neg, Nat.add_assoc]
  · have hp := notNewline_of_ne hc
    rw [advance, if_neg hc]
    simp [between, hc, hp, List.rtakeWhile_concat_pos, List.rdropWhile_concat_pos, Nat.add_assoc]

/-- Walking keeps to the closed form. -/
theorem walk_between (cs : List Char) (h : text = before ++ (cs ++ after)) :
    (between before (cs ++ after)).walk text cs = between (before ++ cs) after := by
  induction cs generalizing before with
  | nil => simp
  | cons c cs ih =>
    rw [List.cons_append] at h ⊢
    rw [walk_cons, advance_between c h, ih (by rw [h, List.append_assoc]; rfl), List.append_assoc]
    rfl

theorem walk_start (h : text = before ++ after) :
    (start text).walk text before = between before after := by
  have hw : (between [] (before ++ after)).walk text before = between ([] ++ before) after :=
    walk_between before h
  rwa [← h, ← start_eq_between] at hw

/-- The position at a byte offset, none inside a character and past the end. -/
def ofOffset? (text : List Char) (offset : Nat) : Option Position := do
  let before ← takeBytes offset text
  let after ← dropBytes offset text
  return between before after

theorem ofOffset?_byteLength (before after : List Char) :
    ofOffset? (before ++ after) (byteLength before) = some (between before after) := by
  simp [ofOffset?, takeBytes_byteLength, dropBytes_byteLength]

/-- The line of a position reaches from the newline before it to the newline behind it. -/
theorem sourceLine?_between_eq (name : String) {text : String} (h : text.toList = before ++ after) :
    (between before after).sourceLine? (.loaded name text) =
      some (String.ofList (before.rtakeWhile notNewline ++ after.takeWhile notNewline)) := by
  have hb : before.rdropWhile notNewline ++ before.rtakeWhile notNewline = before :=
    List.rdropWhile_append_rtakeWhile
  have ha : after.takeWhile notNewline ++ after.dropWhile notNewline = after :=
    List.takeWhile_append_dropWhile
  have htext : text.toList = before.rdropWhile notNewline ++
      ((before.rtakeWhile notNewline ++ after.takeWhile notNewline) ++
        after.dropWhile notNewline) := by
    rw [List.append_assoc, ha, ← List.append_assoc, hb, h]
  have hend : (between before after).lineEnd = byteLength (before.rdropWhile notNewline) +
      byteLength (before.rtakeWhile notNewline ++ after.takeWhile notNewline) := by
    rw [byteLength_append, ← Nat.add_assoc, ← byteLength_append, hb]
    rfl
  rw [sourceLine?, hend]
  exact Source.slice?_loaded htext

/-- The line of a position is the whole line of the text with its number. -/
theorem sourceLine?_between {name text : String} (h : text.toList = before ++ after) :
    ∃ line, (between before after).sourceLine? (.loaded name text) = some line ∧
      (text.toList.splitOn '\n')[(between before after).line - 1]? = some line.toList := by
  refine ⟨_, sourceLine?_between_eq name h, ?_⟩
  rw [h, String.toList_ofList, ← getElem?_splitOn_newline]
  simp [between]

end Position

end RuleLexer
