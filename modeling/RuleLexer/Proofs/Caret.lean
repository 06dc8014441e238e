import RuleLexer.Command
import RuleLexer.Proofs.Positions
import RuleLexer.Proofs.Sample

/-!
# The caret under an error

A report shows the line of an error and a caret below it. The padding in front of the caret is cut
off where the line ends, but the column of a position never lies beyond its line: the characters
before the position on its line are as many as the padding wants. So the caret stands under the
character that the error points to, at any tab width.
-/

namespace RuleLexer
open Text

namespace Command

/-- What stands in the padding below a character of the line. -/
def blankFor (c : Char) : Char := if c = '\t' then '\t' else ' '

theorem caretPadding_eq_map (shown : List Char) (column : Nat) :
    caretPadding shown column = (shown.take (column - 1)).map blankFor := rfl

/-- Where the line reaches the column, the padding is as long as the part of the line before it. -/
theorem caretPadding_append (front back : List Char) :
    caretPadding (front ++ back) (1 + front.length) = front.map blankFor := by
  rw [caretPadding_eq_map, Nat.add_sub_cancel_left, List.take_left]

/-- With `shown` as the line of `p`, the caret stands under the character at `p`, or behind the line
when that character ends it. -/
structure CaretUnder (s : Source) (p : Position) (shown : List Char) : Prop where
  oneLine : '\n' ∉ shown
  width : (caretPadding shown p.column).length = p.column - 1
  blanks : ∀ i < p.column - 1, ∃ c, shown[i]? = some c ∧
    (caretPadding shown p.column)[i]? = some (blankFor c)
  under : (∃ c, c ≠ '\n' ∧ s.get? p.index = some c ∧ shown[p.column - 1]? = some c) ∨
    (s.get? p.index = some '\n' ∨ p.index = s.size) ∧ shown.length = p.column - 1

end Command

theorem newline_not_mem_rtakeWhile (cs : List Char) : '\n' ∉ cs.rtakeWhile notNewline := by
  intro hmem
  have hp := List.mem_rtakeWhile_imp hmem
  rw [notNewline_newline] at hp
  cases hp

theorem newline_not_mem_takeWhile (cs : List Char) : '\n' ∉ cs.takeWhile notNewline := by
  intro hmem
  have hp := List.mem_takeWhile_imp hmem
  rw [notNewline_newline] at hp
  cases hp

theorem Position.between_caretUnder {name text : String} {before after : List Char}
    (h : text.toList = before ++ after) :
    Command.CaretUnder (.loaded name text) (between before after)
      (before.rtakeWhile notNewline ++ after.takeWhile notNewline) where
  oneLine hmem := (List.mem_append.1 hmem).elim (newline_not_mem_rtakeWhile before)
    (newline_not_mem_takeWhile after)
  width := by
    rw [between, Command.caretPadding_append, List.length_map, Nat.add_sub_cancel_left]
  blanks i hi := by
    rw [between, Nat.add_sub_cancel_left] at hi
    refine ⟨(before.rtakeWhile notNewline)[i], ?_, ?_⟩
    · rw [List.getElem?_append_left hi, List.getElem?_eq_getElem hi]
    · rw [between, Command.caretPadding_append, List.getElem?_map, List.getElem?_eq_getElem hi]
      rfl
  under := by
    have hcolumn : (between before after).column - 1 = (before.rtakeWhile notNewline).length :=
      Nat.add_sub_cancel_left ..
    rw [between_index, Source.get?_loaded h, hcolumn]
    cases after with
    | nil =>
      refine .inr ⟨.inr ?_, by simp⟩
      rw [Source.size, Source.chars_loaded, h, List.append_nil]
    | cons c rest =>
      by_cases hc : c = '\n'
      · exact .inr ⟨.inl (congrArg some hc), by simp [hc]⟩
      · refine .inl ⟨c, hc, rfl, ?_⟩
        rw [List.takeWhile_cons_of_pos (notNewline_of_ne hc)]
        simp

/-- An error is reported with the line it is on and a caret under the place it points to. -/
theorem errorReport_caret {r : Rules} {name text : String} {e : LexError}
    (h : r.tokenize (.loaded name text) = .error e) :
    ∃ shown, e.position.sourceLine? (.loaded name text) = some shown ∧
      Command.CaretUnder (.loaded name text) e.position shown.toList ∧
      ∀ path, Command.errorReport path (.loaded name text) e =
        Command.line s!"{path}: {e.message}" ++ (Command.line s!"    {shown}" ++
          Command.line
            s!"    {String.ofList (Command.caretPadding shown.toList e.position.column)}^") := by
  obtain ⟨before, after, htext, hposition, -⟩ := exists_between_of_error h
  have hline := Position.sourceLine?_between_eq name htext
  rw [← hposition] at hline
  refine ⟨_, hline, ?_, fun path => ?_⟩
  · rw [hposition, String.toList_ofList]
    exact Position.between_caretUnder htext
  · rw [Command.errorReport, hline]

/-- A string over two lines and a tab stand before a character that starts nothing. -/
theorem errorReport_caret_sample :
    ∃ e, Rules.sample.tokenize (.loaded "s" "\"a\nb\té\" #x") = .error e ∧ e.ch = some '#' ∧
      e.position.sourceLine? (.loaded "s" "\"a\nb\té\" #x") = some "b\té\" #x" ∧
      Command.CaretUnder (.loaded "s" "\"a\nb\té\" #x") e.position "b\té\" #x".toList ∧
      Command.errorReport "f" (.loaded "s" "\"a\nb\té\" #x") e =
        "f: unexpected character '#' at line 2, column 6\n" ++ "    b\té\" #x\n" ++
          "     \t   ^\n" := by
  have he : Rules.sample.tokenize (.loaded "s" "\"a\nb\té\" #x") =
      .error ⟨.unexpectedCharacter, some '#', ⟨9, 2, 6, 3, 11⟩, none⟩ := by decide +kernel
  obtain ⟨shown, hshown, hcaret, hreport⟩ := errorReport_caret he
  have hline : Position.sourceLine? ⟨9, 2, 6, 3, 11⟩ (.loaded "s" "\"a\nb\té\" #x") =
      some "b\té\" #x" := by decide +kernel
  obtain rfl := Option.some.inj (hshown.symm.trans hline)
  refine ⟨_, he, rfl, hline, hcaret, ?_⟩
  rw [hreport]
  decide +kernel

end RuleLexer
