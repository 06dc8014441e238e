import RuleLexer.Json.Reader
import RuleLexer.Proofs.Documents

/-!
# Documents read from a text

The reader looks behind each element of a list to find out whether the list ends there. What it
notes down is right whenever it reads the list to its end, so a text that is read as a whole and
repeats no key denotes its value.
-/

namespace RuleLexer.Json
open RuleLexer.Json.Tree

/-- What the reader of a list gives back: elements that fit, with an ending that fits them. -/
structure ElementsRead {α : Type} (es : List (Element Tree)) (ending : Except Fault α) : Prop where
  ne_nil : es ≠ []
  fit : ElementsFit es
  surplus : ∀ a, ending = .ok a → SurplusFits es

theorem ElementsRead.failed {α : Type} {e : Element Tree} (f : Fault) (h : e.value.Fits) :
    ElementsRead (α := α) [e] (.error f) := by
  refine ⟨List.cons_ne_nil _ _, ⟨h, trivial⟩, fun a ha => ?_⟩
  cases ha

theorem surplusAt_bracket {c : Cursor} {tail : List Char} (h : c.rest = ']' :: tail) :
    surplusAt c = none := by
  unfold surplusAt
  simp [h]

theorem surplusAt_comma {c : Cursor} {tail : List Char} (h : c.rest = ',' :: tail) :
    (surplusAt c).isSome = true := by
  unfold surplusAt
  simp only [h]
  split <;> rfl

mutual

theorem readValue_fits (depth : Nat) (c : Cursor) : (readValue depth c).1.Fits := by
  rw [readValue]
  split
  · trivial
  · next ch rest hc =>
    have inner : (c.skip 1).skipBlanks.rest.length < c.rest.length :=
      Nat.lt_of_le_of_lt (Cursor.length_skipBlanks_le _)
        (Cursor.length_skip_lt (by simp [hc]) Nat.one_pos)
    dsimp only
    split
    · -- a list
      split
      · trivial
      · split
        · exact ⟨trivial, fun stop hstop => by cases hstop⟩
        · exact ⟨trivial, fun _ _ => trivial⟩
        · have hread := readElements_fits (depth - 1) (c.skip 1).skipBlanks
          split
          · exact ⟨hread.fit, fun stop hstop => by cases hstop⟩
          · next hend => exact ⟨hread.fit, fun _ _ => hread.surplus _ hend⟩
    · split
      · -- an object
        split
        · trivial
        · split
          · trivial
          · trivial
          · have hread := readMembers_fits (depth - 1) (c.skip 1).skipBlanks
            split
            · exact hread
            · exact hread
          · trivial
      · -- a scalar
        split
        · trivial
        · trivial
termination_by 2 * c.rest.length
decreasing_by all_goals omega

theorem readElements_fits (depth : Nat) (c : Cursor) :
    ElementsRead (readElements depth c).1 (readElements depth c).2 := by
  have hvalue := readValue_fits depth c
  rw [readElements]
  split
  · next value hread =>
    rw [hread] at hvalue
    exact .failed _ hvalue
  · next value behind hread =>
    rw [hread] at hvalue
    have hd : behind.1.skipBlanks.rest.length < c.rest.length :=
      Nat.lt_of_le_of_lt (Cursor.length_skipBlanks_le _) behind.2
    dsimp only
    split
    · exact .failed _ hvalue
    · next tail hbracket =>
      refine ⟨List.cons_ne_nil _ _, ⟨hvalue, trivial⟩, fun _ _ => ⟨?_, trivial⟩⟩
      rw [surplusAt_bracket hbracket]
      rfl
    · next tail hcomma =>
      have he : (behind.1.skipBlanks.skip 1).skipBlanks.rest.length < c.rest.length :=
        Nat.lt_of_le_of_lt
          (Nat.le_trans (Cursor.length_skipBlanks_le _) (Cursor.length_skip_le _ 1)) hd
      split
      · exact .failed _ hvalue
      · exact .failed _ hvalue
      · have hrest := readElements_fits depth (behind.1.skipBlanks.skip 1).skipBlanks
        refine ⟨List.cons_ne_nil _ _, ⟨hvalue, hrest.fit⟩, fun a ha => ⟨?_, ?_⟩⟩
        · rw [surplusAt_comma hcomma, List.isEmpty_eq_false_iff.2 hrest.ne_nil]
          rfl
        · cases hend : (readElements depth (behind.1.skipBlanks.skip 1).skipBlanks).2 with
          | error f =>
            rw [hend] at ha
            cases ha
          | ok after => exact hrest.surplus after hend
    · exact .failed _ hvalue
termination_by 2 * c.rest.length + 1
decreasing_by all_goals omega

theorem readMembers_fits (depth : Nat) (c : Cursor) : MembersFit (readMembers depth c).1 := by
  rw [readMembers]
  split
  · trivial
  · next ch rest hc =>
    split
    · trivial
    · next key read hkey =>
      have hd : (c.skip (max 1 read)).skipBlanks.rest.length < c.rest.length :=
        Nat.lt_of_le_of_lt (Cursor.length_skipBlanks_le _)
          (Cursor.length_skip_lt (by simp [hc]) (by omega))
      dsimp only
      split
      · exact ⟨trivial, trivial⟩
      · have hv : ((c.skip (max 1 read)).skipBlanks.skip 1).skipBlanks.rest.length <
            c.rest.length :=
          Nat.lt_of_le_of_lt
            (Nat.le_trans (Cursor.length_skipBlanks_le _) (Cursor.length_skip_le _ 1)) hd
        have hvalue := readValue_fits depth ((c.skip (max 1 read)).skipBlanks.skip 1).skipBlanks
        split
        · next value hread =>
          rw [hread] at hvalue
          exact ⟨hvalue, trivial⟩
        · next value behind hread =>
          rw [hread] at hvalue
          have he : behind.1.skipBlanks.rest.length < c.rest.length :=
            Nat.lt_trans (Nat.lt_of_le_of_lt (Cursor.length_skipBlanks_le _) behind.2) hv
          split
          · exact ⟨hvalue, trivial⟩
          · exact ⟨hvalue, trivial⟩
          · have hk : (behind.1.skipBlanks.skip 1).skipBlanks.rest.length < c.rest.length :=
              Nat.lt_of_le_of_lt
                (Nat.le_trans (Cursor.length_skipBlanks_le _) (Cursor.length_skip_le _ 1)) he
            split
            · exact ⟨hvalue, trivial⟩
            · exact ⟨hvalue, readMembers_fits depth (behind.1.skipBlanks.skip 1).skipBlanks⟩
            · exact ⟨hvalue, trivial⟩
            · exact ⟨hvalue, trivial⟩
          · exact ⟨hvalue, trivial⟩
      · exact ⟨trivial, trivial⟩
termination_by 2 * c.rest.length + 1
decreasing_by all_goals omega

end

theorem readDocument_fits (text : String) : (readDocument text).tree.Fits := by
  have hfits := readValue_fits maxDepth (Cursor.mk text.toList 0).skipBlanks
  rw [readDocument, readCharacters]
  split
  · next tree hread =>
    rw [hread] at hfits
    exact hfits
  · next tree behind hread =>
    rw [hread] at hfits
    exact hfits

theorem parse_eq_ok_iff {text : String} {v : Json} :
    parse text = .ok v ↔
      (readDocument text).tree.toJson = .ok v ∧ (readDocument text).trailing = none := by
  unfold parse
  rw [bind_eq_ok_iff]
  cases (readDocument text).trailing with
  | none => simp [pure, Except.pure]
  | some f => simp

/-- A text that is JSON and repeats no key in any object denotes its value. -/
theorem readDocument_denotes {text : String} {v : Json} (h : parse text = .ok v)
    (hkeys : (readDocument text).tree.distinctKeys = true) : (readDocument text).tree.Denotes v :=
  ⟨(parse_eq_ok_iff.1 h).1, hkeys, readDocument_fits text⟩

end RuleLexer.Json
