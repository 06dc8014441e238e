import RuleLexer.Scan.Tokens

/-!
# Failures point into the text

A failure of a scanner names the character that stands at its place, or none at the end of the
text. Only a comment that is not closed names no character, wherever it starts.
-/

namespace RuleLexer

/-- The place of the failure is a place in `cs`, and its character is the one that stands there. -/
def Failure.PointsInto (f : Failure) (cs : List Char) : Prop :=
  ∃ after, cs = f.before ++ after ∧
    f.ch = if f.kind = .unterminatedComment then none else after.head?

namespace Failure
variable {f : Failure} {c : Char} {cs : List Char}

theorem PointsInto.behind (h : f.PointsInto cs) (c : Char) : (f.behind c).PointsInto (c :: cs) := by
  obtain ⟨after, rfl, hch⟩ := h
  exact ⟨after, rfl, hch⟩

theorem badDigit_pointsInto (c : Char) (hint : Option String) (cs : List Char) :
    (badDigit c hint).PointsInto (c :: cs) := ⟨c :: cs, rfl, rfl⟩

/-- A run that is too long is reported at the first character beyond the limit. -/
theorem overlong_pointsInto {kind : LexError.Kind} (hkind : kind ≠ .unterminatedComment)
    (run rest : List Char) {max : Nat} (h : max < run.length) :
    Failure.PointsInto ⟨kind, run.take max, run[max]?, none⟩ (run ++ rest) := by
  refine ⟨run.drop max ++ rest, ?_, ?_⟩
  · rw [← List.append_assoc, List.take_append_drop]
  · rw [if_neg hkind, List.head?_append, List.head?_drop, List.getElem?_eq_getElem h,
      Option.some_or]

end Failure

theorem error_of_mapError_map {ε ε' α β : Type} {x : Except ε α} {f : α → β} {g : ε → ε'} {e : ε'}
    (h : (x.map f).mapError g = .error e) : ∃ e₀, x = .error e₀ ∧ g e₀ = e := by
  cases x with
  | error e₀ => exact ⟨e₀, rfl, Except.error.inj h⟩
  | ok a => cases h

namespace Rules
open Failure
variable {r : Rules} {c : Char} {cs : List Char} {f : Failure}

theorem pointsInto_of_splitDecimal {part : DecimalPart} (h : r.splitDecimal part cs = .error f) :
    f.PointsInto cs := by
  fun_induction splitDecimal r part cs generalizing f with
  | case1 => cases h
  | case2 c cs _ ih | case5 part c cs _ _ ih | case7 part cs _ _ _ ih | case8 part c cs _ _ _ _ ih =>
    obtain ⟨f₀, hf, rfl⟩ := error_of_mapError_map h
    exact (ih hf).behind _
  | case3 | case9 => cases h
  | case4 | case6 | case10 =>
    cases h
    exact badDigit_pointsInto ..

theorem pointsInto_of_splitBased {b : NumberBase} (h : r.splitBased b cs = .error f) :
    f.PointsInto cs := by
  fun_induction splitBased r b cs generalizing f with
  | case1 => cases h
  | case2 c cs _ ih =>
    obtain ⟨f₀, hf, rfl⟩ := error_of_mapError_map h
    exact (ih hf).behind _
  | case3 =>
    cases h
    exact badDigit_pointsInto ..
  | case4 => cases h
  | case5 =>
    cases h
    exact badDigit_pointsInto ..

theorem pointsInto_of_basedLexeme {letter : Char} {b : NumberBase}
    (h : r.basedLexeme letter b cs = .error f) : f.PointsInto ('0' :: letter :: cs) := by
  rw [basedLexeme] at h
  split at h
  · next g hg =>
    cases h
    exact ((pointsInto_of_splitBased hg).behind letter).behind '0'
  · next digits rest hs =>
    dsimp only at h
    split at h
    · cases h
    · cases h
      exact ⟨rest, by rw [← splitBased_append hs]; rfl, rfl⟩

theorem pointsInto_of_numberLexeme (h : r.numberLexeme cs = .error f) : f.PointsInto cs := by
  rw [numberLexeme] at h
  split at h
  · next letter b rest hb =>
    rw [basePrefix?_eq_some hb]
    exact pointsInto_of_basedLexeme h
  · rw [decimalLexeme] at h
    cases hd : r.splitDecimal .whole cs with
    | error g =>
      rw [hd] at h
      cases h
      exact pointsInto_of_splitDecimal hd
    | ok d =>
      rw [hd] at h
      cases h

theorem kind_of_splitDecimal {part : DecimalPart} (h : r.splitDecimal part cs = .error f) :
    f.kind = .invalidNumber := by
  fun_induction splitDecimal r part cs generalizing f with
  | case1 | case3 | case9 => cases h
  | case2 c cs _ ih | case5 part c cs _ _ ih | case7 part cs _ _ _ ih | case8 part c cs _ _ _ _ ih =>
    obtain ⟨f₀, hf, rfl⟩ := error_of_mapError_map h
    have hkind := ih hf
    exact hkind
  | case4 | case6 | case10 =>
    cases h
    rfl

theorem kind_of_splitBased {base : NumberBase} (h : r.splitBased base cs = .error f) :
    f.kind = .invalidNumber := by
  fun_induction splitBased r base cs generalizing f with
  | case1 | case4 => cases h
  | case2 c cs _ ih =>
    obtain ⟨f₀, hf, rfl⟩ := error_of_mapError_map h
    have hkind := ih hf
    exact hkind
  | case3 | case5 =>
    cases h
    rfl

/-- A number fails as a number. -/
theorem kind_of_numberLexeme (h : r.numberLexeme cs = .error f) : f.kind = .invalidNumber := by
  rw [numberLexeme] at h
  split at h
  · rw [basedLexeme] at h
    split at h
    · next g hg =>
      cases h
      have hkind := kind_of_splitBased hg
      exact hkind
    · dsimp only at h
      split at h
      · cases h
      · cases h
        rfl
  · rw [decimalLexeme] at h
    cases hd : r.splitDecimal .whole cs with
    | error g =>
      rw [hd] at h
      cases h
      exact kind_of_splitDecimal hd
    | ok d =>
      rw [hd] at h
      cases h

theorem pointsInto_of_stringLexeme (h : r.stringLexeme c cs = .error f) :
    f.PointsInto (c :: cs) := by
  rw [stringLexeme] at h
  split at h
  · cases h
    exact ⟨c :: cs, rfl, rfl⟩
  · cases h

theorem pointsInto_of_operatorLexeme (h : r.operatorLexeme c cs = .error f) :
    f.PointsInto (c :: cs) := by
  have hcs : (c :: cs.takeWhile r.operators.chars.contains) ++
      cs.dropWhile r.operators.chars.contains = c :: cs := by
    rw [List.cons_append, List.takeWhile_append_dropWhile]
  rw [operatorLexeme] at h
  dsimp only at h
  split at h
  · next hlong =>
    cases h
    rw [← hcs]
    exact overlong_pointsInto (by simp) _ _ hlong
  · split at h
    · rw [commentLexeme] at h
      split at h
      · cases h
      · cases h
        exact ⟨c :: cs, rfl, rfl⟩
    · cases h

theorem pointsInto_of_wordLexeme (h : r.wordLexeme c cs = .error f) : f.PointsInto (c :: cs) := by
  have hcs : (c :: cs.takeWhile Text.isWordChar) ++ cs.dropWhile Text.isWordChar = c :: cs := by
    rw [List.cons_append, List.takeWhile_append_dropWhile]
  rw [wordLexeme] at h
  split at h
  · next hlong =>
    cases h
    rw [← hcs]
    exact overlong_pointsInto (by simp) _ _ hlong
  · cases h

theorem pointsInto_of_lexeme {order : List CharClass} (h : r.lexeme order c cs = .error f) :
    f.PointsInto (c :: cs) := by
  rw [lexeme] at h
  split at h
  · next cls _ =>
    cases cls with
    | whitespace => cases h
    | quote => exact pointsInto_of_stringLexeme h
    | digit => exact pointsInto_of_numberLexeme h
    | delimiter => cases h
    | operator => exact pointsInto_of_operatorLexeme h
    | letter => exact pointsInto_of_wordLexeme h
  · cases h
    exact ⟨c :: cs, rfl, rfl⟩

end Rules

end RuleLexer
