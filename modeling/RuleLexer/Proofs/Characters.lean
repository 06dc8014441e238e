import RuleLexer.Text.Case
import RuleLexer.Text.Word

/-!
# Digits and newlines among the characters

A decimal digit is a number character and no letter. A newline is neither.
-/

namespace RuleLexer.Text
variable {c : Char}

theorem digit_bounds (h : c.isDigit = true) : 48 ≤ c.val.toNat ∧ c.val.toNat ≤ 57 := by
  simp only [Char.isDigit, Bool.and_eq_true, decide_eq_true_eq, UInt32.le_iff_toNat_le] at h
  exact h

theorem ascii_of_isDigit (h : c.isDigit = true) : c.val < 128 := by
  have hbounds := digit_bounds h
  rw [UInt32.lt_iff_toNat_lt]
  have htoNat : (128 : UInt32).toNat = 128 := rfl
  omega

theorem isAlphanumeric_of_isDigit (h : c.isDigit = true) : isAlphanumeric c = true := by
  simp [isAlphanumeric, isNumeric_of_ascii (ascii_of_isDigit h), h]

theorem isWordChar_of_isDigit (h : c.isDigit = true) : isWordChar c = true := by
  simp [isWordChar, isAlphanumeric_of_isDigit h]

theorem not_isAlphabetic_of_isDigit (h : c.isDigit = true) : isAlphabetic c = false := by
  have hbounds := digit_bounds h
  rw [isAlphabetic_of_ascii (ascii_of_isDigit h)]
  apply Bool.eq_false_iff.2
  intro halpha
  rcases Bool.or_eq_true_iff.1 halpha with hupper | hlower
  · have hbound : 'A'.val.toNat ≤ c.val.toNat := (of_decide_eq_true hupper).1
    have h65 : 'A'.val.toNat = 65 := rfl
    omega
  · have hbound : 'a'.val.toNat ≤ c.val.toNat :=
      of_decide_eq_true (Bool.and_eq_true_iff.1 hlower).1
    have h97 : 'a'.val.toNat = 97 := rfl
    omega

theorem isWordChar_newline : isWordChar '\n' = false := by decide

end RuleLexer.Text
