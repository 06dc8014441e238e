import RuleLexer.Proofs.Consistency
import RuleLexer.Proofs.Sample

/-!
# Letters of the number bases

Being the same letter is an equivalence, and the checks of the rules put the letters of the bases
into different classes of it. So a letter calls for one base at most, and it does not matter in
which order the bases are looked through.
-/

namespace RuleLexer
open Text

theorem sameLetter_equivalence : Equivalence fun a b => sameLetter a b = true where
  refl := sameLetter_refl
  symm h := (sameLetter_iff _ _).2 ((sameLetter_iff _ _).1 h).symm
  trans h h' :=
    (sameLetter_iff _ _).2 (((sameLetter_iff _ _).1 h).trans ((sameLetter_iff _ _).1 h'))

namespace Rules
variable {r : Rules} {bases bases' : List (Char × NumberBase)} {c : Char} {b : NumberBase}

/-- Bases that differ in their letters can be looked through in any order. -/
theorem firstBase?_perm (hnodup : (bases.map fun e => lower e.1).Nodup) (h : bases'.Perm bases)
    (c : Char) : firstBase? bases' c = firstBase? bases c := by
  have hnodup' : (bases'.map fun e => lower e.1).Nodup := (h.map _).nodup_iff.2 hnodup
  apply Option.ext
  intro b
  rw [firstBase?_eq_some_iff hnodup, firstBase?_eq_some_iff hnodup']
  simp only [h.mem_iff]

theorem firstBase?_eq_none_iff :
    firstBase? bases c = none ↔ ∀ e ∈ bases, sameLetter e.1 c = false := by
  simp [firstBase?]

/-- A zero and a letter that calls for a base start a number of that base. -/
theorem numberLexeme_of_base? (h : r.numbers.base? c = some b) (cs : List Char) :
    r.numberLexeme ('0' :: c :: cs) = r.basedLexeme c b cs := by
  rw [numberLexeme, basePrefix?, h]
  rfl

end Rules

/-- A declared base is called for by its letter in any case, and a character that is no letter of a
base calls for none. No other order of the bases gives another answer. -/
theorem base?_unshadowed {r : Rules} (hv : r.validate = .ok ()) :
    Equivalence (fun a b => sameLetter a b = true) ∧
    (∀ p b, r.numbers.bases.get? p = some b → ∀ c, sameLetter p c = true →
      r.numbers.base? c = some b ∧
        ∀ cs, r.numberLexeme ('0' :: c :: cs) = r.basedLexeme c b cs) ∧
    (∀ c, (∀ p, r.numbers.bases.contains p = true → sameLetter p c = false) →
      r.numbers.base? c = none) ∧
    ∀ bases, bases.Perm r.numbers.bases.entries →
      ∀ c, Rules.firstBase? bases c = r.numbers.base? c := by
  refine ⟨sameLetter_equivalence, ?_, ?_, ?_⟩
  · intro p b hget c hsame
    have hbase : r.numbers.base? c = some b :=
      (Rules.base?_eq_some_iff hv).2 ⟨p, OrderedMap.get?_eq_some_iff.1 hget, hsame⟩
    exact ⟨hbase, Rules.numberLexeme_of_base? hbase⟩
  · intro c hnone
    refine Rules.firstBase?_eq_none_iff.2 fun e he => hnone e.1 ?_
    exact OrderedMap.contains_iff_mem_keys.2 (List.mem_map_of_mem he)
  · intro bases hperm c
    have hnodup := Rules.nodup_of_basesViolation? (Rules.basesViolation?_of_validate hv)
    exact Rules.firstBase?_perm hnodup hperm c

/-- The sample with a second base. -/
def Rules.twoBases : Rules :=
  { Rules.sample with numbers := { Rules.sample.numbers with
      bases := .ofList [('x', ⟨"0123456789abcdef", "HEXADECIMAL"⟩), ('k', ⟨"ab", "LETTERS"⟩)] } }

/-- The Kelvin sign is a `k` in another case; the bases are listed the other way round. -/
theorem base?_unshadowed_twoBases :
    Rules.twoBases.validate = .ok () ∧ sameLetter 'k' '\u212a' = true ∧
      Rules.twoBases.numbers.base? '\u212a' = some ⟨"ab", "LETTERS"⟩ ∧
      Rules.twoBases.numbers.base? 'b' = none ∧
      Rules.firstBase? [('x', ⟨"0123456789abcdef", "HEXADECIMAL"⟩), ('k', ⟨"ab", "LETTERS"⟩)]
        '\u212a' = some ⟨"ab", "LETTERS"⟩ := by
  have hv : Rules.twoBases.validate = .ok () := Rules.validate_eq_ok_iff.2 (by decide +kernel)
  have hsame : sameLetter 'k' '\u212a' = true := by decide +kernel
  obtain ⟨-, hdeclared, hnone, horder⟩ := base?_unshadowed hv
  have hkelvin := (hdeclared 'k' ⟨"ab", "LETTERS"⟩ (by decide +kernel) '\u212a' hsame).1
  have hkeys : Rules.twoBases.numbers.bases.keys = ['k', 'x'] := by decide +kernel
  refine ⟨hv, hsame, hkelvin, hnone 'b' fun p hp => ?_, ?_⟩
  · rw [OrderedMap.contains_iff_mem_keys, hkeys] at hp
    rcases List.mem_pair.1 hp with rfl | rfl <;> decide +kernel
  · rw [horder _ (by decide +kernel), hkelvin]

end RuleLexer
