import RuleLexer.Proofs.Requirements

/-!
# The digits of a base

A base should have two digits or more, no two of them alike. The check counts the characters of
their lower case and compares the count with the number of digits. A character has a lower case of
one character, so this is a check of the digits themselves, with one exception: the capital I with a
dot becomes two characters. A base that has it among its digits may pass with two digits alike, and
may be refused with all of them different.
-/

namespace RuleLexer
open Text

namespace Text

/-- Only the capital I with a dot has a lower case of two characters. -/
theorem exists_lower_eq {c : Char} (hc : c ≠ 'İ') : ∃ d, lower c = [d] := by
  unfold lower
  split
  · exact ⟨c.toLower, rfl⟩
  · rcases mapCase_cases lowerExpansions lowerRuns c with
      ⟨image, hmem, -⟩ | ⟨run, -, -, himage⟩ | ⟨-, -, himage⟩
    · have hcode : c.toNat = 'İ'.toNat := congrArg Prod.fst (List.mem_singleton.1 hmem)
      exact absurd (Char.toNat_inj.1 hcode) hc
    · exact ⟨_, himage⟩
    · exact ⟨_, himage⟩

theorem map_singleton_flatMap_lower {cs : List Char} (hcs : 'İ' ∉ cs) :
    (cs.flatMap lower).map ([·]) = cs.map lower := by
  induction cs with
  | nil => rfl
  | cons c cs ih =>
    rw [List.mem_cons, not_or] at hcs
    obtain ⟨d, hd⟩ := exists_lower_eq (Ne.symm hcs.1)
    rw [List.flatMap_cons, List.map_append, ih hcs.2, hd]
    simp [hd]

theorem card_chars_le (s : Finset Char) : s.card ≤ 0x110000 := by
  have hrange : ∀ c ∈ s, c.toNat ∈ Finset.range 0x110000 := by
    intro c _
    rw [Finset.mem_range]
    rcases c.valid with hlow | ⟨-, hhigh⟩
    · exact hlow.trans (by decide)
    · exact hhigh
  have hcard := Finset.card_le_card_of_injOn Char.toNat hrange fun c _ d _ => Char.toNat_inj.1
  rwa [Finset.card_range] at hcard

end Text

namespace NumberBase
variable {b : NumberBase} {c : Char}

/-- No two of the digits are alike in either case. -/
def Distinct (b : NumberBase) : Prop :=
  b.digits.toList.Pairwise fun d e => sameLetter d e = false

instance (b : NumberBase) : Decidable b.Distinct := inferInstanceAs (Decidable (List.Pairwise _ _))

/-- The digits that can be told apart, each by its lower case. -/
def symbols (b : NumberBase) : Finset (List Char) := (b.digits.toList.map lower).toFinset

theorem accepts_iff_mem_symbols : b.accepts c = true ↔ lower c ∈ b.symbols := by
  simp [accepts, symbols, sameLetter_iff]

theorem distinct_iff_nodup : b.Distinct ↔ (b.digits.toList.map lower).Nodup := by
  rw [Distinct, List.Nodup, List.pairwise_map]
  simp only [sameLetter_eq_false_iff, ne_eq]

theorem distinct_iff_card : b.Distinct ↔ b.symbols.card = b.digits.toList.length := by
  have hcard := Multiset.toFinset_card_eq_card_iff_nodup
    (m := (b.digits.toList.map lower : Multiset (List Char)))
  rw [Multiset.coe_card, List.length_map, Multiset.coe_nodup] at hcard
  exact distinct_iff_nodup.trans hcard.symm

/-- What is accepted stands for one digit. -/
theorem Distinct.accepts_iff (h : b.Distinct) :
    b.accepts c = true ↔
      ∃! i : Fin b.digits.toList.length, sameLetter b.digits.toList[i] c = true := by
  constructor
  · intro hc
    obtain ⟨d, hd, hsame⟩ := List.any_eq_true.1 hc
    obtain ⟨i, hi, rfl⟩ := List.mem_iff_getElem.1 hd
    refine ⟨⟨i, hi⟩, hsame, fun j hj => ?_⟩
    have hlower : lower b.digits.toList[j] = lower b.digits.toList[i] :=
      ((sameLetter_iff _ _).1 hj).trans ((sameLetter_iff _ _).1 hsame).symm
    have hnodup := distinct_iff_nodup.1 h
    have hdigit := List.inj_on_of_nodup_map hnodup (List.getElem_mem j.2) hd hlower
    exact Fin.ext ((hnodup.of_map lower).getElem_inj_iff.1 hdigit)
  · rintro ⟨i, hi, -⟩
    exact List.any_eq_true.2 ⟨_, List.getElem_mem i.2, hi⟩

theorem card_symbols (hplain : 'İ' ∉ b.digits.toList) :
    b.symbols.card = (Rules.lowerSymbols b).size := by
  have hmap : b.symbols = (b.digits.toList.flatMap lower).toFinset.image ([·]) := by
    rw [symbols, ← map_singleton_flatMap_lower hplain]
    ext cs
    simp
  rw [hmap, Finset.card_image_of_injective _ List.singleton_injective, Rules.lowerSymbols,
    OrderedMap.size_ofList]

end NumberBase

namespace Rules
variable {r : Rules} {p : Char} {b : NumberBase}

/-! ## Rules that pass -/

theorem digits_of_validate (hv : r.validate = .ok ()) (hb : (p, b) ∈ r.numbers.bases.entries) :
    (lowerSymbols b).size = b.digits.toList.length ∧ 2 ≤ b.digits.toList.length := by
  obtain ⟨earlier, -, hbase⟩ := basesViolation?_of_mem (basesViolation?_of_validate hv) hb
  obtain ⟨-, -, hdigits, -⟩ := baseViolation?_eq_none_iff.1 hbase
  dsimp only at hdigits
  omega

theorem radix_of_validate (hv : r.validate = .ok ()) (hb : (p, b) ∈ r.numbers.bases.entries) :
    b.radix = b.digits.toList.length := by
  have hchars := card_chars_le (b.digits.toList.flatMap lower).toFinset
  rw [← OrderedMap.size_ofList] at hchars
  have hsize : (lowerSymbols b).size = b.digits.toList.length := (digits_of_validate hv hb).1
  have hlength : b.digits.toList.length ≤ 0x110000 := hsize ▸ hchars
  rw [NumberBase.radix]
  omega

/-! ## Rules that are refused -/

theorem exists_of_basesViolation? {earlier : List Char} {bases : List (Char × NumberBase)}
    {v : Violation} (h : r.basesViolation? earlier bases = some v) :
    ∃ earlier', ∃ e ∈ bases, r.baseViolation? earlier' e.1 e.2 = some v := by
  induction bases generalizing earlier with
  | nil => cases h
  | cons d rest ih =>
    rw [basesViolation?, Option.orElse_eq_orElse, Option.orElse_eq_or, Option.or_eq_some_iff] at h
    rcases h with h | ⟨-, h⟩
    · exact ⟨earlier, d, List.mem_cons_self, h⟩
    · obtain ⟨earlier', e, he, hbase⟩ := ih h
      exact ⟨earlier', e, List.mem_cons_of_mem d he, hbase⟩

theorem digits_of_baseViolation? {earlier : List Char} {letter : Char}
    (h : r.baseViolation? earlier letter b = some (.baseDigits p)) :
    letter = p ∧
      ((lowerSymbols b).size < 2 ∨ (lowerSymbols b).size ≠ b.digits.toList.length) := by
  unfold baseViolation? at h
  dsimp only at h
  split at h
  · cases h
  · split at h
    · cases h
    · split at h
      · next hdigits =>
        cases h
        exact ⟨rfl, hdigits⟩
      · split at h <;> cases h

/-- Digits are found alike only by a check for a key that starts as the keys of bases do. -/
theorem ne_baseDigits_of_checks {found : Option Violation} {qs : List Requirement}
    (h : Checks found qs) (hkeys : ∀ q ∈ qs, q.key.toList.head? ≠ some 'n') :
    found ≠ some (.baseDigits p) := by
  intro hfound
  obtain ⟨front, q, back, rfl, -, -, hkey⟩ := h.first _ hfound
  have hhead : "number.bases.".toList.head? = some 'n' := by decide
  apply hkeys q (by simp)
  rw [hkey]
  change ("number.bases." ++ toString p).toList.head? = some 'n'
  rw [String.toList_append, List.head?_append, hhead]
  rfl

theorem basesViolation?_of_validate_error (h : r.validate = .error (.baseDigits p)) :
    r.basesViolation? [] r.numbers.bases.entries = some (.baseDigits p) := by
  have hfound := validate_eq_error_iff.1 h
  have hclasses := ne_baseDigits_of_checks (p := p) r.checks_classes (by simp [classRequirements])
  have hstrings := ne_baseDigits_of_checks (p := p) r.checks_strings (by simp [stringRequirements])
  have hcomments := ne_baseDigits_of_checks (p := p) r.checks_comment
    (by simp [commentRequirements, markerRequirements])
  have hdocuments := ne_baseDigits_of_checks (p := p) r.checks_document
    (by simp [documentRequirements, markerRequirements])
  simp only [violation?, numbersViolation?, Option.orElse_eq_orElse, Option.orElse_eq_or,
    Option.or_eq_some_iff] at hfound
  rcases hfound with hclass | ⟨-, hstring | ⟨-, (hbase | ⟨-, hseparator⟩) |
    ⟨-, hcomment | ⟨-, hdocument | ⟨-, hword | ⟨-, htoken⟩⟩⟩⟩⟩⟩
  · exact absurd hclass hclasses
  · exact absurd hstring hstrings
  · exact hbase
  · obtain ⟨c, -, hc⟩ := Option.bind_eq_some_iff.1 hseparator
    obtain ⟨-, ⟨⟩⟩ := Option.ite_none_right_eq_some.1 hc
  · exact absurd hcomment hcomments
  · exact absurd hdocument hdocuments
  · obtain ⟨-, ⟨⟩⟩ := Option.ite_none_right_eq_some.1 hword
  · obtain ⟨name, -, ⟨⟩⟩ := Option.map_eq_some_iff.1 htoken

end Rules

/-! ## Reasons -/

/-- A reason that is put together is told from a fixed one by its first character. -/
theorem append_ne_of_head? {s text : String} {c d : Char} (hs : s.toList.head? = some c)
    (htext : text.toList.head? = some d) (hne : c ≠ d) (t : String) : s ++ t ≠ text := by
  intro heq
  have hhead := congrArg (·.toList.head?) heq
  simp only [String.toList_append, List.head?_append, hs, htext] at hhead
  exact hne (Option.some.inj hhead)

/-- No other violation has the reason of digits that are alike. -/
theorem Violation.eq_baseDigits_of_reason {v : Violation}
    (h : v.reason = "digits must hold at least two distinct symbols") :
    ∃ p, v = .baseDigits p := by
  have hapart : ∀ {s : String} {c : Char}, s.toList.head? = some c → c ≠ 'd' → ∀ t,
      s ++ t ≠ "digits must hold at least two distinct symbols" := fun hs hc =>
    append_ne_of_head? hs (by decide) hc
  have hquoted : (toString "'").toList.head? = some '\'' := by decide
  have hquote : (toString "quote '").toList.head? = some 'q' := by decide
  have hname : (toString "name `").toList.head? = some 'n' := by decide
  have hempty : (toString "must not be empty, token `").toList.head? = some 'm' := by decide
  cases v <;> dsimp only [reason] at h
  case baseDigits p => exact ⟨p, rfl⟩
  case shadowing | overlap | escapeIsQuote | separator | markerForeign =>
    simp only [String.append_assoc] at h
    exact absurd h (hapart hquoted (by decide) _)
  case quoteTaken =>
    rw [String.append_assoc] at h
    exact absurd h (hapart hquote (by decide) _)
  case nameTwice =>
    rw [String.append_assoc] at h
    exact absurd h (hapart hname (by decide) _)
  case spelledWithOperators =>
    rw [String.append_assoc] at h
    exact absurd h (hapart hempty (by decide) _)
  -- the other reasons are fixed texts
  all_goals exact absurd h (by decide)

/-! ## The check -/

/-- The digits of a base of valid rules are at least two. If none of them is the capital I with a
dot, no two are alike: all of them can be told apart, and what the base accepts stands for one of
them. A base without that digit is refused as having too few digits only if it has, or if two are
alike. -/
theorem base_digits_distinct (r : Rules) :
    (r.validate = .ok () → ∀ p b, (p, b) ∈ r.numbers.bases.entries →
      b.radix = b.digits.toList.length ∧ 2 ≤ b.radix ∧
      (∀ c, b.accepts c = true ↔ lower c ∈ b.symbols) ∧
      ('İ' ∉ b.digits.toList → b.Distinct ∧ b.symbols.card = b.radix ∧
        ∀ c, b.accepts c = true ↔
          ∃! i : Fin b.digits.toList.length, sameLetter b.digits.toList[i] c = true)) ∧
    ∀ v, r.validate = .error v → v.reason = "digits must hold at least two distinct symbols" →
      ∃ p b, v = .baseDigits p ∧ (p, b) ∈ r.numbers.bases.entries ∧
        ('İ' ∉ b.digits.toList → b.digits.toList.length < 2 ∨ ¬ b.Distinct) := by
  constructor
  · intro hv p b hb
    obtain ⟨hsize, htwo⟩ := Rules.digits_of_validate hv hb
    have hradix := Rules.radix_of_validate hv hb
    refine ⟨hradix, hradix ▸ htwo, fun c => NumberBase.accepts_iff_mem_symbols, fun hplain => ?_⟩
    have hcard : b.symbols.card = b.digits.toList.length :=
      (NumberBase.card_symbols hplain).trans hsize
    have hdistinct := NumberBase.distinct_iff_card.2 hcard
    exact ⟨hdistinct, hcard.trans hradix.symm, fun c => hdistinct.accepts_iff⟩
  · intro v hv hreason
    obtain ⟨p, rfl⟩ := Violation.eq_baseDigits_of_reason hreason
    obtain ⟨earlier, ⟨letter, b⟩, hb, hbase⟩ :=
      Rules.exists_of_basesViolation? (Rules.basesViolation?_of_validate_error hv)
    obtain ⟨rfl, hdigits⟩ := Rules.digits_of_baseViolation? hbase
    refine ⟨letter, b, rfl, hb, fun hplain => ?_⟩
    rw [← NumberBase.card_symbols hplain] at hdigits
    by_cases hdistinct : b.Distinct
    · rw [NumberBase.distinct_iff_card.1 hdistinct] at hdigits
      exact .inl (hdigits.resolve_right (absurd rfl))
    · exact .inr hdistinct

/-- Rules with one base, of the given digits. -/
def Rules.withDigits (digits : String) : Rules :=
  { Rules.sample with
    numbers := { Rules.sample.numbers with bases := .ofList [('x', ⟨digits, "OTHER"⟩)] } }

/-- Sixteen digits can be told apart, and a letter in both cases is one digit. -/
theorem base_digits_distinct_sample :
    Rules.sample.validate = .ok () ∧
      (⟨"0123456789abcdef", "HEXADECIMAL"⟩ : NumberBase).Distinct ∧
      (⟨"0123456789abcdef", "HEXADECIMAL"⟩ : NumberBase).symbols.card = 16 ∧
      (Rules.withDigits "0aA").validate = .error (.baseDigits 'x') ∧
      ¬ (⟨"0aA", "OTHER"⟩ : NumberBase).Distinct := by
  have hv : Rules.sample.validate = .ok () := Rules.validate_eq_ok_iff.2 (by decide +kernel)
  have herror : (Rules.withDigits "0aA").validate = .error (.baseDigits 'x') :=
    Rules.validate_eq_error_iff.2 (by decide +kernel)
  obtain ⟨hvalid, -⟩ := base_digits_distinct Rules.sample
  obtain ⟨-, hrefused⟩ := base_digits_distinct (Rules.withDigits "0aA")
  obtain ⟨hradix, -, -, hplain⟩ :=
    hvalid hv 'x' ⟨"0123456789abcdef", "HEXADECIMAL"⟩ List.mem_cons_self
  obtain ⟨hdistinct, hcard, -⟩ := hplain (by decide)
  obtain ⟨p, b, -, hb, hcause⟩ := hrefused _ herror rfl
  obtain ⟨rfl, rfl⟩ : p = 'x' ∧ b = ⟨"0aA", "OTHER"⟩ := by simpa using List.mem_singleton.1 hb
  exact ⟨hv, hdistinct, hcard.trans hradix, herror, (hcause (by decide)).resolve_left (by decide)⟩

/-- With the capital I with a dot two digits that are alike pass, and two different ones do not. -/
theorem base_digits_dotted :
    (Rules.withDigits "İİ").validate = .ok () ∧ ¬ (⟨"İİ", "OTHER"⟩ : NumberBase).Distinct ∧
      (Rules.withDigits "İa").validate = .error (.baseDigits 'x') ∧
      (⟨"İa", "OTHER"⟩ : NumberBase).Distinct :=
  ⟨Rules.validate_eq_ok_iff.2 (by decide +kernel), by decide +kernel,
    Rules.validate_eq_error_iff.2 (by decide +kernel), by decide +kernel⟩

end RuleLexer
