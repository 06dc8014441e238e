import Mathlib.Data.List.Nodup
import RuleLexer.Proofs.Letters
import RuleLexer.Proofs.OrderedMap
import RuleLexer.Rules.Validation
import RuleLexer.Scan.Tokens

/-!
# What valid rules satisfy

A check of the rules finds no violation exactly when the rules have the property that it looks for.
From the checks of the character classes and the quotes it follows that a character belongs to one
class at most.
-/

namespace RuleLexer
open Text

namespace Rules
variable {r : Rules} {c : Char}

theorem validate_eq_ok_iff : r.validate = .ok () ↔ r.violation? = none := by
  unfold validate
  cases r.violation? with
  | none => simp
  | some v => simp

theorem validate_eq_error_iff {v : Violation} : r.validate = .error v ↔ r.violation? = some v := by
  unfold validate
  cases r.violation? with
  | none => simp
  | some w => simp

/-- Rules without a violation pass all the checks. -/
theorem violation?_eq_none_iff :
    r.violation? = none ↔
      r.classesViolation? = none ∧ r.stringsViolation? = none ∧ r.numbersViolation? = none ∧
        r.familyViolation? .comment = none ∧ r.familyViolation? .document = none ∧
        r.wordsViolation? = none ∧ r.tokensViolation? = none := by
  simp [violation?]

/-! ## Classes of characters -/

theorem charClassViolation?_eq_none_iff {key : CharClassKey} {others : List CharClassKey} :
    r.charClassViolation? key others = none ↔
      (∀ c, (r.charClass key).contains c = true → isAlphanumeric c = false) ∧
        ∀ other ∈ others, ∀ c, (r.charClass key).contains c = true →
          (r.charClass other).contains c = false := by
  simp [charClassViolation?, OrderedMap.contains_iff_mem_keys, OrderedMap.contains_eq_false_iff,
    OrderedSet.toList]

theorem stringsViolation?_eq_none_iff :
    r.stringsViolation? = none ↔
      (∀ q, r.strings.quotes.contains q = true →
        isAlphanumeric q = false ∧ r.isBoundary q = false) ∧
      ∀ e ∈ r.strings.escape, r.strings.quotes.contains e = false := by
  simp [stringsViolation?, OrderedMap.contains_iff_mem_keys, OrderedMap.contains_eq_false_iff]

/-- No two of the three sets of characters overlap, and none has a letter or a number. -/
theorem charClass_of_validate (hv : r.validate = .ok ()) :
    (∀ key c, (r.charClass key).contains c = true → isAlphanumeric c = false) ∧
      ∀ key key' c, (r.charClass key).contains c = true → (r.charClass key').contains c = true →
        key = key' := by
  have hclasses := (violation?_eq_none_iff.1 (validate_eq_ok_iff.1 hv)).1
  simp only [classesViolation?, Option.orElse_eq_orElse, Option.orElse_eq_or,
    Option.or_eq_none_iff, charClassViolation?_eq_none_iff] at hclasses
  obtain ⟨⟨hwhitespace, hw⟩, ⟨hoperator, ho⟩, ⟨hdelimiter, -⟩, -⟩ := hclasses
  constructor
  · intro key
    cases key with
    | whitespace => exact hwhitespace
    | operator => exact hoperator
    | delimiter => exact hdelimiter
  · intro key key' c hkey hkey'
    have hwo := hw .operator (by simp) c
    have hwd := hw .delimiter (by simp) c
    have hod := ho .delimiter (by simp) c
    cases key <;> cases key' <;> grind [charClass]

/-- A boundary is a character of one of the three sets. -/
theorem isBoundary_iff : r.isBoundary c = true ↔ ∃ key, (r.charClass key).contains c = true := by
  rw [isBoundary, Bool.or_eq_true, Bool.or_eq_true]
  constructor
  · rintro ((hwhitespace | hdelimiter) | hoperator)
    · exact ⟨.whitespace, hwhitespace⟩
    · exact ⟨.delimiter, hdelimiter⟩
    · exact ⟨.operator, hoperator⟩
  · rintro ⟨key, hkey⟩
    cases key with
    | whitespace => exact .inl (.inl hkey)
    | operator => exact .inr hkey
    | delimiter => exact .inl (.inr hkey)

theorem not_isAlphanumeric_of_isBoundary (hv : r.validate = .ok ()) (hc : r.isBoundary c = true) :
    isAlphanumeric c = false := by
  obtain ⟨key, hkey⟩ := isBoundary_iff.1 hc
  exact (charClass_of_validate hv).1 key c hkey

theorem not_isDigit_of_isBoundary (hv : r.validate = .ok ()) (hc : r.isBoundary c = true) :
    c.isDigit = false :=
  Bool.eq_false_iff.2 fun hdigit => Bool.false_ne_true
    ((not_isAlphanumeric_of_isBoundary hv hc).symm.trans (isAlphanumeric_of_isDigit hdigit))

theorem not_isAlphabetic_of_isBoundary (hv : r.validate = .ok ()) (hc : r.isBoundary c = true) :
    isAlphabetic c = false :=
  Bool.eq_false_iff.2 fun hletter => Bool.false_ne_true
    ((not_isAlphanumeric_of_isBoundary hv hc).symm.trans (isAlphanumeric_of_isAlphabetic hletter))

theorem quote_of_validate (hv : r.validate = .ok ()) {q : Char}
    (hq : r.strings.quotes.contains q = true) :
    isAlphanumeric q = false ∧ r.isBoundary q = false := by
  have hstrings := (violation?_eq_none_iff.1 (validate_eq_ok_iff.1 hv)).2.1
  exact (stringsViolation?_eq_none_iff.1 hstrings).1 q hq

theorem escape_ne_of_validate (hv : r.validate = .ok ()) {q : Char}
    (hq : r.strings.quotes.contains q = true) : r.strings.escape ≠ some q := by
  have hstrings := (violation?_eq_none_iff.1 (validate_eq_ok_iff.1 hv)).2.1
  intro hescape
  rw [(stringsViolation?_eq_none_iff.1 hstrings).2 q hescape] at hq
  cases hq

/-- A character belongs to one class at most. -/
theorem belongs_unique (hv : r.validate = .ok ()) {c : Char} {cls cls' : CharClass}
    (h : r.belongs c cls = true) (h' : r.belongs c cls' = true) : cls = cls' := by
  obtain ⟨hset, hunique⟩ := charClass_of_validate hv
  have hwhitespace := hset .whitespace c
  have hoperator := hset .operator c
  have hdelimiter := hset .delimiter c
  have hwo := hunique .whitespace .operator c
  have hwd := hunique .whitespace .delimiter c
  have hod := hunique .operator .delimiter c
  have hquote : r.strings.quotes.contains c = true → _ := quote_of_validate hv
  have hdigit : c.isDigit = true → isAlphanumeric c = true := isAlphanumeric_of_isDigit
  have hapart : c.isDigit = true → isAlphabetic c = false := not_isAlphabetic_of_isDigit
  have hletter : isAlphabetic c = true → _ := isAlphanumeric_of_isAlphabetic
  simp only [charClass, isBoundary] at hwhitespace hoperator hdelimiter hwo hwd hod hquote
  cases cls <;> cases cls' <;> grind [belongs]

/-! ## Bases -/

theorem ite_some_eq_none_iff {α : Type} {p : Prop} [Decidable p] {a : α} {o : Option α} :
    (if p then some a else o) = none ↔ ¬ p ∧ o = none := by
  by_cases h : p
  · simp [h]
  · simp [h]

/-- A base accepts no character that is no letter, except for its own digits. -/
theorem mem_digits_of_accepts {b : NumberBase} (hc : isAlphabetic c = false)
    (h : b.accepts c = true) : c ∈ b.digits.toList := by
  obtain ⟨d, hd, hsame⟩ := List.any_eq_true.1 h
  exact eq_of_sameLetter hc hsame ▸ hd

theorem baseViolation?_eq_none_iff {earlier : List Char} {letter : Char} {b : NumberBase} :
    r.baseViolation? earlier letter b = none ↔
      isAlphabetic letter = true ∧ (∀ p ∈ earlier, sameLetter p letter = false) ∧
        ¬ ((lowerSymbols b).size < 2 ∨ (lowerSymbols b).size ≠ b.digits.toList.length) ∧
        '.' ∉ b.digits.toList ∧ r.numbers.separator.any b.accepts = false := by
  unfold baseViolation?
  simp only [ite_some_eq_none_iff, Bool.not_eq_true, Bool.not_eq_false', List.any_eq_false,
    Bool.or_eq_false_iff, List.contains_eq_mem, decide_eq_false_iff_not, and_true]

theorem basesViolation?_of_mem {earlier : List Char} {bases : List (Char × NumberBase)}
    (h : r.basesViolation? earlier bases = none) {e : Char × NumberBase} (he : e ∈ bases) :
    ∃ earlier', earlier ⊆ earlier' ∧ r.baseViolation? earlier' e.1 e.2 = none := by
  induction bases generalizing earlier with
  | nil => cases he
  | cons d rest ih =>
    simp only [basesViolation?, Option.orElse_eq_orElse, Option.orElse_eq_or,
      Option.or_eq_none_iff] at h
    rcases List.mem_cons.1 he with rfl | he
    · exact ⟨earlier, List.Subset.refl _, h.1⟩
    · obtain ⟨earlier', hsubset, hbase⟩ := ih h.2 he
      exact ⟨earlier', fun p hp => hsubset (List.mem_cons_of_mem d.1 hp), hbase⟩

theorem nodup_of_basesViolation? {earlier : List Char} {bases : List (Char × NumberBase)}
    (h : r.basesViolation? earlier bases = none) : (bases.map fun e => lower e.1).Nodup := by
  induction bases generalizing earlier with
  | nil => exact List.nodup_nil
  | cons d rest ih =>
    simp only [basesViolation?, Option.orElse_eq_orElse, Option.orElse_eq_or,
      Option.or_eq_none_iff] at h
    refine List.nodup_cons.2 ⟨fun hmem => ?_, ih h.2⟩
    obtain ⟨e, he, hsame⟩ := List.mem_map.1 hmem
    obtain ⟨earlier', hsubset, hbase⟩ := basesViolation?_of_mem h.2 he
    have hapart := (baseViolation?_eq_none_iff.1 hbase).2.1 d.1 (hsubset List.mem_cons_self)
    rw [(sameLetter_iff d.1 e.1).2 hsame.symm] at hapart
    cases hapart

theorem basesViolation?_of_validate (hv : r.validate = .ok ()) :
    r.basesViolation? [] r.numbers.bases.entries = none := by
  have hnumbers := (violation?_eq_none_iff.1 (validate_eq_ok_iff.1 hv)).2.2.1
  simp only [numbersViolation?, Option.orElse_eq_orElse, Option.orElse_eq_or,
    Option.or_eq_none_iff] at hnumbers
  exact hnumbers.1

theorem isAlphabetic_of_mem_bases (hv : r.validate = .ok ()) {e : Char × NumberBase}
    (he : e ∈ r.numbers.bases.entries) : isAlphabetic e.1 = true := by
  obtain ⟨earlier, -, hbase⟩ := basesViolation?_of_mem (basesViolation?_of_validate hv) he
  exact (baseViolation?_eq_none_iff.1 hbase).1

/-- The first of the listed bases that a letter calls for. -/
def firstBase? (bases : List (Char × NumberBase)) (letter : Char) : Option NumberBase :=
  (bases.find? fun e => sameLetter e.1 letter).map (·.2)

/-- Of bases that differ in their letters, the first that a letter calls for is the only one. -/
theorem firstBase?_eq_some_iff {bases : List (Char × NumberBase)}
    (hnodup : (bases.map fun e => lower e.1).Nodup) {letter : Char} {b : NumberBase} :
    firstBase? bases letter = some b ↔ ∃ p, (p, b) ∈ bases ∧ sameLetter p letter = true := by
  have hfind (e : Char × NumberBase) :
      bases.find? (fun e => sameLetter e.1 letter) = some e ↔
        e ∈ bases ∧ lower e.1 = lower letter :=
    find?_eq_some_iff_of_nodup hnodup fun d => sameLetter_iff d.1 letter
  rw [firstBase?, Option.map_eq_some_iff]
  constructor
  · rintro ⟨⟨p, b⟩, he, rfl⟩
    obtain ⟨hmem, hp⟩ := (hfind _).1 he
    exact ⟨p, hmem, (sameLetter_iff p letter).2 hp⟩
  · rintro ⟨p, hmem, hp⟩
    exact ⟨(p, b), (hfind _).2 ⟨hmem, (sameLetter_iff p letter).1 hp⟩, rfl⟩

/-- No two bases have the same letter, so the one that a letter calls for is the only one. -/
theorem base?_eq_some_iff (hv : r.validate = .ok ()) {letter : Char} {b : NumberBase} :
    r.numbers.base? letter = some b ↔
      ∃ p, (p, b) ∈ r.numbers.bases.entries ∧ sameLetter p letter = true :=
  firstBase?_eq_some_iff (nodup_of_basesViolation? (basesViolation?_of_validate hv))

theorem separator_of_validate (hv : r.validate = .ok ()) {c : Char}
    (hc : r.numbers.separator = some c) : c.isDigit = false ∧ c ≠ '.' := by
  have hnumbers := (violation?_eq_none_iff.1 (validate_eq_ok_iff.1 hv)).2.2.1
  simp only [numbersViolation?, Option.orElse_eq_orElse, Option.orElse_eq_or,
    Option.or_eq_none_iff, hc, Option.bind_some, ite_some_eq_none_iff, not_or] at hnumbers
  simpa using hnumbers.2

/-! ## Comment markers -/

theorem markerViolation?_eq_none_iff {key : MarkerKey} {marker : String} :
    r.markerViolation? key marker = none ↔
      marker.toList ≠ [] ∧ (∀ c ∈ marker.toList, r.operators.chars.contains c = true) ∧
        marker.toList.length ≤ r.operators.maxLength := by
  unfold markerViolation?
  cases hfind : marker.toList.find? (!r.operators.chars.contains ·) with
  | some c =>
    have hc := List.find?_some hfind
    have hmem := List.mem_of_find?_eq_some hfind
    grind
  | none =>
    have hall := List.find?_eq_none.1 hfind
    simp only [Bool.not_eq_true, Bool.not_eq_false'] at hall
    simp only [ite_some_eq_none_iff, List.isEmpty_iff, Nat.not_lt, and_true]
    constructor
    · rintro ⟨hne, hlength⟩
      exact ⟨hne, hall, hlength⟩
    · rintro ⟨hne, -, hlength⟩
      exact ⟨hne, hlength⟩

theorem familyViolation?_eq_none_iff {family : CommentFamily} :
    r.familyViolation? family = none ↔
      (∀ m ∈ (r.commentRules family).line, r.markerViolation? (.line family) m = none) ∧
        ∀ b ∈ (r.commentRules family).block,
          r.markerViolation? (.blockBegin family) b.opening = none ∧ b.closing.toList ≠ [] := by
  simp [familyViolation?, Option.bind_eq_none_iff]

theorem familyViolation?_of_validate (hv : r.validate = .ok ()) (family : CommentFamily) :
    r.familyViolation? family = none := by
  obtain ⟨-, -, -, hcomment, hdocument, -⟩ := violation?_eq_none_iff.1 (validate_eq_ok_iff.1 hv)
  cases family with
  | comment => exact hcomment
  | document => exact hdocument

end Rules

end RuleLexer
