import RuleLexer.Proofs.Consistency
import RuleLexer.Proofs.Extension

/-!
# Digits, fractions and suffixes

The scanner of numbers splits a decimal number into its digits and its suffix, and a number with a
base into its letter and its digits. Each split succeeds exactly where the text has those parts and
goes on with what may stand behind them, and then it gives those parts.
-/

namespace RuleLexer
open Text

/-- The digits behind a point, with the point. -/
def pointed : Option (List Char) → List Char
  | none => []
  | some digits => '.' :: digits

namespace Rules
variable {r : Rules} {c : Char} {cs digits word suffix rest : List Char} {part : DecimalPart}
  {d : DecimalParts}

theorem ok_mapError_map_iff {ε ε' α β : Type} {x : Except ε α} {f : α → β} {g : ε → ε'} {b : β} :
    (x.map f).mapError g = .ok b ↔ ∃ a, x = .ok a ∧ f a = b := by
  refine ⟨ok_of_mapError_map, ?_⟩
  rintro ⟨a, rfl, rfl⟩
  rfl

/-- Decimal digits with separators among them. -/
def IsDigits (r : Rules) (cs : List Char) : Prop :=
  ∀ c ∈ cs, c.isDigit = true ∨ r.isSeparator c = true

/-- Every text starts with digits, be it none. -/
theorem exists_digits (r : Rules) (cs : List Char) :
    ∃ digits tail, cs = digits ++ tail ∧ r.IsDigits digits ∧
      ∀ c ∈ tail.head?, c.isDigit = false ∧ r.isSeparator c = false := by
  obtain ⟨digits, tail, hcs, hrun, hstop⟩ := exists_run (fun c => c.isDigit || r.isSeparator c) cs
  exact ⟨digits, tail, hcs, fun c hc => Bool.or_eq_true_iff.1 (hrun c hc),
    fun c hc => Bool.or_eq_false_iff.1 (hstop c hc)⟩

/-- No suffix, or one that starts with a letter. -/
def IsSuffix (r : Rules) (cs : List Char) : Prop :=
  cs = [] ∨ ∃ c tail, cs = c :: tail ∧ isAlphabetic c = true ∧ r.isSeparator c = false ∧
    ∀ d ∈ tail, isWordChar d = true

/-! ## Decimal numbers -/

/-- What the scanner asks of the text behind a decimal number with the given suffix. -/
def EndsDecimal (r : Rules) (suffix rest : List Char) : Prop :=
  ∀ c ∈ rest.head?, r.isBoundary c = true ∧
    (suffix = [] → r.isSeparator c = false ∧ c ≠ '.') ∧ (suffix ≠ [] → isWordChar c = false)

theorem endsDecimal_nil (r : Rules) (suffix : List Char) : r.EndsDecimal suffix [] :=
  fun _ hc => (Option.not_mem_none _ hc).elim

theorem splitDecimal_word_iff (hword : ∀ c ∈ word, isWordChar c = true) :
    r.splitDecimal .suffix (word ++ cs) = .ok d ↔
      ∃ e, r.splitDecimal .suffix cs = .ok e ∧ { e with suffix := word ++ e.suffix } = d := by
  induction word generalizing d with
  | nil => simp
  | cons c word ih =>
    obtain ⟨hc, hword⟩ := List.forall_mem_cons.1 hword
    rw [List.cons_append, splitDecimal, if_pos hc, ok_mapError_map_iff]
    simp [ih hword]

theorem splitDecimal_digits_iff (hpart : part ≠ .suffix) (hdigits : r.IsDigits digits) :
    r.splitDecimal part (digits ++ cs) = .ok d ↔
      ∃ e, r.splitDecimal part cs = .ok e ∧ { e with digits := digits ++ e.digits } = d := by
  induction digits generalizing d with
  | nil => simp
  | cons c digits ih =>
    obtain ⟨hc, hdigits⟩ := List.forall_mem_cons.1 hdigits
    rw [List.cons_append, splitDecimal, if_pos (Bool.or_eq_true_iff.2 hc), ok_mapError_map_iff]
    · simp [ih hdigits]
    · exact hpart

/-- Behind its first letter a suffix goes on as far as a word does. -/
theorem splitDecimal_suffix_iff :
    r.splitDecimal .suffix cs = .ok d ↔
      ∃ word rest, cs = word ++ rest ∧ (∀ c ∈ word, isWordChar c = true) ∧
        (∀ c ∈ rest.head?, r.isBoundary c = true ∧ isWordChar c = false) ∧
        d = ⟨[], word, rest, false⟩ := by
  have hstop : ∀ {rest d}, (∀ c ∈ rest.head?, isWordChar c = false) →
      (r.splitDecimal .suffix rest = .ok d ↔
        (∀ c ∈ rest.head?, r.isBoundary c = true) ∧ d = ⟨[], [], rest, false⟩) := by
    intro rest d hhead
    cases rest with
    | nil =>
      rw [splitDecimal, Except.ok.injEq, eq_comm]
      simp
    | cons c rest =>
      rw [splitDecimal, if_neg (by simp [hhead c rfl]), eq_comm]
      cases hboundary : r.isBoundary c <;> simp [hboundary]
  constructor
  · intro h
    obtain ⟨word, rest, rfl, hword, hhead⟩ := exists_run isWordChar cs
    obtain ⟨e, he, rfl⟩ := (splitDecimal_word_iff hword).1 h
    obtain ⟨hboundary, rfl⟩ := (hstop hhead).1 he
    exact ⟨word, rest, rfl, hword, fun c hc => ⟨hboundary c hc, hhead c hc⟩, by simp⟩
  · rintro ⟨word, rest, rfl, hword, hrest, rfl⟩
    refine (splitDecimal_word_iff hword).2 ⟨⟨[], [], rest, false⟩, ?_, by simp⟩
    exact (hstop fun c hc => (hrest c hc).2).2 ⟨fun c hc => (hrest c hc).1, rfl⟩

/-- Where neither a digit nor a point stands, what is left of a decimal number is its suffix. -/
theorem splitDecimal_tail_iff (hv : r.validate = .ok ()) (hpart : part ≠ .suffix)
    (hhead : ∀ c ∈ cs.head?, c.isDigit = false ∧ r.isSeparator c = false ∧ c ≠ '.') :
    r.splitDecimal part cs = .ok d ↔
      ∃ suffix rest, cs = suffix ++ rest ∧ r.IsSuffix suffix ∧ r.EndsDecimal suffix rest ∧
        d = ⟨[], suffix, rest, false⟩ := by
  cases cs with
  | nil =>
    rw [splitDecimal, Except.ok.injEq]
    constructor
    · rintro rfl
      exact ⟨[], [], rfl, .inl rfl, r.endsDecimal_nil [], rfl⟩
    · rintro ⟨suffix, rest, hcs, -, -, rfl⟩
      obtain ⟨rfl, rfl⟩ := List.append_eq_nil_iff.1 hcs.symm
      rfl
  | cons c cs =>
    obtain ⟨hdigit, hseparator, hpoint⟩ := hhead c rfl
    rw [splitDecimal, if_neg (by simp [hdigit, hseparator]), if_neg hpoint]
    · split
      · next hletter =>
        rw [ok_mapError_map_iff]
        simp only [splitDecimal_suffix_iff]
        constructor
        · rintro ⟨-, ⟨word, rest, rfl, hword, hrest, rfl⟩, rfl⟩
          refine ⟨c :: word, rest, rfl, .inr ⟨c, word, rfl, hletter, hseparator, hword⟩, ?_, rfl⟩
          exact fun e he => ⟨(hrest e he).1, fun hnil => absurd hnil (List.cons_ne_nil c word),
            fun _ => (hrest e he).2⟩
        · rintro ⟨suffix, rest, hcs, hsuffix, hends, rfl⟩
          -- without a suffix the letter would have to be a boundary
          rcases hsuffix with rfl | ⟨e, word, rfl, -, -, hword⟩
          · obtain rfl : c :: cs = rest := hcs
            have hnot := not_isAlphabetic_of_isBoundary hv (hends c rfl).1
            rw [hletter] at hnot
            cases hnot
          · obtain ⟨rfl, rfl⟩ := List.cons.inj hcs
            refine ⟨⟨[], word, rest, false⟩, ⟨word, rest, rfl, hword, ?_, rfl⟩, rfl⟩
            exact fun e he => ⟨(hends e he).1, (hends e he).2.2 (List.cons_ne_nil _ _)⟩
      · next hletter =>
        constructor
        · intro h
          split at h
          · next hboundary =>
            cases h
            refine ⟨[], c :: cs, rfl, .inl rfl, ?_, rfl⟩
            rintro e ⟨⟩
            exact ⟨hboundary, fun _ => ⟨hseparator, hpoint⟩, absurd rfl⟩
          · cases h
        · rintro ⟨suffix, rest, hcs, hsuffix, hends, rfl⟩
          rcases hsuffix with rfl | ⟨e, word, rfl, he, -⟩
          · obtain rfl : c :: cs = rest := hcs
            rw [if_pos (hends c rfl).1]
          · obtain ⟨rfl, -⟩ := List.cons.inj hcs
            exact absurd he hletter
    · exact hpart

theorem not_digit_point (hv : r.validate = .ok ()) :
    ¬ (Char.isDigit '.' || r.isSeparator '.') = true := by
  intro h
  have hseparator : r.numbers.separator = some '.' := by simpa [isSeparator] using h
  exact (separator_of_validate hv hseparator).2 rfl

theorem head?_tail (hv : r.validate = .ok ()) (hsuffix : r.IsSuffix suffix)
    (hends : r.EndsDecimal suffix rest) :
    ∀ c ∈ (suffix ++ rest).head?, c.isDigit = false ∧ r.isSeparator c = false ∧ c ≠ '.' := by
  rcases hsuffix with rfl | ⟨e, word, rfl, hletter, hseparator, -⟩
  · intro c hc
    obtain ⟨hboundary, hplain, -⟩ := hends c hc
    exact ⟨not_isDigit_of_isBoundary hv hboundary, hplain rfl⟩
  · rintro c ⟨⟩
    refine ⟨?_, hseparator, ?_⟩
    · refine Bool.eq_false_iff.2 fun hdigit => ?_
      rw [not_isAlphabetic_of_isDigit hdigit] at hletter
      cases hletter
    · rintro rfl
      cases hletter

theorem head?_pointed (hv : r.validate = .ok ()) (fraction : Option (List Char))
    (hsuffix : r.IsSuffix suffix) (hends : r.EndsDecimal suffix rest) :
    ∀ c ∈ (pointed fraction ++ (suffix ++ rest)).head?, c.isDigit = false := by
  cases fraction with
  | none => exact fun c hc => (head?_tail hv hsuffix hends c hc).1
  | some digits =>
    rintro c ⟨⟩
    rfl

theorem splitDecimal_fraction_iff (hv : r.validate = .ok ()) :
    r.splitDecimal .fraction cs = .ok d ↔
      ∃ digits suffix rest, cs = digits ++ (suffix ++ rest) ∧ r.IsDigits digits ∧
        r.IsSuffix suffix ∧ r.EndsDecimal suffix rest ∧ d = ⟨digits, suffix, rest, false⟩ := by
  have hpart : DecimalPart.fraction ≠ .suffix := by decide
  constructor
  · intro h
    obtain ⟨digits, tail, rfl, hdigits, hstop⟩ := exists_digits r cs
    obtain ⟨e, he, rfl⟩ := (splitDecimal_digits_iff hpart hdigits).1 h
    have hhead : ∀ c ∈ tail.head?, c.isDigit = false ∧ r.isSeparator c = false ∧ c ≠ '.' := by
      intro c hc
      obtain ⟨hdigit, hseparator⟩ := hstop c hc
      refine ⟨hdigit, hseparator, ?_⟩
      rintro rfl
      obtain ⟨cs, rfl⟩ := List.head?_eq_some_iff.1 hc
      rw [splitDecimal, if_neg (not_digit_point hv), if_pos rfl, if_pos rfl] at he
      · cases he
      · exact hpart
    obtain ⟨suffix, rest, rfl, hsuffix, hends, rfl⟩ := (splitDecimal_tail_iff hv hpart hhead).1 he
    exact ⟨digits, suffix, rest, rfl, hdigits, hsuffix, hends, by simp⟩
  · rintro ⟨digits, suffix, rest, rfl, hdigits, hsuffix, hends, rfl⟩
    refine (splitDecimal_digits_iff hpart hdigits).2 ⟨⟨[], suffix, rest, false⟩, ?_, by simp⟩
    exact (splitDecimal_tail_iff hv hpart (head?_tail hv hsuffix hends)).2
      ⟨suffix, rest, rfl, hsuffix, hends, rfl⟩

theorem splitDecimal_whole_iff (hv : r.validate = .ok ()) :
    r.splitDecimal .whole cs = .ok d ↔
      ∃ whole fraction suffix rest, cs = whole ++ (pointed fraction ++ (suffix ++ rest)) ∧
        r.IsDigits whole ∧ (∀ digits ∈ fraction, r.IsDigits digits) ∧ r.IsSuffix suffix ∧
        r.EndsDecimal suffix rest ∧
        d = ⟨whole ++ pointed fraction, suffix, rest, fraction.isSome⟩ := by
  have hpart : DecimalPart.whole ≠ .suffix := by decide
  have hpoint : ∀ {cs d}, r.splitDecimal .whole ('.' :: cs) = .ok d ↔
      ∃ e, r.splitDecimal .fraction cs = .ok e ∧
        { e with digits := '.' :: e.digits, hasPoint := true } = d := by
    intro cs d
    rw [splitDecimal, if_neg (not_digit_point hv), if_pos rfl, if_neg (by decide), ok_mapError_map_iff]
    exact hpart
  constructor
  · intro h
    obtain ⟨whole, tail, rfl, hwhole, hstop⟩ := exists_digits r cs
    obtain ⟨e, he, rfl⟩ := (splitDecimal_digits_iff hpart hwhole).1 h
    by_cases hhead : tail.head? = some '.'
    · obtain ⟨cs, rfl⟩ := List.head?_eq_some_iff.1 hhead
      obtain ⟨f, hf, rfl⟩ := hpoint.1 he
      obtain ⟨digits, suffix, rest, rfl, hdigits, hsuffix, hends, rfl⟩ :=
        (splitDecimal_fraction_iff hv).1 hf
      refine ⟨whole, some digits, suffix, rest, rfl, hwhole, ?_, hsuffix, hends, rfl⟩
      rintro _ ⟨⟩
      exact hdigits
    · have hplain : ∀ c ∈ tail.head?, c.isDigit = false ∧ r.isSeparator c = false ∧ c ≠ '.' := by
        intro c hc
        obtain ⟨hdigit, hseparator⟩ := hstop c hc
        exact ⟨hdigit, hseparator, fun heq => hhead (heq ▸ hc)⟩
      obtain ⟨suffix, rest, rfl, hsuffix, hends, rfl⟩ :=
        (splitDecimal_tail_iff hv hpart hplain).1 he
      exact ⟨whole, none, suffix, rest, rfl, hwhole, fun _ hmem => (Option.not_mem_none _ hmem).elim,
        hsuffix, hends, rfl⟩
  · rintro ⟨whole, fraction, suffix, rest, rfl, hwhole, hfraction, hsuffix, hends, rfl⟩
    refine (splitDecimal_digits_iff hpart hwhole).2
      ⟨⟨pointed fraction, suffix, rest, fraction.isSome⟩, ?_, rfl⟩
    cases fraction with
    | none =>
      exact (splitDecimal_tail_iff hv hpart (head?_tail hv hsuffix hends)).2
        ⟨suffix, rest, rfl, hsuffix, hends, rfl⟩
    | some digits =>
      refine hpoint.2 ⟨⟨digits, suffix, rest, false⟩, ?_, rfl⟩
      exact (splitDecimal_fraction_iff hv).2
        ⟨digits, suffix, rest, rfl, hfraction digits rfl, hsuffix, hends, rfl⟩

/-! ## Numbers with a base -/

/-- What the scanner asks of the text behind a number of the given base. -/
def EndsBased (r : Rules) (base : NumberBase) (rest : List Char) : Prop :=
  ∀ c ∈ rest.head?, r.isBoundary c = true ∧ base.accepts c = false ∧ r.isSeparator c = false ∧
    c ≠ '.'

theorem endsBased_nil (r : Rules) (base : NumberBase) : r.EndsBased base [] :=
  fun _ hc => (Option.not_mem_none _ hc).elim

theorem splitBased_digits_iff {base : NumberBase} {p : List Char × List Char}
    (hdigits : ∀ c ∈ digits, (base.accepts c || r.isSeparator c) = true) :
    r.splitBased base (digits ++ cs) = .ok p ↔
      ∃ q, r.splitBased base cs = .ok q ∧ (digits ++ q.1, q.2) = p := by
  induction digits generalizing p with
  | nil => simp
  | cons c digits ih =>
    obtain ⟨hc, hdigits⟩ := List.forall_mem_cons.1 hdigits
    rw [List.cons_append, splitBased, if_pos hc, ok_mapError_map_iff]
    constructor
    · rintro ⟨tail, htail, rfl⟩
      obtain ⟨q, hq, rfl⟩ := (ih hdigits).1 htail
      exact ⟨q, hq, rfl⟩
    · rintro ⟨q, hq, rfl⟩
      exact ⟨_, (ih hdigits).2 ⟨q, hq, rfl⟩, rfl⟩

theorem splitBased_iff {base : NumberBase} :
    r.splitBased base cs = .ok (digits, rest) ↔
      cs = digits ++ rest ∧ (∀ c ∈ digits, (base.accepts c || r.isSeparator c) = true) ∧
        r.EndsBased base rest := by
  have hstop : ∀ {rest p}, (∀ c ∈ rest.head?, (base.accepts c || r.isSeparator c) = false) →
      (r.splitBased base rest = .ok p ↔
        (∀ c ∈ rest.head?, r.isBoundary c = true ∧ c ≠ '.') ∧ p = ([], rest)) := by
    intro rest p hhead
    cases rest with
    | nil =>
      rw [splitBased, Except.ok.injEq, eq_comm]
      simp
    | cons c rest =>
      rw [splitBased, if_neg (by simp [hhead c rfl]), eq_comm]
      by_cases hpoint : c = '.'
      · simp [hpoint]
      · cases hboundary : r.isBoundary c <;> simp [hboundary, hpoint]
  constructor
  · intro h
    obtain ⟨run, rest', rfl, hrun, hhead⟩ :=
      exists_run (fun c => base.accepts c || r.isSeparator c) cs
    obtain ⟨q, hq, heq⟩ := (splitBased_digits_iff hrun).1 h
    obtain ⟨hends, rfl⟩ := (hstop hhead).1 hq
    obtain ⟨rfl, rfl⟩ := Prod.mk.inj heq
    rw [List.append_nil]
    refine ⟨rfl, hrun, fun c hc => ?_⟩
    obtain ⟨haccepts, hseparator⟩ := Bool.or_eq_false_iff.1 (hhead c hc)
    exact ⟨(hends c hc).1, haccepts, hseparator, (hends c hc).2⟩
  · rintro ⟨rfl, hdigits, hends⟩
    refine (splitBased_digits_iff hdigits).2 ⟨([], rest), ?_, by simp⟩
    refine (hstop fun c hc => ?_).2 ⟨fun c hc => ?_, rfl⟩
    · obtain ⟨-, haccepts, hseparator, -⟩ := hends c hc
      exact Bool.or_eq_false_iff.2 ⟨haccepts, hseparator⟩
    · obtain ⟨hboundary, -, -, hpoint⟩ := hends c hc
      exact ⟨hboundary, hpoint⟩

end Rules

end RuleLexer
