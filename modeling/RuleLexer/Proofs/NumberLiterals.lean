import RuleLexer.Proofs.Driver
import RuleLexer.Proofs.NumberParts
import RuleLexer.Proofs.Sample

/-!
# The grammar of numbers

A number is a zero, the letter of a base and digits of that base, or it is a decimal number with or
without a point and a suffix. Separators may stand among the digits. The scanner takes the longest
number that starts the text, and only at the end of the text or in front of a boundary character; a
point behind a number without a suffix is no boundary.
-/

namespace RuleLexer
open Text

/-- A number by its parts. -/
inductive NumberLiteral where
  | based (letter : Char) (base : NumberBase) (digits : List Char)
  | decimal (whole : List Char) (fraction : Option (List Char)) (suffix : List Char)

namespace NumberLiteral

def text : NumberLiteral → List Char
  | based letter _ digits => '0' :: letter :: digits
  | decimal whole fraction suffix => whole ++ (pointed fraction ++ suffix)

def suffix : NumberLiteral → List Char
  | based _ _ _ => []
  | decimal _ _ suffix => suffix

def label (r : Rules) : NumberLiteral → Label
  | based _ base _ => ⟨r.kinds.number, base.subkind, base.radix, ""⟩
  | decimal _ fraction suffix =>
    let subkind := if fraction.isSome then r.numbers.floatSubkind else r.numbers.subkind
    ⟨r.kinds.number, subkind, 10, String.ofList suffix⟩

end NumberLiteral

namespace Rules

/-- A letter calls for the base that is declared for it in either case. -/
def CallsFor (r : Rules) (letter : Char) (base : NumberBase) : Prop :=
  ∃ p, (p, base) ∈ r.numbers.bases.entries ∧ sameLetter p letter = true

end Rules

namespace NumberLiteral

def WellFormed (r : Rules) : NumberLiteral → Prop
  | based letter base digits => r.CallsFor letter base ∧
      (∀ c ∈ digits, base.accepts c = true ∨ r.isSeparator c = true) ∧
      ∃ c ∈ digits, base.accepts c = true
  | decimal whole fraction suffix => (∃ c tail, whole = c :: tail ∧ c.isDigit = true) ∧
      r.IsDigits whole ∧ (∀ digits ∈ fraction, r.IsDigits digits) ∧ r.IsSuffix suffix ∧
      ∀ letter base tail, r.CallsFor letter base →
        (decimal whole fraction suffix).text ≠ '0' :: letter :: tail

/-- `lit` is the number that starts `lit.text ++ rest`: no number there is longer, and the text goes
on with what may stand behind a number. -/
structure Starts (r : Rules) (lit : NumberLiteral) (rest : List Char) : Prop where
  wellFormed : lit.WellFormed r
  longest : ∀ other : NumberLiteral, other.WellFormed r → other.text <+: lit.text ++ rest →
    other.text.length ≤ lit.text.length
  stops : ∀ c ∈ rest.head?, r.isBoundary c = true ∧ (lit.suffix = [] → c ≠ '.')

end NumberLiteral

namespace Rules
variable {r : Rules} {cs rest : List Char}

/-! ## Numbers of both forms -/

theorem isAlphabetic_of_callsFor (hv : r.validate = .ok ()) {letter : Char} {base : NumberBase}
    (h : r.CallsFor letter base) : isAlphabetic letter = true := by
  obtain ⟨p, hmem, hsame⟩ := h
  exact isAlphabetic_of_sameLetter (isAlphabetic_of_mem_bases hv hmem) hsame

theorem basePrefix?_eq_some_iff (hv : r.validate = .ok ()) {letter : Char} {base : NumberBase} :
    r.basePrefix? cs = some (letter, base, rest) ↔
      cs = '0' :: letter :: rest ∧ r.CallsFor letter base := by
  constructor
  · intro h
    obtain rfl := basePrefix?_eq_some h
    refine ⟨rfl, (base?_eq_some_iff hv).1 ?_⟩
    simpa [basePrefix?] using h
  · rintro ⟨rfl, hcalls⟩
    simp [basePrefix?, (base?_eq_some_iff hv).2 hcalls]

theorem basedLexeme_eq_ok_iff {letter : Char} {base : NumberBase} {l : Lexeme} :
    r.basedLexeme letter base cs = .ok l ↔
      ∃ digits rest, cs = digits ++ rest ∧
        (∀ c ∈ digits, (base.accepts c || r.isSeparator c) = true) ∧
        (∃ c ∈ digits, base.accepts c = true) ∧ r.EndsBased base rest ∧
        l = ⟨'0' :: letter :: digits, rest, some ⟨r.kinds.number, base.subkind, base.radix, ""⟩⟩ := by
  constructor
  · intro h
    rw [basedLexeme] at h
    split at h
    · cases h
    · next digits rest hsplit =>
      dsimp only at h
      split at h
      · next hany =>
        obtain ⟨hcs, hdigits, hends⟩ := splitBased_iff.1 hsplit
        exact ⟨digits, rest, hcs, hdigits, List.any_eq_true.1 hany, hends, (Except.ok.inj h).symm⟩
      · cases h
  · rintro ⟨digits, rest, hcs, hdigits, hany, hends, rfl⟩
    rw [basedLexeme, splitBased_iff.2 ⟨hcs, hdigits, hends⟩]
    dsimp only
    rw [if_pos (List.any_eq_true.2 hany)]

theorem decimalLexeme_eq_ok_iff (hv : r.validate = .ok ()) {l : Lexeme} :
    r.decimalLexeme cs = .ok l ↔
      ∃ whole fraction suffix rest, cs = whole ++ (pointed fraction ++ (suffix ++ rest)) ∧
        r.IsDigits whole ∧ (∀ digits ∈ fraction, r.IsDigits digits) ∧ r.IsSuffix suffix ∧
        r.EndsDecimal suffix rest ∧
        l = ⟨(NumberLiteral.decimal whole fraction suffix).text, rest,
          some ((NumberLiteral.decimal whole fraction suffix).label r)⟩ := by
  constructor
  · intro h
    rw [decimalLexeme] at h
    cases hsplit : r.splitDecimal .whole cs with
    | error f => rw [hsplit] at h; cases h
    | ok d =>
      obtain ⟨whole, fraction, suffix, rest, hcs, hwhole, hfraction, hsuffix, hends, rfl⟩ :=
        (splitDecimal_whole_iff hv).1 hsplit
      rw [hsplit] at h
      refine ⟨whole, fraction, suffix, rest, hcs, hwhole, hfraction, hsuffix, hends, ?_⟩
      rw [← Except.ok.inj h, NumberLiteral.text, ← List.append_assoc]
      rfl
  · rintro ⟨whole, fraction, suffix, rest, hcs, hwhole, hfraction, hsuffix, hends, rfl⟩
    have hsplit := (splitDecimal_whole_iff hv).2
      ⟨whole, fraction, suffix, rest, hcs, hwhole, hfraction, hsuffix, hends, rfl⟩
    rw [decimalLexeme, hsplit, NumberLiteral.text, ← List.append_assoc]
    rfl

end Rules

namespace NumberLiteral
variable {r : Rules} {lit : NumberLiteral} {rest : List Char}

/-- What the scanner asks of the text behind a number. -/
def Ends (r : Rules) : NumberLiteral → List Char → Prop
  | based _ base _, rest => r.EndsBased base rest
  | decimal _ _ suffix, rest => r.EndsDecimal suffix rest

/-- A letter that calls for a base is no boundary, so no decimal number ends in front of it. -/
theorem decimal_append_ne (hv : r.validate = .ok ()) {whole suffix : List Char}
    {fraction : Option (List Char)} (hwf : (decimal whole fraction suffix).WellFormed r)
    (hrest : ∀ c ∈ rest.head?, r.isBoundary c = true) {letter : Char} {base : NumberBase}
    (hcalls : r.CallsFor letter base) (tail : List Char) :
    (decimal whole fraction suffix).text ++ rest ≠ '0' :: letter :: tail := by
  intro heq
  obtain ⟨⟨c, digits, rfl, -⟩, -, -, -, hbase⟩ := hwf
  rw [text, List.cons_append, List.cons_append] at heq
  obtain ⟨rfl, htail⟩ := List.cons.inj heq
  cases hmore : digits ++ (pointed fraction ++ suffix) with
  | nil =>
    -- the number is a lone zero, so the letter is what ends it
    rw [hmore, List.nil_append] at htail
    have hboundary : r.isBoundary letter = true := hrest letter (by rw [htail]; rfl)
    have hnot := Rules.not_isAlphabetic_of_isBoundary hv hboundary
    rw [Rules.isAlphabetic_of_callsFor hv hcalls] at hnot
    cases hnot
  | cons d more =>
    rw [hmore] at htail
    obtain ⟨rfl, -⟩ := List.cons.inj htail
    exact hbase d base more hcalls (congrArg ('0' :: ·) hmore)

end NumberLiteral

namespace Rules
variable {r : Rules} {c : Char} {cs : List Char} {l : Lexeme}

/-- Behind a zero and a letter that calls for a base stands a number of this base or none. -/
theorem basedLexeme_eq_ok_iff_exists (hv : r.validate = .ok ()) {letter : Char} {base : NumberBase}
    (hcalls : r.CallsFor letter base) :
    r.basedLexeme letter base cs = .ok l ↔
      ∃ lit : NumberLiteral, ∃ rest, lit.WellFormed r ∧ lit.Ends r rest ∧
        '0' :: letter :: cs = lit.text ++ rest ∧ l = ⟨lit.text, rest, some (lit.label r)⟩ := by
  rw [basedLexeme_eq_ok_iff]
  constructor
  · rintro ⟨digits, rest, rfl, hdigits, hany, hends, rfl⟩
    exact ⟨.based letter base digits, rest,
      ⟨hcalls, fun c hc => Bool.or_eq_true_iff.1 (hdigits c hc), hany⟩, hends, rfl, rfl⟩
  · rintro ⟨lit, rest, hwf, hends, hlit, rfl⟩
    cases lit with
    | decimal whole fraction suffix =>
      have hrest : ∀ c ∈ rest.head?, r.isBoundary c = true := fun c hc => (hends c hc).1
      exact absurd hlit.symm (NumberLiteral.decimal_append_ne hv hwf hrest hcalls cs)
    | based letter' base' digits =>
      obtain ⟨hcalls', hdigits, hany⟩ := hwf
      obtain ⟨-, hlit⟩ := List.cons.inj hlit
      obtain ⟨rfl, rfl⟩ := List.cons.inj hlit
      -- no other base is declared for the letter
      obtain rfl : base' = base := Option.some.inj
        (((base?_eq_some_iff hv).2 hcalls').symm.trans ((base?_eq_some_iff hv).2 hcalls))
      exact ⟨digits, rest, rfl, fun c hc => Bool.or_eq_true_iff.2 (hdigits c hc), hany, hends, rfl⟩

/-- Elsewhere a digit starts a decimal number or none. -/
theorem decimalLexeme_eq_ok_iff_exists (hv : r.validate = .ok ()) (hc : c.isDigit = true)
    (hnone : ∀ letter base tail, c :: cs = '0' :: letter :: tail → ¬ r.CallsFor letter base) :
    r.decimalLexeme (c :: cs) = .ok l ↔
      ∃ lit : NumberLiteral, ∃ rest, lit.WellFormed r ∧ lit.Ends r rest ∧
        c :: cs = lit.text ++ rest ∧ l = ⟨lit.text, rest, some (lit.label r)⟩ := by
  rw [decimalLexeme_eq_ok_iff hv]
  constructor
  · rintro ⟨whole, fraction, suffix, rest, hcs, hwhole, hfraction, hsuffix, hends, rfl⟩
    have htext : c :: cs = (NumberLiteral.decimal whole fraction suffix).text ++ rest := by
      rw [hcs, NumberLiteral.text, List.append_assoc, List.append_assoc]
    have hbase : ∀ letter base tail, r.CallsFor letter base →
        (NumberLiteral.decimal whole fraction suffix).text ≠ '0' :: letter :: tail := by
      intro letter base tail hcalls heq
      rw [heq, List.cons_append, List.cons_append] at htext
      exact hnone letter base _ htext hcalls
    cases whole with
    | cons d whole =>
      obtain ⟨rfl, -⟩ := List.cons.inj hcs
      exact ⟨.decimal (c :: whole) fraction suffix, rest,
        ⟨⟨c, whole, rfl, hc⟩, hwhole, hfraction, hsuffix, hbase⟩, hends, htext, rfl⟩
    | nil =>
      rw [List.nil_append] at hcs
      have hnot := head?_pointed hv fraction hsuffix hends c (by rw [← hcs]; rfl)
      rw [hc] at hnot
      cases hnot
  · rintro ⟨lit, rest, hwf, hends, hlit, rfl⟩
    cases lit with
    | based letter base digits => exact absurd hwf.1 (hnone letter base _ hlit)
    | decimal whole fraction suffix =>
      obtain ⟨-, hwhole, hfraction, hsuffix, -⟩ := hwf
      rw [NumberLiteral.text, List.append_assoc, List.append_assoc] at hlit
      exact ⟨whole, fraction, suffix, rest, hlit, hwhole, hfraction, hsuffix, hends, rfl⟩

/-- The scanner takes a number exactly where one stands that may end where it does. -/
theorem numberLexeme_eq_ok_iff (hv : r.validate = .ok ()) (hc : c.isDigit = true) :
    r.numberLexeme (c :: cs) = .ok l ↔
      ∃ lit : NumberLiteral, ∃ rest, lit.WellFormed r ∧ lit.Ends r rest ∧
        c :: cs = lit.text ++ rest ∧ l = ⟨lit.text, rest, some (lit.label r)⟩ := by
  rw [numberLexeme]
  cases hbase : r.basePrefix? (c :: cs) with
  | some found =>
    obtain ⟨letter, base, tail⟩ := found
    obtain ⟨hcs, hcalls⟩ := (basePrefix?_eq_some_iff hv).1 hbase
    rw [hcs]
    exact basedLexeme_eq_ok_iff_exists hv hcalls
  | none =>
    refine decimalLexeme_eq_ok_iff_exists hv hc fun letter base tail hcs hcalls => ?_
    rw [(basePrefix?_eq_some_iff hv).2 ⟨hcs, hcalls⟩] at hbase
    cases hbase

end Rules

/-! ## The longest number -/

namespace NumberLiteral
variable {r : Rules} {lit other : NumberLiteral} {c : Char} {rest : List Char}

theorem exists_text_eq_cons (hwf : lit.WellFormed r) :
    ∃ c cs, lit.text = c :: cs ∧ c.isDigit = true := by
  cases lit with
  | based letter base digits => exact ⟨'0', letter :: digits, rfl, rfl⟩
  | decimal whole fraction suffix =>
    obtain ⟨⟨c, digits, rfl, hc⟩, -⟩ := hwf
    exact ⟨c, _, rfl, hc⟩

/-- The number with one character more at its end. -/
def snoc (c : Char) : NumberLiteral → NumberLiteral
  | based letter base digits => based letter base (digits ++ [c])
  | decimal whole fraction (d :: word) => decimal whole fraction (d :: (word ++ [c]))
  | decimal whole none [] => decimal (whole ++ [c]) none []
  | decimal whole (some digits) [] => decimal whole (some (digits ++ [c])) []

theorem text_snoc (c : Char) (lit : NumberLiteral) : (lit.snoc c).text = lit.text ++ [c] := by
  cases lit with
  | based => rfl
  | decimal whole fraction suffix =>
    cases suffix with
    | nil => cases fraction <;> simp [snoc, text, pointed]
    | cons d word => simp [snoc, text]

theorem wellFormed_snoc_based {letter : Char} {base : NumberBase} {digits : List Char}
    (hwf : (based letter base digits).WellFormed r)
    (hc : base.accepts c = true ∨ r.isSeparator c = true) :
    ((based letter base digits).snoc c).WellFormed r := by
  obtain ⟨hcalls, hdigits, d, hd, haccepts⟩ := hwf
  refine ⟨hcalls, ?_, d, List.mem_append_left [c] hd, haccepts⟩
  exact List.forall_mem_append.2 ⟨hdigits, List.forall_mem_singleton.2 hc⟩

theorem wellFormed_snoc_decimal (hv : r.validate = .ok ()) {whole suffix : List Char}
    {fraction : Option (List Char)} (hwf : (decimal whole fraction suffix).WellFormed r)
    (hboundary : r.isBoundary c = true)
    (hc : (suffix = [] ∧ r.isSeparator c = true) ∨ (suffix ≠ [] ∧ isWordChar c = true)) :
    ((decimal whole fraction suffix).snoc c).WellFormed r := by
  have htext : ∀ letter base tail, r.CallsFor letter base →
      ((decimal whole fraction suffix).snoc c).text ≠ '0' :: letter :: tail := by
    intro letter base tail hcalls
    rw [text_snoc]
    refine decimal_append_ne hv hwf ?_ hcalls tail
    rintro _ ⟨⟩
    exact hboundary
  obtain ⟨⟨d, digits, rfl, hd⟩, hwhole, hfraction, hsuffix, -⟩ := hwf
  rcases hc with ⟨rfl, hseparator⟩ | ⟨hne, hword⟩
  · have hone : r.IsDigits [c] := List.forall_mem_singleton.2 (.inr hseparator)
    cases fraction with
    | none =>
      exact ⟨⟨d, digits ++ [c], rfl, hd⟩, List.forall_mem_append.2 ⟨hwhole, hone⟩, nofun, .inl rfl,
        htext⟩
    | some f =>
      refine ⟨⟨d, digits, rfl, hd⟩, hwhole, ?_, .inl rfl, htext⟩
      rintro _ ⟨⟩
      exact List.forall_mem_append.2 ⟨hfraction f rfl, hone⟩
  · obtain ⟨e, word, rfl, hletter, hseparator, htail⟩ := hsuffix.resolve_left hne
    have hsuffix : ∀ d ∈ word ++ [c], isWordChar d = true :=
      List.forall_mem_append.2 ⟨htail, List.forall_mem_singleton.2 hword⟩
    exact ⟨⟨d, digits, rfl, hd⟩, hwhole, hfraction,
      .inr ⟨e, word ++ [c], rfl, hletter, hseparator, hsuffix⟩, htext⟩

theorem Starts.not_wellFormed_snoc (h : lit.Starts r rest) (hc : rest.head? = some c) :
    ¬ (lit.snoc c).WellFormed r := by
  intro hwf
  obtain ⟨tail, rfl⟩ := List.head?_eq_some_iff.1 hc
  have hfront : (lit.snoc c).text <+: lit.text ++ c :: tail :=
    ⟨tail, by rw [text_snoc, List.append_assoc, List.singleton_append]⟩
  have hlength := h.longest _ hwf hfront
  rw [text_snoc, List.length_append, List.length_singleton] at hlength
  omega

theorem Starts.ends (hv : r.validate = .ok ()) (h : lit.Starts r rest) : lit.Ends r rest := by
  cases lit with
  | based letter base digits =>
    intro c hc
    obtain ⟨hboundary, hpoint⟩ := h.stops c hc
    have hnot := mt (wellFormed_snoc_based h.wellFormed) (h.not_wellFormed_snoc hc)
    rw [not_or, Bool.not_eq_true, Bool.not_eq_true] at hnot
    exact ⟨hboundary, hnot.1, hnot.2, hpoint rfl⟩
  | decimal whole fraction suffix =>
    intro c hc
    obtain ⟨hboundary, hpoint⟩ := h.stops c hc
    have hnot := mt (wellFormed_snoc_decimal hv h.wellFormed hboundary) (h.not_wellFormed_snoc hc)
    rw [not_or, not_and, not_and, Bool.not_eq_true, Bool.not_eq_true] at hnot
    exact ⟨hboundary, fun hnil => ⟨hnot.1 hnil, hpoint hnil⟩, hnot.2⟩

theorem Ends.of_prefix {tail : List Char} (h : lit.Ends r rest) (hfront : tail <+: rest) :
    lit.Ends r tail := by
  obtain ⟨behind, rfl⟩ := hfront
  have hhead : ∀ c ∈ tail.head?, c ∈ (tail ++ behind).head? := by
    intro c hc
    obtain ⟨tail, rfl⟩ := List.head?_eq_some_iff.1 hc
    rfl
  cases lit with
  | based => exact fun c hc => h c (hhead c hc)
  | decimal => exact fun c hc => h c (hhead c hc)

theorem ends_nil (r : Rules) (lit : NumberLiteral) : lit.Ends r [] := by
  cases lit with
  | based letter base digits => exact r.endsBased_nil base
  | decimal whole fraction suffix => exact r.endsDecimal_nil suffix

/-- No number goes beyond one that may end where it does: the scanner would have to take both. -/
theorem length_le_of_ends (hv : r.validate = .ok ()) (hwf : lit.WellFormed r)
    (hends : lit.Ends r rest) (hother : other.WellFormed r)
    (hfront : other.text <+: lit.text ++ rest) : other.text.length ≤ lit.text.length := by
  by_contra hlonger
  obtain ⟨c, cs, hcs, hc⟩ := exists_text_eq_cons hwf
  obtain ⟨tail, htail⟩ : lit.text <+: other.text :=
    List.prefix_of_prefix_length_le (List.prefix_append ..) hfront (Nat.le_of_not_le hlonger)
  have hbehind : tail <+: rest := by
    rw [← htail] at hfront
    exact (List.prefix_append_right_inj lit.text).1 hfront
  have htext : c :: (cs ++ tail) = lit.text ++ tail := by rw [hcs, List.cons_append]
  have hother' : c :: (cs ++ tail) = other.text ++ [] := by rw [htext, htail, List.append_nil]
  -- with the longer number as the whole text the scanner would stop twice
  have hshort := (Rules.numberLexeme_eq_ok_iff hv hc).2
    ⟨lit, tail, hwf, hends.of_prefix hbehind, htext, rfl⟩
  have hlong := (Rules.numberLexeme_eq_ok_iff hv hc).2
    ⟨other, [], hother, ends_nil r other, hother', rfl⟩
  obtain rfl : tail = [] := congrArg Lexeme.rest (Except.ok.inj (hshort.symm.trans hlong))
  rw [← htail, List.append_nil] at hlonger
  exact hlonger Nat.le.refl

theorem starts_iff (hv : r.validate = .ok ()) :
    lit.Starts r rest ↔ lit.WellFormed r ∧ lit.Ends r rest := by
  constructor
  · exact fun h => ⟨h.wellFormed, h.ends hv⟩
  · rintro ⟨hwf, hends⟩
    refine ⟨hwf, fun other => length_le_of_ends hv hwf hends, fun c hc => ?_⟩
    cases lit with
    | based letter base digits =>
      obtain ⟨hboundary, -, -, hpoint⟩ := hends c hc
      exact ⟨hboundary, fun _ => hpoint⟩
    | decimal whole fraction suffix =>
      obtain ⟨hboundary, hplain, -⟩ := hends c hc
      exact ⟨hboundary, fun hnil => (hplain hnil).2⟩

end NumberLiteral

/-- Where a run meets a decimal digit, it takes the number that starts the rest of the text. Where
none does, the run ends with an error about a number. -/
theorem tokensBehind_number {r : Rules} (hv : r.validate = .ok ()) {c : Char}
    (hc : c.isDigit = true) (before cs : List Char) :
    (∀ (lit : NumberLiteral) rest, lit.Starts r rest → c :: cs = lit.text ++ rest →
      r.tokensBehind before (c :: cs) =
        (r.tokensBehind (before ++ lit.text) rest).map
          ((lit.label r).over before lit.text rest :: ·)) ∧
    ((∃ l, r.numberLexeme (c :: cs) = .ok l) ↔
      ∃ (lit : NumberLiteral) (rest : List Char), lit.Starts r rest ∧ c :: cs = lit.text ++ rest) ∧
    ((∀ (lit : NumberLiteral) rest, lit.Starts r rest → c :: cs ≠ lit.text ++ rest) →
      ∃ e, r.tokensBehind before (c :: cs) = .error e ∧ e.kind = .invalidNumber) := by
  have hdigit : r.belongs c .digit = true := hc
  have hlexeme : r.lexeme CharClass.precedence c cs = r.numberLexeme (c :: cs) :=
    Rules.lexeme_of_belongs hv hdigit cs
  have hiff : ∀ {l}, r.numberLexeme (c :: cs) = .ok l ↔
      ∃ (lit : NumberLiteral) (rest : List Char), lit.Starts r rest ∧ c :: cs = lit.text ++ rest ∧
        l = ⟨lit.text, rest, some (lit.label r)⟩ := by
    simp only [Rules.numberLexeme_eq_ok_iff hv hc, NumberLiteral.starts_iff hv, and_assoc,
      implies_true]
  refine ⟨?_, ?_, ?_⟩
  · intro lit rest hstarts hcs
    have hok := hiff.2 ⟨lit, rest, hstarts, hcs, rfl⟩
    rw [Rules.tokensBehind_of_ok (hlexeme.trans hok)]
    rfl
  · constructor
    · rintro ⟨l, hl⟩
      obtain ⟨lit, rest, hstarts, hcs, -⟩ := hiff.1 hl
      exact ⟨lit, rest, hstarts, hcs⟩
    · rintro ⟨lit, rest, hstarts, hcs⟩
      exact ⟨_, hiff.2 ⟨lit, rest, hstarts, hcs, rfl⟩⟩
  · intro hnone
    cases h : r.numberLexeme (c :: cs) with
    | ok l =>
      obtain ⟨lit, rest, hstarts, hcs, -⟩ := hiff.1 h
      exact absurd hcs (hnone lit rest hstarts)
    | error f =>
      obtain ⟨after, hafter, -⟩ := Rules.pointsInto_of_numberLexeme h
      exact ⟨_, Rules.tokensBehind_of_error (hlexeme.trans h) hafter, Rules.kind_of_numberLexeme h⟩

/-- Letter and digits in either case and a separator, and a letter with no digit behind it. -/
theorem tokensBehind_number_sample :
    Rules.sample.validate = .ok () ∧ Char.isDigit '0' = true ∧
      (NumberLiteral.based 'X' ⟨"0123456789abcdef", "HEXADECIMAL"⟩ ['_', 'F']).Starts
        Rules.sample ['+'] ∧
      Rules.sample.tokensBehind ['('] ['0', 'X', '_', 'F', '+'] =
        (Rules.sample.tokensBehind ['(', '0', 'X', '_', 'F'] ['+']).map
          (Label.over ⟨"NUMBER", "HEXADECIMAL", 16, ""⟩ ['('] ['0', 'X', '_', 'F'] ['+'] :: ·) ∧
      ∃ e, Rules.sample.tokensBehind ['('] ['0', 'x', '+'] = .error e ∧ e.kind = .invalidNumber := by
  have hv : Rules.sample.validate = .ok () := Rules.validate_eq_ok_iff.2 (by decide +kernel)
  have hzero : Char.isDigit '0' = true := by decide
  have hstarts : (NumberLiteral.based 'X' ⟨"0123456789abcdef", "HEXADECIMAL"⟩ ['_', 'F']).Starts
      Rules.sample ['+'] := by
    refine (NumberLiteral.starts_iff hv).2 ⟨⟨⟨'x', ?_, ?_⟩, ?_, 'F', ?_, ?_⟩, ?_⟩
    · decide
    · decide
    · exact List.forall_mem_cons.2
        ⟨.inr (by decide), List.forall_mem_singleton.2 (.inl (by decide))⟩
    · decide
    · decide
    · rintro c ⟨⟩
      decide
  have hnone : Rules.sample.numberLexeme ['0', 'x', '+'] =
      .error ⟨.invalidNumber, ['0', 'x'], some '+', some "expected digits after the base prefix"⟩ :=
    rfl
  refine ⟨hv, hzero, hstarts, ?_, ?_⟩
  · obtain ⟨htaken, -⟩ := tokensBehind_number hv hzero ['('] ['X', '_', 'F', '+']
    exact htaken _ _ hstarts rfl
  · obtain ⟨-, hiff, hfails⟩ := tokensBehind_number hv hzero ['('] ['x', '+']
    refine hfails fun lit rest hlit hcs => ?_
    obtain ⟨l, hl⟩ := hiff.2 ⟨lit, rest, hlit, hcs⟩
    cases hnone.symm.trans hl

end RuleLexer
