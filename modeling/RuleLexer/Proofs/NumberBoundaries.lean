import RuleLexer.Proofs.NumberLiterals

/-!
# Where numbers end

A number should end in front of the first boundary character, a decimal point apart. The scanner
looks for digits and separators before it looks for boundaries, so this depends on the rules: it
holds exactly when the separator, the digits of the bases and the underscore of suffixes are no
boundary characters. Valid rules need not be like that.
-/

namespace RuleLexer
open Text

/-- The token is that of a number. Kinds may share a name, so the first character tells. -/
def Token.IsNumber (t : Token) (s : Source) : Prop :=
  ∃ c cs, (t.value s).toList = c :: cs ∧ c.isDigit = true

/-- The token of `number`, in front of `rest`, ends at the first boundary character; a decimal point
does not count as one. -/
structure Token.EndsAtBoundary (t : Token) (r : Rules) (number rest : List Char) : Prop where
  inside : ∀ c ∈ number, r.isBoundary c = true → c = '.'
  point : ∀ front back, number = front ++ '.' :: back →
    '.' ∉ front ∧ '.' ∉ back ∧ r.IsDigits front ∧ t.base = 10 ∧ t.subkind = r.numbers.floatSubkind
  behind : ∀ c ∈ rest.head?, r.isBoundary c = true

namespace Rules

/-- Every number of every text ends at the first boundary character. -/
def NumbersStop (r : Rules) : Prop :=
  ∀ name text tokens, r.tokenize (.loaded name text) = .ok tokens →
    ∀ t ∈ tokens, t.IsNumber (.loaded name text) →
      ∃ before number rest, text.toList = before ++ (number ++ rest) ∧
        t.StandsAt before number rest ∧ t.EndsAtBoundary r number rest

/-- What numbers may have in them besides letters, decimal digits and the point. -/
inductive NumberMark (r : Rules) (c : Char) : Prop where
  | separator (hc : r.isSeparator c = true)
  | digit (e : Char × NumberBase) (he : e ∈ r.numbers.bases.entries) (hc : c ∈ e.2.digits.toList)
  | underscore (hc : c = '_')

variable {r : Rules} {c : Char}

theorem point_not_mem_digits (hv : r.validate = .ok ()) {e : Char × NumberBase}
    (he : e ∈ r.numbers.bases.entries) : '.' ∉ e.2.digits.toList := by
  obtain ⟨earlier, -, hbase⟩ := basesViolation?_of_mem (basesViolation?_of_validate hv) he
  exact (baseViolation?_eq_none_iff.1 hbase).2.2.2.1

theorem NumberMark.ne_point (hv : r.validate = .ok ()) (h : r.NumberMark c) : c ≠ '.' := by
  cases h with
  | separator hc => exact (separator_of_validate hv (beq_iff_eq.1 hc)).2
  | digit e he hc => exact fun heq => point_not_mem_digits hv he (heq ▸ hc)
  | underscore hc => rw [hc]; decide

/-! ## Boundary characters in a number -/

theorem IsDigits.mark_of_mem {digits : List Char} (hv : r.validate = .ok ())
    (h : r.IsDigits digits) (hc : c ∈ digits) (hboundary : r.isBoundary c = true) :
    r.NumberMark c := by
  rcases h c hc with hdigit | hseparator
  · rw [not_isDigit_of_isBoundary hv hboundary] at hdigit
    cases hdigit
  · exact .separator hseparator

theorem IsSuffix.mark_of_mem {suffix : List Char} (hv : r.validate = .ok ())
    (h : r.IsSuffix suffix) (hc : c ∈ suffix) (hboundary : r.isBoundary c = true) :
    r.NumberMark c := by
  rcases h with rfl | ⟨e, tail, rfl, hletter, -, htail⟩
  · cases hc
  · rcases List.mem_cons.1 hc with rfl | hc
    · rw [not_isAlphabetic_of_isBoundary hv hboundary] at hletter
      cases hletter
    · have hword := htail c hc
      rw [isWordChar, not_isAlphanumeric_of_isBoundary hv hboundary, Bool.false_or] at hword
      exact .underscore (beq_iff_eq.1 hword)

end Rules

namespace NumberLiteral
variable {r : Rules} {lit : NumberLiteral} {c : Char}

/-- A boundary character in a number is the point, or the rules let numbers have it. -/
theorem mark_of_mem (hv : r.validate = .ok ()) (hwf : lit.WellFormed r) (hc : c ∈ lit.text)
    (hboundary : r.isBoundary c = true) : c = '.' ∨ r.NumberMark c := by
  cases lit with
  | based letter base digits =>
    obtain ⟨hcalls, hdigits, -⟩ := hwf
    have hplain := Rules.not_isAlphabetic_of_isBoundary hv hboundary
    rcases List.mem_cons.1 hc with rfl | hc
    · cases Rules.not_isDigit_of_isBoundary hv hboundary
    rcases List.mem_cons.1 hc with rfl | hc
    · cases hplain.symm.trans (Rules.isAlphabetic_of_callsFor hv hcalls)
    rcases hdigits c hc with haccepts | hseparator
    · obtain ⟨p, hp, -⟩ := hcalls
      exact .inr (.digit (p, base) hp (Rules.mem_digits_of_accepts hplain haccepts))
    · exact .inr (.separator hseparator)
  | decimal whole fraction suffix =>
    obtain ⟨-, hwhole, hfraction, hsuffix, -⟩ := hwf
    rcases List.mem_append.1 hc with hc | hc
    · exact .inr (hwhole.mark_of_mem hv hc hboundary)
    rcases List.mem_append.1 hc with hc | hc
    · cases fraction with
      | none => cases hc
      | some digits =>
        exact (List.mem_cons.1 hc).imp_right fun hc =>
          (hfraction digits rfl).mark_of_mem hv hc hboundary
    · exact .inr (hsuffix.mark_of_mem hv hc hboundary)

end NumberLiteral

/-! ## The decimal point -/

namespace Rules
variable {r : Rules}

theorem IsDigits.point_not_mem {digits : List Char} (hv : r.validate = .ok ())
    (h : r.IsDigits digits) : '.' ∉ digits :=
  fun hmem => not_digit_point hv (Bool.or_eq_true_iff.2 (h '.' hmem))

theorem IsSuffix.point_not_mem {suffix : List Char} (h : r.IsSuffix suffix) : '.' ∉ suffix := by
  rcases h with rfl | ⟨e, tail, rfl, hletter, -, htail⟩
  · exact List.not_mem_nil
  · intro hmem
    rcases List.mem_cons.1 hmem with rfl | hmem
    · cases hletter
    · cases htail '.' hmem

end Rules

namespace NumberLiteral
variable {r : Rules} {lit : NumberLiteral}

theorem point_not_mem_based (hv : r.validate = .ok ()) {letter : Char} {base : NumberBase}
    {digits : List Char} (hwf : (based letter base digits).WellFormed r) :
    '.' ∉ (based letter base digits).text := by
  obtain ⟨hcalls, hdigits, -⟩ := hwf
  intro hmem
  rcases List.mem_cons.1 hmem with heq | hmem
  · cases heq
  rcases List.mem_cons.1 hmem with rfl | hmem
  · cases Rules.isAlphabetic_of_callsFor hv hcalls
  rcases hdigits '.' hmem with haccepts | hseparator
  · obtain ⟨p, hp, -⟩ := hcalls
    exact Rules.point_not_mem_digits hv hp (Rules.mem_digits_of_accepts rfl haccepts)
  · exact (Rules.separator_of_validate hv (beq_iff_eq.1 hseparator)).2 rfl

/-- A point in a number is the only one. It stands behind digits, and the number is a float. -/
theorem point_of_text (hv : r.validate = .ok ()) (hwf : lit.WellFormed r) {front back : List Char}
    (htext : lit.text = front ++ '.' :: back) :
    '.' ∉ front ∧ '.' ∉ back ∧ r.IsDigits front ∧ (lit.label r).base = 10 ∧
      (lit.label r).subkind = r.numbers.floatSubkind := by
  have hmem : '.' ∈ lit.text := by
    rw [htext]
    exact List.mem_append_right front List.mem_cons_self
  cases lit with
  | based letter base digits => exact absurd hmem (point_not_mem_based hv hwf)
  | decimal whole fraction suffix =>
    obtain ⟨-, hwhole, hfraction, hsuffix, -⟩ := hwf
    cases fraction with
    | none =>
      rcases List.mem_append.1 hmem with hmem | hmem
      · exact absurd hmem (hwhole.point_not_mem hv)
      · exact absurd hmem hsuffix.point_not_mem
    | some digits =>
      have hbehind : '.' ∉ digits ++ suffix := fun hmem =>
        (List.mem_append.1 hmem).elim ((hfraction digits rfl).point_not_mem hv)
          hsuffix.point_not_mem
      have hfront : '.' ∉ whole := hwhole.point_not_mem hv
      obtain ⟨rfl, -, rfl⟩ := (List.append_cons_inj_of_notMem hfront hbehind).1 htext
      exact ⟨hfront, hbehind, hwhole, rfl, rfl⟩

end NumberLiteral

/-! ## Tokens of numbers -/

namespace Rules
variable {r : Rules} {name text : String} {tokens : List Token} {t : Token} {c : Char}

/-- The token of a number is that of a literal, where a literal may end. -/
theorem exists_literal_of_mem (hv : r.validate = .ok ())
    (h : r.tokenize (.loaded name text) = .ok tokens) (ht : t ∈ tokens)
    (hnumber : t.IsNumber (.loaded name text)) :
    ∃ before, ∃ lit : NumberLiteral, ∃ rest, text.toList = before ++ (lit.text ++ rest) ∧
      lit.WellFormed r ∧ lit.Ends r rest ∧ t = (lit.label r).over before lit.text rest := by
  obtain ⟨c, cs, hvalue, hdigit⟩ := hnumber
  rw [tokenize_eq_tokensBehind] at h
  rcases exists_over_of_mem h ht with
    hend | ⟨before, d, ds, taken, rest, label, htext, hlexeme, rfl⟩
  · have hat : t.StandsAt text.toList [] [] := hend ▸ ⟨rfl, rfl, rfl⟩
    rw [hat.value (by simp), String.toList_ofList] at hvalue
    cases hvalue
  · have hsplit : taken ++ rest = d :: ds := (lexeme_splits hlexeme).1
    have hplace : text.toList = before ++ (taken ++ rest) := by rw [htext, hsplit]
    rw [List.nil_append, label.value_over name hplace, String.toList_ofList] at hvalue
    -- the lexeme starts with the character that the value starts with
    obtain rfl : d = c := by
      rw [hvalue] at hsplit
      exact (List.cons.inj hsplit).1.symm
    have hclass : r.belongs d .digit = true := hdigit
    have hscanned : r.numberLexeme (d :: ds) = .ok ⟨taken, rest, some label⟩ :=
      (lexeme_of_belongs hv hclass ds).symm.trans hlexeme
    obtain ⟨lit, rest', hwf, hends, -, hlit⟩ := (numberLexeme_eq_ok_iff hv hdigit).1 hscanned
    obtain ⟨rfl, rfl, ⟨⟩⟩ := Lexeme.mk.inj hlit
    exact ⟨before, lit, rest, hplace, hwf, hends, by rw [List.nil_append]⟩

/-- The text of a literal has its token and the one of the end. -/
theorem tokenize_literal (hv : r.validate = .ok ()) {lit : NumberLiteral} (hwf : lit.WellFormed r)
    (name : String) :
    ∃ tokens, r.tokenize (.loaded name (String.ofList lit.text)) = .ok tokens ∧
      (lit.label r).over [] lit.text [] ∈ tokens := by
  obtain ⟨c, cs, htext, hdigit⟩ := lit.exists_text_eq_cons hwf
  have hclass : r.belongs c .digit = true := hdigit
  have hscanned : r.numberLexeme (c :: cs) = .ok ⟨lit.text, [], some (lit.label r)⟩ :=
    (numberLexeme_eq_ok_iff hv hdigit).2 ⟨lit, [], hwf, lit.ends_nil r, by simp [htext], rfl⟩
  have hlexeme := (lexeme_of_belongs hv hclass cs).trans hscanned
  rw [tokenize_eq_tokensBehind, String.toList_ofList, htext, tokensBehind_of_ok hlexeme,
    tokensBehind_nil, htext]
  exact ⟨_, rfl, List.mem_cons_self⟩

/-- All that the rules let numbers have is in some number. -/
theorem NumberMark.exists_literal (h : r.NumberMark c) :
    ∃ lit : NumberLiteral, lit.WellFormed r ∧ c ∈ lit.text := by
  -- the numbers without a base start with a one, so that no letter behind it calls for a base
  have hone : ∀ {cs letter base tail}, r.CallsFor letter base →
      '1' :: cs ≠ '0' :: letter :: tail := by
    intro cs letter base tail _ heq
    cases (List.cons.inj heq).1
  have hdigits : ∀ {cs}, (∀ d ∈ cs, r.isSeparator d = true) → r.IsDigits ('1' :: cs) := fun hcs =>
    List.forall_mem_cons.2 ⟨.inl rfl, fun d hd => .inr (hcs d hd)⟩
  have hwhole : ∀ digits ∈ (none : Option (List Char)), r.IsDigits digits := fun _ hmem =>
    (Option.not_mem_none _ hmem).elim
  cases h with
  | separator hc =>
    refine ⟨.decimal ['1', c] none [], ⟨⟨'1', [c], rfl, rfl⟩, ?_, hwhole, .inl rfl, ?_⟩, ?_⟩
    · exact hdigits (List.forall_mem_singleton.2 hc)
    · exact fun letter base tail => hone
    · simp [NumberLiteral.text]
  | digit e he hc =>
    have haccepts : e.2.accepts c = true := List.any_eq_true.2 ⟨c, hc, sameLetter_refl c⟩
    refine ⟨.based e.1 e.2 [c], ⟨⟨e.1, he, sameLetter_refl e.1⟩, ?_, c, ?_, haccepts⟩, ?_⟩
    · exact List.forall_mem_singleton.2 (.inl haccepts)
    · exact List.mem_cons_self
    · simp [NumberLiteral.text]
  | underscore hc =>
    -- one of two letters is not the separator, and starts a suffix
    obtain ⟨letter, hletter, hplain⟩ :
        ∃ letter, isAlphabetic letter = true ∧ r.isSeparator letter = false := by
      cases ha : r.isSeparator 'a' with
      | false => exact ⟨'a', by decide, ha⟩
      | true =>
        refine ⟨'b', by decide, ?_⟩
        rw [isSeparator, beq_iff_eq.1 ha]
        decide
    refine ⟨.decimal ['1'] none [letter, '_'], ⟨⟨'1', [], rfl, rfl⟩, ?_, hwhole, ?_, ?_⟩, ?_⟩
    · exact hdigits (List.forall_mem_nil _)
    · exact .inr ⟨letter, ['_'], rfl, hletter, hplain, List.forall_mem_singleton.2 (by decide)⟩
    · exact fun l base tail => hone
    · simp [NumberLiteral.text, hc]

end Rules

/-- Under valid rules numbers end at the first boundary character, a decimal point apart, exactly
when no separator, no digit of a base and no underscore is a boundary character. -/
theorem numbersStop_iff {r : Rules} (hv : r.validate = .ok ()) :
    r.NumbersStop ↔ ∀ c, r.NumberMark c → r.isBoundary c = false := by
  constructor
  · intro hstop c hmark
    obtain ⟨lit, hwf, hc⟩ := hmark.exists_literal
    obtain ⟨tokens, htokens, ht⟩ := Rules.tokenize_literal hv hwf "s"
    have hplace : (String.ofList lit.text).toList = [] ++ (lit.text ++ []) := by simp
    have hvalue := (lit.label r).value_over "s" hplace
    obtain ⟨d, ds, hcons, hdigit⟩ := lit.exists_text_eq_cons hwf
    obtain ⟨before, number, rest, hsplit, hat, hends⟩ := hstop _ _ _ htokens _ ht
      ⟨d, ds, by rw [hvalue, String.toList_ofList, hcons], hdigit⟩
    have hnumber : number = lit.text :=
      String.ofList_inj.1 ((hat.value hsplit).symm.trans hvalue)
    refine Bool.eq_false_iff.2 fun hboundary => hmark.ne_point hv ?_
    exact hends.inside c (hnumber ▸ hc) hboundary
  · intro hapart name text tokens htokens t ht hnumber
    obtain ⟨before, lit, rest, htext, hwf, hends, rfl⟩ :=
      Rules.exists_literal_of_mem hv htokens ht hnumber
    refine ⟨before, lit.text, rest, htext, ⟨rfl, rfl, rfl⟩, ?_, ?_, ?_⟩
    · intro c hc hboundary
      refine (lit.mark_of_mem hv hwf hc hboundary).resolve_right fun hmark => ?_
      rw [hapart c hmark] at hboundary
      cases hboundary
    · exact fun front back hpoint => lit.point_of_text hv hwf hpoint
    · cases lit with
      | based => exact fun c hc => (hends c hc).1
      | decimal => exact fun c hc => (hends c hc).1

/-- A float with an underscore in its suffix, behind an operator. -/
theorem numbersStop_iff_sample :
    Rules.sample.validate = .ok () ∧ Rules.sample.NumbersStop ∧
      ∃ tokens t rest, Rules.sample.tokenize (.loaded "s" "0x1f+2.5e_)") = .ok tokens ∧
        t ∈ tokens ∧ t.value (.loaded "s" "0x1f+2.5e_)") = "2.5e_" ∧
        t.EndsAtBoundary Rules.sample ['2', '.', '5', 'e', '_'] rest := by
  have hv : Rules.sample.validate = .ok () := Rules.validate_eq_ok_iff.2 (by decide +kernel)
  have hapart : ∀ c, Rules.sample.NumberMark c → Rules.sample.isBoundary c = false := by
    intro c hmark
    have hdigits : (Rules.sample.numbers.bases.entries.all fun e =>
        e.2.digits.toList.all fun d => !Rules.sample.isBoundary d) = true := by decide +kernel
    cases hmark with
    | separator hc =>
      obtain rfl : '_' = c := Option.some.inj (beq_iff_eq.1 hc)
      decide
    | digit e he hc =>
      simpa using List.all_eq_true.1 (List.all_eq_true.1 hdigits e he) c hc
    | underscore hc =>
      rw [hc]
      decide
  have hstop := (numbersStop_iff hv).2 hapart
  have hvalue : (Rules.sample.tokenize (.loaded "s" "0x1f+2.5e_)")).toOption.map (fun tokens =>
      tokens[2]?.map (·.value (.loaded "s" "0x1f+2.5e_)"))) = some (some "2.5e_") := by
    decide +kernel
  obtain ⟨tokens, htokens, hget⟩ := exists_ok_of_toOption_map hvalue
  obtain ⟨t, ht, hvalue⟩ := Option.map_eq_some_iff.1 hget
  have hmem := List.mem_of_getElem? ht
  obtain ⟨before, number, rest, hsplit, hat, hends⟩ := hstop _ _ _ htokens t hmem
    ⟨'2', ['.', '5', 'e', '_'], by rw [hvalue]; rfl, by decide⟩
  obtain rfl : number = ['2', '.', '5', 'e', '_'] :=
    String.ofList_inj.1 ((hat.value hsplit).symm.trans hvalue)
  exact ⟨hv, hstop, tokens, t, rest, htokens, hmem, hvalue, hends⟩

/-- Rules in which the space separates digits, and words as well. -/
def Rules.spaced : Rules :=
  { Rules.sample with numbers := { Rules.sample.numbers with separator := some ' ' } }

/-- A space between two digits is in the middle of a number, though it is a boundary character. -/
theorem not_numbersStop_spaced :
    Rules.spaced.validate = .ok () ∧ Rules.spaced.isBoundary ' ' = true ∧
      (∃ tokens t, Rules.spaced.tokenize (.loaded "s" "1 2") = .ok tokens ∧ t ∈ tokens ∧
        t.value (.loaded "s" "1 2") = "1 2") ∧
      ¬ Rules.spaced.NumbersStop := by
  have hspace : Rules.spaced.isBoundary ' ' = true := by decide
  have hvalue : (Rules.spaced.tokenize (.loaded "s" "1 2")).toOption.map (fun tokens =>
      tokens[0]?.map (·.value (.loaded "s" "1 2"))) = some (some "1 2") := by decide +kernel
  obtain ⟨tokens, htokens, hget⟩ := exists_ok_of_toOption_map hvalue
  obtain ⟨t, ht, hvalue⟩ := Option.map_eq_some_iff.1 hget
  have hmem := List.mem_of_getElem? ht
  refine ⟨Rules.validate_eq_ok_iff.2 (by decide +kernel), hspace,
    ⟨tokens, t, htokens, hmem, hvalue⟩, fun hstop => ?_⟩
  obtain ⟨before, number, rest, hsplit, hat, hends⟩ := hstop _ _ _ htokens t hmem
    ⟨'1', [' ', '2'], by rw [hvalue]; rfl, by decide⟩
  obtain rfl : number = ['1', ' ', '2'] :=
    String.ofList_inj.1 ((hat.value hsplit).symm.trans hvalue)
  exact absurd (hends.inside ' ' (by decide) hspace) (by decide)

end RuleLexer
