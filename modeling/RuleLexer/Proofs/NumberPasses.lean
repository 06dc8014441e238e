import RuleLexer.Proofs.Settling

/-!
# Passes over numbers

The loop of a number keeps what the scanner reads off the parts of the number at its end: whether
there was a point, where the suffix starts, and how many digits of the base there were.
-/

namespace RuleLexer
open Text
open Cursor (between between_position between_ch slice_between advance_cons advance_nil)
open Pass (LeadsTo)

variable {r : Rules} {text before front back cs : List Char} {c : Char} {start : Position}

namespace Rules

/-- The loop stops at a character that has no place in a number, if a number can end there. -/
theorem numberPass_stop (text : List Char) {k : Cursor} (hch : k.ch = some c)
    (base : Option NumberBase) (hasPoint : Bool) (digits : Nat)
    (hdigit : ¬ ((base.map (·.accepts c)).getD c.isDigit || r.isSeparator c) = true)
    (hpoint : c ≠ '.') (hletter : ¬ (base.isNone ∧ isAlphabetic c)) :
    r.numberPass text k base hasPoint digits none =
      if r.isBoundary c then r.numberDone text k base hasPoint digits none
      else k.failed .invalidNumber (base.map fun b => s!"not a base {b.radix} digit") := by
  obtain ⟨hplain, hseparator⟩ := Bool.or_eq_false_iff.1 (eq_false_of_ne_true hdigit)
  unfold numberPass
  rw [hch]
  dsimp only
  rw [Option.isSome_none, if_neg Bool.false_ne_true, if_neg (Bool.eq_false_iff.1 hplain),
    if_neg (Bool.eq_false_iff.1 hseparator), if_neg hpoint, if_neg hletter]

/-! ## Decimal numbers -/

/-- The pass that is done with the parts of a decimal number, all of which it has passed but for
those of `d`. -/
def decimalDone (r : Rules) (front : List Char) (hasPoint : Bool) (suffix : List Char)
    (d : DecimalParts) : Pass :=
  .done (between (front ++ (d.digits ++ (suffix ++ d.suffix))) d.rest)
    (some ⟨r.kinds.number, if hasPoint || d.hasPoint then r.numbers.floatSubkind
      else r.numbers.subkind, 10, String.ofList (suffix ++ d.suffix)⟩)

theorem decimalDone_suffix (hasPoint : Bool) (suffix : List Char) (d : DecimalParts) :
    r.decimalDone front hasPoint suffix { d with suffix := c :: d.suffix } =
      r.decimalDone front hasPoint (suffix ++ [c]) d := by
  simp [decimalDone]

theorem decimalDone_digit (hasPoint : Bool) (d : DecimalParts) :
    r.decimalDone front hasPoint [] { d with digits := c :: d.digits } =
      r.decimalDone (front ++ [c]) hasPoint [] d := by
  simp [decimalDone]

theorem decimalDone_point (hasPoint : Bool) (d : DecimalParts) :
    r.decimalDone front hasPoint [] { d with digits := c :: d.digits, hasPoint := true } =
      r.decimalDone (front ++ [c]) true [] d := by
  simp [decimalDone]

theorem numberDone_suffix (hasPoint : Bool) (digits : Nat) {suffix : List Char}
    (htext : text = front ++ (suffix ++ cs)) :
    r.numberDone text (between (front ++ suffix) cs) none hasPoint digits
        (some (byteLength front)) =
      r.decimalDone front hasPoint suffix ⟨[], [], cs, false⟩ := by
  simp [numberDone, decimalDone, slice_between htext]

theorem numberDone_decimal (hasPoint : Bool) (digits : Nat) :
    r.numberDone text (between front cs) none hasPoint digits none =
      r.decimalDone front hasPoint [] ⟨[], [], cs, false⟩ := by
  simp [numberDone, decimalDone]

/-- In the suffix of a decimal number the loop knows where the suffix starts. -/
theorem leadsTo_suffix (hasPoint : Bool) (digits : Nat) {suffix : List Char}
    (htext : text = front ++ (suffix ++ cs)) :
    LeadsTo r text start
      (.again (.number none hasPoint digits (some (byteLength front)))
        (between (front ++ suffix) cs))
      (settle text (front ++ suffix) cs (r.decimalDone front hasPoint suffix)
        (r.splitDecimal .suffix cs)) := by
  induction cs generalizing suffix with
  | nil =>
    rw [splitDecimal]
    exact .of_eq (numberDone_suffix hasPoint digits htext) (.done _ _)
  | cons c cs ih =>
    rw [splitDecimal]
    by_cases hword : isWordChar c
    · have hbehind : text = front ++ suffix ++ c :: cs := by rw [htext, List.append_assoc]
      have hseen : text = front ++ ((suffix ++ [c]) ++ cs) := by rw [htext]; simp
      have hnext := ih hseen
      rw [if_pos hword, settle_behind _ hbehind]
      refine .of_eq (if_pos hword) ?_
      rw [advance_cons hbehind]
      simp only [decimalDone_suffix]
      rwa [← List.append_assoc] at hnext
    · rw [if_neg hword]
      by_cases hboundary : r.isBoundary c
      · rw [if_pos hboundary]
        exact .of_eq ((if_neg hword).trans (if_pos hboundary))
          (numberDone_suffix hasPoint digits htext ▸ .done _ _)
      · rw [if_neg hboundary]
        exact .of_eq ((if_neg hword).trans (if_neg hboundary)) (.failed _)

/-- Before the suffix of a decimal number the loop knows whether there was a point. -/
theorem leadsTo_decimal (hasPoint : Bool) (digits : Nat) (htext : text = front ++ cs) :
    LeadsTo r text start (.again (.number none hasPoint digits none) (between front cs))
      (settle text front cs (r.decimalDone front hasPoint [])
        (r.splitDecimal (if hasPoint then .fraction else .whole) cs)) := by
  -- the scanner goes from part to part, the loop keeps a flag: each case moves both
  generalize hpart : (if hasPoint then DecimalPart.fraction else .whole) = part
  fun_induction splitDecimal r part cs generalizing front hasPoint digits with
  | case1 => exact .of_eq (numberDone_decimal hasPoint digits) (.done _ _)
  | case2 => cases hasPoint <;> cases hpart
  | case3 => cases hasPoint <;> cases hpart
  | case4 => cases hasPoint <;> cases hpart
  | case5 part c cs _ hdigit ih =>
    obtain ⟨count, hpass⟩ : ∃ count,
        r.numberPass text (between front (c :: cs)) none hasPoint digits none =
          .again (.number none hasPoint count none) (between (front ++ [c]) cs) := by
      cases hplain : c.isDigit with
      | true => exact ⟨digits + 1, by simp [numberPass, hplain, advance_cons htext]⟩
      | false =>
        have hseparator : r.isSeparator c = true := by rwa [hplain, Bool.false_or] at hdigit
        exact ⟨digits, by simp [numberPass, hplain, hseparator, advance_cons htext]⟩
    rw [settle_behind _ htext]
    simp only [decimalDone_digit]
    exact .of_eq hpass (ih hasPoint count (by rw [htext, List.append_cons]) hpart)
  | case6 cs _ hdigit =>
    obtain ⟨hplain, hseparator⟩ := Bool.or_eq_false_iff.1 (eq_false_of_ne_true hdigit)
    have hpoint : hasPoint = true := by
      by_contra hne
      rw [if_neg hne] at hpart
      cases hpart
    have hpass : r.numberPass text (between front ('.' :: cs)) none hasPoint digits none =
        (between front ('.' :: cs)).failed .invalidNumber (some "second decimal point") := by
      simp [numberPass, hplain, hseparator, hpoint]
    exact .of_eq hpass (.failed _)
  | case7 part cs _ hwhole hdigit ih =>
    obtain ⟨hplain, hseparator⟩ := Bool.or_eq_false_iff.1 (eq_false_of_ne_true hdigit)
    have hpoint : hasPoint = false := by
      by_contra hne
      rw [if_pos (eq_true_of_ne_false hne)] at hpart
      exact hwhole hpart.symm
    have hpass : r.numberPass text (between front ('.' :: cs)) none hasPoint digits none =
        .again (.number none true digits none) (between (front ++ ['.']) cs) := by
      simp [numberPass, hplain, hseparator, hpoint, advance_cons htext]
    rw [settle_behind _ htext]
    simp only [decimalDone_point]
    exact .of_eq hpass (ih true digits (by rw [htext, List.append_cons]) rfl)
  | case8 part c cs _ hdigit hpoint hletter ih =>
    obtain ⟨hplain, hseparator⟩ := Bool.or_eq_false_iff.1 (eq_false_of_ne_true hdigit)
    have hpass : r.numberPass text (between front (c :: cs)) none hasPoint digits none =
        .again (.number none hasPoint digits (some (byteLength front)))
          (between (front ++ [c]) cs) := by
      simp [numberPass, hplain, hseparator, hpoint, hletter, advance_cons htext]
    rw [settle_behind _ htext]
    simp only [decimalDone_suffix, List.nil_append]
    exact .of_eq hpass (leadsTo_suffix hasPoint digits htext)
  | case9 part c cs _ hdigit hpoint hletter hboundary =>
    have hpass := numberPass_stop text (between_ch front (c :: cs)) none hasPoint digits hdigit
      hpoint fun h => hletter h.2
    rw [if_pos hboundary, numberDone_decimal] at hpass
    exact .of_eq hpass (.done _ _)
  | case10 part c cs _ hdigit hpoint hletter hboundary =>
    have hpass := numberPass_stop text (between_ch front (c :: cs)) none hasPoint digits hdigit
      hpoint fun h => hletter h.2
    rw [if_neg hboundary] at hpass
    exact .of_eq hpass (.failed _)

/-! ## Numbers with a base -/

theorem leadsTo_numberDone (k : Cursor) (base : Option NumberBase) (hasPoint : Bool) (digits : Nat)
    (suffixFrom : Option Nat) :
    LeadsTo r text start (r.numberDone text k base hasPoint digits suffixFrom)
      (r.numberDone text k base hasPoint digits suffixFrom) := by
  unfold numberDone
  split
  · split
    · exact .failed _
    · exact .done _ _
  · exact .done _ _

/-- Behind the letter of a base the loop counts the digits. -/
theorem leadsTo_based (start : Position) (b : NumberBase) (digits : Nat)
    (htext : text = front ++ cs) :
    LeadsTo r text start (.again (.number (some b) false digits none) (between front cs))
      (settle text front cs (fun parts => r.numberDone text (between (front ++ parts.1) parts.2)
        (some b) false (digits + parts.1.countP b.accepts) none) (r.splitBased b cs)) := by
  fun_induction splitBased r b cs generalizing front digits with
  | case1 =>
    rw [settle, List.append_nil, List.countP_nil, Nat.add_zero]
    exact .again (leadsTo_numberDone (between front []) (some b) false digits none)
  | case2 c cs hdigit ih =>
    have hbehind : text = front ++ [c] ++ cs := by rw [htext, List.append_cons]
    have hnext (count : Nat) := ih count hbehind
    rw [settle_behind _ htext]
    cases haccepts : b.accepts c with
    | true =>
      have hpass : r.numberPass text (between front (c :: cs)) (some b) false digits none =
          .again (.number (some b) false (digits + 1) none) (between (front ++ [c]) cs) := by
        simp [numberPass, haccepts, advance_cons htext]
      refine .of_eq hpass ?_
      simpa [haccepts, Nat.add_assoc, Nat.add_comm] using hnext (digits + 1)
    | false =>
      have hseparator : r.isSeparator c = true := by rwa [haccepts, Bool.false_or] at hdigit
      have hpass : r.numberPass text (between front (c :: cs)) (some b) false digits none =
          .again (.number (some b) false digits none) (between (front ++ [c]) cs) := by
        simp [numberPass, haccepts, hseparator, advance_cons htext]
      refine .of_eq hpass ?_
      simpa [haccepts] using hnext digits
  | case3 cs hdigit =>
    obtain ⟨haccepts, hseparator⟩ := Bool.or_eq_false_iff.1 (eq_false_of_ne_true hdigit)
    have hpass : r.numberPass text (between front ('.' :: cs)) (some b) false digits none =
        (between front ('.' :: cs)).failed .invalidNumber
          (some s!"no fractional part in base {b.radix}") := by
      simp [numberPass, haccepts, hseparator]
    exact .of_eq hpass (.failed _)
  | case4 c cs hdigit hpoint hboundary =>
    have hpass := numberPass_stop text (between_ch front (c :: cs)) (some b) false digits hdigit
      hpoint fun h => Bool.false_ne_true h.1
    rw [if_pos hboundary] at hpass
    rw [settle, List.append_nil, List.countP_nil, Nat.add_zero]
    exact .of_eq hpass (leadsTo_numberDone ..)
  | case5 c cs hdigit hpoint hboundary =>
    have hpass := numberPass_stop text (between_ch front (c :: cs)) (some b) false digits hdigit
      hpoint fun h => Bool.false_ne_true h.1
    rw [if_neg hboundary] at hpass
    exact .of_eq hpass (.failed _)

theorem settle_decimalLexeme :
    settle text before cs (Lexeme.pass before) (r.decimalLexeme cs) =
      settle text before cs (r.decimalDone before false []) (r.splitDecimal .whole cs) := by
  rw [decimalLexeme]
  cases r.splitDecimal .whole cs with
  | error f => rfl
  | ok d => simp [settle, Except.map, Lexeme.pass, decimalDone]

/-- A zero can be passed before the loop is entered. -/
theorem leadsTo_zero (htext : text = before ++ '0' :: cs) :
    LeadsTo r text start (.again (.number none false 0 none) (between (before ++ ['0']) cs))
      (settle text before ('0' :: cs) (Lexeme.pass before) (r.decimalLexeme ('0' :: cs))) := by
  have hbehind : text = before ++ ['0'] ++ cs := by rw [htext, List.append_cons]
  have hdigit : (Char.isDigit '0' || r.isSeparator '0') = true := Bool.or_eq_true_iff.2 (.inl rfl)
  rw [settle_decimalLexeme, splitDecimal, if_pos hdigit, settle_behind _ htext]
  · simp only [decimalDone_digit]
    exact leadsTo_decimal false 0 hbehind
  · exact DecimalPart.noConfusion

theorem leadsTo_basedLexeme {letter : Char} {b : NumberBase}
    (htext : text = before ++ '0' :: letter :: cs) :
    LeadsTo r text start
      (.again (.number (some b) false 0 none) (between (before ++ ['0'] ++ [letter]) cs))
      (settle text before ('0' :: letter :: cs) (Lexeme.pass before)
        (r.basedLexeme letter b cs)) := by
  have hletter : text = before ++ ['0'] ++ letter :: cs := by rw [htext, List.append_cons]
  have hbehind : text = before ++ ['0'] ++ [letter] ++ cs := by rw [hletter, List.append_cons]
  have hbased := leadsTo_based (r := r) start b 0 hbehind
  rw [basedLexeme]
  cases hsplit : r.splitBased b cs with
  | error f =>
    rw [hsplit] at hbased
    rw [settle, ← Failure.toError_behind _ hletter, ← Failure.toError_behind _ htext] at hbased
    exact hbased
  | ok parts =>
    obtain ⟨digits, rest⟩ := parts
    have hcs : '0' :: letter :: cs = '0' :: letter :: digits ++ rest := by
      rw [List.cons_append, List.cons_append, splitBased_append hsplit]
    have htaken : before ++ ['0'] ++ [letter] ++ digits = before ++ '0' :: letter :: digits := by
      simp
    have hnone : 0 + digits.countP b.accepts = 0 ↔ ¬ digits.any b.accepts := by
      simp [List.countP_eq_zero]
    rw [hsplit, settle, numberDone, htaken] at hbased
    dsimp only
    by_cases hany : digits.any b.accepts
    · rw [if_pos hany]
      rw [if_neg fun h => hnone.1 h hany] at hbased
      exact hbased
    · rw [if_neg hany, settle, Failure.toError]
      rw [if_pos (hnone.2 hany)] at hbased
      rw [hcs] at htext ⊢
      rw [Position.walk_between _ htext]
      exact hbased

theorem leadsTo_number (htext : text = before ++ c :: cs) :
    LeadsTo r text start (r.enterNumber text (between before (c :: cs)))
      (settle text before (c :: cs) (Lexeme.pass before) (r.numberLexeme (c :: cs))) := by
  rw [enterNumber, numberLexeme]
  by_cases hzero : c = '0'
  · subst hzero
    rw [between_ch, List.head?_cons, if_pos rfl, advance_cons htext]
    cases cs with
    | nil => exact leadsTo_zero htext
    | cons letter cs =>
      have hletter : text = before ++ ['0'] ++ letter :: cs := by rw [htext, List.append_cons]
      dsimp only
      rw [between_ch, List.head?_cons, Option.bind_some, basePrefix?, advance_cons hletter]
      cases r.numbers.base? letter with
      | none => exact leadsTo_zero htext
      | some b => exact leadsTo_basedLexeme htext
  · have hplain : r.basePrefix? (c :: cs) = none := by
      unfold basePrefix?
      split
      · next h => exact absurd (List.cons.inj h).1 hzero
      · rfl
    rw [if_neg (by simpa using hzero), hplain, settle_decimalLexeme]
    exact leadsTo_decimal false 0 htext

end Rules

end RuleLexer
