import RuleLexer.Proofs.Characters
import RuleLexer.Scan.Tokens

/-!
# Lexemes and the text behind them

A scanner looks at most one character beyond its lexeme. So a lexeme stays as it is when the text
behind it is replaced by another one: by none, by one that starts with the same character, or by one
whose first character ends every lexeme of the class. More text behind the end is a case of it.
-/

namespace RuleLexer
open Text

/-- The lexeme with another text behind it. -/
def Lexeme.followedBy (l : Lexeme) (rest : List Char) : Lexeme := { l with rest := rest }

/-- The lexeme with more text behind it. -/
def Lexeme.extend (l : Lexeme) (more : List Char) : Lexeme := { l with rest := l.rest ++ more }

@[simp] theorem Lexeme.extend_taken (l : Lexeme) (more : List Char) :
    (l.extend more).taken = l.taken := rfl

/-! ## Texts in place of others -/

/-- `new` is empty, starts as `old` does, or with a character that `ends` what stands before it. -/
def Replaces (ends : Char → Prop) (old new : List Char) : Prop :=
  ∀ d ∈ new.head?, old.head? = some d ∨ ends d

namespace Replaces
variable {ends ends' : Char → Prop} {old new : List Char} {c : Char}

theorem nil (ends : Char → Prop) (old : List Char) : Replaces ends old [] := by
  intro d hd
  cases hd

theorem mono (h : Replaces ends old new) (himp : ∀ d, ends d → ends' d) :
    Replaces ends' old new :=
  fun d hd => (h d hd).imp_right (himp d)

theorem append (h : old = [] → ∀ d ∈ new.head?, ends d) : Replaces ends old (old ++ new) := by
  cases old with
  | nil => exact fun d hd => .inr (h rfl d hd)
  | cons c cs => exact fun d hd => .inl hd

theorem append_left (h : Replaces ends old new) (front : List Char) :
    Replaces ends (front ++ old) (front ++ new) := by
  cases front with
  | nil => exact h
  | cons c cs => exact fun d hd => .inl hd

theorem ends_of_nil (h : Replaces ends [] new) : ∀ d ∈ new.head?, ends d :=
  fun d hd => (h d hd).resolve_left (by simp)

theorem cons_cases (h : Replaces ends (c :: old) new) :
    (∃ tail, new = c :: tail) ∨ ∀ d ∈ new.head?, ends d := by
  cases new with
  | nil => exact .inr fun d hd => by cases hd
  | cons e tail =>
    rcases h e rfl with hsame | hends
    · exact .inl ⟨tail, by rw [Option.some.inj hsame]⟩
    · refine .inr fun d hd => ?_
      cases hd
      exact hends

end Replaces

/-! ## Runs -/

section Runs
variable {p : Char → Bool} {cs more rest : List Char}

/-- A run is found again in front of a text that ends it. -/
theorem takeWhile_run {run : List Char} (hrun : ∀ d ∈ run, p d = true)
    (hstop : ∀ d ∈ rest.head?, p d = false) :
    (run ++ rest).takeWhile p = run ∧ (run ++ rest).dropWhile p = rest := by
  rw [List.takeWhile_append_of_pos hrun, List.dropWhile_append_of_pos hrun]
  cases rest with
  | nil => simp
  | cons d ds => simp [hstop d rfl]

theorem dropWhile_stops (p : Char → Bool) (cs : List Char) :
    ∀ d ∈ (cs.dropWhile p).head?, p d = false := by
  intro d hd
  have hhead := List.head?_dropWhile_not p cs
  rw [Option.mem_def.1 hd] at hhead
  simpa using hhead

/-- Every text starts with a run, be it empty. -/
theorem exists_run (p : Char → Bool) (cs : List Char) :
    ∃ run rest, cs = run ++ rest ∧ (∀ d ∈ run, p d = true) ∧ ∀ d ∈ rest.head?, p d = false :=
  ⟨cs.takeWhile p, cs.dropWhile p, List.takeWhile_append_dropWhile.symm,
    List.all_eq_true.1 (List.all_takeWhile ..), dropWhile_stops p cs⟩

theorem takeWhile_followedBy (hx : Replaces (p · = false) (cs.dropWhile p) rest) :
    (cs.takeWhile p ++ rest).takeWhile p = cs.takeWhile p ∧
      (cs.takeWhile p ++ rest).dropWhile p = rest := by
  have hrun : ∀ d ∈ cs.takeWhile p, p d = true := List.all_eq_true.1 (List.all_takeWhile ..)
  refine takeWhile_run hrun fun d hd => ?_
  rcases hx d hd with hsame | hends
  · exact dropWhile_stops p cs d hsame
  · exact hends

theorem takeWhile_extend (hx : cs.dropWhile p = [] → ∀ d ∈ more.head?, p d = false) :
    (cs ++ more).takeWhile p = cs.takeWhile p ∧
      (cs ++ more).dropWhile p = cs.dropWhile p ++ more := by
  have hfollowed := takeWhile_followedBy (Replaces.append hx)
  rwa [← List.append_assoc, List.takeWhile_append_dropWhile] at hfollowed

theorem runLexeme_followedBy {c : Char} {label : Option Label}
    (hx : Replaces (p · = false) (cs.dropWhile p) rest) :
    runLexeme p c (cs.takeWhile p ++ rest) label =
      (runLexeme p c cs label).followedBy rest := by
  obtain ⟨htake, hdrop⟩ := takeWhile_followedBy hx
  rw [runLexeme, htake, hdrop]
  rfl

end Runs

/-! ## Strings and comments -/

section Bodies
variable {cs body rest : List Char}

theorem splitAtQuote_followedBy {escape : Option Char} {quote : Char}
    (h : splitAtQuote escape quote cs = some (body, rest)) (new : List Char) :
    splitAtQuote escape quote (body ++ new) = some (body, new) := by
  fun_induction splitAtQuote escape quote cs generalizing body rest with
  | case1 => cases h
  | case2 => cases h
  | case3 c hc d ds ih =>
    obtain ⟨⟨b, r⟩, hb, hr⟩ := Option.map_eq_some_iff.1 h
    obtain ⟨rfl, rfl⟩ := Prod.mk.inj hr
    simp [splitAtQuote, hc, ih hb]
  | case4 cs hc =>
    obtain ⟨rfl, rfl⟩ := Prod.mk.inj (Option.some.inj h)
    unfold splitAtQuote
    simp [hc]
  | case5 c cs hc hq ih =>
    obtain ⟨⟨b, r⟩, hb, hr⟩ := Option.map_eq_some_iff.1 h
    obtain ⟨rfl, rfl⟩ := Prod.mk.inj hr
    unfold splitAtQuote
    simp [hc, hq, ih hb]

theorem length_le_of_splitBehind {mark : List Char}
    (h : splitBehind mark cs = some (body, rest)) : mark.length ≤ body.length := by
  fun_induction splitBehind mark cs generalizing body rest with
  | case1 => cases h
  | case2 c cs hmark =>
    have hlength := (List.isPrefixOf_iff_prefix.1 hmark).length_le
    rw [Option.some.injEq, List.splitAt_eq] at h
    obtain ⟨rfl, -⟩ := Prod.mk.inj h
    rw [List.length_take]
    omega
  | case3 c cs _ ih =>
    obtain ⟨⟨b, r⟩, hb, hr⟩ := Option.map_eq_some_iff.1 h
    obtain ⟨rfl, rfl⟩ := Prod.mk.inj hr
    exact Nat.le_succ_of_le (ih hb)

theorem splitBehind_followedBy {mark : List Char} (h : splitBehind mark cs = some (body, rest))
    (new : List Char) : splitBehind mark (body ++ new) = some (body, new) := by
  fun_induction splitBehind mark cs generalizing body rest with
  | case1 => cases h
  | case2 c cs hmark =>
    have hfront := List.isPrefixOf_iff_prefix.1 hmark
    have hlength : max 1 mark.length ≤ (c :: cs).length :=
      Nat.max_le.2 ⟨Nat.succ_le_succ (Nat.zero_le _), hfront.length_le⟩
    obtain ⟨k, hk⟩ : ∃ k, max 1 mark.length = k + 1 := ⟨max 1 mark.length - 1, by omega⟩
    rw [Option.some.injEq, List.splitAt_eq] at h
    obtain ⟨rfl, -⟩ := Prod.mk.inj h
    have htaken : ((c :: cs).take (max 1 mark.length)).length = max 1 mark.length := by
      rw [List.length_take]
      omega
    have hkept : mark <+: (c :: cs).take (max 1 mark.length) :=
      List.prefix_of_prefix_length_le hfront (List.take_prefix ..) (by omega)
    rw [hk, List.take_succ_cons] at hkept htaken ⊢
    have hstays : mark.isPrefixOf (c :: (cs.take k ++ new)) = true :=
      List.isPrefixOf_iff_prefix.2 (hkept.trans (List.prefix_append ..))
    rw [List.cons_append, splitBehind, if_pos hstays, hk, List.splitAt_eq, ← List.cons_append,
      List.take_left' htaken, List.drop_left' htaken]
  | case3 c cs hmark ih =>
    obtain ⟨⟨b, r⟩, hb, hr⟩ := Option.map_eq_some_iff.1 h
    obtain ⟨rfl, rfl⟩ := Prod.mk.inj hr
    -- the mark stands in what is taken, so another text behind it cannot complete it earlier
    have hnot : ¬ mark.isPrefixOf (c :: (b ++ new)) = true := by
      intro hearly
      have hshort : mark.length ≤ (c :: b).length := Nat.le_succ_of_le (length_le_of_splitBehind hb)
      have hwithin : mark <+: c :: b := List.prefix_of_prefix_length_le
        (List.isPrefixOf_iff_prefix.1 hearly) (List.prefix_append (c :: b) new) hshort
      have hcs : c :: cs = c :: b ++ r := by rw [List.cons_append, splitBehind_append hb]
      rw [hcs] at hmark
      exact hmark (List.isPrefixOf_iff_prefix.2 (hwithin.trans (List.prefix_append ..)))
    rw [List.cons_append, splitBehind, if_neg hnot, ih hb]
    rfl

theorem Marker.splitBody_followedBy {m : Marker} {new : List Char}
    (h : m.splitBody cs = some (body, rest)) (hx : Replaces (· = '\n') rest new) :
    m.splitBody (body ++ new) = some (body, new) := by
  unfold splitBody at h ⊢
  split at h
  · obtain ⟨rfl, rfl⟩ := Prod.mk.inj (Option.some.inj h)
    obtain ⟨htake, hdrop⟩ := takeWhile_followedBy (hx.mono fun d hd => bne_eq_false_iff_eq.2 hd)
    rw [htake, hdrop]
  · exact splitBehind_followedBy h new

end Bodies

namespace Rules
variable {r : Rules} {cs new : List Char}

/-! ## Numbers -/

/-- `c` ends every number that reaches it. -/
structure EndsNumber (r : Rules) (c : Char) : Prop where
  boundary : r.isBoundary c = true
  word : isWordChar c = false
  separator : r.isSeparator c = false
  point : c ≠ '.'
  base : r.numbers.base? c = none
  digit : ∀ e ∈ r.numbers.bases.entries, e.2.accepts c = false

namespace EndsNumber
variable {c : Char}

theorem not_isDigit (h : r.EndsNumber c) : c.isDigit = false := by
  apply Bool.eq_false_iff.2
  intro hdigit
  have hword := isWordChar_of_isDigit hdigit
  rw [h.word] at hword
  cases hword

theorem not_isAlphabetic (h : r.EndsNumber c) : isAlphabetic c = false := by
  apply Bool.eq_false_iff.2
  intro halpha
  have hword := isWordChar_of_isAlphabetic halpha
  rw [h.word] at hword
  cases hword

end EndsNumber

theorem splitDecimal_of_ends (part : DecimalPart) (hx : ∀ d ∈ new.head?, r.EndsNumber d) :
    r.splitDecimal part new = .ok ⟨[], [], new, false⟩ := by
  cases new with
  | nil => rw [splitDecimal]
  | cons d ds =>
    have hd : r.EndsNumber d := hx d rfl
    cases part with
    | suffix => simp [splitDecimal, hd.word, hd.boundary]
    | whole | fraction =>
      simp [splitDecimal, hd.not_isDigit, hd.separator, hd.point, hd.not_isAlphabetic, hd.boundary]

theorem splitDecimal_followedBy {part : DecimalPart} {d : DecimalParts}
    (h : r.splitDecimal part cs = .ok d) (hx : Replaces r.EndsNumber d.rest new) :
    r.splitDecimal part (d.digits ++ d.suffix ++ new) = .ok { d with rest := new } := by
  fun_induction splitDecimal r part cs generalizing d with
  | case1 part =>
    cases h
    exact splitDecimal_of_ends part hx.ends_of_nil
  | case2 c cs hc ih =>
    obtain ⟨e, he, rfl⟩ := ok_of_mapError_map h
    have htail := ih he hx
    rw [digits_eq_nil_of_splitDecimal_suffix he, List.nil_append] at htail
    simp only [digits_eq_nil_of_splitDecimal_suffix he, List.nil_append, List.cons_append]
    rw [splitDecimal, if_pos hc, htail]
    rfl
  | case3 c cs hc hb =>
    cases h
    rcases hx.cons_cases with ⟨tail, rfl⟩ | hends
    · simp [splitDecimal, hc, hb]
    · exact splitDecimal_of_ends .suffix hends
  | case4 => cases h
  | case5 part c cs hp hc ih =>
    obtain ⟨e, he, rfl⟩ := ok_of_mapError_map h
    simp only [List.cons_append]
    rw [splitDecimal, if_pos hc, ih he hx]
    · rfl
    · exact hp
  | case6 => cases h
  | case7 part cs hp hc hf ih =>
    obtain ⟨e, he, rfl⟩ := ok_of_mapError_map h
    simp only [List.cons_append]
    rw [splitDecimal, if_neg hc, if_pos rfl, if_neg hf, ih he hx]
    · rfl
    · exact hp
  | case8 part c cs hp hc hpoint ha ih =>
    obtain ⟨e, he, rfl⟩ := ok_of_mapError_map h
    have htail := ih he hx
    rw [digits_eq_nil_of_splitDecimal_suffix he, List.nil_append] at htail
    simp only [digits_eq_nil_of_splitDecimal_suffix he, List.nil_append, List.cons_append]
    rw [splitDecimal, if_neg hc, if_neg hpoint, if_pos ha, htail]
    · rfl
    · exact hp
  | case9 part c cs hp hc hpoint ha hb =>
    cases h
    rcases hx.cons_cases with ⟨tail, rfl⟩ | hends
    · rw [List.append_nil, List.nil_append, splitDecimal, if_neg hc, if_neg hpoint, if_neg ha,
        if_pos hb]
      exact hp
    · exact splitDecimal_of_ends part hends
  | case10 => cases h

theorem splitBased_of_ends {b : NumberBase}
    (hx : ∀ d ∈ new.head?, r.EndsNumber d ∧ b.accepts d = false) :
    r.splitBased b new = .ok ([], new) := by
  cases new with
  | nil => rfl
  | cons d ds =>
    obtain ⟨hd, haccepts⟩ := hx d rfl
    simp [splitBased, haccepts, hd.separator, hd.point, hd.boundary]

theorem splitBased_followedBy {b : NumberBase} {digits rest : List Char}
    (h : r.splitBased b cs = .ok (digits, rest))
    (hx : Replaces (fun d => r.EndsNumber d ∧ b.accepts d = false) rest new) :
    r.splitBased b (digits ++ new) = .ok (digits, new) := by
  fun_induction splitBased r b cs generalizing digits rest with
  | case1 =>
    cases h
    exact splitBased_of_ends hx.ends_of_nil
  | case2 c cs hc ih =>
    obtain ⟨⟨ds, rs⟩, hd, hr⟩ := ok_of_mapError_map h
    obtain ⟨rfl, rfl⟩ := Prod.mk.inj hr
    rw [List.cons_append, splitBased, if_pos hc, ih hd hx]
    rfl
  | case3 => cases h
  | case4 c cs hc hpoint hb =>
    cases h
    rcases hx.cons_cases with ⟨tail, rfl⟩ | hends
    · rw [List.nil_append, splitBased, if_neg hc, if_neg hpoint, if_pos hb]
    · exact splitBased_of_ends hends
  | case5 => cases h

theorem exists_entry_of_base? {numbers : NumberRules} {letter : Char} {b : NumberBase}
    (h : numbers.base? letter = some b) : ∃ e ∈ numbers.bases.entries, e.2 = b := by
  obtain ⟨e, he, rfl⟩ := Option.map_eq_some_iff.1 h
  exact ⟨e, List.mem_of_find?_eq_some he, rfl⟩

theorem basedLexeme_followedBy {letter : Char} {b : NumberBase} {l : Lexeme}
    (h : r.basedLexeme letter b cs = .ok l)
    (hx : Replaces (fun d => r.EndsNumber d ∧ b.accepts d = false) l.rest new) :
    ∃ digits, l.taken = '0' :: letter :: digits ∧
      r.basedLexeme letter b (digits ++ new) = .ok (l.followedBy new) := by
  unfold basedLexeme at h ⊢
  split at h
  · cases h
  · next digits rest hs =>
    dsimp only at h
    split at h
    · next hany =>
      cases h
      refine ⟨digits, rfl, ?_⟩
      rw [splitBased_followedBy hs hx]
      dsimp only
      rw [if_pos hany]
      rfl
    · cases h

theorem decimalLexeme_followedBy {l : Lexeme} (h : r.decimalLexeme cs = .ok l)
    (hx : Replaces r.EndsNumber l.rest new) :
    r.decimalLexeme (l.taken ++ new) = .ok (l.followedBy new) := by
  unfold decimalLexeme at h ⊢
  cases hd : r.splitDecimal .whole cs with
  | error f =>
    rw [hd] at h
    cases h
  | ok d =>
    rw [hd] at h
    cases h
    rw [splitDecimal_followedBy hd hx]
    rfl

/-- A number without a base letter gets none from a text in place of the one behind its digit. -/
theorem basePrefix?_replace {c : Char} (h : r.basePrefix? (c :: cs) = none)
    (hx : Replaces r.EndsNumber cs new) : r.basePrefix? (c :: new) = none := by
  by_cases hc : c = '0'
  · subst c
    cases new with
    | nil => rfl
    | cons d ds =>
      have hbase : r.numbers.base? d = none := by
        rcases hx d rfl with hsame | hends
        · obtain ⟨tail, rfl⟩ := List.head?_eq_some_iff.1 hsame
          simpa [basePrefix?] using h
        · exact hends.base
      simp [basePrefix?, hbase]
  · unfold basePrefix?
    split
    · next heq => exact absurd (List.cons.inj heq).1 hc
    · rfl

theorem numberLexeme_followedBy {c : Char} {body : List Char} {l : Lexeme}
    (hc : c.isDigit = true) (h : r.numberLexeme (c :: cs) = .ok l) (ht : l.taken = c :: body)
    (hx : Replaces r.EndsNumber l.rest new) :
    r.numberLexeme (c :: (body ++ new)) = .ok (l.followedBy new) := by
  have hcs : body ++ l.rest = cs := by
    have hsplit := (numberLexeme_splits hc h).1
    rw [ht] at hsplit
    exact (List.cons.inj hsplit).2
  unfold numberLexeme at h ⊢
  cases hp : r.basePrefix? (c :: cs) with
  | some found =>
    obtain ⟨letter, b, rest⟩ := found
    rw [hp] at h
    have hb : r.numbers.base? letter = some b := by
      rw [basePrefix?_eq_some hp] at hp
      simpa [basePrefix?] using hp
    obtain ⟨e, he, rfl⟩ := exists_entry_of_base? hb
    obtain ⟨digits, htaken, hbased⟩ :=
      basedLexeme_followedBy h (hx.mono fun d hd => ⟨hd, hd.digit e he⟩)
    obtain ⟨rfl, rfl⟩ := List.cons.inj (ht.symm.trans htaken)
    have hfront : r.basePrefix? ('0' :: (letter :: digits ++ new)) =
        some (letter, e.2, digits ++ new) := by
      simp [basePrefix?, hb]
    rw [hfront]
    exact hbased
  | none =>
    rw [hp] at h
    have hdecimal := decimalLexeme_followedBy h hx
    rw [ht, List.cons_append] at hdecimal
    rw [← hcs] at hp
    rw [basePrefix?_replace hp (hx.append_left body)]
    exact hdecimal

/-! ## Operators and words -/

theorem commentLexeme_followedBy {m : Marker} {run body : List Char} {l : Lexeme}
    (h : commentLexeme m run cs = .ok l) (ht : l.taken = run ++ body)
    (hx : Replaces (· = '\n') l.rest new) :
    commentLexeme m run (body ++ new) = .ok (l.followedBy new) := by
  unfold commentLexeme at h ⊢
  split at h
  · next taken rest hb =>
    cases h
    obtain rfl : taken = body := List.append_cancel_left ht
    rw [Marker.splitBody_followedBy hb hx]
    rfl
  · cases h

theorem operatorLexeme_followedBy {c : Char} {body : List Char} {l : Lexeme}
    (h : r.operatorLexeme c cs = .ok l) (ht : l.taken = c :: body)
    (hx : Replaces (fun d => r.operators.chars.contains d = false ∧ d = '\n') l.rest new) :
    r.operatorLexeme c (body ++ new) = .ok (l.followedBy new) := by
  have hrun : ∀ behind, behind ++ l.rest = cs.dropWhile r.operators.chars.contains →
      (cs.takeWhile r.operators.chars.contains ++ (behind ++ new)).takeWhile
          r.operators.chars.contains = cs.takeWhile r.operators.chars.contains ∧
        (cs.takeWhile r.operators.chars.contains ++ (behind ++ new)).dropWhile
          r.operators.chars.contains = behind ++ new := by
    intro behind hbehind
    apply takeWhile_followedBy
    rw [← hbehind]
    exact (hx.mono fun d hd => hd.1).append_left behind
  unfold operatorLexeme at h ⊢
  dsimp only at h
  split at h
  · cases h
  · next hshort =>
    split at h
    · next m hm =>
      obtain ⟨behind, htaken, hbehind⟩ := commentLexeme_append h
      have hbody : body = cs.takeWhile r.operators.chars.contains ++ behind :=
        (List.cons.inj (ht.symm.trans htaken)).2
      obtain ⟨htake, hdrop⟩ := hrun behind hbehind
      rw [hbody, List.append_assoc, htake, hdrop]
      dsimp only
      rw [if_neg hshort, hm]
      exact commentLexeme_followedBy h htaken (hx.mono fun d hd => hd.2)
    · next hm =>
      cases h
      obtain ⟨-, rfl⟩ := List.cons.inj ht
      obtain ⟨htake, hdrop⟩ := hrun [] rfl
      rw [List.nil_append] at htake hdrop
      rw [htake, hdrop]
      dsimp only
      rw [if_neg hshort, hm]
      rfl

theorem wordLexeme_followedBy {c : Char} {body : List Char} {l : Lexeme}
    (h : r.wordLexeme c cs = .ok l) (ht : l.taken = c :: body)
    (hx : Replaces (isWordChar · = false) l.rest new) :
    r.wordLexeme c (body ++ new) = .ok (l.followedBy new) := by
  unfold wordLexeme at h ⊢
  dsimp only at h
  split at h
  · cases h
  · next hshort =>
    cases h
    obtain ⟨-, rfl⟩ := List.cons.inj ht
    dsimp only
    rw [(takeWhile_followedBy hx).1, if_neg hshort, runLexeme_followedBy hx]

theorem stringLexeme_followedBy {quote : Char} {body : List Char} {l : Lexeme}
    (h : r.stringLexeme quote cs = .ok l) (ht : l.taken = quote :: body) (new : List Char) :
    r.stringLexeme quote (body ++ new) = .ok (l.followedBy new) := by
  unfold stringLexeme at h ⊢
  split at h
  · cases h
  · next taken rest hs =>
    cases h
    obtain ⟨-, rfl⟩ := List.cons.inj ht
    rw [splitAtQuote_followedBy hs]
    rfl

/-! ## All classes -/

/-- `c` ends every lexeme of the class that reaches it. -/
def Ends (r : Rules) (c : Char) : CharClass → Prop
  | .whitespace => r.whitespace.chars.contains c = false
  | .quote | .delimiter => True
  | .digit => r.EndsNumber c
  | .operator => r.operators.chars.contains c = false ∧ c = '\n'
  | .letter => isWordChar c = false

variable {order : List CharClass} {c : Char} {body more : List Char} {l : Lexeme}

theorem lexemeOf_followedBy {cls : CharClass} (hc : r.belongs c cls = true)
    (h : r.lexemeOf c cs cls = .ok l) (ht : l.taken = c :: body)
    (hx : Replaces (r.Ends · cls) l.rest new) :
    r.lexemeOf c (body ++ new) cls = .ok (l.followedBy new) := by
  cases cls with
  | whitespace =>
    cases h
    obtain ⟨-, rfl⟩ := List.cons.inj ht
    rw [lexemeOf, whitespaceLexeme, runLexeme_followedBy hx]
    rfl
  | quote => exact stringLexeme_followedBy h ht new
  | digit => exact numberLexeme_followedBy hc h ht hx
  | delimiter =>
    cases h
    obtain ⟨-, rfl⟩ := List.cons.inj ht
    rfl
  | operator => exact operatorLexeme_followedBy h ht hx
  | letter => exact wordLexeme_followedBy h ht hx

/-- A lexeme is taken alike when the text behind it is replaced. -/
theorem lexeme_followedBy (h : r.lexeme order c cs = .ok l) (ht : l.taken = c :: body)
    (hx : ∀ cls, order.find? (r.belongs c) = some cls → Replaces (r.Ends · cls) l.rest new) :
    r.lexeme order c (body ++ new) = .ok (l.followedBy new) := by
  unfold lexeme at h ⊢
  split at h
  · next cls hcls => exact lexemeOf_followedBy (List.find?_some hcls) h ht (hx cls hcls)
  · cases h

/-- A lexeme starts with the character that it was looked for at. -/
theorem exists_taken_of_lexeme (h : r.lexeme order c cs = .ok l) :
    ∃ body, l.taken = c :: body ∧ body ++ l.rest = cs := by
  obtain ⟨hsplit, hne⟩ := lexeme_splits h
  obtain ⟨d, body, ht⟩ := List.exists_cons_of_ne_nil hne
  rw [ht] at hsplit
  obtain ⟨rfl, hcs⟩ := List.cons.inj hsplit
  exact ⟨body, ht, hcs⟩

theorem lexeme_extend (h : r.lexeme order c cs = .ok l)
    (hx : l.rest = [] → ∀ d ∈ more.head?, ∀ cls, order.find? (r.belongs c) = some cls →
      r.Ends d cls) :
    r.lexeme order c (cs ++ more) = .ok (l.extend more) := by
  obtain ⟨body, ht, rfl⟩ := exists_taken_of_lexeme h
  rw [List.append_assoc]
  exact lexeme_followedBy h ht fun cls hcls =>
    Replaces.append fun hrest d hd => hx hrest d hd cls hcls

/-- The end of the text serves as well as the character that ended the lexeme. -/
theorem lexeme_alone (h : r.lexeme order c cs = .ok l) (ht : l.taken = c :: body) :
    r.lexeme order c body = .ok (l.followedBy []) := by
  have halone := lexeme_followedBy h ht fun _ _ => Replaces.nil _ l.rest
  rwa [List.append_nil] at halone

end Rules

end RuleLexer
