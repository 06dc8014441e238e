import RuleLexer.Proofs.Alike
import RuleLexer.Proofs.Consistency
import RuleLexer.Proofs.Keeping
import RuleLexer.Proofs.Sample
import RuleLexer.Proofs.Tokens

/-!
# Lexemes that are left out

Rules that leave out whitespace or comments scan a text as rules that keep everything do. Their
lexemes are the same but for the labels, and whether a lexeme has a label can be read off its own
characters. So leaving out is the same as filtering the tokens afterwards.
-/

namespace RuleLexer
open Text

/-- The lexeme without its label, unless it is to be kept. -/
def Lexeme.keepIf (keep : Bool) (l : Lexeme) : Lexeme :=
  { l with label := if keep then l.label else none }

namespace Lexeme
variable (l : Lexeme) (keep : Bool)

@[simp] theorem keepIf_taken : (l.keepIf keep).taken = l.taken := rfl

@[simp] theorem keepIf_rest : (l.keepIf keep).rest = l.rest := rfl

@[simp] theorem keepIf_true : l.keepIf true = l := rfl

theorem token?_keepIf (p : Position) :
    (l.keepIf keep).token? p = if keep then l.token? p else none := by
  cases keep with
  | true => rfl
  | false => rfl

end Lexeme

namespace Rules
variable {r : Rules} {c : Char} {cs : List Char}

/-- Whether the rules make a token of a lexeme with these characters. Whitespace is known by its
first character and a comment by the operator characters it starts with. -/
def keepsText (r : Rules) : List Char → Bool
  | [] => true
  | c :: cs =>
    if r.whitespace.chars.contains c then r.whitespace.keep
    else if r.operators.chars.contains c then
      match r.commentFamily? (String.ofList (c :: cs.takeWhile r.operators.chars.contains)) with
      | some family => (r.commentRules family).keep
      | none => true
    else true

/-- Whether the rules leave a token of the source in. -/
def keeps (r : Rules) (s : Source) (t : Token) : Bool := r.keepsText (t.value s).toList

theorem keepsText_of_whitespace (hc : r.whitespace.chars.contains c = true) (cs : List Char) :
    r.keepsText (c :: cs) = r.whitespace.keep := if_pos hc

/-- A character of another class starts neither whitespace nor a comment. -/
theorem keepsText_of_belongs (hv : r.validate = .ok ()) {cls : CharClass}
    (hc : r.belongs c cls = true) (hw : cls ≠ .whitespace) (ho : cls ≠ .operator)
    (cs : List Char) : r.keepsText (c :: cs) = true := by
  have hwhitespace : ¬ r.whitespace.chars.contains c = true := by
    intro h
    have hsame : cls = .whitespace := belongs_unique hv hc h
    exact hw hsame
  have hoperator : ¬ r.operators.chars.contains c = true := by
    intro h
    have hsame : cls = .operator := belongs_unique hv hc h
    exact ho hsame
  rw [keepsText, if_neg hwhitespace, if_neg hoperator]

/-- What follows the run of operator characters does not matter. -/
theorem keepsText_of_operator (hv : r.validate = .ok ()) (hc : r.belongs c .operator = true)
    {body rest : List Char} (hbody : body ++ rest = cs.dropWhile r.operators.chars.contains) :
    r.keepsText (c :: (cs.takeWhile r.operators.chars.contains ++ body)) =
      match r.commentFamily? (String.ofList (c :: cs.takeWhile r.operators.chars.contains)) with
      | some family => (r.commentRules family).keep
      | none => true := by
  have hwhitespace : ¬ r.whitespace.chars.contains c = true := by
    intro h
    have hsame : CharClass.operator = .whitespace := belongs_unique hv hc h
    cases hsame
  have hoperator : r.operators.chars.contains c = true := hc
  have hrun : ∀ d ∈ cs.takeWhile r.operators.chars.contains, r.operators.chars.contains d = true :=
    fun d hd => List.all_eq_true.1 (List.all_takeWhile ..) d hd
  have hstop : body.takeWhile r.operators.chars.contains = [] := by
    cases body with
    | nil => rfl
    | cons d body =>
      have hhead := List.head?_dropWhile_not r.operators.chars.contains cs
      rw [← hbody] at hhead
      exact List.takeWhile_cons_of_neg (by simpa using hhead)
  rw [keepsText, if_neg hwhitespace, if_pos hoperator, List.takeWhile_append_of_pos hrun, hstop,
    List.append_nil]

/-! ## One lexeme -/

theorem numberLexeme_keepAll (cs : List Char) :
    r.keepAll.numberLexeme cs = r.numberLexeme cs := by
  have hseparator : r.keepAll.isSeparator = r.isSeparator := rfl
  have hboundary : r.keepAll.isBoundary = r.isBoundary := rfl
  have hbase : r.keepAll.basePrefix? cs = r.basePrefix? cs := rfl
  unfold numberLexeme
  rw [hbase]
  cases r.basePrefix? cs with
  | none =>
    dsimp only
    rw [decimalLexeme, decimalLexeme, splitDecimal_congr hseparator hboundary]
    rfl
  | some found =>
    dsimp only
    rw [basedLexeme, basedLexeme, splitBased_congr hseparator hboundary rfl]
    rfl

theorem commentLexeme_keep (m : Marker) (run cs : List Char) :
    commentLexeme m run cs =
      (commentLexeme { m with keep := true } run cs).map (Lexeme.keepIf m.keep) := by
  have hbody : { m with keep := true }.splitBody cs = m.splitBody cs := rfl
  rw [commentLexeme, commentLexeme, hbody]
  cases m.splitBody cs with
  | none => rfl
  | some cut => rfl

theorem operatorLexeme_eq_keepIf (hv : r.validate = .ok ()) (hc : r.belongs c .operator = true) :
    r.operatorLexeme c cs =
      (r.keepAll.operatorLexeme c cs).map fun l => l.keepIf (r.keepsText l.taken) := by
  have hoperators : r.keepAll.operators = r.operators := rfl
  have htokens : r.keepAll.tokenName? = r.tokenName? := rfl
  have hkinds : r.keepAll.kinds = r.kinds := rfl
  unfold operatorLexeme
  dsimp only
  rw [hoperators, htokens, hkinds, marker?_keepAll]
  generalize hrun : cs.takeWhile r.operators.chars.contains = run
  by_cases hmax : r.operators.maxLength < (c :: run).length
  · rw [if_pos hmax, if_pos hmax]
    rfl
  · rw [if_neg hmax, if_neg hmax]
    cases hm : r.marker? (String.ofList (c :: run)) with
    | none =>
      have hkeep := keepsText_of_operator hv hc
        (List.nil_append (cs.dropWhile r.operators.chars.contains))
      rw [List.append_nil, hrun, marker?_eq_none_iff.1 hm] at hkeep
      simp only [Option.map_none, Except.map, hkeep, Lexeme.keepIf_true]
    | some m =>
      obtain ⟨family, hfamily, -, hkeep⟩ := exists_family_of_marker? hm
      simp only [Option.map_some]
      rw [commentLexeme_keep]
      cases hl : commentLexeme { m with keep := true } (c :: run)
          (cs.dropWhile r.operators.chars.contains) with
      | error f => rfl
      | ok l =>
        obtain ⟨body, htaken, hbody⟩ := commentLexeme_append hl
        have htext := keepsText_of_operator hv hc hbody
        rw [hrun, hfamily] at htext
        simp only [Except.map, htaken, List.cons_append, htext, hkeep]

theorem whitespaceLexeme_eq_keepIf (hc : r.whitespace.chars.contains c = true) (cs : List Char) :
    r.whitespaceLexeme c cs =
      (r.keepAll.whitespaceLexeme c cs).keepIf
        (r.keepsText (r.keepAll.whitespaceLexeme c cs).taken) := by
  have htaken : (r.keepAll.whitespaceLexeme c cs).taken =
      c :: cs.takeWhile r.whitespace.chars.contains := rfl
  rw [htaken, keepsText_of_whitespace hc]
  rfl

/-- Outside whitespace and operators nothing is left out. -/
theorem keepsText_of_lexemeOf (hv : r.validate = .ok ()) {cls : CharClass} {l : Lexeme}
    (hc : r.belongs c cls = true) (hw : cls ≠ .whitespace) (ho : cls ≠ .operator)
    (hl : r.lexemeOf c cs cls = .ok l) : r.keepsText l.taken = true := by
  obtain ⟨htaken, hne⟩ := lexemeOf_splits hc hl
  obtain ⟨d, tail, hd⟩ := List.exists_cons_of_ne_nil hne
  rw [hd] at htaken ⊢
  obtain ⟨rfl, -⟩ := List.cons.inj htaken
  exact keepsText_of_belongs hv hc hw ho tail

/-- A lexeme of the rules is the one that is taken when everything is kept, but for the label. -/
theorem lexeme_eq_keepIf (hv : r.validate = .ok ()) (c : Char) (cs : List Char) :
    r.lexeme CharClass.precedence c cs =
      (r.keepAll.lexeme CharClass.precedence c cs).map fun l => l.keepIf (r.keepsText l.taken) := by
  have hbelongs : r.keepAll.belongs c = r.belongs c := by
    funext cls
    cases cls <;> rfl
  rw [lexeme, lexeme, hbelongs]
  cases hcls : CharClass.precedence.find? (r.belongs c) with
  | none => rfl
  | some cls =>
    have hc : r.belongs c cls = true := List.find?_some hcls
    by_cases hw : cls = .whitespace
    · subst hw
      exact congrArg Except.ok (whitespaceLexeme_eq_keepIf hc cs)
    · by_cases ho : cls = .operator
      · subst ho
        exact operatorLexeme_eq_keepIf hv hc
      · have hsame : r.keepAll.lexemeOf c cs cls = r.lexemeOf c cs cls := by
          cases cls with
          | whitespace => exact absurd rfl hw
          | operator => exact absurd rfl ho
          | digit => exact numberLexeme_keepAll (c :: cs)
          | quote | delimiter | letter => rfl
        dsimp only
        rw [hsame]
        cases hl : r.lexemeOf c cs cls with
        | error f => rfl
        | ok l => rw [Except.map, keepsText_of_lexemeOf hv hc hw ho hl, Lexeme.keepIf_true]

/-! ## All lexemes -/

/-- The scans go in lockstep: the lexemes end at the same places, and so does the text. -/
theorem scan_eq_keepIf (hv : r.validate = .ok ()) (cs : List Char) :
    r.scan CharClass.precedence cs =
      ⟨(r.keepAll.scan CharClass.precedence cs).lexemes.map
          fun l => l.keepIf (r.keepsText l.taken),
        (r.keepAll.scan CharClass.precedence cs).failure⟩ := by
  exact scan_map (fun l => l.keepIf_rest _) (lexeme_eq_keepIf hv) cs

end Rules

theorem takenBy_keepIf (keep : Lexeme → Bool) (ls : List Lexeme) :
    takenBy (ls.map fun l => l.keepIf (keep l)) = takenBy ls := by
  exact takenBy_map (fun l => l.keepIf_taken _) ls

/-- The tokens of lexemes that keep their labels are those whose text is kept. -/
theorem placed_keepIf (r : Rules) (name : String) {text : String} {before after : List Char}
    {ls : List Lexeme} (h : text.toList = before ++ (takenBy ls ++ after)) :
    placed text.toList (.between before (takenBy ls ++ after))
        (ls.map fun l => l.keepIf (r.keepsText l.taken)) =
      (placed text.toList (.between before (takenBy ls ++ after)) ls).filter
        (r.keeps (.loaded name text)) := by
  induction ls generalizing before with
  | nil => rfl
  | cons l ls ih =>
    rw [takenBy_cons, List.append_assoc] at h ⊢
    have htail := ih (h.trans (List.append_assoc ..).symm)
    rw [List.map_cons, placed, placed, Lexeme.keepIf_taken, Position.walk_between _ h, htail,
      Lexeme.token?_keepIf, List.filter_append]
    congr 1
    cases ht : l.token? (.between before (l.taken ++ (takenBy ls ++ after))) with
    | none => simp
    | some t =>
      have hvalue : t.value (.loaded name text) = String.ofList l.taken :=
        (Lexeme.token?_standsAt ht).value h
      have hkeeps : r.keeps (.loaded name text) t = r.keepsText l.taken := by
        rw [Rules.keeps, hvalue, String.toList_ofList]
      cases hkeep : r.keepsText l.taken with
      | true => simp [hkeeps, hkeep]
      | false => simp [hkeeps, hkeep]

/-- Leaving whitespace and comments out is the same as taking their tokens away afterwards, and it
does not change how a text fails. -/
theorem tokenize_eq_filter {r : Rules} (hv : r.validate = .ok ()) (s : Source) :
    r.tokenize s = (r.keepAll.tokenize s).map (List.filter (r.keeps s)) := by
  obtain ⟨name, text?⟩ := s
  cases text? with
  | none => rfl
  | some text =>
    change r.tokenize (.loaded name text) =
      (r.keepAll.tokenize (.loaded name text)).map (List.filter (r.keeps (.loaded name text)))
    rw [Rules.tokenize_loaded, Rules.tokenize_loaded, Rules.tokensIn, Rules.tokensIn,
      Rules.tokensFrom_eq_scan, Rules.tokensFrom_eq_scan, Rules.scan_eq_keepIf hv, takenBy_keepIf]
    cases hf : (r.keepAll.scan CharClass.precedence text.toList).failure with
    | some f => rfl
    | none =>
      have hplaced := placed_keepIf r name (Rules.eq_append_takenBy_scan hf)
      rw [← Rules.start_eq_between_scan hf] at hplaced
      have hend : r.keeps (.loaded name text) (r.keepAll.endToken text.toList
          ((Position.start text.toList).walk text.toList text.toList)) = true := by
        rw [Rules.keeps, Rules.endToken_value]
        rfl
      dsimp only
      rw [hplaced, Rules.takenBy_scan hf, Except.map, List.filter_append,
        List.filter_cons_of_pos hend]
      rfl

theorem tokenize_eq_filter_sample :
    ∃ tokens, Rules.sample.keepAll.tokenize Source.sample = .ok tokens ∧ tokens.length = 15 ∧
      Rules.sample.tokenize Source.sample =
        .ok (tokens.filter (Rules.sample.keeps Source.sample)) ∧
      (tokens.filter (Rules.sample.keeps Source.sample)).length = 10 := by
  have hv : Rules.sample.validate = .ok () := by decide +kernel
  have hall : (Rules.sample.keepAll.tokenize Source.sample).toOption.map List.length =
      some 15 := by decide +kernel
  have hkept : (Rules.sample.tokenize Source.sample).toOption.map List.length =
      some 10 := by decide +kernel
  obtain ⟨tokens, htokens, hlength⟩ := exists_tokens_of_length hall
  have hfilter := tokenize_eq_filter hv Source.sample
  rw [htokens] at hfilter
  rw [hfilter] at hkept
  exact ⟨tokens, htokens, hlength, hfilter, Option.some.inj hkept⟩

end RuleLexer
