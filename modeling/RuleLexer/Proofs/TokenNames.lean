import RuleLexer.Proofs.Keeping
import RuleLexer.Proofs.Relexing
import RuleLexer.Proofs.Requirements

/-!
# Names of operators and delimiters

Valid rules give no name twice, so looking a name up by its text and a text up by its name are
inverse to each other. The scanners of operators and delimiters look their whole text up, so the
text of such a token can be got back from its name.
-/

namespace RuleLexer
open Text

namespace Rules
variable {r : Rules} {c : Char} {cs : List Char} {label : Label}

theorem nodup_tokens_values (hv : r.validate = .ok ()) : r.tokens.values.Nodup := by
  obtain ⟨-, -, -, -, -, -, htokens⟩ := violation?_eq_none_iff.1 (validate_eq_ok_iff.1 hv)
  rw [tokensViolation?, Option.map_eq_none_iff] at htokens
  exact (firstRepeated?_eq_none_iff.1 htokens).1

theorem tokenText?_eq_some_iff (hv : r.validate = .ok ()) {text name : String} :
    r.tokenText? name = some text ↔ (text, name) ∈ r.tokens.entries := by
  have hfind (e : String × String) : r.tokens.entries.find? (fun e => e.2 == name) = some e ↔
      e ∈ r.tokens.entries ∧ e.2 = name :=
    find?_eq_some_iff_of_nodup (nodup_tokens_values hv) fun d => beq_iff_eq
  rw [tokenText?, Option.map_eq_some_iff]
  constructor
  · rintro ⟨e, he, rfl⟩
    obtain ⟨hmem, rfl⟩ := (hfind e).1 he
    exact hmem
  · intro h
    exact ⟨(text, name), (hfind _).2 ⟨h, rfl⟩, rfl⟩

/-- A text has a name exactly when the name has that text. -/
theorem tokenName?_eq_some_iff (hv : r.validate = .ok ()) {text name : String} :
    r.tokenName? text = some name ↔ r.tokenText? name = some text := by
  rw [tokenText?_eq_some_iff hv, tokenName?, OrderedMap.get?_eq_some_iff]

/-! ## Tokens of operators and delimiters -/

/-- The texts of delimiters and of operators. A run of operator characters that opens a comment is
no operator. -/
inductive IsSymbol (r : Rules) : List Char → Prop where
  | delimiter {c : Char} (hc : r.belongs c .delimiter = true) : IsSymbol r [c]
  | operator {c : Char} {cs : List Char} (hrun : ∀ d ∈ c :: cs, r.belongs d .operator = true)
      (hmarker : r.marker? (String.ofList (c :: cs)) = none) : IsSymbol r (c :: cs)

/-- The names of all kinds but those of operators and delimiters. -/
def otherKinds (r : Rules) : List String :=
  [r.kinds.whitespace, r.kinds.word, r.kinds.keyword, r.kinds.number, r.kinds.string,
    r.kinds.comment, r.kinds.documentation, r.kinds.eof]

theorem operatorLexeme_of_run (hrun : ∀ d ∈ c :: cs, r.belongs d .operator = true)
    (hmarker : r.marker? (String.ofList (c :: cs)) = none) {l : Lexeme}
    (h : r.operatorLexeme c cs = .ok l) :
    l = ⟨c :: cs, [],
      some ⟨r.kinds.operator, (r.tokenName? (String.ofList (c :: cs))).getD "", 10, ""⟩⟩ := by
  have htake : cs.takeWhile r.operators.chars.contains = cs :=
    List.takeWhile_eq_self_iff.2 fun d hd => hrun d (List.mem_cons_of_mem c hd)
  have hdrop : cs.dropWhile r.operators.chars.contains = [] :=
    List.dropWhile_eq_nil_iff.2 fun d hd => hrun d (List.mem_cons_of_mem c hd)
  rw [operatorLexeme, htake, hdrop] at h
  dsimp only at h
  rw [hmarker] at h
  split at h
  · cases h
  · cases h
    rfl

/-- The scanner looks the whole text of a symbol up. -/
theorem subkind_of_isSymbol (hv : r.validate = .ok ()) (hsymbol : r.IsSymbol (c :: cs))
    (h : r.lexeme CharClass.precedence c cs = .ok ⟨c :: cs, [], some label⟩) :
    label.subkind = (r.tokenName? (String.ofList (c :: cs))).getD "" := by
  cases hsymbol with
  | delimiter hc =>
    rw [lexeme_of_belongs hv hc] at h
    cases h
    rfl
  | operator hrun hmarker =>
    rw [lexeme_of_belongs hv (hrun c List.mem_cons_self)] at h
    cases operatorLexeme_of_run hrun hmarker h
    rfl

/-! ## The kinds of other tokens -/

theorem commentKind_mem_otherKinds (r : Rules) (family : CommentFamily) :
    r.commentKind family ∈ r.otherKinds := by
  cases family with
  | comment => simp [commentKind, otherKinds]
  | document => simp [commentKind, otherKinds]

theorem wordLabel_kind_mem_otherKinds (r : Rules) (word : String) :
    (r.wordLabel word).kind ∈ r.otherKinds := by
  unfold wordLabel
  split
  · simp [otherKinds]
  · simp [otherKinds]

theorem isSymbol_or_kind_of_operatorLexeme {l : Lexeme} (hc : r.belongs c .operator = true)
    (h : r.operatorLexeme c cs = .ok l) (hlabel : l.label = some label) :
    r.IsSymbol l.taken ∨ label.kind ∈ r.otherKinds := by
  rw [operatorLexeme] at h
  dsimp only at h
  split at h
  · cases h
  · split at h
    · next m hm =>
      rw [commentLexeme] at h
      split at h
      · cases h
        rw [Option.ite_none_right_eq_some] at hlabel
        obtain ⟨-, hlabel⟩ := hlabel
        cases hlabel
        obtain ⟨family, -, hkind, -⟩ := exists_family_of_marker? hm
        exact .inr (hkind ▸ r.commentKind_mem_otherKinds family)
      · cases h
    · next hmarker =>
      cases h
      refine .inl (.operator (fun d hd => ?_) hmarker)
      rcases List.mem_cons.1 hd with rfl | hd
      · exact hc
      · exact List.all_eq_true.1 (List.all_takeWhile ..) d hd

/-- A lexeme that is no symbol has one of the other kinds. -/
theorem isSymbol_or_kind {order : List CharClass} {l : Lexeme} (h : r.lexeme order c cs = .ok l)
    (hlabel : l.label = some label) : r.IsSymbol l.taken ∨ label.kind ∈ r.otherKinds := by
  rw [lexeme] at h
  split at h
  · next cls hcls =>
    have hc : r.belongs c cls = true := List.find?_some hcls
    cases cls with
    | whitespace =>
      cases h
      rw [whitespaceLexeme, runLexeme, Option.ite_none_right_eq_some] at hlabel
      obtain ⟨-, hlabel⟩ := hlabel
      cases hlabel
      exact .inr (by simp [otherKinds])
    | quote =>
      rw [lexemeOf, stringLexeme] at h
      split at h
      · cases h
      · cases h
        cases hlabel
        exact .inr (by simp [otherKinds])
    | digit =>
      obtain ⟨found, hfound, hkind⟩ := exists_label_of_numberLexeme h
      obtain rfl : found = label := Option.some.inj (hfound.symm.trans hlabel)
      exact .inr (by simp [otherKinds, hkind])
    | delimiter =>
      cases h
      exact .inl (.delimiter hc)
    | operator => exact isSymbol_or_kind_of_operatorLexeme hc h hlabel
    | letter =>
      rw [lexemeOf, wordLexeme] at h
      split at h
      · cases h
      · cases h
        cases hlabel
        exact .inr (r.wordLabel_kind_mem_otherKinds _)
  · cases h

end Rules

/-- Names and texts are found by each other, and the text of an operator or delimiter with a name is
found by that name. Such a token is known by its text, and also by its kind when no other kind has
that name. -/
theorem tokenName?_inverse {r : Rules} (hv : r.validate = .ok ()) :
    (∀ text name, r.tokenName? text = some name ↔ r.tokenText? name = some text) ∧
    ∀ source text tokens, r.tokenize (.loaded source text) = .ok tokens → ∀ t ∈ tokens,
      (r.IsSymbol (t.value (.loaded source text)).toList ∨ t.kind ∉ r.otherKinds) →
      t.subkind ≠ "" → r.tokenText? t.subkind = some (t.value (.loaded source text)) := by
  refine ⟨fun text name => Rules.tokenName?_eq_some_iff hv, ?_⟩
  intro source text tokens h t ht hkind hne
  rcases Rules.eq_endToken_or_lexeme h ht with rfl | ⟨c, cs, hvalue, hlexeme⟩
  · exact absurd rfl hne
  · have hsymbol : r.IsSymbol (c :: cs) := by
      rcases hkind with hsymbol | hkind
      · rwa [hvalue] at hsymbol
      · exact (Rules.isSymbol_or_kind hlexeme rfl).resolve_right hkind
    have hsubkind : t.subkind = _ := Rules.subkind_of_isSymbol hv hsymbol hlexeme
    have hname : r.tokenName? (t.value (.loaded source text)) = some t.subkind := by
      rw [← String.ofList_toList (s := t.value _), hvalue]
      cases hname : r.tokenName? (String.ofList (c :: cs)) with
      | none =>
        rw [hname] at hsubkind
        exact absurd hsubkind hne
      | some name => rw [hsubkind, hname, Option.getD_some]
    exact (Rules.tokenName?_eq_some_iff hv).1 hname

/-- The text of an operator that is known by its kind, and of a delimiter that is known by its
text. -/
theorem tokenName?_inverse_sample :
    Rules.sample.validate = .ok () ∧ Rules.sample.tokenText? "ADD" = some "+" ∧
    ∃ add opening rest, Rules.sample.tokenize (.loaded "s" "+(") = .ok (add :: opening :: rest) ∧
      add.kind ∉ Rules.sample.otherKinds ∧
      Rules.sample.IsSymbol (opening.value (.loaded "s" "+(")).toList ∧
      Rules.sample.tokenText? add.subkind = some (add.value (.loaded "s" "+(")) ∧
      Rules.sample.tokenText? opening.subkind = some (opening.value (.loaded "s" "+(")) := by
  have hv : Rules.sample.validate = .ok () := Rules.validate_eq_ok_iff.2 (by decide +kernel)
  have htokens : (Rules.sample.tokenize (.loaded "s" "+(")).toOption.map
      (·.map fun t => (t.kind, t.subkind, t.value (.loaded "s" "+("))) =
      some [("OPERATOR", "ADD", "+"), ("DELIMITER", "OPEN", "("), ("EOF", "", "")] := by
    decide +kernel
  obtain ⟨tokens, hok, htokens⟩ := exists_ok_of_toOption_map htokens
  obtain ⟨add, _, rfl, hadd, htokens⟩ := List.map_eq_cons_iff.1 htokens
  obtain ⟨opening, rest, rfl, hopening, -⟩ := List.map_eq_cons_iff.1 htokens
  simp only [Prod.mk.injEq] at hadd hopening
  have hkind : add.kind ∉ Rules.sample.otherKinds := by
    rw [hadd.1]
    decide
  have hsymbol : Rules.sample.IsSymbol (opening.value (.loaded "s" "+(")).toList := by
    rw [hopening.2.2]
    exact .delimiter (by decide)
  obtain ⟨hnames, htexts⟩ := tokenName?_inverse hv
  refine ⟨hv, (hnames "+" "ADD").1 (by decide), add, opening, rest, hok, hkind, hsymbol, ?_, ?_⟩
  · exact htexts _ _ _ hok add (by simp) (.inr hkind) (by simp [hadd.2.1])
  · exact htexts _ _ _ hok opening (by simp) (.inl hsymbol) (by simp [hopening.2.1])

end RuleLexer
