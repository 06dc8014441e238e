import RuleLexer.Proofs.Alike
import RuleLexer.Proofs.OrderedMap
import RuleLexer.Proofs.Sample

/-!
# Names do not influence scanning

Rules without their names take every lexeme that the rules take, and fail as they do; only what the
tokens are called is lost. So two rules that differ in names only give tokens at the same places,
or the same error.
-/

namespace RuleLexer
open Text

/-! ## Rules without names -/

def KindNames.unnamed : KindNames := ⟨"", "", "", "", "", "", "", "", "", ""⟩

def NumberBase.unnamed (b : NumberBase) : NumberBase := { b with subkind := "" }

def BlockMarkers.unnamed (b : BlockMarkers) : BlockMarkers := { b with subkind := "" }

def CommentRules.unnamed (f : CommentRules) : CommentRules :=
  { f with subkind := "", block := f.block.map BlockMarkers.unnamed }

/-- The rules without the names of kinds and subkinds, without keywords and without the names of
operators and delimiters. -/
def Rules.unnamed (r : Rules) : Rules where
  kinds := KindNames.unnamed
  whitespace := r.whitespace
  strings := { r.strings with quotes := r.strings.quotes.mapValues fun _ => "" }
  numbers := {
    subkind := "", floatSubkind := "", separator := r.numbers.separator
    bases := r.numbers.bases.mapValues NumberBase.unnamed }
  operators := r.operators
  delimiters := r.delimiters
  comments := r.comments.unnamed
  documentation := r.documentation.unnamed
  keywords := ⟨"", ∅, []⟩
  words := { r.words with subkind := "" }
  tokens := ∅
  subkindDelimiter := none

def Label.unnamed (l : Label) : Label := { l with kind := "", subkind := "" }

def Lexeme.unnamed (l : Lexeme) : Lexeme := { l with label := l.label.map Label.unnamed }

@[simp] theorem Lexeme.unnamed_taken (l : Lexeme) : l.unnamed.taken = l.taken := rfl

@[simp] theorem Lexeme.unnamed_rest (l : Lexeme) : l.unnamed.rest = l.rest := rfl

def Token.unnamed (t : Token) : Token := { t with kind := "", subkind := "" }

def Marker.unnamed (m : Marker) : Marker := { m with kind := "", subkind := "" }

/-! ## One lexeme -/

theorem CommentRules.marker?_unnamed (f : CommentRules) (kind run : String) :
    f.unnamed.marker? "" run = (f.marker? kind run).map Marker.unnamed := by
  unfold marker? unnamed
  by_cases hline : f.line = some run
  · simp [hline, Marker.unnamed]
  · cases f.block with
    | none => simp [hline]
    | some b =>
      by_cases ho : b.opening = run
      · simp [hline, ho, BlockMarkers.unnamed, Marker.unnamed]
      · simp [hline, ho, BlockMarkers.unnamed]

namespace Rules
variable (r : Rules)

theorem belongs_unnamed (c : Char) : r.unnamed.belongs c = r.belongs c := by
  funext cls
  cases cls with
  | quote => exact OrderedMap.contains_mapValues ..
  | whitespace | digit | delimiter | operator | letter => rfl

theorem isSeparator_unnamed : r.unnamed.isSeparator = r.isSeparator := rfl

theorem isBoundary_unnamed : r.unnamed.isBoundary = r.isBoundary := rfl

theorem base?_unnamed (letter : Char) :
    r.unnamed.numbers.base? letter = (r.numbers.base? letter).map NumberBase.unnamed := by
  unfold NumberRules.base?
  simp [unnamed, OrderedMap.mapValues, List.find?_map, Function.comp_def]

theorem basePrefix?_unnamed (cs : List Char) :
    r.unnamed.basePrefix? cs =
      (r.basePrefix? cs).map fun found => (found.1, found.2.1.unnamed, found.2.2) := by
  unfold basePrefix?
  split
  · rw [base?_unnamed, Option.map_map, Option.map_map]
    rfl
  · rfl

theorem basedLexeme_unnamed (letter : Char) (b : NumberBase) (cs : List Char) :
    r.unnamed.basedLexeme letter b.unnamed cs =
      (r.basedLexeme letter b cs).map Lexeme.unnamed := by
  have hdigits : b.unnamed.digits = b.digits := rfl
  unfold basedLexeme
  rw [splitBased_congr r.isSeparator_unnamed r.isBoundary_unnamed hdigits,
    NumberBase.accepts_congr hdigits]
  cases r.splitBased b cs with
  | error f => rfl
  | ok cut =>
    dsimp only
    by_cases hany : cut.1.any b.accepts = true
    · rw [if_pos hany, if_pos hany]
      rfl
    · rw [if_neg hany, if_neg hany]
      rfl

theorem decimalLexeme_unnamed (cs : List Char) :
    r.unnamed.decimalLexeme cs = (r.decimalLexeme cs).map Lexeme.unnamed := by
  unfold decimalLexeme
  rw [splitDecimal_congr r.isSeparator_unnamed r.isBoundary_unnamed]
  cases r.splitDecimal .whole cs with
  | error f => rfl
  | ok d =>
    have hsubkind : (if d.hasPoint = true then r.unnamed.numbers.floatSubkind
        else r.unnamed.numbers.subkind) = "" := ite_self ""
    dsimp only [Except.map]
    rw [hsubkind]
    rfl

theorem numberLexeme_unnamed (cs : List Char) :
    r.unnamed.numberLexeme cs = (r.numberLexeme cs).map Lexeme.unnamed := by
  unfold numberLexeme
  rw [basePrefix?_unnamed]
  cases r.basePrefix? cs with
  | none => exact r.decimalLexeme_unnamed cs
  | some found => exact r.basedLexeme_unnamed ..

theorem stringLexeme_unnamed (quote : Char) (cs : List Char) :
    r.unnamed.stringLexeme quote cs = (r.stringLexeme quote cs).map Lexeme.unnamed := by
  have hsubkind : (r.unnamed.strings.subkind? quote).getD "" = "" := by
    rw [StringRules.subkind?, unnamed, OrderedMap.get?_mapValues]
    cases r.strings.quotes.get? quote <;> rfl
  have hescape : r.unnamed.strings.escape = r.strings.escape := rfl
  unfold stringLexeme
  rw [hsubkind, hescape]
  cases splitAtQuote r.strings.escape quote cs with
  | none => rfl
  | some cut => rfl

theorem marker?_unnamed (run : String) :
    r.unnamed.marker? run = (r.marker? run).map Marker.unnamed := by
  have hdocumentation := r.documentation.marker?_unnamed r.kinds.documentation run
  have hcomment := r.comments.marker?_unnamed r.kinds.comment run
  unfold marker?
  dsimp only [unnamed, KindNames.unnamed]
  rw [hdocumentation, hcomment]
  cases r.documentation.marker? r.kinds.documentation run with
  | none => rfl
  | some m => rfl

theorem commentLexeme_unnamed (m : Marker) (run cs : List Char) :
    commentLexeme m.unnamed run cs = (commentLexeme m run cs).map Lexeme.unnamed := by
  have hbody : m.unnamed.splitBody cs = m.splitBody cs := rfl
  have hkeep : m.unnamed.keep = m.keep := rfl
  unfold commentLexeme
  rw [hbody, hkeep]
  cases m.splitBody cs with
  | none => rfl
  | some cut =>
    cases m.keep with
    | true => rfl
    | false => rfl

theorem operatorLexeme_unnamed (c : Char) (cs : List Char) :
    r.unnamed.operatorLexeme c cs = (r.operatorLexeme c cs).map Lexeme.unnamed := by
  have hoperators : r.unnamed.operators = r.operators := rfl
  unfold operatorLexeme
  dsimp only
  rw [hoperators, marker?_unnamed]
  generalize c :: cs.takeWhile r.operators.chars.contains = run
  by_cases hmax : r.operators.maxLength < run.length
  · rw [if_pos hmax, if_pos hmax]
    rfl
  · rw [if_neg hmax, if_neg hmax]
    cases r.marker? (String.ofList run) with
    | none => rfl
    | some m => exact commentLexeme_unnamed m run _

theorem wordLabel_unnamed (word : String) :
    r.unnamed.wordLabel word = (r.wordLabel word).unnamed := by
  have hnone : r.unnamed.keywords.classify word = none := rfl
  rw [wordLabel, hnone, wordLabel]
  cases r.keywords.classify word with
  | none => rfl
  | some subkind => rfl

theorem wordLexeme_unnamed (c : Char) (cs : List Char) :
    r.unnamed.wordLexeme c cs = (r.wordLexeme c cs).map Lexeme.unnamed := by
  have hmax : r.unnamed.words.maxLength = r.words.maxLength := rfl
  unfold wordLexeme
  dsimp only
  rw [hmax, wordLabel_unnamed]
  by_cases hlong : r.words.maxLength < (c :: cs.takeWhile isWordChar).length
  · rw [if_pos hlong, if_pos hlong]
    rfl
  · rw [if_neg hlong, if_neg hlong]
    rfl

/-- Without names the same characters are taken, and the failures are the same. -/
theorem lexeme_unnamed (order : List CharClass) (c : Char) (cs : List Char) :
    r.unnamed.lexeme order c cs = (r.lexeme order c cs).map Lexeme.unnamed := by
  unfold lexeme
  rw [belongs_unnamed]
  cases order.find? (r.belongs c) with
  | none => rfl
  | some cls =>
    cases cls with
    | whitespace =>
      have hkeep : r.unnamed.whitespace = r.whitespace := rfl
      dsimp only [lexemeOf]
      rw [whitespaceLexeme, whitespaceLexeme, hkeep]
      cases r.whitespace.keep with
      | true => rfl
      | false => rfl
    | quote => exact r.stringLexeme_unnamed c cs
    | digit => exact r.numberLexeme_unnamed (c :: cs)
    | delimiter => rfl
    | operator => exact r.operatorLexeme_unnamed c cs
    | letter => exact r.wordLexeme_unnamed c cs

end Rules

/-! ## All tokens -/

theorem Lexeme.token?_unnamed (l : Lexeme) (p : Position) :
    l.unnamed.token? p = (l.token? p).map Token.unnamed := by
  unfold token? unnamed
  cases l.label with
  | none => rfl
  | some label => rfl

theorem placed_unnamed (text : List Char) (p : Position) (ls : List Lexeme) :
    placed text p (ls.map Lexeme.unnamed) = (placed text p ls).map Token.unnamed := by
  induction ls generalizing p with
  | nil => rfl
  | cons l ls ih =>
    rw [List.map_cons, placed, placed, Lexeme.token?_unnamed, Lexeme.unnamed_taken, ih,
      List.map_append, Option.toList_map]

theorem Rules.tokenize_unnamed (r : Rules) (s : Source) :
    r.unnamed.tokenize s = (r.tokenize s).map (List.map Token.unnamed) := by
  unfold tokenize
  cases s.text? with
  | none => rfl
  | some text =>
    dsimp only
    rw [tokensIn, tokensIn, tokensFrom_eq_scan, tokensFrom_eq_scan,
      scan_map Lexeme.unnamed_rest (r.lexeme_unnamed CharClass.precedence),
      takenBy_map Lexeme.unnamed_taken]
    cases (r.scan CharClass.precedence text.toList).failure with
    | some f => rfl
    | none =>
      dsimp only
      rw [placed_unnamed, Except.map, List.map_append]
      rfl

/-- Rules that agree in all but names fail with the same error, or give as many tokens, which agree
one by one in all but their names. -/
theorem tokenize_eq_of_unnamed_eq {r r' : Rules} (h : r.unnamed = r'.unnamed) (s : Source) :
    (r.tokenize s).map (List.map Token.unnamed) =
      (r'.tokenize s).map (List.map Token.unnamed) := by
  rw [← Rules.tokenize_unnamed, h, Rules.tokenize_unnamed]

/-- The sample rules with other kinds, subkinds, keywords and token names. -/
def Rules.renamedSample : Rules :=
  { Rules.sample with
    kinds := { Rules.sample.kinds with word := "IDENT", operator := "OP", comment := "OP" }
    strings := ⟨some '\\', .ofList [('"', "QUOTED")]⟩
    numbers := { Rules.sample.numbers with
      floatSubkind := "INTEGER", bases := .ofList [('x', ⟨"0123456789abcdef", ""⟩)] }
    keywords := ⟨"KEYWORD", .ofList ["x1"], []⟩
    tokens := .ofList [("+", "OPEN"), ("//", "PLUS")]
    subkindDelimiter := some "." }

theorem tokenize_eq_of_unnamed_eq_sample :
    ∃ ts us, Rules.sample.unnamed = Rules.renamedSample.unnamed ∧
      Rules.sample.tokenize Source.sample = .ok ts ∧
      Rules.renamedSample.tokenize Source.sample = .ok us ∧
      ts.length = 10 ∧ ts ≠ us ∧ ts.map Token.unnamed = us.map Token.unnamed := by
  have hunnamed : Rules.sample.unnamed = Rules.renamedSample.unnamed := by decide +kernel
  have hfirst : (Rules.sample.tokenize Source.sample).toOption.map List.length =
      some 10 := by decide +kernel
  have hsecond : (Rules.renamedSample.tokenize Source.sample).toOption.map List.length =
      some 10 := by decide +kernel
  have hdiffer : (Rules.sample.tokenize Source.sample).toOption ≠
      (Rules.renamedSample.tokenize Source.sample).toOption := by decide +kernel
  obtain ⟨ts, hts, hlength⟩ := exists_tokens_of_length hfirst
  obtain ⟨us, hus, -⟩ := exists_tokens_of_length hsecond
  have hagree := tokenize_eq_of_unnamed_eq hunnamed Source.sample
  rw [hts, hus] at hagree hdiffer
  refine ⟨ts, us, hunnamed, hts, hus, hlength, ?_, Except.ok.inj hagree⟩
  rintro rfl
  exact hdiffer rfl

end RuleLexer
