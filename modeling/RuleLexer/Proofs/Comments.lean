import RuleLexer.Proofs.Driver
import RuleLexer.Proofs.Reachability

/-!
# The grammar of operators and comments

Where a run of the scanner meets an operator character, it takes all the operator characters there.
Too many of them are an error, whatever they start with. Otherwise they are compared as a whole with
the four markers. A line marker goes with the text up to the next newline, a block marker with the
text up to the first occurrence of its closing marker and that occurrence itself. What is no marker
is an operator.
-/

namespace RuleLexer
open Text

/-! ## The first occurrence of a marker -/

/-- The first occurrence of `mark` in `text` stands between `front` and `behind`. -/
structure FirstBetween (mark text front behind : List Char) : Prop where
  split : text = front ++ (mark ++ behind)
  first : ∀ front' behind', text = front' ++ (mark ++ behind') → front.length ≤ front'.length

section FirstOccurrence
variable {mark text front front' behind behind' body rest : List Char}

theorem FirstBetween.unique (h : FirstBetween mark text front behind)
    (h' : FirstBetween mark text front' behind') : front = front' ∧ behind = behind' := by
  have hlength : front.length = front'.length :=
    Nat.le_antisymm (h.first front' behind' h'.split) (h'.first front behind h.split)
  obtain ⟨hfront, htail⟩ := List.append_inj (h.split.symm.trans h'.split) hlength
  exact ⟨hfront, List.append_cancel_left htail⟩

theorem firstBetween_of_splitBehind (hmark : mark ≠ [])
    (h : splitBehind mark text = some (body, rest)) :
    ∃ front, body = front ++ mark ∧ FirstBetween mark text front rest := by
  fun_induction splitBehind mark text generalizing body rest with
  | case1 => cases h
  | case2 c cs hfront =>
    obtain ⟨tail, htail⟩ := List.isPrefixOf_iff_prefix.1 hfront
    have hmax : max 1 mark.length = mark.length := Nat.max_eq_right (List.length_pos_iff.2 hmark)
    rw [hmax, List.splitAt_eq, ← htail, List.take_left, List.drop_left] at h
    obtain ⟨rfl, rfl⟩ := Prod.mk.inj (Option.some.inj h)
    exact ⟨[], rfl, htail.symm, fun _ _ _ => Nat.zero_le _⟩
  | case3 c cs hfront ih =>
    obtain ⟨⟨body, rest⟩, hsplit, heq⟩ := Option.map_eq_some_iff.1 h
    obtain ⟨rfl, rfl⟩ := Prod.mk.inj heq
    obtain ⟨front, rfl, hfirst⟩ := ih hsplit
    refine ⟨c :: front, rfl, by rw [hfirst.split]; rfl, ?_⟩
    intro front' behind' htext
    cases front' with
    | nil => exact absurd (List.isPrefixOf_iff_prefix.2 ⟨behind', htext.symm⟩) hfront
    | cons d front' =>
      have hcs : cs = front' ++ (mark ++ behind') := (List.cons.inj htext).2
      exact Nat.succ_le_succ (hfirst.first front' behind' hcs)

theorem splitBehind_eq_none_iff (hmark : mark ≠ []) :
    splitBehind mark text = none ↔ ¬ mark <:+: text := by
  fun_induction splitBehind mark text with
  | case1 => simp [hmark]
  | case2 c cs hfront =>
    have hwithin := (List.isPrefixOf_iff_prefix.1 hfront).isInfix
    simp [hwithin]
  | case3 c cs hfront ih =>
    have hhead : ¬ mark <+: c :: cs := fun h => hfront (List.isPrefixOf_iff_prefix.2 h)
    rw [Option.map_eq_none_iff, ih, List.infix_cons_iff, not_or]
    exact ⟨fun h => ⟨hhead, h⟩, And.right⟩

theorem splitBehind_eq_some_iff (hmark : mark ≠ []) :
    splitBehind mark text = some (body, behind) ↔
      ∃ front, body = front ++ mark ∧ FirstBetween mark text front behind := by
  constructor
  · exact firstBetween_of_splitBehind hmark
  · rintro ⟨front, rfl, hfirst⟩
    cases h : splitBehind mark text with
    | none =>
      have hwithin : mark <:+: text := ⟨front, behind, by rw [hfirst.split, List.append_assoc]⟩
      exact absurd hwithin ((splitBehind_eq_none_iff hmark).1 h)
    | some parts =>
      obtain ⟨body', behind'⟩ := parts
      obtain ⟨front', rfl, hfirst'⟩ := firstBetween_of_splitBehind hmark h
      obtain ⟨rfl, rfl⟩ := hfirst.unique hfirst'
      rfl

end FirstOccurrence

/-! ## Bodies of comments -/

namespace Marker
variable {m : Marker} {text body behind : List Char}

/-- The comment that `m` opens takes `body` of the text behind its marker and leaves `behind`. -/
def TakesBody (m : Marker) (text body behind : List Char) : Prop :=
  match m.closing with
  | none => text = body ++ behind ∧ '\n' ∉ body ∧ ∀ d ∈ behind.head?, d = '\n'
  | some mark => ∃ front, body = front ++ mark.toList ∧ FirstBetween mark.toList text front behind

theorem splitBody_eq_some_iff (hmark : ∀ mark ∈ m.closing, mark.toList ≠ []) :
    m.splitBody text = some (body, behind) ↔ m.TakesBody text body behind := by
  unfold splitBody TakesBody
  cases hclosing : m.closing with
  | some mark => exact splitBehind_eq_some_iff (hmark mark hclosing)
  | none =>
    dsimp only
    rw [Option.some.injEq, Prod.mk.injEq]
    constructor
    · rintro ⟨rfl, rfl⟩
      refine ⟨List.takeWhile_append_dropWhile.symm, fun hmem => ?_, fun d hd => ?_⟩
      · simpa using List.mem_takeWhile_imp hmem
      · simpa using dropWhile_stops (· != '\n') text d hd
    · rintro ⟨rfl, hbody, hstop⟩
      have hrun : ∀ d ∈ body, (d != '\n') = true :=
        fun d hd => bne_iff_ne.2 fun heq => hbody (heq ▸ hd)
      exact takeWhile_run hrun fun d hd => bne_eq_false_iff_eq.2 (hstop d hd)

theorem splitBody_eq_none_iff (hmark : ∀ mark ∈ m.closing, mark.toList ≠ []) :
    m.splitBody text = none ↔ ∃ mark ∈ m.closing, ¬ mark.toList <:+: text := by
  unfold splitBody
  cases hclosing : m.closing with
  | some mark => simp [splitBehind_eq_none_iff (hmark mark hclosing)]
  | none => simp

/-- Only a block that is not closed has no body. -/
theorem exists_takesBody_iff (hmark : ∀ mark ∈ m.closing, mark.toList ≠ []) :
    (∃ body behind, m.TakesBody text body behind) ↔
      ∀ mark ∈ m.closing, mark.toList <:+: text := by
  have hnone : m.splitBody text = none ↔ _ := splitBody_eq_none_iff hmark
  constructor
  · rintro ⟨body, behind, hbody⟩ mark hmem
    by_contra hopen
    have hsplit := (splitBody_eq_some_iff hmark).2 hbody
    rw [hnone.2 ⟨mark, hmem, hopen⟩] at hsplit
    cases hsplit
  · intro hall
    cases hsplit : m.splitBody text with
    | none =>
      obtain ⟨mark, hmem, hopen⟩ := hnone.1 hsplit
      exact absurd (hall mark hmem) hopen
    | some parts => exact ⟨parts.1, parts.2, (splitBody_eq_some_iff hmark).1 hsplit⟩

end Marker

namespace Rules
variable {r : Rules} {key : MarkerKey} {meaning : Marker} {c : Char}

theorem closing_of_validate (hv : r.validate = .ok ()) (hmeaning : r.meaningAt? key = some meaning) :
    ∀ mark ∈ meaning.closing, mark.toList ≠ [] := by
  cases key with
  | line family =>
    obtain ⟨_, -, rfl⟩ := Option.map_eq_some_iff.1 hmeaning
    exact nofun
  | blockBegin family =>
    obtain ⟨b, hb, rfl⟩ := Option.map_eq_some_iff.1 hmeaning
    obtain ⟨-, hblock⟩ := familyViolation?_eq_none_iff.1 (familyViolation?_of_validate hv family)
    intro mark hmark
    obtain rfl : b.closing = mark := Option.some.inj hmark
    exact (hblock b hb).2

end Rules

/-! ## Runs of operator characters -/

/-- The text `run ++ rest` starts with the operator characters of `run` and no more of them. -/
structure Rules.OperatorRun (r : Rules) (run rest : List Char) : Prop where
  nonempty : run ≠ []
  chars : ∀ d ∈ run, r.operators.chars.contains d = true
  stops : ∀ d ∈ rest.head?, r.operators.chars.contains d = false

namespace Rules.OperatorRun
variable {r : Rules} {c : Char} {run rest body behind : List Char} {meaning : Marker}

theorem lexeme_eq (h : r.OperatorRun (c :: run) rest) (hv : r.validate = .ok ()) :
    r.lexeme CharClass.precedence c (run ++ rest) =
      if r.operators.maxLength < (c :: run).length then
        .error ⟨.operatorTooLong r.operators.maxLength, (c :: run).take r.operators.maxLength,
          (c :: run)[r.operators.maxLength]?, none⟩
      else
        (r.marker? (String.ofList (c :: run))).elim
          (.ok ⟨c :: run, rest, some
            ⟨r.kinds.operator, (r.tokenName? (String.ofList (c :: run))).getD "", 10, ""⟩⟩)
          (commentLexeme · (c :: run) rest) := by
  have hc : r.belongs c .operator = true := h.chars c List.mem_cons_self
  have hrun : ∀ d ∈ run, r.operators.chars.contains d = true :=
    fun d hd => h.chars d (List.mem_cons_of_mem c hd)
  exact (lexeme_of_belongs hv hc _).trans (operatorLexeme_run hrun h.stops c)

/-- The first character too many is what the error is about. -/
theorem tokensBehind_of_long (h : r.OperatorRun run rest) (hv : r.validate = .ok ())
    (before : List Char) {front back : List Char} {d : Char} (hsplit : run = front ++ d :: back)
    (hlength : front.length = r.operators.maxLength) :
    r.tokensBehind before (run ++ rest) =
      .error ⟨.operatorTooLong r.operators.maxLength, some d,
        .between (before ++ front) (d :: (back ++ rest)), none⟩ := by
  obtain ⟨c, run, rfl⟩ := List.exists_cons_of_ne_nil h.nonempty
  have hlong : r.operators.maxLength < (c :: run).length := by
    rw [hsplit, ← hlength, List.length_append, List.length_cons]
    omega
  have hlexeme := h.lexeme_eq hv
  rw [if_pos hlong] at hlexeme
  exact tokensBehind_of_overlong hlexeme rfl hsplit hlength

theorem tokensBehind_of_operator (h : r.OperatorRun run rest) (hv : r.validate = .ok ())
    (before : List Char) (hlength : run.length ≤ r.operators.maxLength)
    (hmarker : r.marker? (String.ofList run) = none) :
    r.tokensBehind before (run ++ rest) =
      (r.tokensBehind (before ++ run) rest).map
        (Label.over ⟨r.kinds.operator, (r.tokenName? (String.ofList run)).getD "", 10, ""⟩
          before run rest :: ·) := by
  obtain ⟨c, run, rfl⟩ := List.exists_cons_of_ne_nil h.nonempty
  have hlexeme := h.lexeme_eq hv
  rw [if_neg (Nat.not_lt.2 hlength), hmarker, Option.elim_none] at hlexeme
  rw [List.cons_append, tokensBehind_of_ok hlexeme]
  rfl

theorem tokensBehind_of_comment (h : r.OperatorRun run rest) (hv : r.validate = .ok ())
    (before : List Char) (hlength : run.length ≤ r.operators.maxLength)
    (hmarker : r.marker? (String.ofList run) = some meaning)
    (hbody : meaning.splitBody rest = some (body, behind)) :
    r.tokensBehind before (run ++ rest) =
      (r.tokensBehind (before ++ (run ++ body)) behind).map
        ((if meaning.keep then
          [Label.over ⟨meaning.kind, meaning.subkind, 10, ""⟩ before (run ++ body) behind]
        else []) ++ ·) := by
  obtain ⟨c, run, rfl⟩ := List.exists_cons_of_ne_nil h.nonempty
  have hlexeme := h.lexeme_eq hv
  rw [if_neg (Nat.not_lt.2 hlength), hmarker, Option.elim_some, commentLexeme, hbody] at hlexeme
  rw [List.cons_append, tokensBehind_of_ok hlexeme]
  cases meaning.keep <;> rfl

theorem tokensBehind_of_open_comment (h : r.OperatorRun run rest) (hv : r.validate = .ok ())
    (before : List Char) (hlength : run.length ≤ r.operators.maxLength)
    (hmarker : r.marker? (String.ofList run) = some meaning) (hbody : meaning.splitBody rest = none) :
    r.tokensBehind before (run ++ rest) =
      .error ⟨.unterminatedComment, none, .between before (run ++ rest),
        meaning.closing.map fun mark => s!"expected {quoteString mark}"⟩ := by
  obtain ⟨c, run, rfl⟩ := List.exists_cons_of_ne_nil h.nonempty
  have hlexeme := h.lexeme_eq hv
  rw [if_neg (Nat.not_lt.2 hlength), hmarker, Option.elim_some, commentLexeme, hbody] at hlexeme
  rw [List.cons_append, tokensBehind_of_error hlexeme rfl, List.append_nil]

end Rules.OperatorRun

/-- Where a run meets operator characters, it takes all of them as one operator or as the marker of
a comment, and with the marker the comment. Too many operator characters, or a block comment that is
not closed, end the run. -/
theorem tokensBehind_operatorRun {r : Rules} (hv : r.validate = .ok ()) {run rest : List Char}
    (hrun : r.OperatorRun run rest) (before : List Char) :
    (∀ front d back, run = front ++ d :: back → front.length = r.operators.maxLength →
      r.tokensBehind before (run ++ rest) =
        .error ⟨.operatorTooLong r.operators.maxLength, some d,
          .between (before ++ front) (d :: (back ++ rest)), none⟩) ∧
    (run.length ≤ r.operators.maxLength → r.markerKey? (String.ofList run) = none →
      r.tokensBehind before (run ++ rest) =
        (r.tokensBehind (before ++ run) rest).map
          (Label.over ⟨r.kinds.operator, (r.tokenName? (String.ofList run)).getD "", 10, ""⟩
            before run rest :: ·)) ∧
    ∀ key, run.length ≤ r.operators.maxLength → r.markerKey? (String.ofList run) = some key →
      ∃ meaning, r.meaningAt? key = some meaning ∧
        (∀ body behind, meaning.TakesBody rest body behind →
          r.tokensBehind before (run ++ rest) =
            (r.tokensBehind (before ++ (run ++ body)) behind).map
              ((if meaning.keep then
                [Label.over ⟨meaning.kind, meaning.subkind, 10, ""⟩ before (run ++ body) behind]
              else []) ++ ·)) ∧
        ((∃ body behind, meaning.TakesBody rest body behind) ↔
          ∀ mark ∈ meaning.closing, mark.toList <:+: rest) ∧
        ∀ mark ∈ meaning.closing, ¬ mark.toList <:+: rest →
          r.tokensBehind before (run ++ rest) =
            .error ⟨.unterminatedComment, none, .between before (run ++ rest),
              some s!"expected {quoteString mark}"⟩ := by
  refine ⟨?_, ?_, ?_⟩
  · intro front d back hsplit hlength
    exact hrun.tokensBehind_of_long hv before hsplit hlength
  · intro hlength hkey
    refine hrun.tokensBehind_of_operator hv before hlength ?_
    rw [Rules.marker?_eq_meaningAt?, hkey, Option.bind_none]
  · intro key hlength hkey
    obtain ⟨meaning, hmeaning⟩ :=
      Rules.exists_meaningAt? (Rules.markerKey?_eq_some_iff.1 hkey).1
    have hmarker : r.marker? (String.ofList run) = some meaning := by
      rw [Rules.marker?_eq_meaningAt?, hkey, Option.bind_some, hmeaning]
    have hclosing := Rules.closing_of_validate hv hmeaning
    refine ⟨meaning, hmeaning, ?_, ?_, ?_⟩
    · intro body behind hbody
      exact hrun.tokensBehind_of_comment hv before hlength hmarker
        ((Marker.splitBody_eq_some_iff hclosing).2 hbody)
    · exact Marker.exists_takesBody_iff hclosing
    · intro mark hmark hnone
      have hbody := (Marker.splitBody_eq_none_iff hclosing).2 ⟨mark, hmark, hnone⟩
      rw [hrun.tokensBehind_of_open_comment hv before hlength hmarker hbody,
        Option.mem_def.1 hmark, Option.map_some]

/-- Documentation up to the end of the text, a block that is not closed, and a run that is too
long. -/
theorem tokensBehind_operatorRun_sample :
    Rules.sample.validate = .ok () ∧ Rules.sample.OperatorRun ['/', '/', '/'] ['é'] ∧
      (∃ e, Rules.sample.tokensBehind ['('] ['/', '/', '/', 'é'] =
        .ok [Label.over ⟨"DOCUMENTATION", "LINE", 10, ""⟩ ['('] ['/', '/', '/', 'é'] [], e]) ∧
      Rules.sample.OperatorRun ['/', '*'] [' ', '/'] ∧
      Rules.sample.tokensBehind ['('] ['/', '*', ' ', '/'] =
        .error ⟨.unterminatedComment, none, .between ['('] ['/', '*', ' ', '/'],
          some "expected \"*/\""⟩ ∧
      Rules.sample.OperatorRun ['+', '-', '*', '/'] ['1'] ∧
      Rules.sample.tokensBehind ['('] ['+', '-', '*', '/', '1'] =
        .error ⟨.operatorTooLong 3, some '/', .between ['(', '+', '-', '*'] ['/', '1'], none⟩ := by
  have hv : Rules.sample.validate = .ok () := Rules.validate_eq_ok_iff.2 (by decide +kernel)
  have hline : Rules.sample.OperatorRun ['/', '/', '/'] ['é'] :=
    ⟨by decide, List.all_eq_true.1 (by decide), by rintro d ⟨⟩; decide⟩
  have hblock : Rules.sample.OperatorRun ['/', '*'] [' ', '/'] :=
    ⟨by decide, List.all_eq_true.1 (by decide), by rintro d ⟨⟩; decide⟩
  have hlong : Rules.sample.OperatorRun ['+', '-', '*', '/'] ['1'] :=
    ⟨by decide, List.all_eq_true.1 (by decide), by rintro d ⟨⟩; decide⟩
  refine ⟨hv, hline, ?_, hblock, ?_, hlong, ?_⟩
  · have hkey : Rules.sample.markerKey? (String.ofList ['/', '/', '/']) =
        some (.line .document) := by decide
    obtain ⟨-, -, hcomment⟩ := tokensBehind_operatorRun hv hline ['(']
    obtain ⟨meaning, hmeaning, htakes, -⟩ := hcomment _ (by decide) hkey
    obtain rfl := Option.some.inj hmeaning
    have hrun := htakes ['é'] [] ⟨rfl, by decide, nofun⟩
    exact ⟨_, hrun.trans (by rw [Rules.tokensBehind_nil]; rfl)⟩
  · have hkey : Rules.sample.markerKey? (String.ofList ['/', '*']) =
        some (.blockBegin .comment) := by decide
    obtain ⟨-, -, hcomment⟩ := tokensBehind_operatorRun hv hblock ['(']
    obtain ⟨meaning, hmeaning, -, -, hopen⟩ := hcomment _ (by decide) hkey
    obtain rfl := Option.some.inj hmeaning
    have herror := hopen "*/" rfl (by decide)
    have hquoted : quoteString "*/" = "\"*/\"" := by decide +kernel
    rw [hquoted] at herror
    exact herror
  · obtain ⟨htoo, -⟩ := tokensBehind_operatorRun hv hlong ['(']
    exact htoo ['+', '-', '*'] '/' [] rfl rfl

end RuleLexer
