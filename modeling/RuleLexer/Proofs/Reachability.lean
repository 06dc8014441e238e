import RuleLexer.Proofs.Driver
import RuleLexer.Proofs.Extension
import RuleLexer.Proofs.Markers

/-!
# Declared markers are reached

Valid rules declare only markers that the scanner finds: it reads each of them as one run of
operator characters, and the run is not too long. What the run then stands for is up to the first
key that declares it. The checks do not ask that markers differ, so a marker that two keys declare
is never read as the later of them means it.
-/

namespace RuleLexer
open Text

namespace Rules
variable {r : Rules} {key : MarkerKey} {m : String} {c : Char} {cs rest : List Char}

theorem marker_of_validate (hv : r.validate = .ok ()) (hm : r.markerAt? key = some m) :
    m.toList ≠ [] ∧ (∀ c ∈ m.toList, r.operators.chars.contains c = true) ∧
      m.toList.length ≤ r.operators.maxLength := by
  suffices h : r.markerViolation? key m = none from markerViolation?_eq_none_iff.1 h
  cases key with
  | line family =>
    obtain ⟨hline, -⟩ := familyViolation?_eq_none_iff.1 (familyViolation?_of_validate hv family)
    exact hline m hm
  | blockBegin family =>
    obtain ⟨-, hblock⟩ := familyViolation?_eq_none_iff.1 (familyViolation?_of_validate hv family)
    obtain ⟨b, hb, rfl⟩ := Option.map_eq_some_iff.1 hm
    exact (hblock b hb).1

/-- The scanner sees the whole run at once. -/
theorem operatorLexeme_run {run : List Char}
    (hrun : ∀ d ∈ run, r.operators.chars.contains d = true)
    (hrest : ∀ d ∈ rest.head?, r.operators.chars.contains d = false) (c : Char) :
    r.operatorLexeme c (run ++ rest) =
      if r.operators.maxLength < (c :: run).length then
        .error ⟨.operatorTooLong r.operators.maxLength, (c :: run).take r.operators.maxLength,
          (c :: run)[r.operators.maxLength]?, none⟩
      else
        (r.marker? (String.ofList (c :: run))).elim
          (.ok ⟨c :: run, rest, some
            ⟨r.kinds.operator, (r.tokenName? (String.ofList (c :: run))).getD "", 10, ""⟩⟩)
          (commentLexeme · (c :: run) rest) := by
  obtain ⟨htake, hdrop⟩ := takeWhile_run hrun hrest
  rw [operatorLexeme, htake, hdrop]
  cases r.marker? (String.ofList (c :: run)) <;> rfl

/-- A marker that is no longer than an operator may be is read as the comment it opens. -/
theorem operatorLexeme_of_marker {run : List Char} {meaning : Marker}
    (hmeaning : r.marker? (String.ofList (c :: run)) = some meaning)
    (hrun : ∀ d ∈ run, r.operators.chars.contains d = true)
    (hlength : (c :: run).length ≤ r.operators.maxLength)
    (hrest : ∀ d ∈ rest.head?, r.operators.chars.contains d = false) :
    r.operatorLexeme c (run ++ rest) = commentLexeme meaning (c :: run) rest := by
  rw [operatorLexeme_run hrun hrest, if_neg (Nat.not_lt.2 hlength), hmeaning, Option.elim_some]

theorem kind_of_commentLexeme_error {meaning : Marker} {run : List Char} {f : Failure}
    (h : commentLexeme meaning run cs = .error f) : f.kind = .unterminatedComment := by
  rw [commentLexeme] at h
  split at h
  · cases h
  · cases h
    rfl

/-- A text that starts with a declared marker starts with the comment that the marker opens. -/
theorem lexeme_of_marker (hv : r.validate = .ok ()) (hm : r.markerAt? key = some m)
    {meaning : Marker} (hmeaning : r.marker? m = some meaning)
    (hrest : ∀ d ∈ rest.head?, r.operators.chars.contains d = false)
    (htext : m.toList ++ rest = c :: cs) :
    r.lexeme CharClass.precedence c cs = commentLexeme meaning m.toList rest := by
  obtain ⟨hne, hchars, hlength⟩ := marker_of_validate hv hm
  obtain ⟨d, run, hd⟩ := List.exists_cons_of_ne_nil hne
  rw [hd, List.cons_append] at htext
  obtain ⟨rfl, rfl⟩ := List.cons.inj htext
  rw [hd] at hchars hlength
  have hd' : String.ofList (d :: run) = m := by rw [← hd, String.ofList_toList]
  have hoperator : r.belongs d .operator = true := hchars d List.mem_cons_self
  rw [lexeme_of_belongs hv hoperator, lexemeOf, hd]
  apply operatorLexeme_of_marker
  · rw [hd', hmeaning]
  · exact fun e he => hchars e (List.mem_cons_of_mem d he)
  · exact hlength
  · exact hrest

/-- Behind a comment that starts the text, no error of another kind lies within the marker. -/
theorem le_index_of_error {meaning : Marker} {run text : List Char} {e : LexError}
    (hfirst : ∀ c cs, text = c :: cs →
      r.lexeme CharClass.precedence c cs = commentLexeme meaning run rest)
    (htext : text ≠ []) (he : r.tokensIn CharClass.precedence text = .error e)
    (hkind : e.kind ≠ .unterminatedComment) : byteLength run ≤ e.position.index := by
  obtain ⟨c, cs, rfl⟩ := List.exists_cons_of_ne_nil htext
  obtain ⟨f, hf, rfl⟩ := tokensIn_eq_error_iff.1 he
  have hlexeme := hfirst c cs rfl
  cases hcomment : commentLexeme meaning run rest with
  | error g =>
    rw [scan_of_error (hlexeme.trans hcomment)] at hf
    obtain rfl : g = f := Option.some.inj hf
    exact absurd (kind_of_commentLexeme_error hcomment) hkind
  | ok l =>
    obtain ⟨d, after, hsplit, hd⟩ := scan_failure hf
    obtain ⟨behind, hbehind, -⟩ := pointsInto_of_lexeme hd
    rw [hbehind] at hsplit
    obtain ⟨body, hl, -⟩ := commentLexeme_append hcomment
    rw [Failure.toError_position hsplit, Position.between_index,
      scan_of_ok (hlexeme.trans hcomment), takenBy_cons, hl]
    simp only [byteLength_append]
    omega

end Rules

/-- Under valid rules a text that starts with a declared marker, and does not go on with an operator
character, starts with a comment. Its meaning is that of the first key that declares the marker. -/
theorem tokenize_marker {r : Rules} {key : MarkerKey} {m text : String} {rest : List Char}
    (hv : r.validate = .ok ()) (hm : r.markerAt? key = some m)
    (htext : text.toList = m.toList ++ rest)
    (hrest : ∀ d ∈ rest.head?, r.operators.chars.contains d = false) :
    (∃ first meaning, r.markerKey? m = some first ∧ r.meaningAt? first = some meaning ∧
      r.marker? m = some meaning ∧
      (first = key ↔ ∀ other ∈ key.earlier, r.markerAt? other ≠ some m) ∧
      ∀ c cs, text.toList = c :: cs →
        r.lexeme CharClass.precedence c cs = Rules.commentLexeme meaning m.toList rest) ∧
    ∀ name e max, r.tokenize (.loaded name text) = .error e → e.kind = .operatorTooLong max →
      byteLength m.toList ≤ e.position.index := by
  obtain ⟨first, hfirst⟩ : ∃ first, r.markerKey? m = some first := by
    apply Option.isSome_iff_exists.1
    exact List.find?_isSome.2 ⟨key, key.mem_precedence, beq_iff_eq.2 hm⟩
  have hat := (Rules.markerKey?_eq_some_iff.1 hfirst).1
  obtain ⟨meaning, hmeaning⟩ := Rules.exists_meaningAt? hat
  have hmarker : r.marker? m = some meaning := by
    rw [Rules.marker?_eq_meaningAt?, hfirst, Option.bind_some, hmeaning]
  have hlexeme : ∀ c cs, text.toList = c :: cs →
      r.lexeme CharClass.precedence c cs = Rules.commentLexeme meaning m.toList rest :=
    fun c cs hc => Rules.lexeme_of_marker hv hm hmarker hrest (htext.symm.trans hc)
  have hkey : first = key ↔ ∀ other ∈ key.earlier, r.markerAt? other ≠ some m := by
    constructor
    · rintro rfl
      exact (Rules.markerKey?_eq_some_iff.1 hfirst).2
    · intro hearlier
      have hself := Rules.markerKey?_eq_some_iff.2 ⟨hm, hearlier⟩
      exact Option.some.inj (hfirst.symm.trans hself)
  refine ⟨⟨first, meaning, hfirst, hmeaning, hmarker, hkey, hlexeme⟩, ?_⟩
  intro name e max he hkind
  have hne : text.toList ≠ [] := by
    rw [htext]
    exact List.append_ne_nil_of_left_ne_nil (Rules.marker_of_validate hv hm).1 rest
  exact Rules.le_index_of_error hlexeme hne he (by simp [hkind])

/-- The block comments of the sample, which no other key of it declares. -/
theorem tokenize_marker_sample :
    Rules.sample.validate = .ok () ∧
      Rules.sample.markerAt? (.blockBegin .comment) = some "/*" ∧
      (∀ other ∈ (MarkerKey.blockBegin .comment).earlier,
        Rules.sample.markerAt? other ≠ some "/*") ∧
      ∃ first meaning, Rules.sample.meaningAt? first = some meaning ∧
        Rules.sample.marker? "/*" = some meaning ∧ first = .blockBegin .comment := by
  have hv : Rules.sample.validate = .ok () := Rules.validate_eq_ok_iff.2 (by decide +kernel)
  have hm : Rules.sample.markerAt? (.blockBegin .comment) = some "/*" := by decide
  have hearlier : ∀ other ∈ (MarkerKey.blockBegin .comment).earlier,
      Rules.sample.markerAt? other ≠ some "/*" := by decide
  have htext : "/* x */ +".toList = "/*".toList ++ ' ' :: "x */ +".toList := by decide
  have hspace : Rules.sample.operators.chars.contains ' ' = false := by decide
  have hrest : ∀ d ∈ (' ' :: "x */ +".toList).head?,
      Rules.sample.operators.chars.contains d = false := by
    intro d hd
    rwa [← Option.some.inj hd]
  obtain ⟨⟨first, meaning, -, hmeaning, hmarker, hkey, -⟩, -⟩ :=
    tokenize_marker hv hm htext hrest
  exact ⟨hv, hm, hearlier, first, meaning, hmeaning, hmarker, hkey.2 hearlier⟩

/-! ## A marker that is out of reach -/

/-- The sample with one marker for documentation and for plain comments. -/
def Rules.sharedMarker : Rules :=
  { Rules.sample with comments := { Rules.sample.comments with line := some "///" } }

/-- The checks let a marker pass that always means something else than what it is declared for. -/
theorem marker?_sharedMarker :
    Rules.sharedMarker.validate = .ok () ∧
      Rules.sharedMarker.markerAt? (.line .comment) = some "///" ∧
      Rules.sharedMarker.meaningAt? (.line .comment) = some ⟨"COMMENT", "LINE", false, none⟩ ∧
      Rules.sharedMarker.marker? "///" = some ⟨"DOCUMENTATION", "LINE", true, none⟩ := by
  refine ⟨Rules.validate_eq_ok_iff.2 ?_, ?_, ?_, ?_⟩ <;> decide +kernel

end RuleLexer
