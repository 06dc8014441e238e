import Mathlib.Data.Char
import RuleLexer.Proofs.Consistency
import RuleLexer.Proofs.Sample

/-!
# What rules have to satisfy

The requirements on rules are listed in order, each with the key at which it is missed, and stated
without the checks. A check is for some of them: it finds nothing when they hold, and else something
at the key of the first that does not. Checks that are tried one after the other are for the joined
lists of what they are for, and so validation as a whole is for the whole list.
-/

namespace RuleLexer
open Text

structure Requirement where
  key : String
  holds : Prop

/-- The first of the requirements that does not hold has the given key. -/
def FirstMissed (qs : List Requirement) (key : String) : Prop :=
  ∃ front q back, qs = front ++ q :: back ∧ (∀ p ∈ front, p.holds) ∧ ¬ q.holds ∧ q.key = key

/-! ## Checks for requirements -/

/-- What a check for the requirements `qs` finds. -/
structure Checks (found : Option Violation) (qs : List Requirement) : Prop where
  none_iff : found = none ↔ ∀ q ∈ qs, q.holds
  first : ∀ v ∈ found, FirstMissed qs v.key

section Checks
variable {found found' : Option Violation} {ps qs : List Requirement} {v : Violation}

theorem FirstMissed.append {key : String} (h : FirstMissed ps key) (qs : List Requirement) :
    FirstMissed (ps ++ qs) key := by
  obtain ⟨front, q, back, rfl, hfront, hq, hkey⟩ := h
  exact ⟨front, q, back ++ qs, by simp, hfront, hq, hkey⟩

theorem FirstMissed.behind {key : String} (h : FirstMissed qs key) (hps : ∀ p ∈ ps, p.holds) :
    FirstMissed (ps ++ qs) key := by
  obtain ⟨front, q, back, rfl, hfront, hq, hkey⟩ := h
  exact ⟨ps ++ front, q, back, by simp, List.forall_mem_append.2 ⟨hps, hfront⟩, hq, hkey⟩

theorem checks_nil : Checks none [] :=
  ⟨⟨fun _ => List.forall_mem_nil _, fun _ => rfl⟩, fun _ hv => (Option.not_mem_none _ hv).elim⟩

theorem checks_singleton {key : String} {p : Prop} (hnone : found = none ↔ p)
    (hkey : ∀ v ∈ found, v.key = key) : Checks found [⟨key, p⟩] where
  none_iff := by rwa [List.forall_mem_singleton]
  first v hv := by
    refine ⟨[], ⟨key, p⟩, [], rfl, List.forall_mem_nil _, fun hp => ?_, (hkey v hv).symm⟩
    rw [hnone.2 hp] at hv
    cases hv

theorem checks_ite {c p : Prop} [Decidable c] (hc : ¬ c ↔ p) (v : Violation) :
    Checks (if c then some v else none) [⟨v.key, p⟩] := by
  refine checks_singleton ?_ fun w hw => ?_
  · rw [Rules.ite_some_eq_none_iff, ← hc]
    simp
  · obtain ⟨-, ⟨⟩⟩ := Option.ite_none_right_eq_some.1 hw
    rfl

/-- The second check is tried where the first finds nothing. -/
theorem Checks.orElse (h : Checks found ps) (h' : Checks found' qs) :
    Checks (found <|> found') (ps ++ qs) := by
  cases found with
  | none =>
    have hps := h.none_iff.1 rfl
    refine ⟨?_, fun v hv => ?_⟩
    · have hqs : found' = none ↔ ∀ q ∈ qs, q.holds := h'.none_iff
      rw [List.forall_mem_append]
      exact hqs.trans (and_iff_right hps).symm
    · exact (h'.first v hv).behind hps
  | some w =>
    have hps : ¬ ∀ p ∈ ps, p.holds := fun hall => Option.some_ne_none w (h.none_iff.2 hall)
    refine ⟨?_, fun v hv => ?_⟩
    · rw [List.forall_mem_append]
      exact iff_of_false (Option.some_ne_none w) fun hall => hps hall.1
    · exact (h.first v hv).append qs

theorem Checks.cons {q : Requirement} (h : Checks found [q]) (h' : Checks found' qs) :
    Checks (found <|> found') (q :: qs) :=
  h.orElse h'

end Checks

namespace Rules
variable {r : Rules}

/-! ## Classes of characters -/

/-- The set has no letter, no number and no character of the other sets. -/
def SetApart (chars : CharSet) (others : List CharSet) : Prop :=
  (∀ c, chars.contains c = true → isAlphanumeric c = false) ∧
    ∀ other ∈ others, ∀ c, chars.contains c = true → other.contains c = false

/-- Without operator characters all named tokens are delimiters. -/
def NamesDelimiters (r : Rules) : Prop :=
  (∀ c, r.operators.chars.contains c = false) → ∀ text, r.tokens.contains text = true →
    ∃ c, text.toList = [c] ∧ r.delimiters.chars.contains c = true

def classRequirements (r : Rules) : List Requirement :=
  [⟨"whitespace.chars", SetApart r.whitespace.chars [r.operators.chars, r.delimiters.chars]⟩,
    ⟨"operator.chars", SetApart r.operators.chars [r.delimiters.chars]⟩,
    ⟨"delimiter.chars", SetApart r.delimiters.chars []⟩,
    ⟨"operator.max_length", 1 ≤ r.operators.maxLength⟩,
    ⟨"operator.chars", r.NamesDelimiters⟩]

theorem checks_charClass (r : Rules) (key : CharClassKey) (others : List CharClassKey) :
    Checks (r.charClassViolation? key others)
      [⟨key.name, SetApart (r.charClass key) (others.map r.charClass)⟩] := by
  refine checks_singleton ?_ fun v hv => ?_
  · rw [charClassViolation?_eq_none_iff, SetApart, List.forall_mem_map]
  · rw [charClassViolation?, Option.orElse_eq_orElse, Option.orElse_eq_or, Option.mem_def,
      Option.or_eq_some_iff] at hv
    rcases hv with hv | ⟨-, hv⟩
    · obtain ⟨c, -, rfl⟩ := Option.map_eq_some_iff.1 hv
      rfl
    · obtain ⟨other, -, hother⟩ := List.exists_of_findSome?_eq_some hv
      obtain ⟨c, -, rfl⟩ := Option.map_eq_some_iff.1 hother
      rfl

theorem isDelimiterText_iff {text : String} :
    r.isDelimiterText text = true ↔
      ∃ c, text.toList = [c] ∧ r.delimiters.chars.contains c = true := by
  unfold isDelimiterText
  split
  · next c hc => simp [hc]
  · next hnone => simpa using fun c hc => absurd hc (hnone c)

theorem checks_operator (r : Rules) :
    Checks r.operatorViolation?
      [⟨"operator.max_length", 1 ≤ r.operators.maxLength⟩,
        ⟨"operator.chars", r.NamesDelimiters⟩] := by
  have hsplit : r.operatorViolation? =
      ((if r.operators.maxLength = 0 then some .operatorLength else none) <|>
        (if r.operators.chars.isEmpty then
          (r.tokens.keys.find? (!r.isDelimiterText ·)).map .spelledWithOperators
        else none)) := by
    unfold operatorViolation?
    split <;> rfl
  have hempty : r.operators.chars.isEmpty = true ↔ ∀ c, r.operators.chars.contains c = false := by
    simp [OrderedMap.isEmpty, OrderedMap.contains_eq_false_iff, OrderedMap.keys,
      List.eq_nil_iff_forall_not_mem]
  rw [hsplit]
  refine Checks.cons (checks_ite Nat.one_le_iff_ne_zero.symm .operatorLength)
    (checks_singleton ?_ fun v hv => ?_)
  · unfold NamesDelimiters
    rw [← hempty]
    split
    · next h =>
      simp [h, isDelimiterText_iff, OrderedMap.contains_iff_mem_keys]
    · next h => simp [h]
  · obtain ⟨-, hv⟩ := Option.ite_none_right_eq_some.1 hv
    obtain ⟨text, -, rfl⟩ := Option.map_eq_some_iff.1 hv
    rfl

theorem checks_classes (r : Rules) : Checks r.classesViolation? r.classRequirements :=
  (r.checks_charClass .whitespace [.operator, .delimiter]).orElse
    ((r.checks_charClass .operator [.delimiter]).orElse
      ((r.checks_charClass .delimiter []).orElse r.checks_operator))

/-! ## Strings -/

def stringRequirements (r : Rules) : List Requirement :=
  [⟨"string.quotes", ∀ q, r.strings.quotes.contains q = true →
      isAlphanumeric q = false ∧ r.whitespace.chars.contains q = false ∧
        r.operators.chars.contains q = false ∧ r.delimiters.chars.contains q = false⟩,
    ⟨"string.escape", ∀ e ∈ r.strings.escape, r.strings.quotes.contains e = false⟩]

theorem checks_strings (r : Rules) : Checks r.stringsViolation? r.stringRequirements := by
  refine Checks.cons (checks_singleton ?_ fun v hv => ?_) (checks_singleton ?_ fun v hv => ?_)
  · simp [isBoundary, OrderedMap.contains_iff_mem_keys, OrderedMap.contains_eq_false_iff,
      and_comm, and_left_comm]
  · obtain ⟨q, -, rfl⟩ := Option.map_eq_some_iff.1 hv
    rfl
  · simp [Option.bind_eq_none_iff]
  · obtain ⟨e, -, he⟩ := Option.bind_eq_some_iff.1 hv
    obtain ⟨-, ⟨⟩⟩ := Option.ite_none_right_eq_some.1 he
    rfl

/-! ## Numbers -/

/-- A base that can be told from the bases before it, with digits that can be told apart. -/
structure BaseFits (r : Rules) (letter : Char) (b : NumberBase) : Prop where
  alphabetic : isAlphabetic letter = true
  unlike : ∀ p, r.numbers.bases.contains p = true → p < letter → lower p ≠ lower letter
  digits : 2 ≤ (b.digits.toList.flatMap lower).toFinset.card ∧
    (b.digits.toList.flatMap lower).toFinset.card = b.digits.toList.length
  marks : '.' ∉ b.digits.toList ∧
    ∀ c ∈ r.numbers.separator, ∀ d ∈ b.digits.toList, lower d ≠ lower c

def baseRequirement (r : Rules) (e : Char × NumberBase) : Requirement :=
  ⟨s!"number.bases.{e.1}", r.BaseFits e.1 e.2⟩

def numberRequirements (r : Rules) : List Requirement :=
  r.numbers.bases.entries.map r.baseRequirement ++
    [⟨"number.separator", ∀ c ∈ r.numbers.separator, c.isDigit = false ∧ c ≠ '.'⟩]

theorem baseFits_iff {earlier : List Char} {letter : Char} {b : NumberBase}
    (hearlier : ∀ p, p ∈ earlier ↔ r.numbers.bases.contains p = true ∧ p < letter) :
    r.baseViolation? earlier letter b = none ↔ r.BaseFits letter b := by
  have hsize : (lowerSymbols b).size = (b.digits.toList.flatMap lower).toFinset.card :=
    OrderedMap.size_ofList _
  have haccepts : r.numbers.separator.any b.accepts = false ↔
      ∀ c ∈ r.numbers.separator, ∀ d ∈ b.digits.toList, lower d ≠ lower c := by
    cases r.numbers.separator with
    | none => simp
    | some c => simp [NumberBase.accepts, sameLetter_eq_false_iff]
  simp only [baseViolation?_eq_none_iff, hsize, haccepts, sameLetter_eq_false_iff]
  constructor
  · rintro ⟨hletter, hfirst, hdigits, hmarks⟩
    refine ⟨hletter, fun p hp hlt => hfirst p ((hearlier p).2 ⟨hp, hlt⟩), ?_, hmarks⟩
    omega
  · rintro ⟨hletter, hfirst, hdigits, hmarks⟩
    refine ⟨hletter, fun p hp => ?_, by omega, hmarks⟩
    obtain ⟨hcontains, hlt⟩ := (hearlier p).1 hp
    exact hfirst p hcontains hlt

theorem eq_or_of_ite_some {α : Type} {p : Prop} [Decidable p] {a b : α} {o : Option α}
    (h : (if p then some a else o) = some b) : a = b ∨ o = some b := by
  split at h
  · exact .inl (Option.some.inj h)
  · exact .inr h

theorem key_of_baseViolation? {earlier : List Char} {letter : Char} {b : NumberBase} {v : Violation}
    (h : r.baseViolation? earlier letter b = some v) : v.key = s!"number.bases.{letter}" := by
  unfold baseViolation? at h
  dsimp only at h
  rcases eq_or_of_ite_some h with rfl | h
  · rfl
  · rcases eq_or_of_ite_some h with rfl | h
    · rfl
    · rcases eq_or_of_ite_some h with rfl | h
      · rfl
      · obtain ⟨-, ⟨⟩⟩ := Option.ite_none_right_eq_some.1 h
        rfl

/-- The bases from some place on; `earlier` has the letters before it. -/
theorem checks_bases {earlier : List Char} (done : List (Char × NumberBase))
    {bases : List (Char × NumberBase)} (hentries : r.numbers.bases.entries = done ++ bases)
    (hearlier : ∀ p, p ∈ earlier ↔ p ∈ done.map (·.1)) :
    Checks (r.basesViolation? earlier bases) (bases.map r.baseRequirement) := by
  induction bases generalizing earlier done with
  | nil => exact checks_nil
  | cons e rest ih =>
    have hbefore : ∀ p, p ∈ earlier ↔ r.numbers.bases.contains p = true ∧ p < e.1 := by
      intro p
      rw [hearlier, OrderedMap.mem_keys_before_iff hentries, compare_lt_iff_lt]
    have hnext : ∀ p, p ∈ e.1 :: earlier ↔ p ∈ (done ++ [e]).map (·.1) := by
      intro p
      rw [List.mem_cons, hearlier, List.map_append, List.mem_append, List.map_singleton,
        List.mem_singleton, or_comm]
    refine Checks.cons (checks_singleton (baseFits_iff hbefore) fun v hv => ?_)
      (ih (done ++ [e]) ?_ hnext)
    · exact key_of_baseViolation? hv
    · rw [hentries, List.append_assoc, List.singleton_append]

theorem checks_numbers (r : Rules) : Checks r.numbersViolation? r.numberRequirements := by
  refine (checks_bases [] rfl fun p => Iff.rfl).orElse (checks_singleton ?_ fun v hv => ?_)
  · cases r.numbers.separator with
    | none => simp
    | some c => simp
  · obtain ⟨c, -, hc⟩ := Option.bind_eq_some_iff.1 hv
    obtain ⟨-, ⟨⟩⟩ := Option.ite_none_right_eq_some.1 hc
    rfl

/-! ## Comments -/

/-- A marker that the scanner can read as one run of operator characters. -/
def MarkerFits (r : Rules) (m : String) : Prop :=
  m.toList ≠ [] ∧ (∀ c ∈ m.toList, r.operators.chars.contains c = true) ∧
    m.toList.length ≤ r.operators.maxLength

/-- What the markers of a family of comments satisfy, at the keys of its line and of the two ends of
its block. -/
def markerRequirements (r : Rules) (c : CommentRules) (line opening closing : String) :
    List Requirement :=
  [⟨line, ∀ m ∈ c.line, r.MarkerFits m⟩,
    ⟨opening, ∀ b ∈ c.block, r.MarkerFits b.opening⟩,
    ⟨closing, ∀ b ∈ c.block, b.closing ≠ ""⟩]

def commentRequirements (r : Rules) : List Requirement :=
  r.markerRequirements r.comments "comment.line" "comment.block.begin" "comment.block.end"

def documentRequirements (r : Rules) : List Requirement :=
  r.markerRequirements r.documentation "document.line" "document.block.begin" "document.block.end"

theorem key_of_markerViolation? {key : MarkerKey} {m : String} {v : Violation}
    (h : r.markerViolation? key m = some v) : v.key = key.name := by
  unfold markerViolation? at h
  rcases eq_or_of_ite_some h with rfl | h
  · rfl
  · split at h
    · rw [← Option.some.inj h]
      rfl
    · obtain ⟨-, ⟨⟩⟩ := Option.ite_none_right_eq_some.1 h
      rfl

/-- The check of a family, where its violations have the given keys. -/
theorem checks_family (r : Rules) (family : CommentFamily) {line opening closing : String}
    (hline : (MarkerKey.line family).name = line)
    (hopening : (MarkerKey.blockBegin family).name = opening)
    (hclosing : (Violation.blockEndEmpty family).key = closing) :
    Checks (r.familyViolation? family)
      (r.markerRequirements (r.commentRules family) line opening closing) := by
  subst hline hopening hclosing
  have hmarker : ∀ {key m}, r.markerViolation? key m = none ↔ r.MarkerFits m :=
    markerViolation?_eq_none_iff
  have hsplit : r.familyViolation? family =
      ((r.commentRules family).line.bind (r.markerViolation? (.line family)) <|>
        (r.commentRules family).block.bind (fun b =>
          r.markerViolation? (.blockBegin family) b.opening) <|>
        (r.commentRules family).block.bind fun b =>
          if b.closing.toList.isEmpty then some (.blockEndEmpty family) else none) := by
    unfold familyViolation?
    dsimp only
    cases (r.commentRules family).block <;> rfl
  rw [hsplit]
  refine Checks.cons (checks_singleton ?_ fun v hv => ?_)
    (Checks.cons (checks_singleton ?_ fun v hv => ?_) (checks_singleton ?_ fun v hv => ?_))
  · cases (r.commentRules family).line with
    | none => simp
    | some m => simp [hmarker]
  · obtain ⟨m, -, hm⟩ := Option.bind_eq_some_iff.1 hv
    exact key_of_markerViolation? hm
  · cases (r.commentRules family).block with
    | none => simp
    | some b => simp [hmarker]
  · obtain ⟨b, -, hb⟩ := Option.bind_eq_some_iff.1 hv
    exact key_of_markerViolation? hb
  · cases (r.commentRules family).block with
    | none => simp
    | some b => simp
  · obtain ⟨b, -, hb⟩ := Option.bind_eq_some_iff.1 hv
    obtain ⟨-, ⟨⟩⟩ := Option.ite_none_right_eq_some.1 hb
    rfl

theorem checks_comment (r : Rules) :
    Checks (r.familyViolation? .comment) r.commentRequirements :=
  r.checks_family .comment (by decide) (by decide) (by decide)

theorem checks_document (r : Rules) :
    Checks (r.familyViolation? .document) r.documentRequirements :=
  r.checks_family .document (by decide) (by decide) (by decide)

/-! ## All requirements -/

/-- What valid rules satisfy, in the order of the checks. -/
def requirements (r : Rules) : List Requirement :=
  r.classRequirements ++ (r.stringRequirements ++ (r.numberRequirements ++
    (r.commentRequirements ++ (r.documentRequirements ++
      [⟨"word.max_length", 1 ≤ r.words.maxLength⟩, ⟨"tokens", r.tokens.values.Nodup⟩]))))

theorem firstRepeated?_eq_none_iff {seen names : List String} :
    firstRepeated? seen names = none ↔ names.Nodup ∧ ∀ n ∈ names, n ∉ seen := by
  induction names generalizing seen with
  | nil => simp [firstRepeated?]
  | cons n rest ih =>
    rw [firstRepeated?, ite_some_eq_none_iff, ih, List.contains_eq_mem, decide_eq_true_iff,
      List.nodup_cons, List.forall_mem_cons]
    constructor
    · rintro ⟨hn, hnodup, hrest⟩
      refine ⟨⟨fun hmem => hrest n hmem List.mem_cons_self, hnodup⟩, hn, fun m hm hseen => ?_⟩
      exact hrest m hm (List.mem_cons_of_mem n hseen)
    · rintro ⟨⟨hunlike, hnodup⟩, hn, hrest⟩
      refine ⟨hn, hnodup, fun m hm hseen => ?_⟩
      rcases List.mem_cons.1 hseen with rfl | hseen
      · exact hunlike hm
      · exact hrest m hm hseen

theorem checks_all (r : Rules) : Checks r.violation? r.requirements := by
  refine r.checks_classes.orElse (r.checks_strings.orElse (r.checks_numbers.orElse
    (r.checks_comment.orElse (r.checks_document.orElse
      (Checks.cons (checks_ite Nat.one_le_iff_ne_zero.symm .wordLength)
        (checks_singleton ?_ fun v hv => ?_))))))
  · rw [tokensViolation?, Option.map_eq_none_iff, firstRepeated?_eq_none_iff]
    simp
  · obtain ⟨name, -, rfl⟩ := Option.map_eq_some_iff.1 hv
    rfl

end Rules

/-- Rules are valid exactly when they meet all requirements, and else the violation is reported at
the key of the first one that they miss. -/
theorem validate_first_missed (r : Rules) :
    (r.validate = .ok () ↔ ∀ q ∈ r.requirements, q.holds) ∧
      ∀ v, r.validate = .error v → FirstMissed r.requirements v.key := by
  have hall := r.checks_all
  exact ⟨Rules.validate_eq_ok_iff.trans hall.none_iff,
    fun v hv => hall.first v (Rules.validate_eq_error_iff.1 hv)⟩

/-- Rules with two bases that differ in the case of their letter, and with no word long enough. -/
def Rules.twoMissed : Rules :=
  { Rules.sample with
    numbers := { Rules.sample.numbers with
      bases := .ofList [('X', ⟨"01", "BINARY"⟩), ('x', ⟨"0123456789abcdef", "HEXADECIMAL"⟩)] }
    words := ⟨"NAME", 0⟩ }

/-- The second base is reported, not the length of words, which is checked later. -/
theorem validate_first_missed_twoMissed :
    ∃ v, Rules.twoMissed.validate = .error v ∧ v.key = "number.bases.x" ∧
      FirstMissed Rules.twoMissed.requirements "number.bases.x" := by
  have hv : Rules.twoMissed.validate = .error (.baseTwice 'x') :=
    Rules.validate_eq_error_iff.2 (by decide +kernel)
  obtain ⟨-, hfirst⟩ := validate_first_missed Rules.twoMissed
  exact ⟨_, hv, rfl, hfirst _ hv⟩

end RuleLexer
