import RuleLexer.Rules.Validation
import RuleLexer.Scan.Operators

/-!
# Families of comment markers

A run of operator characters that is a marker belongs to one family of comments: to documentation
when documentation declares it, else to plain comments. The family settles whether the comment
becomes a token.

Each of the four keys that can declare a marker has a meaning for it. A run gets the meaning of the
first key in `MarkerKey.precedence` that declares it, so a marker has its own meaning unless an
earlier key declares the same one.
-/

namespace RuleLexer

namespace CommentRules
variable {f : CommentRules} {kind run : String} {m : Marker}

/-- Whether `run` opens a comment of the family, in either form. -/
def declares (f : CommentRules) (run : String) : Bool :=
  f.line == some run || f.block.any (·.opening == run)

theorem isSome_marker? (f : CommentRules) (kind run : String) :
    (f.marker? kind run).isSome = f.declares run := by
  unfold marker? declares
  by_cases hline : f.line = some run
  · simp [hline]
  · cases hb : f.block with
    | none => simp [hline]
    | some b =>
      by_cases ho : b.opening = run
      · simp [hline, ho]
      · simp [hline, ho]

theorem kind_keep_of_marker? (h : f.marker? kind run = some m) :
    m.kind = kind ∧ m.keep = f.keep := by
  unfold marker? at h
  split at h
  · cases h
    exact ⟨rfl, rfl⟩
  · split at h
    · split at h
      · cases h
        exact ⟨rfl, rfl⟩
      · cases h
    · cases h

theorem marker?_keep (f : CommentRules) (keep : Bool) (kind run : String) :
    { f with keep := keep }.marker? kind run =
      (f.marker? kind run).map fun m => { m with keep := keep } := by
  unfold marker?
  by_cases hline : f.line = some run
  · simp [hline]
  · cases f.block with
    | none => simp [hline]
    | some b =>
      by_cases ho : b.opening = run
      · simp [hline, ho]
      · simp [hline, ho]

end CommentRules

namespace Rules
variable {r : Rules} {run : String} {m : Marker}

/-- The family of comments that a run of operator characters opens. -/
def commentFamily? (r : Rules) (run : String) : Option CommentFamily :=
  if r.documentation.declares run then some .document
  else if r.comments.declares run then some .comment
  else none

def commentKind (r : Rules) : CommentFamily → String
  | .comment => r.kinds.comment
  | .document => r.kinds.documentation

theorem marker?_eq_bind (r : Rules) (run : String) :
    r.marker? run = (r.commentFamily? run).bind fun family =>
      (r.commentRules family).marker? (r.commentKind family) run := by
  unfold marker? commentFamily?
  by_cases hd : r.documentation.declares run
  · obtain ⟨m, hm⟩ := Option.isSome_iff_exists.1
      ((r.documentation.isSome_marker? r.kinds.documentation run).trans hd)
    simp [hd, hm, commentRules, commentKind]
  · have hm : r.documentation.marker? r.kinds.documentation run = none := by
      have hsome := r.documentation.isSome_marker? r.kinds.documentation run
      simpa [hd] using hsome
    by_cases hc : r.comments.declares run
    · simp [hd, hm, hc, commentRules, commentKind]
    · have hn : r.comments.marker? r.kinds.comment run = none := by
        have hsome := r.comments.isSome_marker? r.kinds.comment run
        simpa [hc] using hsome
      simp [hd, hm, hc, hn]

theorem marker?_eq_none_iff : r.marker? run = none ↔ r.commentFamily? run = none := by
  rw [marker?_eq_bind]
  cases hf : r.commentFamily? run with
  | none => simp
  | some family =>
    have hdeclares : (r.commentRules family).declares run = true := by
      unfold commentFamily? at hf
      split at hf
      · cases hf
        assumption
      · split at hf
        · cases hf
          assumption
        · cases hf
    have hsome := (r.commentRules family).isSome_marker? (r.commentKind family) run
    rw [hdeclares] at hsome
    obtain ⟨m, hm⟩ := Option.isSome_iff_exists.1 hsome
    simp [hm]

theorem exists_family_of_marker? (h : r.marker? run = some m) :
    ∃ family, r.commentFamily? run = some family ∧ m.kind = r.commentKind family ∧
      m.keep = (r.commentRules family).keep := by
  rw [marker?_eq_bind] at h
  obtain ⟨family, hf, hm⟩ := Option.bind_eq_some_iff.1 h
  exact ⟨family, hf, CommentRules.kind_keep_of_marker? hm⟩

end Rules

/-! ## Markers by their keys -/

namespace MarkerKey
variable {key : MarkerKey}

/-- The keys in the order in which a run is compared with their markers. -/
def precedence : List MarkerKey :=
  [.line .document, .blockBegin .document, .line .comment, .blockBegin .comment]

/-- The keys that a run is compared with before `key`. -/
def earlier (key : MarkerKey) : List MarkerKey := precedence.takeWhile (· != key)

theorem mem_precedence (key : MarkerKey) : key ∈ precedence := by
  rcases key with ⟨_ | _⟩ | ⟨_ | _⟩ <;> decide

theorem find?_precedence_eq_some_iff {p : MarkerKey → Bool} :
    precedence.find? p = some key ↔ p key = true ∧ ∀ other ∈ key.earlier, p other = false := by
  rcases key with ⟨_ | _⟩ | ⟨_ | _⟩ <;>
    simp [precedence, earlier, List.takeWhile, List.find?_cons] <;> grind

end MarkerKey

namespace Rules
variable {r : Rules} {key : MarkerKey} {m : String}

/-- The marker that is declared at a key. -/
def markerAt? (r : Rules) : MarkerKey → Option String
  | .line family => (r.commentRules family).line
  | .blockBegin family => (r.commentRules family).block.map (·.opening)

/-- What the marker declared at a key is meant to stand for. -/
def meaningAt? (r : Rules) : MarkerKey → Option Marker
  | .line family =>
    let f := r.commentRules family
    f.line.map fun _ => ⟨r.commentKind family, f.subkind, f.keep, none⟩
  | .blockBegin family =>
    let f := r.commentRules family
    f.block.map fun b => ⟨r.commentKind family, b.subkind, f.keep, some b.closing⟩

/-- The first key that declares `run` a marker. -/
def markerKey? (r : Rules) (run : String) : Option MarkerKey :=
  MarkerKey.precedence.find? (r.markerAt? · == some run)

theorem markerKey?_eq_some_iff :
    r.markerKey? m = some key ↔
      r.markerAt? key = some m ∧ ∀ other ∈ key.earlier, r.markerAt? other ≠ some m := by
  simp [markerKey?, MarkerKey.find?_precedence_eq_some_iff]

theorem isSome_meaningAt? (r : Rules) (key : MarkerKey) :
    (r.meaningAt? key).isSome = (r.markerAt? key).isSome := by
  cases key with
  | line family => simp [meaningAt?, markerAt?]
  | blockBegin family => simp [meaningAt?, markerAt?]

theorem exists_meaningAt? (h : r.markerAt? key = some m) :
    ∃ meaning, r.meaningAt? key = some meaning := by
  rw [← Option.isSome_iff_exists, isSome_meaningAt?, h, Option.isSome_some]

/-- Within a family the line form comes before the block form. -/
theorem commentRules_marker? (r : Rules) (family : CommentFamily) (run : String) :
    (r.commentRules family).marker? (r.commentKind family) run =
      ([.line family, .blockBegin family].find? (r.markerAt? · == some run)).bind
        r.meaningAt? := by
  unfold CommentRules.marker?
  by_cases hline : (r.commentRules family).line = some run
  · simp [markerAt?, meaningAt?, hline]
  · cases hb : (r.commentRules family).block with
    | none => simp [markerAt?, hline, hb]
    | some b =>
      by_cases ho : b.opening = run
      · simp [markerAt?, meaningAt?, hline, hb, ho]
      · simp [markerAt?, hline, hb, ho]

theorem marker?_eq_meaningAt? (r : Rules) (run : String) :
    r.marker? run = (r.markerKey? run).bind r.meaningAt? := by
  have hdocument := r.commentRules_marker? .document run
  have hcomment := r.commentRules_marker? .comment run
  simp only [commentRules, commentKind] at hdocument hcomment
  have hkeys : MarkerKey.precedence =
      [.line .document, .blockBegin .document] ++ [.line .comment, .blockBegin .comment] := rfl
  rw [marker?, hdocument, hcomment, markerKey?, hkeys, List.find?_append]
  cases hfind : [.line .document, .blockBegin .document].find? (r.markerAt? · == some run) with
  | none => simp
  | some first =>
    have hfirst := List.find?_some hfind
    rw [beq_iff_eq] at hfirst
    obtain ⟨meaning, hmeaning⟩ := exists_meaningAt? hfirst
    simp [hmeaning]

end Rules

end RuleLexer
