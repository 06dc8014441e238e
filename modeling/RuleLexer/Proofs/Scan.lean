import RuleLexer.Scan.Tokens

/-!
# Scans without positions

A scan is the run of the scanner with the positions left out: the lexemes it takes one after the
other, and the failure that stops it early. `tokensFrom_eq_scan` puts the positions back, so that a
fact about tokens is a fact about lexemes and the places they stand at.
-/

namespace RuleLexer
open Text

namespace Lexeme
variable {l : Lexeme} {p : Position} {t : Token}

theorem exists_token? (h : l.label.isSome) (p : Position) : ∃ t, l.token? p = some t := by
  obtain ⟨label, hl⟩ := Option.isSome_iff_exists.1 h
  exact ⟨_, by rw [token?, hl, Option.map_some]⟩

theorem start_of_token? (h : l.token? p = some t) : t.start = p.index := by
  obtain ⟨label, -, rfl⟩ := Option.map_eq_some_iff.1 h
  rfl

theorem stop_of_token? (h : l.token? p = some t) : t.stop = p.index + byteLength l.taken := by
  obtain ⟨label, -, rfl⟩ := Option.map_eq_some_iff.1 h
  rfl

theorem location_of_token? (h : l.token? p = some t) : t.location = p := by
  obtain ⟨label, -, rfl⟩ := Option.map_eq_some_iff.1 h
  rfl

end Lexeme

structure Scan where
  lexemes : List Lexeme
  /-- None when the lexemes reach the end of the text. -/
  failure : Option Failure

/-- The text of consecutive lexemes. -/
def takenBy (ls : List Lexeme) : List Char := ls.flatMap (·.taken)

@[simp] theorem takenBy_nil : takenBy [] = [] := rfl

@[simp] theorem takenBy_cons (l : Lexeme) (ls : List Lexeme) :
    takenBy (l :: ls) = l.taken ++ takenBy ls := rfl

@[simp] theorem takenBy_append (ls ms : List Lexeme) :
    takenBy (ls ++ ms) = takenBy ls ++ takenBy ms := List.flatMap_append

/-- The tokens of consecutive lexemes, the first of which starts at `p`. -/
def placed (text : List Char) (p : Position) : List Lexeme → List Token
  | [] => []
  | l :: ls => (l.token? p).toList ++ placed text (p.walk text l.taken) ls

theorem placed_cons_some {text : List Char} {p : Position} {l : Lexeme} {t : Token}
    (ls : List Lexeme) (h : l.token? p = some t) :
    placed text p (l :: ls) = t :: placed text (p.walk text l.taken) ls := by
  rw [placed, h, Option.toList_some, List.singleton_append]

theorem placed_cons_none {text : List Char} {p : Position} {l : Lexeme} (ls : List Lexeme)
    (h : l.token? p = none) : placed text p (l :: ls) = placed text (p.walk text l.taken) ls := by
  rw [placed, h, Option.toList_none, List.nil_append]

theorem placed_append (text : List Char) (p : Position) (ls ms : List Lexeme) :
    placed text p (ls ++ ms) = placed text p ls ++ placed text (p.walk text (takenBy ls)) ms := by
  induction ls generalizing p with
  | nil => rfl
  | cons l ls ih =>
    rw [List.cons_append, placed, placed, ih, takenBy_cons, Position.walk_append, List.append_assoc]

theorem mem_placed_iff {text : List Char} {p : Position} {ls : List Lexeme} {t : Token} :
    t ∈ placed text p ls ↔
      ∃ before l after, ls = before ++ l :: after ∧
        l.token? (p.walk text (takenBy before)) = some t := by
  induction ls generalizing p with
  | nil => simp [placed]
  | cons m ls ih =>
    rw [placed, List.mem_append, Option.mem_toList, ih]
    constructor
    · rintro (ht | ⟨before, l, after, rfl, ht⟩)
      · exact ⟨[], m, ls, rfl, ht⟩
      · refine ⟨m :: before, l, after, rfl, ?_⟩
        rwa [takenBy_cons, Position.walk_append]
    · rintro ⟨before, l, after, hls, ht⟩
      cases before with
      | nil =>
        obtain ⟨rfl, rfl⟩ := List.cons.inj hls
        exact .inl ht
      | cons b before =>
        obtain ⟨rfl, rfl⟩ := List.cons.inj hls
        rw [takenBy_cons, Position.walk_append] at ht
        exact .inr ⟨before, l, after, rfl, ht⟩

namespace Rules
variable {r : Rules} {order : List CharClass} {c : Char} {cs : List Char}

/-- The lexemes of `cs`, each taken where the one before it ends. -/
def scan (r : Rules) (order : List CharClass) (cs : List Char) : Scan :=
  match cs with
  | [] => ⟨[], none⟩
  | c :: rest =>
    match h : r.lexeme order c rest with
    | .error f => ⟨[], some f⟩
    | .ok l =>
      have := (lexeme_splits h).length_rest_lt
      let s := r.scan order l.rest
      ⟨l :: s.lexemes, s.failure⟩
termination_by cs.length
decreasing_by exact this

@[simp] theorem scan_nil : r.scan order [] = ⟨[], none⟩ := by rw [scan]

theorem scan_of_error {f : Failure} (h : r.lexeme order c cs = .error f) :
    r.scan order (c :: cs) = ⟨[], some f⟩ := by
  rw [scan]
  split
  · next g hg => rw [Except.error.inj (hg.symm.trans h)]
  · next l hl => cases hl.symm.trans h

theorem scan_of_ok {l : Lexeme} (h : r.lexeme order c cs = .ok l) :
    r.scan order (c :: cs) =
      ⟨l :: (r.scan order l.rest).lexemes, (r.scan order l.rest).failure⟩ := by
  rw [scan]
  split
  · next f hf => cases hf.symm.trans h
  · next m hm =>
    obtain rfl : m = l := Except.ok.inj (hm.symm.trans h)
    rfl

/-- A scan that does not fail takes the whole text. -/
theorem takenBy_scan (h : (r.scan order cs).failure = none) :
    takenBy (r.scan order cs).lexemes = cs := by
  fun_induction scan r order cs with
  | case1 => rfl
  | case2 => cases h
  | case3 c rest l hl _ s ih => rw [takenBy_cons, ih h, (lexeme_splits hl).1]

/-- A scan fails at the character behind its lexemes. -/
theorem scan_failure {f : Failure} (h : (r.scan order cs).failure = some f) :
    ∃ c rest, cs = takenBy (r.scan order cs).lexemes ++ c :: rest ∧
      r.lexeme order c rest = .error f := by
  fun_induction scan r order cs with
  | case1 => cases h
  | case2 c rest g hg =>
    cases h
    exact ⟨c, rest, rfl, hg⟩
  | case3 c rest l hl _ s ih =>
    obtain ⟨d, tail, hs, hd⟩ := ih h
    refine ⟨d, tail, ?_, hd⟩
    rw [takenBy_cons, List.append_assoc, ← hs, (lexeme_splits hl).1]

theorem exists_of_mem_scan {l : Lexeme} (h : l ∈ (r.scan order cs).lexemes) :
    ∃ c rest, r.lexeme order c rest = .ok l := by
  fun_induction scan r order cs with
  | case1 => cases h
  | case2 => cases h
  | case3 c rest m hm _ s ih =>
    rcases List.mem_cons.1 h with rfl | h
    · exact ⟨c, rest, hm⟩
    · exact ih h

theorem taken_ne_nil_of_mem_scan {l : Lexeme} (h : l ∈ (r.scan order cs).lexemes) :
    l.taken ≠ [] := by
  obtain ⟨c, rest, hl⟩ := exists_of_mem_scan h
  exact (lexeme_splits hl).2

/-! ## Positions put back -/

/-- The token of the end of the text. -/
def endToken (r : Rules) (text : List Char) (p : Position) : Token :=
  { kind := r.kinds.eof, start := byteLength text, stop := byteLength text, location := p }

theorem tokensFrom_of_ok {l : Lexeme} (h : r.lexeme order c cs = .ok l) (text : List Char)
    (p : Position) :
    r.tokensFrom order text p (c :: cs) =
      (r.tokensFrom order text (p.walk text l.taken) l.rest).map ((l.token? p).toList ++ ·) := by
  rw [tokensFrom]
  split
  · next f hf => cases hf.symm.trans h
  · next m hm =>
    obtain rfl : m = l := Except.ok.inj (hm.symm.trans h)
    rfl

theorem tokensFrom_of_error {f : Failure} (h : r.lexeme order c cs = .error f) (text : List Char)
    (p : Position) : r.tokensFrom order text p (c :: cs) = .error (f.toError text p) := by
  rw [tokensFrom]
  split
  · next g hg => rw [Except.error.inj (hg.symm.trans h)]
  · next m hm => cases hm.symm.trans h

theorem tokensFrom_eq_scan (r : Rules) (order : List CharClass) (text : List Char) (p : Position)
    (cs : List Char) :
    r.tokensFrom order text p cs =
      match (r.scan order cs).failure with
      | none =>
        .ok (placed text p (r.scan order cs).lexemes ++
          [r.endToken text (p.walk text (takenBy (r.scan order cs).lexemes))])
      | some f => .error (f.toError text (p.walk text (takenBy (r.scan order cs).lexemes))) := by
  fun_induction tokensFrom r order text p cs with
  | case1 =>
    rw [scan_nil]
    rfl
  | case2 p c rest f hf => simp [scan_of_error hf]
  | case3 p c rest l hl _ ih =>
    rw [ih, scan_of_ok hl]
    cases (r.scan order l.rest).failure with
    | none => simp [Except.map, placed, Position.walk_append]
    | some f => simp [Except.map, Position.walk_append]

theorem tokensIn_eq_ok_iff {text : List Char} {tokens : List Token} :
    r.tokensIn order text = .ok tokens ↔
      (r.scan order text).failure = none ∧
        tokens = placed text (.start text) (r.scan order text).lexemes ++
          [r.endToken text ((Position.start text).walk text text)] := by
  rw [tokensIn, tokensFrom_eq_scan]
  cases hf : (r.scan order text).failure with
  | none => simp [takenBy_scan hf, eq_comm]
  | some f => simp

theorem tokensIn_eq_error_iff {text : List Char} {e : LexError} :
    r.tokensIn order text = .error e ↔
      ∃ f, (r.scan order text).failure = some f ∧
        e = f.toError text
          ((Position.start text).walk text (takenBy (r.scan order text).lexemes)) := by
  rw [tokensIn, tokensFrom_eq_scan]
  cases hf : (r.scan order text).failure with
  | none => simp
  | some f => simp [eq_comm]

end Rules

end RuleLexer
