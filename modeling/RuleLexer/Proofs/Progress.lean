import RuleLexer.Proofs.Execution

/-!
# Every scan makes progress

Whatever the rules are, the cursor of a scan stays in place, each pass that goes on with its loop
takes the cursor further, and the driver comes back to a later place each time. So there are no more
passes of the driver than there are characters.
-/

namespace RuleLexer
open Text

namespace Point

def cursor : Point → Cursor
  | .driver k _ => k
  | .lexeme _ _ k _ => k

/-- The offsets that the next pass may slice the text from. -/
def marks : Point → List Nat
  | .driver k _ => [k.position.index]
  | .lexeme start loop _ _ => start.index :: loop.marks

/-- The cursor is in place and stays so however often it is moved from here, and what stands between
a mark and the cursor is a slice of the text. -/
structure InPlace (text : List Char) (point : Point) : Prop where
  cursor : ∀ d, ((Cursor.advance text)^[d] point.cursor).InPlace text
  slices : ∀ i ∈ point.marks, ∀ d, ∃ part,
    sliceBytes i ((Cursor.advance text)^[d] point.cursor).position.index text = some part

/-- A point is in place when its cursor has come to it by moves and has visited the marks. -/
theorem inPlace_of_hasVisited {text : List Char} {point : Point} {m : Nat}
    (hcursor : point.cursor = Cursor.atChar text m)
    (hmarks : ∀ i ∈ point.marks, Cursor.HasVisited text m i) : point.InPlace text where
  cursor d := by
    rw [hcursor, Cursor.iterate_atChar]
    exact Cursor.atChar_inPlace ..
  slices i hi d := by
    rw [hcursor, Cursor.iterate_atChar]
    exact ((hmarks i hi).mono (Nat.le_add_right m d)).exists_slice

end Point

/-- The driver is about to make a pass. -/
def Stage.drives : Stage → Bool
  | .inr (.driver k _) => k.ch.isSome
  | _ => false

namespace Rules
open Cursor (atChar HasVisited)

/-- A stage that a scan of `text` can be in when the driver has put `m` characters behind it. The
first character of a lexeme counts from the start, for the lexeme ends behind it. -/
inductive IsPast (r : Rules) (text : List Char) : Nat → Stage → Prop
  | driver {m : Nat} (hm : m ≤ text.length) (tokens : List Token) :
      IsPast r text m (.inr (.driver (atChar text m) tokens))
  | lexeme {s m : Nat} {loop : Loop} (hs : s < text.length)
      (hmoved : s < m ∨ s = m ∧ ∃ c, text[s]? = some c ∧ loop.Takes r c)
      (hmarks : ∀ i ∈ loop.marks, HasVisited text m i) (tokens : List Token) :
      IsPast r text (s + 1) (.inr (.lexeme (atChar text s).position loop (atChar text m) tokens))
  | ended (result : Except LexError (List Token)) : IsPast r text text.length (.inl result)

variable {r : Rules} {text : List Char} {s m : Nat} {S : Stage} {loop : Loop} {point : Point}

namespace IsPast

theorem le_length (h : r.IsPast text m S) : m ≤ text.length := by
  cases h with
  | driver hm => exact hm
  | lexeme hs => exact hs
  | ended => exact le_rfl

theorem inPlace (h : r.IsPast text m (.inr point)) : point.InPlace text := by
  cases h with
  | driver hm tokens =>
    refine Point.inPlace_of_hasVisited rfl fun i hi => ?_
    rw [List.mem_singleton.1 hi]
    exact ⟨m, le_rfl, rfl⟩
  | @lexeme s n loop hs hmoved hmarks tokens =>
    refine Point.inPlace_of_hasVisited rfl fun i hi => ?_
    rcases List.mem_cons.1 hi with rfl | hi
    · exact ⟨s, by omega, rfl⟩
    · exact hmarks i hi

end IsPast

/-! ## One pass -/

theorem hasVisited_of_subset {loop' : Loop} {m' : Nat} (hle : m ≤ m')
    (hsub : loop'.marks ⊆ (atChar text m).position.index :: loop.marks)
    (hmarks : ∀ i ∈ loop.marks, HasVisited text m i) : ∀ i ∈ loop'.marks, HasVisited text m' i := by
  intro i hi
  rcases List.mem_cons.1 (hsub hi) with rfl | hi
  · exact ⟨m, hle, rfl⟩
  · exact (hmarks i hi).mono hle

/-- The first pass of a loop that has been entered at a character it takes steps over it. -/
theorem isPast_loopPass_of_takes {c : Char} (hc : text[s]? = some c) (htakes : loop.Takes r c)
    (hmarks : ∀ i ∈ loop.marks, HasVisited text s i) (tokens : List Token) :
    ∃ m', s + 1 ≤ m' ∧ r.IsPast text m' (stageOf (atChar text s).position tokens
      (r.loopPass text (atChar text s).position (atChar text s) loop)) := by
  have hs : s < text.length := (List.getElem?_eq_some_iff.1 hc).1
  have hfollows := loopPass_follows r text (atChar text s).position (atChar text s) loop
  have hch : (atChar text s).ch = some c := by rw [Cursor.atChar_ch, hc]
  rcases loopPass_of_takes text (atChar text s).position hch htakes with
    ⟨loop', hpass⟩ | ⟨e, hpass⟩
  · rw [hpass] at hfollows ⊢
    rw [stageOf, Cursor.advance_atChar]
    exact ⟨s + 1, le_rfl, .lexeme hs (.inl (Nat.lt_succ_self s))
      (hasVisited_of_subset (Nat.le_succ s) hfollows.marks_subset hmarks) tokens⟩
  · rw [hpass]
    exact ⟨text.length, hs, .ended _⟩

/-- A pass keeps the lexeme, or comes back to the driver behind the first character of it. -/
theorem isPast_loopPass (hs : s < text.length)
    (hmoved : s < m ∨ s = m ∧ ∃ c, text[s]? = some c ∧ loop.Takes r c)
    (hmarks : ∀ i ∈ loop.marks, HasVisited text m i) (tokens : List Token) :
    ∃ m', s + 1 ≤ m' ∧ r.IsPast text m' (stageOf (atChar text s).position tokens
      (r.loopPass text (atChar text s).position (atChar text m) loop)) := by
  rcases hmoved with hlt | ⟨rfl, c, hc, htakes⟩
  · have hfollows := loopPass_follows r text (atChar text s).position (atChar text m) loop
    generalize r.loopPass text (atChar text s).position (atChar text m) loop = p at hfollows ⊢
    cases hfollows with
    | moves d _ hsub =>
      rw [stageOf, Cursor.iterate_atChar]
      exact ⟨s + 1, le_rfl, .lexeme hs (.inl (by omega))
        (hasVisited_of_subset (by omega) hsub hmarks) tokens⟩
    | handsOver _ hsub =>
      exact ⟨s + 1, le_rfl, .lexeme hs (.inl hlt) (hasVisited_of_subset le_rfl hsub hmarks) tokens⟩
    | leaves d =>
      rw [stageOf, Cursor.iterate_atChar, ← Cursor.atChar_min]
      exact ⟨min (m + d) text.length, by omega, .driver (Nat.min_le_right ..) _⟩
    | fails => exact ⟨text.length, hs, .ended _⟩
  · exact isPast_loopPass_of_takes hc htakes hmarks tokens

/-- A pass of the driver starts the lexeme at its place, or puts a character behind it. -/
theorem isPast_driverPass (hm : m < text.length) (tokens : List Token) :
    ∃ m', m + 1 ≤ m' ∧ r.IsPast text m' (r.pass text (.driver (atChar text m) tokens)) := by
  have hc : text[m]? = some text[m] := List.getElem?_eq_getElem hm
  have hnone {loop : Loop} {j : Nat} (h : loop.marks = []) :
      ∀ i ∈ loop.marks, HasVisited text j i := by
    rw [h]
    exact fun i hi => (List.not_mem_nil hi).elim
  rw [pass, Cursor.atChar_ch, hc]
  dsimp only
  cases hfind : CharClass.precedence.find? (r.belongs text[m]) with
  | none => exact ⟨text.length, hm, .ended _⟩
  | some cls =>
    dsimp only
    rcases enter_cases text (atChar text m) (List.find?_some hfind) with
      ⟨loop, henter, htakes, hmarks⟩ | ⟨loop, d, henter, hmarks⟩ | ⟨label, henter⟩
    · rw [henter]
      exact ⟨m + 1, le_rfl, .lexeme hm (.inr ⟨rfl, _, hc, htakes⟩) (hnone hmarks) tokens⟩
    · rw [henter, stageOf, Cursor.iterate_atChar]
      exact ⟨m + 1, le_rfl, .lexeme hm (.inl (by omega)) (hnone hmarks) tokens⟩
    · rw [henter, Cursor.advance_atChar]
      exact ⟨m + 1, le_rfl, .driver hm _⟩

/-- A pass takes back nothing that the driver has put behind it, and a pass of the driver adds to
it. -/
theorem IsPast.next (h : r.IsPast text m S) :
    ∃ m', m ≤ m' ∧ (S.drives → m < m') ∧ r.IsPast text m' (r.next text S) := by
  cases h with
  | driver hm tokens =>
    rcases Nat.lt_or_ge m text.length with hlt | hge
    · obtain ⟨m', hle, hpast⟩ := isPast_driverPass (r := r) hlt tokens
      exact ⟨m', (Nat.le_succ m).trans hle, fun _ => hle, hpast⟩
    · have hend : (atChar text m).ch = none := Cursor.atChar_ch_eq_none_iff.2 hge
      refine ⟨text.length, hm, fun hdrives => ?_, ?_⟩
      · rw [Stage.drives, hend] at hdrives
        cases hdrives
      · rw [Rules.next, pass, hend]
        exact .ended _
  | lexeme hs hmoved hmarks tokens =>
    obtain ⟨m', hle, hpast⟩ := isPast_loopPass hs hmoved hmarks tokens
    exact ⟨m', hle, fun hdrives => absurd hdrives Bool.false_ne_true, hpast⟩
  | ended result =>
    exact ⟨text.length, le_rfl, fun hdrives => absurd hdrives Bool.false_ne_true, .ended result⟩

/-! ## The run -/

theorem isPast_start (r : Rules) (text : List Char) : r.IsPast text 0 (r.stage text 0) :=
  .driver (Nat.zero_le _) []

theorem IsPast.later {a b : Nat} (h : r.IsPast text m (r.stage text a)) (hab : a ≤ b) :
    ∃ m', m ≤ m' ∧ r.IsPast text m' (r.stage text b) := by
  induction b, hab using Nat.le_induction with
  | base => exact ⟨m, le_rfl, h⟩
  | succ b _ ih =>
    obtain ⟨m', hle, hpast⟩ := ih
    obtain ⟨m'', hle', -, hpast'⟩ := hpast.next
    exact ⟨m'', hle.trans hle', stage_succ r text b ▸ hpast'⟩

/-- The number of passes that the driver makes among the first `n`. -/
def driverPasses (r : Rules) (text : List Char) (n : Nat) : Nat :=
  (List.range n).countP fun i => (r.stage text i).drives

theorem driverPasses_succ (r : Rules) (text : List Char) (n : Nat) :
    r.driverPasses text (n + 1) =
      r.driverPasses text n + if (r.stage text n).drives then 1 else 0 := by
  rw [driverPasses, List.range_succ, List.countP_append, List.countP_singleton]
  rfl

/-- The driver has a character behind it for each of its passes. -/
theorem exists_isPast_stage (r : Rules) (text : List Char) (n : Nat) :
    ∃ m, r.driverPasses text n ≤ m ∧ r.IsPast text m (r.stage text n) := by
  induction n with
  | zero => exact ⟨0, le_rfl, isPast_start r text⟩
  | succ n ih =>
    obtain ⟨m, hle, hpast⟩ := ih
    obtain ⟨m', hkept, hdrives, hnext⟩ := hpast.next
    refine ⟨m', ?_, stage_succ r text n ▸ hnext⟩
    rw [driverPasses_succ]
    split
    · next hdriver =>
      have := hdrives hdriver
      omega
    · omega

/-- A pass that goes on with its loop takes the cursor further. Only where a run of operator
characters is left to the loop of a comment does the cursor stay. -/
theorem IsPast.loop_progress {start start' : Position} {loop' : Loop} {k k' : Cursor}
    {tokens tokens' : List Token} (h : r.IsPast text m (.inr (.lexeme start loop k tokens)))
    (hnext : r.next text (.inr (.lexeme start loop k tokens)) =
      .inr (.lexeme start' loop' k' tokens')) :
    loop.HandsOver loop' ∨ k.position.index < k'.position.index := by
  have hfollows := loopPass_follows r text start k loop
  rw [Rules.next, pass] at hnext
  generalize r.loopPass text start k loop = p at hfollows hnext
  cases hfollows with
  | moves d hch _ =>
    cases h with
    | @lexeme s n loop hs hmoved hmarks tokens =>
      cases hnext
      have hn : n < text.length := by
        by_contra hge
        exact hch (Cursor.atChar_ch_eq_none_iff.2 (Nat.not_lt.1 hge))
      rw [Cursor.iterate_atChar]
      exact .inr (Cursor.index_atChar_lt hn (by omega))
  | handsOver hover _ =>
    cases hnext
    exact .inl hover
  | leaves d => cases hnext
  | fails => cases hnext

/-- The driver comes back to a later place. -/
theorem driver_progress {a b : Nat} {k k' : Cursor} {tokens tokens' : List Token} (hab : a < b)
    (ha : r.stage text a = .inr (.driver k tokens))
    (hb : r.stage text b = .inr (.driver k' tokens')) : k.position.index < k'.position.index := by
  obtain ⟨m, -, hpast⟩ := exists_isPast_stage r text a
  obtain ⟨m', -, hdrives, hnext⟩ := hpast.next
  rw [← stage_succ] at hnext
  obtain ⟨m'', hle, hlater⟩ := hnext.later hab
  rw [ha] at hpast hdrives
  rw [hb] at hlater
  cases hpast with
  | driver hm tokens =>
    cases hlater with
    | driver hm' tokens' =>
      rcases Nat.lt_or_ge m text.length with hlt | hge
      · -- the pass of the driver at `m` counts, and what it puts behind stays behind
        have hdriver : Stage.drives (.inr (.driver (atChar text m) tokens)) := by
          rw [Stage.drives, Cursor.atChar_ch, List.getElem?_eq_getElem hlt]
          rfl
        exact Cursor.index_atChar_lt hlt ((hdrives hdriver).trans_le hle)
      · have hend : (atChar text m).ch = none := Cursor.atChar_ch_eq_none_iff.2 hge
        have hended : r.stage text (a + 1) =
            .inl (.ok (tokens ++ [r.endToken text (atChar text m).position])) := by
          rw [stage_succ, ha, Rules.next, pass, hend]
        rw [stage_of_ended hended hab] at hb
        cases hb

end Rules

/-- Whatever the rules and the text are, the cursor of the scan stays in place, and what is sliced is
there. A pass that goes on with its loop takes the cursor further; only a marker that is left to the
loop of its comment is no such pass. The driver comes back to a later place each time, so it makes no
more passes than there are characters. The scan ends, with the tokens or the error of the text. -/
theorem tokenize_progresses (r : Rules) (name text : String) :
    (∀ n point, r.stage text.toList n = .inr point → point.InPlace text.toList) ∧
      (∀ n start loop k tokens start' loop' k' tokens',
        r.stage text.toList n = .inr (.lexeme start loop k tokens) →
        r.stage text.toList (n + 1) = .inr (.lexeme start' loop' k' tokens') →
        loop.HandsOver loop' ∨ k.position.index < k'.position.index) ∧
      (∀ a b k tokens k' tokens', a < b →
        r.stage text.toList a = .inr (.driver k tokens) →
        r.stage text.toList b = .inr (.driver k' tokens') →
        k.position.index < k'.position.index) ∧
      (∀ n, r.driverPasses text.toList n ≤ text.toList.length) ∧
      ∃ n, r.stage text.toList n = .inl (r.tokenize (.loaded name text)) := by
  refine ⟨?inPlace, ?loops, ?driver, ?count, r.exists_stage_eq_tokenize name text⟩
  case inPlace =>
    intro n point hpoint
    obtain ⟨m, -, hpast⟩ := r.exists_isPast_stage text.toList n
    rw [hpoint] at hpast
    exact hpast.inPlace
  case loops =>
    intro n start loop k tokens start' loop' k' tokens' hn hn'
    obtain ⟨m, -, hpast⟩ := r.exists_isPast_stage text.toList n
    rw [hn] at hpast
    rw [Rules.stage_succ, hn] at hn'
    exact hpast.loop_progress hn'
  case driver =>
    intro a b k tokens k' tokens' hab ha hb
    exact Rules.driver_progress hab ha hb
  case count =>
    intro n
    obtain ⟨m, hle, hpast⟩ := r.exists_isPast_stage text.toList n
    exact hle.trans hpast.le_length

end RuleLexer
