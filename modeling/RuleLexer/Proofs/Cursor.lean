import Mathlib.Logic.Function.Iterate
import RuleLexer.Proofs.Place

/-!
# A cursor over a text

A cursor is a position together with the character that stands there. It is moved one character at
a time, and after each move the character is looked up again at the byte offset. The lookup never
falls between the bytes of a character: after any number of moves the cursor stands between the
characters passed and those still to come, and every stretch between two places it has been at is a
slice of the text.
-/

namespace RuleLexer
open Text

structure Cursor where
  position : Position
  /-- None at the end of the text. -/
  ch : Option Char
  deriving DecidableEq

namespace Cursor
variable {text before part after : List Char} {c : Char}

def start (text : List Char) : Cursor := ⟨.start text, text.head?⟩

/-- Steps over the character at the cursor, if there is one. -/
def advance (text : List Char) (k : Cursor) : Cursor :=
  match k.ch with
  | some c =>
    let p := k.position.advance text c
    ⟨p, (dropBytes p.index text).bind List.head?⟩
  | none => k

/-- The text from a byte offset up to the cursor, empty where that is no slice of the text. -/
def slice (text : List Char) (k : Cursor) (offset : Nat) : List Char :=
  (sliceBytes offset k.position.index text).getD []

/-- The cursor stands between two characters, at the one that it names, and names none exactly at
the end of the text. -/
structure InPlace (text : List Char) (k : Cursor) : Prop where
  inside : k.position.index ≤ byteLength text
  cut : IsCut text k.position.index
  looksUp : ∃ rest, dropBytes k.position.index text = some rest ∧ k.ch = rest.head?
  atEnd : k.ch = none ↔ k.position.index = byteLength text

/-! ## Cursors at cuts -/

/-- The cursor that has passed `before`, with `after` still to come. -/
def between (before after : List Char) : Cursor := ⟨.between before after, after.head?⟩

@[simp] theorem between_position (before after : List Char) :
    (between before after).position = .between before after := rfl

@[simp] theorem between_ch (before after : List Char) :
    (between before after).ch = after.head? := rfl

theorem start_eq_between (text : List Char) : start text = between [] text := by
  rw [start, Position.start_eq_between]
  rfl

theorem advance_of_none {k : Cursor} (h : k.ch = none) (text : List Char) :
    k.advance text = k := by
  rw [advance, h]

theorem advance_nil (text before : List Char) :
    (between before []).advance text = between before [] :=
  advance_of_none rfl text

theorem advance_cons (h : text = before ++ c :: after) :
    (between before (c :: after)).advance text = between (before ++ [c]) after := by
  have hposition := Position.advance_between c h
  have hindex : ((Position.between before (c :: after)).advance text c).index =
      byteLength (before ++ [c]) := by rw [hposition, Position.between_index]
  have hrest : text = before ++ [c] ++ after := by rw [h, List.append_assoc, List.singleton_append]
  rw [advance, between_ch, List.head?_cons]
  dsimp only
  rw [between_position, hindex, hposition, hrest, dropBytes_byteLength]
  rfl

theorem slice_between (h : text = before ++ (part ++ after)) :
    (between (before ++ part) after).slice text (byteLength before) = part := by
  rw [slice, between_position, Position.between_index, byteLength_append, h, sliceBytes_append]
  rfl

theorem between_inPlace (h : text = before ++ after) : (between before after).InPlace text where
  inside := by
    rw [h, byteLength_append]
    exact Nat.le_add_right _ _
  cut := ⟨before, after, h, rfl⟩
  looksUp := ⟨after, by rw [between_position, Position.between_index, h, dropBytes_byteLength], rfl⟩
  atEnd := by
    rw [between_ch, List.head?_eq_none_iff, between_position, Position.between_index, h,
      byteLength_append]
    constructor
    · rintro rfl
      rfl
    · intro hlength
      by_contra hne
      have := byteLength_pos hne
      omega

/-! ## Cursors after a number of moves -/

/-- The cursor when it has been moved `n` times. -/
def atChar (text : List Char) (n : Nat) : Cursor := (advance text)^[n] (start text)

theorem iterate_atChar (text : List Char) (m d : Nat) :
    (advance text)^[d] (atChar text m) = atChar text (m + d) := by
  rw [atChar, atChar, Nat.add_comm, Function.iterate_add_apply]

theorem atChar_eq_between (text : List Char) (n : Nat) :
    atChar text n = between (text.take n) (text.drop n) := by
  induction n with
  | zero =>
    rw [List.take_zero, List.drop_zero]
    exact start_eq_between text
  | succ n ih =>
    rw [← iterate_atChar, ih, Function.iterate_one]
    cases hdrop : text.drop n with
    | nil =>
      have hlength := List.drop_eq_nil_iff.1 hdrop
      rw [advance_nil, List.take_of_length_le hlength,
        List.take_of_length_le (Nat.le_succ_of_le hlength),
        List.drop_of_length_le (Nat.le_succ_of_le hlength)]
    | cons c rest =>
      have htext : text = text.take n ++ c :: rest := by rw [← hdrop, List.take_append_drop]
      have hc : text[n]? = some c := by rw [← List.head?_drop, hdrop, List.head?_cons]
      have hrest : text.drop (n + 1) = rest := by rw [← List.drop_drop, hdrop, List.drop_one]; rfl
      rw [advance_cons htext, hrest, List.take_add_one, hc]
      rfl

theorem atChar_inPlace (text : List Char) (n : Nat) : (atChar text n).InPlace text := by
  rw [atChar_eq_between]
  exact between_inPlace (List.take_append_drop n text).symm

@[simp] theorem atChar_ch (text : List Char) (n : Nat) : (atChar text n).ch = text[n]? := by
  rw [atChar_eq_between, between_ch, List.head?_drop]

theorem advance_atChar (text : List Char) (n : Nat) :
    (atChar text n).advance text = atChar text (n + 1) := iterate_atChar text n 1

theorem atChar_ch_eq_none_iff {text : List Char} {n : Nat} :
    (atChar text n).ch = none ↔ text.length ≤ n := by
  rw [atChar_ch, List.getElem?_eq_none_iff]

@[simp] theorem atChar_index (text : List Char) (n : Nat) :
    (atChar text n).position.index = byteLength (text.take n) := by
  rw [atChar_eq_between, between_position, Position.between_index]

/-- Behind the last character the cursor stands still. -/
theorem atChar_min (text : List Char) (n : Nat) :
    atChar text (min n text.length) = atChar text n := by
  rcases Nat.le_total n text.length with hn | hn
  · rw [Nat.min_eq_left hn]
  · rw [Nat.min_eq_right hn, atChar_eq_between, atChar_eq_between, List.take_of_length_le hn,
      List.drop_of_length_le hn, List.take_length, List.drop_length]

/-- A move that steps over a character takes the cursor further. -/
theorem index_atChar_lt {m n : Nat} (hm : m < text.length) (h : m < n) :
    (atChar text m).position.index < (atChar text n).position.index := by
  obtain ⟨part, hpart⟩ : text.take m <+: text.take n := List.take_prefix_take_left h.le
  have hne : part ≠ [] := by
    rintro rfl
    have hlength := congrArg List.length hpart
    simp only [List.length_append, List.length_take, List.length_nil] at hlength
    omega
  have hpos := byteLength_pos hne
  rw [atChar_index, atChar_index, ← hpart, byteLength_append]
  omega

/-- The cursor has stood at the offset `i` when it has been moved `n` times. -/
def HasVisited (text : List Char) (n i : Nat) : Prop :=
  ∃ m ≤ n, i = (atChar text m).position.index

theorem HasVisited.mono {m n i : Nat} (h : HasVisited text m i) (hle : m ≤ n) :
    HasVisited text n i := by
  obtain ⟨j, hj, hi⟩ := h
  exact ⟨j, hj.trans hle, hi⟩

/-- The text from a place that the cursor has been at up to the cursor is a slice. -/
theorem HasVisited.exists_slice {n i : Nat} (h : HasVisited text n i) :
    ∃ part, sliceBytes i (atChar text n).position.index text = some part := by
  obtain ⟨m, hle, rfl⟩ := h
  obtain ⟨part, hpart⟩ : text.take m <+: text.take n := List.take_prefix_take_left hle
  have hslice := sliceBytes_append (text.take m) part (text.drop n)
  rw [← List.append_assoc, hpart, List.take_append_drop] at hslice
  refine ⟨part, ?_⟩
  rw [atChar_index, atChar_index, ← hpart, byteLength_append, hslice]

end Cursor

end RuleLexer
