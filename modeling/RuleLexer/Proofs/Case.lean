import Mathlib.Data.List.Basic
import RuleLexer.Text.Case

/-!
# Upper case is final

A text in upper case is its own upper case. The case tables are settled for this: they move none of
the characters that they give. As the runs are many and long, this is read off their bounds, run
against run, and not off their characters.
-/

namespace RuleLexer.Text

/-! ## Runs -/

namespace CaseRun
variable {a b r : CaseRun} {n : Nat}

theorem holds_iff : r.holds n = true ↔ r.first ≤ n ∧ n ≤ r.last ∧ (n - r.first) % r.step = 0 := by
  simp [holds, and_assoc]

/-- The characters that those of a run are moved to. -/
def image (r : CaseRun) : CaseRun :=
  ⟨(r.first + r.shift).toNat, (r.last + r.shift).toNat, r.step, 0⟩

theorem holds_image (hr : 0 ≤ r.first + r.shift) (h : r.holds n = true) :
    r.image.holds (n + r.shift).toNat = true := by
  obtain ⟨hfirst, hlast, hstep⟩ := holds_iff.1 h
  have hdistance : (n + r.shift).toNat - (r.first + r.shift).toNat = n - r.first := by omega
  refine holds_iff.2 ⟨?_, ?_, ?_⟩
  · dsimp only [image]
    omega
  · dsimp only [image]
    omega
  · rwa [image, hdistance]

/-- A run whose characters are all even or all odd. -/
def alternates (r : CaseRun) : Bool := r.step == 2 || r.first == r.last

theorem mod_two_of_alternates (hr : r.alternates = true) (h : r.holds n = true) :
    n % 2 = r.first % 2 := by
  obtain ⟨hfirst, hlast, hstep⟩ := holds_iff.1 h
  rw [alternates, Bool.or_eq_true, beq_iff_eq, beq_iff_eq] at hr
  rcases hr with htwo | hsingle
  · rw [htwo] at hstep
    omega
  · omega

/-- Two runs whose bounds show that they have no character in common. -/
def apart (a b : CaseRun) : Bool :=
  Nat.blt a.last b.first || Nat.blt b.last a.first ||
    a.alternates && b.alternates && (a.first + b.first) % 2 == 1

theorem holds_eq_false_of_apart (hab : a.apart b = true) (h : a.holds n = true) :
    b.holds n = false := by
  rw [apart, Bool.or_eq_true, Bool.or_eq_true, Bool.and_eq_true, Bool.and_eq_true, beq_iff_eq,
    Nat.blt_eq, Nat.blt_eq] at hab
  obtain ⟨hfirst, hlast, -⟩ := holds_iff.1 h
  refine Bool.eq_false_iff.2 fun hb => ?_
  obtain ⟨hfirst', hlast', -⟩ := holds_iff.1 hb
  rcases hab with (hbelow | habove) | ⟨⟨ha, hb'⟩, hodd⟩
  · omega
  · omega
  · have hmod := mod_two_of_alternates ha h
    have hmod' := mod_two_of_alternates hb' hb
    omega

end CaseRun

/-! ## Tables -/

section Tables
variable {expansions : List (Nat × List Nat)} {runs : List CaseRun} {c d : Char} {n : Nat}

/-- Does a table list the character `n`? -/
def moves (expansions : List (Nat × List Nat)) (runs : List CaseRun) (n : Nat) : Bool :=
  expansions.any (n == ·.1) || runs.any (·.holds n)

theorem moves_eq_false_iff : moves expansions runs n = false ↔
    expansions.lookup n = none ∧ runs.find? (·.holds n) = none := by
  rw [moves, Bool.or_eq_false_iff, List.any_eq_false, List.any_eq_false, List.find?_eq_none,
    List.lookup_eq_none_iff]
  simp only [bne, Bool.not_eq_true', Bool.not_eq_true]

theorem mapCase_of_not_moves (h : moves expansions runs c.toNat = false) :
    mapCase expansions runs c = [c] := by
  obtain ⟨hlookup, hfind⟩ := moves_eq_false_iff.1 h
  rw [mapCase, hlookup, hfind]

/-- Tables that list none of the characters they give. -/
structure Settled (expansions : List (Nat × List Nat)) (runs : List CaseRun) : Prop where
  zero : moves expansions runs 0 = false
  expanded : ∀ e ∈ expansions, ∀ n ∈ e.2, moves expansions runs n = false
  nonneg : ∀ a ∈ runs, 0 ≤ a.first + a.shift
  apart : ∀ a ∈ runs.map (·.image), ∀ b ∈ runs, a.apart b = true
  apart_expanded : ∀ a ∈ runs.map (·.image), ∀ e ∈ expansions, a.holds e.1 = false

namespace Settled

theorem not_moves_of_holds (h : Settled expansions runs) {a : CaseRun} (ha : a ∈ runs)
    (hn : a.holds n = true) : moves expansions runs (n + a.shift).toNat = false := by
  have himage := CaseRun.holds_image (h.nonneg a ha) hn
  have hmem : a.image ∈ runs.map (·.image) := List.mem_map_of_mem ha
  refine Bool.or_eq_false_iff.2 ⟨List.any_eq_false.2 fun e he hmoved => ?_,
    List.any_eq_false.2 fun b hb => ?_⟩
  · rw [beq_iff_eq.1 hmoved, h.apart_expanded _ hmem e he] at himage
    cases himage
  · rw [CaseRun.holds_eq_false_of_apart (h.apart _ hmem b hb) himage]
    exact Bool.false_ne_true

/-- A number that is no character stands for the null character. -/
theorem not_moves_ofNat (h : Settled expansions runs) (hn : moves expansions runs n = false) :
    moves expansions runs (Char.ofNat n).toNat = false := by
  unfold Char.ofNat
  by_cases hvalid : n.isValidChar
  · rw [dif_pos hvalid]
    exact hn
  · rw [dif_neg hvalid]
    exact h.zero

theorem mapCase_of_mem (h : Settled expansions runs) (hd : d ∈ mapCase expansions runs c) :
    mapCase expansions runs d = [d] := by
  apply mapCase_of_not_moves
  rcases mapCase_cases expansions runs c with
    ⟨image, hmem, himage⟩ | ⟨run, hrun, hholds, himage⟩ | ⟨hlookup, hfind, himage⟩
  · rw [himage] at hd
    obtain ⟨n, hn, rfl⟩ := List.mem_map.1 hd
    exact h.not_moves_ofNat (h.expanded (c.toNat, image) hmem n hn)
  · rw [himage] at hd
    obtain rfl := List.mem_singleton.1 hd
    exact h.not_moves_ofNat (h.not_moves_of_holds hrun hholds)
  · rw [himage] at hd
    obtain rfl := List.mem_singleton.1 hd
    exact moves_eq_false_iff.2 ⟨hlookup, hfind⟩

end Settled

end Tables

/-! ## The tables of upper case -/

/-- The letters below 128 that have an upper case. -/
def asciiRun : CaseRun := ⟨0x61, 0x7a, 1, -32⟩

/-- The runs of upper case, with the one below 128. -/
def allUpperRuns : List CaseRun := asciiRun :: upperRuns

theorem toUpper_ascii (n : Fin 128) :
    (Char.ofNat n).toUpper =
      if asciiRun.holds n then Char.ofNat (n + asciiRun.shift).toNat else Char.ofNat n := by
  revert n
  decide +kernel

theorem not_moves_ascii {n : Nat} (hn : n < 128) :
    moves upperExpansions upperRuns n = false := by
  have hexpansions : ∀ e ∈ upperExpansions, 128 ≤ e.1 := by decide +kernel
  have hruns : ∀ r ∈ upperRuns, 128 ≤ r.first := by decide +kernel
  refine Bool.or_eq_false_iff.2 ⟨List.any_eq_false.2 fun e he hmoved => ?_,
    List.any_eq_false.2 fun r hr hmoved => ?_⟩
  · have habove := hexpansions e he
    rw [← beq_iff_eq.1 hmoved] at habove
    omega
  · have habove := hruns r hr
    have hfirst := (CaseRun.holds_iff.1 hmoved).1
    omega

theorem upper_eq_mapCase (c : Char) : upper c = mapCase upperExpansions allUpperRuns c := by
  unfold upper
  split
  · next hc =>
    have hc : c.toNat < 128 := UInt32.lt_iff_toNat_lt.1 hc
    have hascii := toUpper_ascii ⟨c.toNat, hc⟩
    obtain ⟨hlookup, hfind⟩ := moves_eq_false_iff.1 (not_moves_ascii hc)
    rw [Char.ofNat_toNat] at hascii
    rw [hascii, mapCase, hlookup, allUpperRuns, List.find?_cons, hfind]
    cases asciiRun.holds c.toNat <;> rfl
  · next hc =>
    have hc : ¬c.toNat < 128 := fun h => hc (UInt32.lt_iff_toNat_lt.2 h)
    have hascii : asciiRun.holds c.toNat = false := by
      refine Bool.eq_false_iff.2 fun h => ?_
      have hlast : c.toNat ≤ 0x7a := (CaseRun.holds_iff.1 h).2.1
      omega
    rw [mapCase, mapCase, allUpperRuns, List.find?_cons, hascii]

theorem upper_images_apart :
    (allUpperRuns.map (·.image)).all (fun a => allUpperRuns.all a.apart) = true := by
  decide +kernel

theorem upper_images_apart_expansions :
    (allUpperRuns.map (·.image)).all (fun a => upperExpansions.all fun e => !a.holds e.1) =
      true := by
  decide +kernel

theorem settled_upper : Settled upperExpansions allUpperRuns where
  zero := by decide +kernel
  expanded := by decide +kernel
  nonneg := by decide +kernel
  apart a ha b hb := List.all_eq_true.1 (List.all_eq_true.1 upper_images_apart a ha) b hb
  apart_expanded a ha e he := by
    simpa using List.all_eq_true.1 (List.all_eq_true.1 upper_images_apart_expansions a ha) e he

theorem upper_of_mem_upper {c d : Char} (h : d ∈ upper c) : upper d = [d] := by
  rw [upper_eq_mapCase] at h ⊢
  exact settled_upper.mapCase_of_mem h

theorem uppercase_uppercase (s : String) : uppercase (uppercase s) = uppercase s := by
  have hchars : (s.toList.flatMap upper).flatMap upper = s.toList.flatMap upper := by
    rw [List.flatMap_assoc]
    refine List.flatMap_congr fun c _ => ?_
    rw [List.flatMap_congr fun d hd => upper_of_mem_upper (c := c) hd, List.flatMap_singleton']
  rw [uppercase, uppercase, String.toList_ofList, hchars]

end RuleLexer.Text
