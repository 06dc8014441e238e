import RuleLexer.Text.CaseTables

/-!
# Upper and lower case

`lower` and `upper` give the full mapping of one character, which may be several characters long, as
for the sharp s in upper case. `uppercase` maps a whole text. Two characters are the same letter
when they are equal or have equal lower case.
-/

namespace RuleLexer.Text

/-- The image of `c` under the listed expansions and runs; `c` itself where none applies. -/
def mapCase (expansions : List (Nat × List Nat)) (runs : List CaseRun) (c : Char) : List Char :=
  match expansions.lookup c.toNat with
  | some image => image.map Char.ofNat
  | none =>
    match runs.find? (·.holds c.toNat) with
    | some run => [Char.ofNat (c.toNat + run.shift).toNat]
    | none => [c]

/-- A character is listed among the expansions or in a run, or in neither and stays as it is. -/
theorem mapCase_cases (expansions : List (Nat × List Nat)) (runs : List CaseRun) (c : Char) :
    (∃ image, (c.toNat, image) ∈ expansions ∧
      mapCase expansions runs c = image.map Char.ofNat) ∨
    (∃ run ∈ runs, run.holds c.toNat = true ∧
      mapCase expansions runs c = [Char.ofNat (c.toNat + run.shift).toNat]) ∨
    (expansions.lookup c.toNat = none ∧ runs.find? (·.holds c.toNat) = none ∧
      mapCase expansions runs c = [c]) := by
  rw [mapCase]
  cases hlookup : expansions.lookup c.toNat with
  | some image =>
    obtain ⟨before, after, hsplit, -⟩ := List.lookup_eq_some_iff.1 hlookup
    exact .inl ⟨image, by simp [hsplit], rfl⟩
  | none =>
    cases hfind : runs.find? (·.holds c.toNat) with
    | some run =>
      have hholds : run.holds c.toNat = true :=
        List.find?_some (p := (CaseRun.holds · c.toNat)) hfind
      exact .inr (.inl ⟨run, List.mem_of_find?_eq_some hfind, hholds, rfl⟩)
    | none => exact .inr (.inr ⟨rfl, rfl, rfl⟩)

def lower (c : Char) : List Char :=
  if c.val < 128 then [c.toLower] else mapCase lowerExpansions lowerRuns c

def upper (c : Char) : List Char :=
  if c.val < 128 then [c.toUpper] else mapCase upperExpansions upperRuns c

def uppercase (s : String) : String :=
  String.ofList (s.toList.flatMap upper)

def sameLetter (a b : Char) : Bool :=
  a == b || lower a == lower b

theorem sameLetter_refl (a : Char) : sameLetter a a = true := by
  simp [sameLetter]

theorem sameLetter_iff (a b : Char) : sameLetter a b = true ↔ lower a = lower b := by
  simp only [sameLetter, Bool.or_eq_true, beq_iff_eq]
  exact ⟨fun h => h.elim (fun e => e ▸ rfl) id, Or.inr⟩

theorem sameLetter_eq_false_iff (a b : Char) : sameLetter a b = false ↔ lower a ≠ lower b := by
  rw [← Bool.not_eq_true, sameLetter_iff]

end RuleLexer.Text
