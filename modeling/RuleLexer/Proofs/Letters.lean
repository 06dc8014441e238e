import RuleLexer.Proofs.Case
import RuleLexer.Proofs.Characters

/-!
# Letters in either case

What differs from a letter in case only is a letter as well, so what is no letter differs from other
characters in more than case. The tables of letters and of lower case
are independent of each other, so this is read off both: the characters of a run of lower case are
letters, before they are moved and after.
-/

namespace RuleLexer.Text

/-! ## Looking up a range -/

namespace CodeRanges
variable {table : CodeRanges} {n : Nat} {range : Nat × Nat}

/-- The first range is not reversed and lies before the second. -/
def Precedes (a b : Nat × Nat) : Prop := a.1 ≤ a.2 ∧ a.2 < b.1

instance : DecidableRel Precedes := fun _ _ => inferInstanceAs (Decidable (_ ∧ _))

instance : IsTrans (Nat × Nat) Precedes where
  trans := by
    rintro a b c ⟨ha, hab⟩ ⟨hb, hbc⟩
    exact ⟨ha, by omega⟩

theorem precedes_of_getElem? (hsorted : table.toList.Pairwise Precedes) {i j : Nat}
    {a b : Nat × Nat} (ha : table[i]? = some a) (hb : table[j]? = some b) (hij : i < j) :
    Precedes a b := by
  obtain ⟨hi, rfl⟩ := Array.getElem?_eq_some_iff.1 ha
  obtain ⟨hj, rfl⟩ := Array.getElem?_eq_some_iff.1 hb
  exact List.pairwise_iff_getElem.1 hsorted i j hi hj hij

/-- Halving the table does not lose the range of `n`. -/
theorem coversBetween_complete (hsorted : table.toList.Pairwise Precedes) {i lo hi : Nat}
    (hget : table[i]? = some range) (hfirst : range.1 ≤ n) (hlast : n ≤ range.2) (hlo : lo ≤ i)
    (hhi : i < hi) (hsize : hi ≤ table.size) : table.coversBetween n lo hi = true := by
  fun_induction coversBetween table n lo hi with
  | case1 lo hi hlt mid hmid =>
    have := Array.getElem?_eq_none_iff.1 hmid
    omega
  | case2 lo hi hlt mid first last hmid hbefore ih =>
    -- `n` is below the middle range, so its own range is one of those before it
    have hleft : i < mid := by
      rcases Nat.lt_trichotomy i mid with h | rfl | h
      · exact h
      · obtain rfl := Option.some.inj (hmid.symm.trans hget)
        omega
      · obtain ⟨hforward, hlt⟩ := precedes_of_getElem? hsorted hmid hget h
        dsimp only at hforward hlt
        omega
    exact ih hlo hleft (by omega)
  | case3 lo hi hlt mid first last hmid hbefore hafter ih =>
    have hright : mid < i := by
      rcases Nat.lt_trichotomy i mid with h | rfl | h
      · obtain ⟨-, hlt⟩ := precedes_of_getElem? hsorted hget hmid h
        dsimp only at hlt
        omega
      · obtain rfl := Option.some.inj (hmid.symm.trans hget)
        omega
      · exact h
    exact ih hright hhi hsize
  | case4 => rfl
  | case5 lo hi hempty => omega

theorem covers_of_mem (hsorted : table.toList.Pairwise Precedes) (hmem : range ∈ table.toList)
    (hfirst : range.1 ≤ n) (hlast : n ≤ range.2) : table.covers n = true := by
  obtain ⟨i, hi, hrange⟩ := List.mem_iff_getElem.1 hmem
  have hget : table[i]? = some range := Array.getElem?_eq_some_iff.2 ⟨hi, hrange⟩
  exact coversBetween_complete hsorted hget hfirst hlast (Nat.zero_le i) hi Nat.le.refl

end CodeRanges

/-! ## Letters by their ranges -/

/-- The ranges of letters, with those below 128. -/
def letterRanges : List (Nat × Nat) := (0x41, 0x5a) :: (0x61, 0x7a) :: alphabeticRanges.toList

/-- Whether one of the ranges has all of `first` to `last`. -/
def coversAll (ranges : List (Nat × Nat)) (first last : Nat) : Bool :=
  ranges.any fun range => Nat.ble range.1 first && Nat.ble last range.2

theorem coversAll_iff {ranges : List (Nat × Nat)} {first last : Nat} :
    coversAll ranges first last = true ↔ ∃ range ∈ ranges, range.1 ≤ first ∧ last ≤ range.2 := by
  simp [coversAll]

theorem alphabeticRanges_sorted : alphabeticRanges.toList.Pairwise CodeRanges.Precedes := by
  apply List.isChain_iff_pairwise.1
  decide +kernel

theorem isAlpha_ascii (n : Fin 128) (h : coversAll [(0x41, 0x5a), (0x61, 0x7a)] n n = true) :
    (Char.ofNat n).isAlpha = true := by
  revert n
  decide +kernel

theorem isAlphabetic_of_covered {c : Char} (h : coversAll letterRanges c.toNat c.toNat = true) :
    isAlphabetic c = true := by
  obtain ⟨range, hmem, hfirst, hlast⟩ := coversAll_iff.1 h
  have hsplit : letterRanges = [(0x41, 0x5a), (0x61, 0x7a)] ++ alphabeticRanges.toList := rfl
  have hbelow : ∀ range ∈ [(0x41, 0x5a), (0x61, 0x7a)], range.2 < 128 := by decide
  have habove : ∀ range ∈ alphabeticRanges.toList, 128 ≤ range.1 := by decide +kernel
  unfold isAlphabetic
  split
  · next hc =>
    have hc : c.toNat < 128 := UInt32.lt_iff_toNat_lt.1 hc
    have hascii : range ∈ [(0x41, 0x5a), (0x61, 0x7a)] := by
      rcases List.mem_append.1 (hsplit ▸ hmem) with hascii | htable
      · exact hascii
      · have := habove range htable
        omega
    have halpha := isAlpha_ascii ⟨c.toNat, hc⟩ (coversAll_iff.2 ⟨range, hascii, hfirst, hlast⟩)
    rwa [Char.ofNat_toNat] at halpha
  · next hc =>
    have hc : ¬c.toNat < 128 := fun h => hc (UInt32.lt_iff_toNat_lt.2 h)
    have htable : range ∈ alphabeticRanges.toList := by
      rcases List.mem_append.1 (hsplit ▸ hmem) with hascii | htable
      · have := hbelow range hascii
        omega
      · exact htable
    exact CodeRanges.covers_of_mem alphabeticRanges_sorted htable hfirst hlast

/-! ## Letters that have a lower case -/

namespace CaseRun
variable {r : CaseRun} {n : Nat}

def chars (r : CaseRun) : List Nat :=
  List.range' r.first ((r.last - r.first) / r.step + 1) r.step

theorem mem_chars (h : r.holds n = true) : n ∈ r.chars := by
  obtain ⟨hfirst, hlast, hstep⟩ := holds_iff.1 h
  refine List.mem_range'.2 ⟨(n - r.first) / r.step, ?_, ?_⟩
  · exact Nat.lt_succ_of_le (Nat.div_le_div_right (by omega))
  · rw [Nat.mul_div_cancel' (Nat.dvd_of_mod_eq_zero hstep)]
    omega

/-- Whether the ranges have all characters of a run, be it in one range or one by one. -/
def within (ranges : List (Nat × Nat)) (r : CaseRun) : Bool :=
  coversAll ranges r.first r.last || r.chars.all fun n => coversAll ranges n n

theorem covered_of_within {ranges : List (Nat × Nat)} (hr : r.within ranges = true)
    (h : r.holds n = true) : coversAll ranges n n = true := by
  rcases Bool.or_eq_true_iff.1 hr with hwhole | hsingle
  · obtain ⟨range, hmem, hfirst, hlast⟩ := coversAll_iff.1 hwhole
    obtain ⟨hfirst', hlast', -⟩ := holds_iff.1 h
    exact coversAll_iff.2 ⟨range, hmem, by omega, by omega⟩
  · exact List.all_eq_true.1 hsingle n (mem_chars h)

end CaseRun

/-- One run has every other character of a range with gaps, so runs are not compared by their bounds
alone. -/
theorem lowerRuns_within :
    (lowerRuns.all fun r => r.within letterRanges && r.image.within letterRanges) = true := by
  decide +kernel

theorem lowerExpansions_length : ∀ e ∈ lowerExpansions, e.2.length ≠ 1 := by
  decide

theorem lowerExpansions_covered : ∀ e ∈ lowerExpansions, coversAll letterRanges e.1 e.1 = true := by
  decide +kernel

theorem lowerRuns_nonneg : ∀ r ∈ lowerRuns, 0 ≤ (r.first : Int) + r.shift := by
  decide +kernel

theorem lowerRuns_valid : ∀ r ∈ lowerRuns, ∀ n, r.image.holds n = true → n.isValidChar := by
  have hbounds : ∀ r ∈ lowerRuns, r.image.last < 0xd800 ∨
      0xdfff < r.image.first ∧ r.image.last < 0x110000 := by
    decide +kernel
  intro r hr n hn
  obtain ⟨hfirst, hlast, -⟩ := CaseRun.holds_iff.1 hn
  rcases hbounds r hr with hlow | ⟨hlow, hhigh⟩
  · exact .inl (by omega)
  · exact .inr ⟨by omega, by omega⟩

theorem toNat_ofNat {n : Nat} (h : n.isValidChar) : (Char.ofNat n).toNat = n := by
  rw [Char.ofNat, dif_pos h]
  rfl

theorem covered_of_run {r : CaseRun} (hr : r ∈ lowerRuns) {n : Nat} :
    (r.holds n = true → coversAll letterRanges n n = true) ∧
      (r.image.holds n = true → coversAll letterRanges n n = true) := by
  obtain ⟨hrun, himage⟩ := Bool.and_eq_true_iff.1 (List.all_eq_true.1 lowerRuns_within r hr)
  exact ⟨CaseRun.covered_of_within hrun, CaseRun.covered_of_within himage⟩

section Letters
variable {c d : Char}

theorem toLower_ascii (n : Fin 128) :
    ((Char.ofNat n).toLower ≠ Char.ofNat n → isAlphabetic (Char.ofNat n) = true) ∧
      (isAlphabetic (Char.ofNat n) = true → isAlphabetic (Char.ofNat n).toLower = true) := by
  revert n
  decide +kernel

/-- Only letters have a lower case of their own. -/
theorem isAlphabetic_of_lower_ne (h : lower c ≠ [c]) : isAlphabetic c = true := by
  unfold lower at h
  split at h
  · next hc =>
    have hascii := (toLower_ascii ⟨c.toNat, UInt32.lt_iff_toNat_lt.1 hc⟩).1
    rw [Char.ofNat_toNat] at hascii
    exact hascii fun heq => h (by rw [heq])
  · rcases mapCase_cases lowerExpansions lowerRuns c with
      ⟨image, hmem, -⟩ | ⟨run, hrun, hholds, -⟩ | ⟨-, -, himage⟩
    · exact isAlphabetic_of_covered (lowerExpansions_covered (c.toNat, image) hmem)
    · exact isAlphabetic_of_covered ((covered_of_run hrun).1 hholds)
    · exact absurd himage h

/-- The lower case of a letter, where it is one character, is a letter. -/
theorem isAlphabetic_of_lower_eq (hc : isAlphabetic c = true) (h : lower c = [d]) :
    isAlphabetic d = true := by
  unfold lower at h
  split at h
  · next hascii =>
    have hlower := (toLower_ascii ⟨c.toNat, UInt32.lt_iff_toNat_lt.1 hascii⟩).2
    rw [Char.ofNat_toNat] at hlower
    rw [← List.singleton_inj.1 h]
    exact hlower hc
  · rcases mapCase_cases lowerExpansions lowerRuns c with
      ⟨image, hmem, himage⟩ | ⟨run, hrun, hholds, himage⟩ | ⟨-, -, himage⟩
    · rw [himage] at h
      have hlength : image.length = 1 := by simpa using congrArg List.length h
      exact absurd hlength (lowerExpansions_length (c.toNat, image) hmem)
    · rw [himage] at h
      have hmoved := CaseRun.holds_image (lowerRuns_nonneg run hrun) hholds
      have hcode : d.toNat = (c.toNat + run.shift).toNat := by
        rw [← List.singleton_inj.1 h, toNat_ofNat (lowerRuns_valid run hrun _ hmoved)]
      exact isAlphabetic_of_covered ((covered_of_run hrun).2 (hcode ▸ hmoved))
    · rw [himage] at h
      rwa [← List.singleton_inj.1 h]

/-- What differs from a letter in case only is a letter. -/
theorem isAlphabetic_of_sameLetter (hc : isAlphabetic c = true) (h : sameLetter c d = true) :
    isAlphabetic d = true := by
  by_cases hd : lower d = [d]
  · exact isAlphabetic_of_lower_eq hc (((sameLetter_iff c d).1 h).trans hd)
  · exact isAlphabetic_of_lower_ne hd

/-- What is no letter is alike to itself only. -/
theorem eq_of_sameLetter (hd : isAlphabetic d = false) (h : sameLetter c d = true) : c = d := by
  have hself : ∀ {e : Char}, isAlphabetic e = false → lower e = [e] := fun he =>
    by_contra fun hne => Bool.false_ne_true (he.symm.trans (isAlphabetic_of_lower_ne hne))
  have hc : isAlphabetic c = false := Bool.eq_false_iff.2 fun hletter =>
    Bool.false_ne_true (hd.symm.trans (isAlphabetic_of_sameLetter hletter h))
  have hlower := (sameLetter_iff c d).1 h
  rw [hself hc, hself hd] at hlower
  exact List.singleton_inj.1 hlower

end Letters

end RuleLexer.Text
