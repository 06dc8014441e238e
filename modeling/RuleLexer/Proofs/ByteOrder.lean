import Mathlib.Data.String.Basic
import RuleLexer.Proofs.OrderedMap

/-!
# The order of texts

Texts are compared character by character. This is also the order of their UTF-8 encodings, byte by
byte: of two characters the greater one has the greater encoding, and neither encoding starts with
the other. So the keys of a map from texts stand in the order of their bytes.
-/

namespace RuleLexer

namespace Text
open String (utf8EncodeChar)

/-- The bytes of the UTF-8 encoding. -/
def bytes (s : String) : List UInt8 := s.toUTF8.data.toList

theorem bytes_eq (s : String) : bytes s = s.toList.flatMap utf8EncodeChar := by
  have hencode : s.toUTF8 = s.toList.utf8Encode := by
    rw [String.toUTF8_eq_toByteArray, ← String.toByteArray_ofList, String.ofList_toList]
  rw [bytes, hencode, List.utf8Encode, List.data_toByteArray]

theorem ofNat_lt_iff {m n : Nat} (hm : m < 256) (hn : n < 256) :
    UInt8.ofNat m < UInt8.ofNat n ↔ m < n := by
  rw [UInt8.lt_iff_toNat_lt, UInt8.toNat_ofNat', UInt8.toNat_ofNat', Nat.mod_eq_of_lt hm,
    Nat.mod_eq_of_lt hn]

theorem ofNat_eq_iff {m n : Nat} (hm : m < 256) (hn : n < 256) :
    UInt8.ofNat m = UInt8.ofNat n ↔ m = n := by
  rw [← UInt8.toNat_inj, UInt8.toNat_ofNat', UInt8.toNat_ofNat', Nat.mod_eq_of_lt hm,
    Nat.mod_eq_of_lt hn]

/-- The encodings differ in some byte, so what follows them does not matter. -/
theorem encodeChar_append_lt {c d : Char} (h : c < d) (x y : List UInt8) :
    utf8EncodeChar c ++ x < utf8EncodeChar d ++ y := by
  have hlt : c.val.toNat < d.val.toNat := h
  have hmax : d.val.toNat < 0x110000 := by
    have hvalid := d.valid
    simp only [UInt32.isValidChar, Nat.isValidChar] at hvalid
    omega
  -- Each byte holds one digit to the base 64, and the digits are those of repeated division.
  have htwo (n : Nat) : n / 4096 = n / 64 / 64 := (Nat.div_div_eq_div_mul n 64 64).symm
  have hthree (n : Nat) : n / 262144 = n / 64 / 64 / 64 := by
    rw [Nat.div_div_eq_div_mul, Nat.div_div_eq_div_mul]
  unfold utf8EncodeChar
  generalize c.val.toNat = m at hlt
  generalize d.val.toNat = n at hlt hmax
  simp only [htwo, hthree]
  -- The two characters may take a different number of bytes.
  split_ifs
  all_goals
    simp (disch := omega) only [List.cons_append, List.nil_append, List.cons_lt_cons_iff,
      ofNat_lt_iff, ofNat_eq_iff]
    omega

theorem append_lt_append_left {z x y : List UInt8} (h : x < y) : z ++ x < z ++ y := by
  induction z with
  | nil => exact h
  | cons b z ih => exact List.cons_lt_cons_iff.2 (.inr ⟨rfl, ih⟩)

theorem encode_lt {cs ds : List Char} (h : cs < ds) :
    cs.flatMap utf8EncodeChar < ds.flatMap utf8EncodeChar := by
  induction cs generalizing ds with
  | nil =>
    cases ds with
    | nil => exact absurd h (List.not_lt_nil _)
    | cons d ds =>
      obtain ⟨b, rest, hd⟩ := List.exists_cons_of_ne_nil (String.utf8EncodeChar_ne_nil (c := d))
      rw [List.flatMap_nil, List.flatMap_cons, hd]
      exact List.nil_lt_cons ..
  | cons c cs ih =>
    cases ds with
    | nil => exact absurd h (List.not_lt_nil _)
    | cons d ds =>
      rw [List.flatMap_cons, List.flatMap_cons]
      rcases List.cons_lt_cons_iff.1 h with hcd | ⟨rfl, hrest⟩
      · exact encodeChar_append_lt hcd _ _
      · exact append_lt_append_left (ih hrest)

/-- Comparing texts by characters and by bytes gives the same order. -/
theorem bytes_lt_iff {s t : String} : bytes s < bytes t ↔ s < t := by
  have hlt {s t : String} (h : s < t) : bytes s < bytes t := by
    rw [bytes_eq, bytes_eq]
    exact encode_lt (String.lt_iff_toList_lt.1 h)
  refine ⟨fun h => ?_, hlt⟩
  rcases lt_trichotomy s t with hst | rfl | hts
  · exact hst
  · exact absurd h (List.lt_irrefl _)
  · exact absurd h (List.lt_asymm (hlt hts))

theorem bytes_le_iff {s t : String} : bytes s ≤ bytes t ↔ s ≤ t :=
  (not_congr bytes_lt_iff).trans not_lt

theorem compare_eq_lt_iff {s t : String} : compare s t = .lt ↔ bytes s < bytes t :=
  compare_lt_iff_lt.trans bytes_lt_iff.symm

/-- The texts of a list, sorted by their bytes. -/
def inByteOrder (l : List String) : List String := l.mergeSort fun s t => bytes s ≤ bytes t

theorem inByteOrder_pairwise (l : List String) : (inByteOrder l).Pairwise (· ≤ ·) := by
  refine (List.pairwise_mergeSort ?_ ?_ l).imp fun hst => bytes_le_iff.1 (of_decide_eq_true hst)
  · intro s t u hst htu
    simp only [decide_eq_true_iff, bytes_le_iff] at hst htu ⊢
    exact hst.trans htu
  · intro s t
    simpa [bytes_le_iff] using le_total s t

/-- Sorting finds the one list of these texts that is in the order of their bytes. -/
theorem inByteOrder_eq {l l' : List String} (h : l.Perm l')
    (hl' : l'.Pairwise fun s t => bytes s < bytes t) : inByteOrder l = l' := by
  have hordered : l'.Pairwise (· ≤ ·) := hl'.imp fun hst => (bytes_lt_iff.1 hst).le
  exact List.Perm.eq_of_pairwise (fun _ _ _ _ => le_antisymm) (inByteOrder_pairwise l) hordered
    ((List.mergeSort_perm l _).trans h)

end Text

open Text in
/-- The keys of a map stand in the order of their bytes. -/
theorem OrderedMap.keys_pairwise_bytes {β : Type} (m : OrderedMap String β) :
    m.keys.Pairwise fun a b => bytes a < bytes b :=
  List.pairwise_map.2 (m.sorted.imp compare_eq_lt_iff.1)

end RuleLexer
