import RuleLexer.Source

/-!
# Cuts of a text

A byte offset is a cut when it falls between two characters or at an end of the text. Slicing
between two cuts gives the characters between them.
-/

namespace RuleLexer

namespace Text
variable {n : Nat} {cs : List Char}

def IsCut (cs : List Char) (n : Nat) : Prop :=
  ∃ before after, cs = before ++ after ∧ byteLength before = n

theorem byteLength_pos (h : cs ≠ []) : 0 < byteLength cs := by
  obtain ⟨c, rest, rfl⟩ := List.exists_cons_of_ne_nil h
  have hc := c.utf8Size_pos
  rw [byteLength_cons]
  omega

theorem IsCut.le_byteLength (h : IsCut cs n) : n ≤ byteLength cs := by
  obtain ⟨before, after, rfl, rfl⟩ := h
  rw [byteLength_append]
  omega

theorem dropBytes_add (as bs : List Char) (n : Nat) :
    dropBytes (byteLength as + n) (as ++ bs) = dropBytes n bs := by
  induction as with
  | nil => simp
  | cons c cs ih =>
    obtain ⟨k, hk⟩ : ∃ k, byteLength (c :: cs) + n = k + 1 :=
      ⟨byteLength (c :: cs) + n - 1, by have := byteLength_pos (List.cons_ne_nil c cs); omega⟩
    have hle : c.utf8Size ≤ k + 1 := by rw [byteLength_cons] at hk; omega
    have hsub : k + 1 - c.utf8Size = byteLength cs + n := by rw [byteLength_cons] at hk; omega
    rw [hk, List.cons_append, dropBytes, if_pos hle, hsub, ih]

/-- The characters between two cuts. -/
theorem sliceBytes_append (before part after : List Char) :
    sliceBytes (byteLength before) (byteLength before + byteLength part)
      (before ++ (part ++ after)) = some part := by
  rw [sliceBytes, if_pos (Nat.le_add_right _ _), dropBytes_byteLength, Option.bind_some,
    Nat.add_sub_cancel_left, takeBytes_byteLength]

end Text

namespace Source
open Text

@[simp] theorem chars_loaded (name text : String) : (loaded name text).chars = text.toList := rfl

theorem slice?_loaded {name text : String} {before part after : List Char}
    (h : text.toList = before ++ (part ++ after)) :
    (loaded name text).slice? (byteLength before) (byteLength before + byteLength part) =
      some (String.ofList part) := by
  simp [slice?, loaded, h, sliceBytes_append]

theorem get?_loaded {name text : String} {before after : List Char}
    (h : text.toList = before ++ after) :
    (loaded name text).get? (byteLength before) = after.head? := by
  simp [get?, loaded, h, dropBytes_byteLength]

end Source

end RuleLexer
