import RuleLexer.Proofs.Scan

/-!
# Rules that scan alike

The places of the lexemes come from a few of the rules only. When two rules take the same lexemes,
but for what they say about them, their scans go in lockstep: the lexemes end at the same places and
the scans fail alike.
-/

namespace RuleLexer
open Text

theorem takenBy_map {f : Lexeme → Lexeme} (hf : ∀ l, (f l).taken = l.taken) (ls : List Lexeme) :
    takenBy (ls.map f) = takenBy ls := by
  rw [takenBy, List.flatMap_map, funext hf]
  rfl

theorem NumberBase.accepts_congr {b b' : NumberBase} (h : b'.digits = b.digits) :
    b'.accepts = b.accepts := by
  funext c
  rw [accepts, h, accepts]

theorem NumberBase.radix_congr {b b' : NumberBase} (h : b'.digits = b.digits) :
    b'.radix = b.radix := by
  rw [radix, h, radix]

namespace Rules
variable {r r' : Rules}

/-! ## Numbers -/

theorem splitDecimal_congr (hseparator : r'.isSeparator = r.isSeparator)
    (hboundary : r'.isBoundary = r.isBoundary) (part : DecimalPart) (cs : List Char) :
    r'.splitDecimal part cs = r.splitDecimal part cs := by
  induction cs generalizing part with
  | nil => rw [splitDecimal, splitDecimal]
  | cons c cs ih =>
    cases part <;> simp only [splitDecimal, hseparator, hboundary, ih]

theorem splitBased_congr (hseparator : r'.isSeparator = r.isSeparator)
    (hboundary : r'.isBoundary = r.isBoundary) {b b' : NumberBase} (hb : b'.digits = b.digits)
    (cs : List Char) : r'.splitBased b' cs = r.splitBased b cs := by
  induction cs with
  | nil => rfl
  | cons c cs ih =>
    simp only [splitBased, hseparator, hboundary, NumberBase.accepts_congr hb,
      NumberBase.radix_congr hb, ih]

/-! ## Scans -/

/-- The scans go in lockstep when all lexemes do. -/
theorem scan_map {order order' : List CharClass} {f : Lexeme → Lexeme}
    (hf : ∀ l, (f l).rest = l.rest)
    (h : ∀ c cs, r'.lexeme order' c cs = (r.lexeme order c cs).map f) (cs : List Char) :
    r'.scan order' cs = ⟨(r.scan order cs).lexemes.map f, (r.scan order cs).failure⟩ := by
  fun_induction scan r order cs with
  | case1 =>
    rw [scan_nil]
    rfl
  | case2 c rest g hg =>
    have hlexeme := h c rest
    rw [hg] at hlexeme
    rw [scan_of_error hlexeme]
    rfl
  | case3 c rest l hl _ s ih =>
    have hlexeme := h c rest
    rw [hl] at hlexeme
    rw [scan_of_ok hlexeme, hf, ih, List.map_cons]

theorem scan_congr {order order' : List CharClass}
    (h : ∀ c cs, r'.lexeme order' c cs = r.lexeme order c cs) (cs : List Char) :
    r'.scan order' cs = r.scan order cs := by
  have hid : ∀ c cs, r'.lexeme order' c cs = (r.lexeme order c cs).map id := by
    intro c cs
    rw [h, Except.map_id, id]
  have hrest : ∀ l : Lexeme, (id l).rest = l.rest := fun _ => rfl
  rw [scan_map hrest hid, List.map_id]

end Rules

end RuleLexer
