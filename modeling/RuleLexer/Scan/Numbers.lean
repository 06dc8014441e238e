import RuleLexer.Rules.Basic
import RuleLexer.Scan.Lexeme

/-!
# Numbers

A number is written in a base of its own behind a zero and the letter of the base, or in decimal. A
decimal number may have one point, and a suffix that starts with a letter. Separators may stand
between the digits of both. A number ends before the first boundary character that it cannot use;
any other character behind it is an error.
-/

namespace RuleLexer
open Text

/-- A decimal number split into digits, suffix and what follows. -/
structure DecimalParts where
  digits : List Char
  suffix : List Char
  rest : List Char
  hasPoint : Bool

inductive DecimalPart where
  | whole
  | fraction
  | suffix
  deriving DecidableEq

def badDigit (c : Char) (hint : Option String) : Failure := ⟨.invalidNumber, [], some c, hint⟩

namespace Rules

def isSeparator (r : Rules) (c : Char) : Bool := r.numbers.separator == some c

/-- Splits a decimal number from the given part on. -/
def splitDecimal (r : Rules) : DecimalPart → List Char → Except Failure DecimalParts
  | _, [] => .ok ⟨[], [], [], false⟩
  | .suffix, c :: cs =>
    if isWordChar c then
      ((r.splitDecimal .suffix cs).map fun d => { d with suffix := c :: d.suffix }).mapError
        (·.behind c)
    else if r.isBoundary c then .ok ⟨[], [], c :: cs, false⟩
    else .error (badDigit c none)
  | part, c :: cs =>
    if c.isDigit || r.isSeparator c then
      ((r.splitDecimal part cs).map fun d => { d with digits := c :: d.digits }).mapError
        (·.behind c)
    else if c = '.' then
      if part = .fraction then .error (badDigit c (some "second decimal point"))
      else
        ((r.splitDecimal .fraction cs).map fun d =>
          { d with digits := c :: d.digits, hasPoint := true }).mapError (·.behind c)
    else if isAlphabetic c then
      ((r.splitDecimal .suffix cs).map fun d => { d with suffix := c :: d.suffix }).mapError
        (·.behind c)
    else if r.isBoundary c then .ok ⟨[], [], c :: cs, false⟩
    else .error (badDigit c none)

/-- Splits the digits of base `b` and the separators among them from what follows. -/
def splitBased (r : Rules) (b : NumberBase) : List Char → Except Failure (List Char × List Char)
  | [] => .ok ([], [])
  | c :: cs =>
    if b.accepts c || r.isSeparator c then
      ((r.splitBased b cs).map fun (digits, rest) => (c :: digits, rest)).mapError (·.behind c)
    else if c = '.' then .error (badDigit c (some s!"no fractional part in base {b.radix}"))
    else if r.isBoundary c then .ok ([], c :: cs)
    else .error (badDigit c (some s!"not a base {b.radix} digit"))

theorem ok_of_mapError_map {ε ε' α β : Type} {x : Except ε α} {f : α → β} {g : ε → ε'} {b : β}
    (h : (x.map f).mapError g = .ok b) : ∃ a, x = .ok a ∧ f a = b := by
  cases x with
  | error e => cases h
  | ok a => exact ⟨a, rfl, Except.ok.inj h⟩

/-- In the suffix all characters taken are suffix characters. -/
theorem digits_eq_nil_of_splitDecimal_suffix {r : Rules} {cs : List Char} {d : DecimalParts}
    (h : r.splitDecimal .suffix cs = .ok d) : d.digits = [] := by
  induction cs generalizing d with
  | nil =>
    cases h
    rfl
  | cons c cs ih =>
    rw [splitDecimal] at h
    split at h
    · obtain ⟨e, he, rfl⟩ := ok_of_mapError_map h
      exact ih (d := e) he
    · split at h
      · cases h
        rfl
      · cases h

theorem splitDecimal_append {r : Rules} {part : DecimalPart} {cs : List Char} {d : DecimalParts}
    (h : r.splitDecimal part cs = .ok d) : d.digits ++ d.suffix ++ d.rest = cs := by
  fun_induction splitDecimal r part cs generalizing d with
  | case1 => cases h; rfl
  | case2 c cs _ ih =>
    obtain ⟨e, he, rfl⟩ := ok_of_mapError_map h
    have hs := ih he
    rw [digits_eq_nil_of_splitDecimal_suffix he] at hs
    simp [digits_eq_nil_of_splitDecimal_suffix he, ← hs]
  | case3 => cases h; rfl
  | case4 => cases h
  | case5 part c cs _ _ ih =>
    obtain ⟨e, he, rfl⟩ := ok_of_mapError_map h
    simp [← ih he]
  | case6 => cases h
  | case7 part cs _ _ _ ih =>
    obtain ⟨e, he, rfl⟩ := ok_of_mapError_map h
    simp [← ih he]
  | case8 part c cs _ _ _ _ ih =>
    obtain ⟨e, he, rfl⟩ := ok_of_mapError_map h
    have hs := ih he
    rw [digits_eq_nil_of_splitDecimal_suffix he] at hs
    simp [digits_eq_nil_of_splitDecimal_suffix he, ← hs]
  | case9 => cases h; rfl
  | case10 => cases h

theorem splitBased_append {r : Rules} {b : NumberBase} {cs digits rest : List Char}
    (h : r.splitBased b cs = .ok (digits, rest)) : digits ++ rest = cs := by
  fun_induction splitBased r b cs generalizing digits rest with
  | case1 => cases h; rfl
  | case2 c cs _ ih =>
    obtain ⟨⟨ds, rs⟩, hd, hr⟩ := ok_of_mapError_map h
    obtain ⟨rfl, rfl⟩ := Prod.mk.inj hr
    simp [ih hd]
  | case3 => cases h
  | case4 => cases h; rfl
  | case5 => cases h

def decimalLexeme (r : Rules) (cs : List Char) : Except Failure Lexeme :=
  (r.splitDecimal .whole cs).map fun d =>
    let subkind := if d.hasPoint then r.numbers.floatSubkind else r.numbers.subkind
    ⟨d.digits ++ d.suffix, d.rest, some ⟨r.kinds.number, subkind, 10, String.ofList d.suffix⟩⟩

/-- A number with a base letter; `cs` follows the letter. -/
def basedLexeme (r : Rules) (letter : Char) (b : NumberBase) (cs : List Char) :
    Except Failure Lexeme :=
  match r.splitBased b cs with
  | .error f => .error ((f.behind letter).behind '0')
  | .ok (digits, rest) =>
    let taken := '0' :: letter :: digits
    if digits.any b.accepts then
      .ok ⟨taken, rest, some ⟨r.kinds.number, b.subkind, b.radix, ""⟩⟩
    else .error ⟨.invalidNumber, taken, rest.head?, some "expected digits after the base prefix"⟩

/-- The base that a zero and the letter behind it call for. -/
def basePrefix? (r : Rules) : List Char → Option (Char × NumberBase × List Char)
  | '0' :: letter :: cs => (r.numbers.base? letter).map fun b => (letter, b, cs)
  | _ => none

/-- The number at the head of `cs`, which starts with a digit. -/
def numberLexeme (r : Rules) (cs : List Char) : Except Failure Lexeme :=
  match r.basePrefix? cs with
  | some (letter, b, rest) => r.basedLexeme letter b rest
  | none => r.decimalLexeme cs

theorem basePrefix?_eq_some {r : Rules} {cs rest : List Char} {letter : Char} {b : NumberBase}
    (h : r.basePrefix? cs = some (letter, b, rest)) : cs = '0' :: letter :: rest := by
  unfold basePrefix? at h
  split at h
  · simp only [Option.map_eq_some_iff, Prod.mk.injEq] at h
    obtain ⟨_, _, rfl, _, rfl⟩ := h
    rfl
  · cases h

theorem numberLexeme_splits {r : Rules} {c : Char} {cs : List Char} {l : Lexeme}
    (hc : c.isDigit = true) (h : r.numberLexeme (c :: cs) = .ok l) : l.Splits (c :: cs) := by
  rw [numberLexeme] at h
  split at h
  · next letter b rest hb =>
    rw [basedLexeme] at h
    split at h
    · cases h
    · next digits rest' hs =>
      dsimp only at h
      split at h
      · cases h
        exact ⟨by simp [basePrefix?_eq_some hb, splitBased_append hs], by simp⟩
      · cases h
  · rw [decimalLexeme] at h
    cases hd : r.splitDecimal .whole (c :: cs) with
    | error f => rw [hd] at h; cases h
    | ok d =>
      rw [hd] at h
      cases h
      refine ⟨by simpa using splitDecimal_append hd, ?_⟩
      rw [splitDecimal] at hd
      · rw [if_pos (by simp [hc])] at hd
        obtain ⟨e, _, rfl⟩ := ok_of_mapError_map hd
        simp
      · simp

end Rules

end RuleLexer
