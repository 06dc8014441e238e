import RuleLexer.Command
import RuleLexer.Proofs.StringLiterals

/-!
# Quoted text is read back

A quoted value is a literal: pieces between two quotes, each of which stands for one character. A
piece is a plain character, a backslash with a letter, or a code point in hexadecimal. What a
literal denotes is settled by its text, where it ends is settled by its first quote that is not
escaped, and the quoted form of a value denotes that value.
-/

namespace RuleLexer.Text

/-! ## Literals -/

/-- The number that hexadecimal digits continue `value` to. -/
def hexValue? (value : Nat) : List Char → Option Nat
  | [] => some value
  | d :: digits => (hexDigit? d).bind fun k => hexValue? (16 * value + k) digits

/-- Characters that a literal has in escaped form only, with the letters of their escapes. -/
def shortEscapes : List (Char × Char) :=
  [('0', '\x00'), ('t', '\t'), ('n', '\n'), ('r', '\r'), ('\\', '\\'), ('"', '"')]

/-- The part of a literal that stands for one character. -/
inductive Piece : List Char → Char → Prop where
  | plain {c : Char} (h : c ∉ shortEscapes.map (·.2)) : Piece [c] c
  | short {e c : Char} (h : (e, c) ∈ shortEscapes) : Piece ['\\', e] c
  | code {digits : List Char} {c : Char} (hne : digits ≠ []) (hlength : digits.length ≤ 6)
      (h : hexValue? 0 digits = some c.toNat) : Piece ('\\' :: 'u' :: '{' :: (digits ++ ['}'])) c

inductive LiteralBody : List Char → List Char → Prop where
  | nil : LiteralBody [] []
  | cons {piece body value : List Char} {c : Char} (hpiece : Piece piece c)
      (hbody : LiteralBody body value) : LiteralBody (piece ++ body) (c :: value)

/-- The literal stands for the value. -/
def Denotes (literal value : List Char) : Prop :=
  ∃ body, LiteralBody body value ∧ literal = '"' :: (body ++ ['"'])

/-! ## Hexadecimal digits -/

section Hexadecimal
variable {value n : Nat} {digits : List Char} {c d : Char}

theorem hexValue?_append (value : Nat) (as bs : List Char) :
    hexValue? value (as ++ bs) = (hexValue? value as).bind (hexValue? · bs) := by
  induction as generalizing value with
  | nil => rfl
  | cons a as ih =>
    rw [List.cons_append, hexValue?, hexValue?]
    cases hexDigit? a with
    | none => rfl
    | some k => exact ih (16 * value + k)

theorem hexDigit?_digitChar (h : n < 16) : hexDigit? n.digitChar = some n :=
  (by decide : ∀ i : Fin 16, hexDigit? i.val.digitChar = some i.val) ⟨n, h⟩

theorem hexValue?_toDigits (n : Nat) : hexValue? 0 (Nat.toDigits 16 n) = some n := by
  induction n using Nat.strong_induction_on with
  | _ n ih =>
    rw [Nat.toDigits_eq_if (by omega)]
    split
    · next hlt => simp [hexValue?, hexDigit?_digitChar hlt]
    · next hge =>
      have hdigit := hexDigit?_digitChar (Nat.mod_lt n (by omega : 16 > 0))
      rw [hexValue?_append, ih (n / 16) (by omega), Option.bind_some, hexValue?, hdigit,
        Option.bind_some, hexValue?, Nat.div_add_mod]

theorem isSome_hexDigit?_of_mem (h : hexValue? value digits = some n) (hd : d ∈ digits) :
    (hexDigit? d).isSome = true := by
  induction digits generalizing value with
  | nil => cases hd
  | cons a digits ih =>
    obtain ⟨k, hk, hrest⟩ := Option.bind_eq_some_iff.1 h
    rcases List.mem_cons.1 hd with rfl | hd
    · rw [hk, Option.isSome_some]
    · exact ih hrest hd

theorem ne_of_hexDigit? (hd : (hexDigit? d).isSome = true) (hc : hexDigit? c = none) : d ≠ c := by
  rintro rfl
  rw [hc] at hd
  cases hd

theorem length_toDigits_toNat (c : Char) : (Nat.toDigits 16 c.toNat).length ≤ 6 := by
  rw [Nat.length_toDigits_le_iff (by omega) (by omega)]
  have hvalid : c.toNat.isValidChar := c.valid
  rcases hvalid with hlt | ⟨-, hlt⟩ <;> omega

end Hexadecimal

/-! ## What is written -/

theorem mem_shortEscapes_of_lineEscape? {c e : Char} (h : lineEscape? c = some e) :
    (e, c) ∈ shortEscapes := by
  unfold lineEscape? at h
  split at h <;> cases h <;> decide

theorem lineEscape?_of_mem {c : Char} (h : c ∈ shortEscapes.map (·.2)) (hc : c ≠ '"') :
    (lineEscape? c).isSome = true := by
  simp only [shortEscapes, List.map_cons, List.map_nil, List.mem_cons, List.not_mem_nil,
    or_false] at h
  rcases h with rfl | rfl | rfl | rfl | rfl | rfl
  · rfl
  · rfl
  · rfl
  · rfl
  · rfl
  · exact absurd rfl hc

theorem codeEscape_piece (c : Char) : Piece (codeEscape c) c := by
  have hne : Nat.toDigits 16 c.toNat ≠ [] := List.length_pos_iff.1 Nat.length_toDigits_pos
  exact .code hne (length_toDigits_toNat c) (hexValue?_toDigits c.toNat)

theorem escapeChar_piece (c : Char) : Piece (escapeChar '"' c) c := by
  unfold escapeChar
  split
  · next hc => exact hc ▸ .short (by decide)
  · next hc =>
    cases he : lineEscape? c with
    | some e => exact .short (mem_shortEscapes_of_lineEscape? he)
    | none =>
      dsimp only
      split
      · exact codeEscape_piece c
      · refine .plain fun hmem => ?_
        have hsome := lineEscape?_of_mem hmem hc
        rw [he] at hsome
        cases hsome

theorem literalBody_flatMap (cs : List Char) : LiteralBody (cs.flatMap (escapeChar '"')) cs := by
  induction cs with
  | nil => exact .nil
  | cons c cs ih => exact .cons (escapeChar_piece c) ih

theorem quote_denotes (cs : List Char) : Denotes (quote '"' cs) cs :=
  ⟨_, literalBody_flatMap cs, rfl⟩

/-! ## What is read -/

section Reading
variable {piece body value digits rest : List Char} {c : Char} {n : Nat}

theorem unquoteFrom_digits {value : Nat} (h : hexValue? value digits = some n) :
    unquoteFrom (.digits value) (digits ++ '}' :: rest) =
      if n.isValidChar then (unquoteFrom .plain rest).map (Char.ofNat n :: ·) else none := by
  induction digits generalizing value with
  | nil =>
    cases h
    rw [List.nil_append, unquoteFrom, if_pos rfl]
  | cons d digits ih =>
    obtain ⟨k, hk, hrest⟩ := Option.bind_eq_some_iff.1 h
    have hd : d ≠ '}' := ne_of_hexDigit? (by rw [hk, Option.isSome_some]) rfl
    rw [List.cons_append, unquoteFrom, if_neg hd, hk]
    exact ih hrest

theorem unescape?_of_mem {e : Char} (h : (e, c) ∈ shortEscapes) :
    e ≠ 'u' ∧ unescape? e = some c :=
  (by decide : ∀ p ∈ shortEscapes, p.1 ≠ 'u' ∧ unescape? p.1 = some p.2) (e, c) h

/-- A piece is read as the one character that it stands for. -/
theorem Piece.unquoteFrom (h : Piece piece c) (rest : List Char) :
    unquoteFrom .plain (piece ++ rest) = (unquoteFrom .plain rest).map (c :: ·) := by
  cases h with
  | plain h =>
    have hne (d : Char) (hd : d ∈ shortEscapes.map (·.2)) : c ≠ d := fun heq => h (heq ▸ hd)
    rw [List.singleton_append, Text.unquoteFrom, if_neg (hne '\\' (by decide)),
      if_neg (hne '"' (by decide))]
  | short h =>
    obtain ⟨hu, hc⟩ := unescape?_of_mem h
    rw [List.cons_append, Text.unquoteFrom, if_pos rfl, List.singleton_append, Text.unquoteFrom,
      if_neg hu, hc]
  | code hne hlength h =>
    have hvalid : c.toNat.isValidChar := c.valid
    simp only [List.cons_append, List.append_assoc, List.nil_append]
    rw [Text.unquoteFrom, if_pos rfl, Text.unquoteFrom, if_pos rfl, Text.unquoteFrom, if_pos rfl,
      unquoteFrom_digits h, if_pos hvalid, Char.ofNat_toNat]

theorem LiteralBody.unquoteFrom (h : LiteralBody body value) :
    unquoteFrom .plain (body ++ ['"']) = some value := by
  induction h with
  | nil => rfl
  | cons hpiece _ ih => rw [List.append_assoc, hpiece.unquoteFrom, ih, Option.map_some]

/-- The reader finds what a literal stands for. -/
theorem Denotes.unquote {literal : List Char} (h : Denotes literal value) :
    unquote literal = some value := by
  obtain ⟨body, hbody, rfl⟩ := h
  exact hbody.unquoteFrom

end Reading

/-! ## Where a literal ends -/

section Ends
variable {piece body value front : List Char} {c d : Char}

theorem stringBody_append (hfront : ∀ d ∈ front, d ≠ '\\' ∧ d ≠ '"')
    (hbody : StringBody (some '\\') '"' body) : StringBody (some '\\') '"' (front ++ body) := by
  induction front with
  | nil => exact hbody
  | cons d front ih =>
    obtain ⟨hd, hrest⟩ := List.forall_mem_cons.1 hfront
    exact .plain (fun heq => hd.1 (Option.some.inj heq).symm) hd.2 (ih hrest)

theorem Piece.stringBody (h : Piece piece c) (hbody : StringBody (some '\\') '"' body) :
    StringBody (some '\\') '"' (piece ++ body) := by
  cases h with
  | plain h =>
    have hne (d : Char) (hd : d ∈ shortEscapes.map (·.2)) : c ≠ d := fun heq => h (heq ▸ hd)
    exact .plain (fun heq => hne '\\' (by decide) (Option.some.inj heq).symm)
      (hne '"' (by decide)) hbody
  | @short e _ h => exact .escaped e rfl hbody
  | @code digits _ hne hlength h =>
    have hdigits : ∀ d ∈ '{' :: (digits ++ ['}']), d ≠ '\\' ∧ d ≠ '"' := by
      intro d hd
      rcases List.mem_cons.1 hd with rfl | hd
      · decide
      · rcases List.mem_append.1 hd with hd | hd
        · have hsome := isSome_hexDigit?_of_mem h hd
          exact ⟨ne_of_hexDigit? hsome rfl, ne_of_hexDigit? hsome rfl⟩
        · rw [List.mem_singleton.1 hd]
          decide
    exact .escaped 'u' rfl (stringBody_append hdigits hbody)

theorem LiteralBody.stringBody (h : LiteralBody body value) :
    StringBody (some '\\') '"' body := by
  induction h with
  | nil => exact .nil
  | cons hpiece _ ih => exact hpiece.stringBody ih

/-- No quote in a literal is its end but the last, and each backslash takes what follows along. -/
theorem Denotes.isStringLiteral {literal : List Char} (h : Denotes literal value) :
    IsStringLiteral (some '\\') '"' literal := by
  obtain ⟨body, hbody, rfl⟩ := h
  exact ⟨body, hbody.stringBody, rfl⟩

/-- A literal is known by any text that it starts, and so are its value and the rest of the text. -/
theorem Denotes.inj {literal literal' value' rest rest' : List Char} (h : Denotes literal value)
    (h' : Denotes literal' value') (heq : literal ++ rest = literal' ++ rest') :
    value = value' ∧ rest = rest' := by
  have hsame : literal = literal' :=
    h.isStringLiteral.unique (by decide) ⟨rest, rfl⟩ h'.isStringLiteral ⟨rest', heq.symm⟩
  subst hsame
  have hvalue : some value = some value' := h.unquote.symm.trans h'.unquote
  exact ⟨Option.some.inj hvalue, List.append_cancel_left heq⟩

end Ends

/-! ## Characters that break the line -/

def rawControls : List Char := ['\n', '\r', '\t', '\x00']

theorem hexDigit?_of_mem_rawControls {c : Char} (h : c ∈ rawControls) : hexDigit? c = none := by
  simp only [rawControls, List.mem_cons, List.not_mem_nil, or_false] at h
  rcases h with rfl | rfl | rfl | rfl <;> rfl

theorem Piece.not_raw {piece : List Char} {c d : Char} (h : Piece piece c) (hd : d ∈ piece) :
    d ∉ rawControls := by
  cases h with
  | plain h =>
    rw [List.mem_singleton.1 hd]
    exact fun hmem => h ((by decide : rawControls ⊆ shortEscapes.map (·.2)) hmem)
  | @short e _ h =>
    rcases List.mem_pair.1 hd with rfl | rfl
    · decide
    · exact (by decide : ∀ p ∈ shortEscapes, p.1 ∉ rawControls) _ h
  | @code digits _ hne hlength h =>
    have hdigit (hd : d ∈ digits) : d ∉ rawControls := by
      intro hmem
      obtain ⟨n, hn⟩ := Option.isSome_iff_exists.1 (isSome_hexDigit?_of_mem h hd)
      rw [hexDigit?_of_mem_rawControls hmem] at hn
      cases hn
    rcases List.mem_cons.1 hd with rfl | hd
    · decide
    rcases List.mem_cons.1 hd with rfl | hd
    · decide
    rcases List.mem_cons.1 hd with rfl | hd
    · decide
    rcases List.mem_append.1 hd with hd | hd
    · exact hdigit hd
    · rw [List.mem_singleton.1 hd]
      decide

theorem LiteralBody.not_raw {body value : List Char} {d : Char} (h : LiteralBody body value)
    (hd : d ∈ body) : d ∉ rawControls := by
  induction h with
  | nil => cases hd
  | cons hpiece _ ih => exact (List.mem_append.1 hd).elim hpiece.not_raw ih

theorem Denotes.not_raw {literal value : List Char} {d : Char} (h : Denotes literal value)
    (hd : d ∈ literal) : d ∉ rawControls := by
  obtain ⟨body, hbody, rfl⟩ := h
  have hquote : '"' ∉ rawControls := by decide
  rcases List.mem_cons.1 hd with rfl | hd
  · exact hquote
  · rcases List.mem_append.1 hd with hd | hd
    · exact hbody.not_raw hd
    · rw [List.mem_singleton.1 hd]
      exact hquote

end RuleLexer.Text

namespace RuleLexer
open Text

theorem quoteString_denotes (v : String) : Denotes (quoteString v).toList v.toList := by
  rw [quoteString, String.toList_ofList]
  exact quote_denotes v.toList

/-- A quoted value can be read off any text that has it behind a known front. -/
theorem quoteString_inj {front v w back back' : String}
    (h : front ++ quoteString v ++ back = front ++ quoteString w ++ back') :
    v = w ∧ back = back' := by
  have htext := congrArg String.toList h
  simp only [String.toList_append, List.append_assoc, List.append_cancel_left_eq] at htext
  obtain ⟨hvalue, hback⟩ := (quoteString_denotes v).inj (quoteString_denotes w) htext
  exact ⟨String.toList_inj.1 hvalue, String.toList_inj.1 hback⟩

/-! ## Where values are printed -/

/-- The line declares the constant, with a literal for its value. -/
def Constant.DeclaredBy (c : Constant) (declaration : String) : Prop :=
  ∃ literal : String, Denotes literal.toList c.value.toList ∧
    declaration = "pub const " ++ c.name ++ ": &str = " ++ literal ++ ";\n"

theorem Constant.declaredBy_render (c : Constant) : c.DeclaredBy c.render :=
  ⟨quoteString c.value, quoteString_denotes c.value, rfl⟩

theorem Constant.DeclaredBy.value_eq {c c' : Constant} {declaration : String}
    (h : c.DeclaredBy declaration) (h' : c'.DeclaredBy declaration) (hname : c.name = c'.name) :
    c.value = c'.value := by
  obtain ⟨literal, hliteral, heq⟩ := h
  obtain ⟨literal', hliteral', heq'⟩ := h'
  rw [heq, hname] at heq'
  have htext := congrArg String.toList heq'
  simp only [String.toList_append, List.append_assoc, List.append_cancel_left_eq] at htext
  exact String.toList_inj.1 (hliteral.inj hliteral' htext).1

theorem Token.value_eq_of_render_eq {t t' : Token} {s s' : Source} (hkind : t.kind = t'.kind)
    (hsubkind : t.subkind = t'.subkind) (h : t.render s = t'.render s') :
    t.value s = t'.value s' := by
  have hrender (t : Token) (s : Source) : t.render s =
      "[ " ++ t.kind ++ " " ++ t.subkind ++ " " ++ quoteString (t.value s) ++
        (" " ++ t.location.render ++ " ]") := by
    simp only [render, String.append_assoc]
    rfl
  rw [hrender, hrender, hkind, hsubkind] at h
  exact (quoteString_inj h).1

theorem Command.value_eq_of_tokenLine_eq {r : Rules} {t t' : Token} {s s' : Source}
    (hlocation : t.location = t'.location)
    (hlabel : t.label r.subkindDelimiter = t'.label r.subkindDelimiter)
    (h : tokenLine r s t = tokenLine r s' t') : t.value s = t'.value s' := by
  have htokenLine (t : Token) (s : Source) : tokenLine r s t =
      t.location.render ++ "\t" ++ t.label r.subkindDelimiter ++ "\t" ++
        quoteString (t.value s) ++ "\n" := rfl
  rw [htokenLine, htokenLine, hlocation, hlabel] at h
  exact (quoteString_inj h).1

/-- A quoted value is a literal that denotes that value and no other. It stays on its line, it ends
at its first quote without an escape, and wherever one is printed the value can be read back. -/
theorem quoteString_reads_back (v : String) :
    (∀ value, Denotes (quoteString v).toList value ↔ value = v.toList) ∧
      unquote (quoteString v).toList = some v.toList ∧
      IsStringLiteral (some '\\') '"' (quoteString v).toList ∧
      (∀ c ∈ (quoteString v).toList, c ∉ rawControls) ∧
      (∀ w, quoteString v = quoteString w → v = w) ∧
      (∀ name value, (Constant.mk name value).DeclaredBy (Constant.mk name v).render ↔ value = v) ∧
      (∀ (t t' : Token) (s s' : Source), t.kind = t'.kind → t.subkind = t'.subkind →
        t.value s = v → t.render s = t'.render s' → t'.value s' = v) ∧
      ∀ (r : Rules) (t t' : Token) (s s' : Source), t.location = t'.location →
        t.label r.subkindDelimiter = t'.label r.subkindDelimiter → t.value s = v →
        Command.tokenLine r s t = Command.tokenLine r s' t' → t'.value s' = v := by
  have hv := quoteString_denotes v
  refine ⟨?_, hv.unquote, hv.isStringLiteral, fun c => hv.not_raw, ?_, ?_, ?_, ?_⟩
  · intro value
    constructor
    · intro h
      exact Option.some.inj (h.unquote.symm.trans hv.unquote)
    · rintro rfl
      exact hv
  · intro w h
    have hsame : (quoteString v).toList ++ [] = (quoteString w).toList ++ [] := by rw [h]
    exact String.toList_inj.1 (hv.inj (quoteString_denotes w) hsame).1
  · intro name value
    constructor
    · intro h
      exact h.value_eq (Constant.declaredBy_render ⟨name, v⟩) rfl
    · rintro rfl
      exact Constant.declaredBy_render ⟨name, value⟩
  · rintro t t' s s' hkind hsubkind rfl h
    exact (Token.value_eq_of_render_eq hkind hsubkind h).symm
  · rintro r t t' s s' hlocation hlabel rfl h
    exact (Command.value_eq_of_tokenLine_eq hlocation hlabel h).symm

end RuleLexer
