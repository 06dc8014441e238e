import RuleLexer.Proofs.Alike
import RuleLexer.Proofs.Consistency
import RuleLexer.Proofs.Sample

/-!
# The order of the classes

Under valid rules a character belongs to one class at most. So the order in which the classes are
tried does not matter, as long as each of them is tried.
-/

namespace RuleLexer

theorem CharClass.mem_precedence (cls : CharClass) : cls ∈ precedence := by
  cases cls <;> simp [precedence]

namespace Rules
variable {r : Rules} {order order' : List CharClass} {c : Char}

/-- The tokens of a source, when classes are tried in the given order. -/
def tokenizeIn (r : Rules) (order : List CharClass) (s : Source) :
    Except LexError (List Token) :=
  match s.text? with
  | some text => r.tokensIn order text.toList
  | none => .error ⟨.sourceNotLoaded, none, .start [], none⟩

theorem find?_belongs_eq_some_iff (hv : r.validate = .ok ()) (horder : ∀ cls, cls ∈ order)
    {cls : CharClass} : order.find? (r.belongs c) = some cls ↔ r.belongs c cls = true := by
  rw [find?_eq_some_iff_of_unique fun _ _ _ _ hc hc' => belongs_unique hv hc hc']
  exact and_iff_right (horder cls)

theorem lexeme_any_order (hv : r.validate = .ok ()) (horder : ∀ cls, cls ∈ order)
    (horder' : ∀ cls, cls ∈ order') (c : Char) (cs : List Char) :
    r.lexeme order' c cs = r.lexeme order c cs := by
  have hfind : order'.find? (r.belongs c) = order.find? (r.belongs c) := by
    apply Option.ext
    intro cls
    rw [find?_belongs_eq_some_iff hv horder', find?_belongs_eq_some_iff hv horder]
  rw [lexeme, hfind, lexeme]

theorem tokensIn_any_order (hv : r.validate = .ok ()) (horder : ∀ cls, cls ∈ order)
    (horder' : ∀ cls, cls ∈ order') (text : List Char) :
    r.tokensIn order' text = r.tokensIn order text := by
  rw [tokensIn, tokensIn, tokensFrom_eq_scan, tokensFrom_eq_scan,
    scan_congr (lexeme_any_order hv horder horder')]

end Rules

/-- Of the six classes at most one holds a character, and a scan that tries them in another order
gives the same tokens or the same error. -/
theorem tokenize_any_order {r : Rules} (hv : r.validate = .ok ()) :
    (∀ c cls cls', r.belongs c cls = true → r.belongs c cls' = true → cls = cls') ∧
      ∀ order, order.Perm CharClass.precedence → ∀ s, r.tokenizeIn order s = r.tokenize s := by
  constructor
  · intro c cls cls' hc hc'
    exact Rules.belongs_unique hv hc hc'
  · intro order horder s
    unfold Rules.tokenizeIn Rules.tokenize
    cases s.text? with
    | none => rfl
    | some text =>
      have hall : ∀ cls, cls ∈ order := fun cls => horder.mem_iff.2 cls.mem_precedence
      exact Rules.tokensIn_any_order hv CharClass.mem_precedence hall text.toList

theorem tokenize_any_order_reverse :
    Rules.sample.validate = .ok () ∧
      (∃ tokens, Rules.sample.tokenizeIn CharClass.precedence.reverse Source.sample = .ok tokens ∧
        tokens.length = 10 ∧ Rules.sample.tokenize Source.sample = .ok tokens) ∧
      ∀ cls cls', Rules.sample.belongs '/' cls = true → Rules.sample.belongs '/' cls' = true →
        cls = cls' := by
  have hv : Rules.sample.validate = .ok () := Rules.validate_eq_ok_iff.2 (by decide +kernel)
  have hcount : (Rules.sample.tokenize Source.sample).toOption.map List.length =
      some 10 := by decide +kernel
  obtain ⟨hunique, horder⟩ := tokenize_any_order hv
  obtain ⟨tokens, htokens, hlength⟩ := exists_tokens_of_length hcount
  refine ⟨hv, ⟨tokens, ?_, hlength, htokens⟩, hunique '/'⟩
  rw [horder _ (List.reverse_perm _), htokens]

end RuleLexer
