import RuleLexer.Proofs.ClassOrder
import RuleLexer.Proofs.Failures
import RuleLexer.Proofs.Tokens

/-!
# The rest of a run

A run that has taken some of its text stands in front of the rest. `Rules.tokensBehind` is what it
gives from there on. One lexeme is taken off the rest and the run goes on behind it, or the run ends
with an error; the places of both are read off the text. Under valid rules the first character alone
settles which scanner takes the lexeme.
-/

namespace RuleLexer
open Text

/-- The token that stands at `part`, behind `before` and in front of `after`. -/
def Label.over (label : Label) (before part after : List Char) : Token where
  kind := label.kind
  subkind := label.subkind
  start := byteLength before
  stop := byteLength before + byteLength part
  location := .between before (part ++ after)
  base := label.base
  suffix := label.suffix

theorem Label.value_over (label : Label) (name : String) {text : String}
    {before part after : List Char} (htext : text.toList = before ++ (part ++ after)) :
    (label.over before part after).value (.loaded name text) = String.ofList part :=
  Token.StandsAt.value ⟨rfl, rfl, rfl⟩ htext

namespace Rules
variable {r : Rules} {before after rest : List Char} {c : Char} {cs : List Char}

/-- What a run gives for `rest` when it has taken `before`. -/
def tokensBehind (r : Rules) (before rest : List Char) : Except LexError (List Token) :=
  r.tokensFrom CharClass.precedence (before ++ rest) (.between before rest) rest

/-- A run starts with nothing taken. -/
theorem tokenize_eq_tokensBehind (r : Rules) (name text : String) :
    r.tokenize (.loaded name text) = r.tokensBehind [] text.toList := by
  rw [tokenize_loaded, tokensIn, tokensBehind, List.nil_append, Position.start_eq_between]

/-- A run that has taken the whole text ends. -/
theorem tokensBehind_nil (r : Rules) (before : List Char) :
    r.tokensBehind before [] = .ok [r.endToken before (.between before [])] := by
  rw [tokensBehind, tokensFrom, List.append_nil]
  rfl

/-- A lexeme is taken, and the run goes on behind it. -/
theorem tokensBehind_of_ok {taken : List Char} {label : Option Label}
    (h : r.lexeme CharClass.precedence c cs = .ok ⟨taken, rest, label⟩) :
    r.tokensBehind before (c :: cs) =
      (r.tokensBehind (before ++ taken) rest).map
        ((label.map (·.over before taken rest)).toList ++ ·) := by
  have hcs : taken ++ rest = c :: cs := (lexeme_splits h).1
  have hwalk := Position.walk_between taken (rfl : before ++ (taken ++ rest) = _)
  rw [tokensBehind, tokensFrom_of_ok h, tokensBehind, ← hcs, hwalk, List.append_assoc]
  rfl

/-- No lexeme can be taken, and the run ends at the place of the failure. -/
theorem tokensBehind_of_error {f : Failure} (h : r.lexeme CharClass.precedence c cs = .error f)
    (hafter : c :: cs = f.before ++ after) :
    r.tokensBehind before (c :: cs) =
      .error ⟨f.kind, f.ch, .between (before ++ f.before) after, f.hint⟩ := by
  have hwalk := Position.walk_between f.before (rfl : before ++ (f.before ++ after) = _)
  rw [tokensBehind, tokensFrom_of_error h, Failure.toError, hafter, hwalk]

/-- A run of characters that is longer than it may be ends at the first one too many. -/
theorem tokensBehind_of_overlong {kind : LexError.Kind} {run front back : List Char} {d : Char}
    {max : Nat}
    (h : r.lexeme CharClass.precedence c cs = .error ⟨kind, run.take max, run[max]?, none⟩)
    (hcs : c :: cs = run ++ rest) (hrun : run = front ++ d :: back) (hlength : front.length = max) :
    r.tokensBehind before (c :: cs) =
      .error ⟨kind, some d, .between (before ++ front) (d :: (back ++ rest)), none⟩ := by
  have hat : (front ++ d :: back)[front.length]? = some d := by simp
  have hafter : c :: cs = front ++ (d :: (back ++ rest)) := by
    rw [hcs, hrun, List.append_assoc, List.cons_append]
  rw [hrun, ← hlength, List.take_left, hat] at h
  rw [tokensBehind_of_error h hafter]

/-- The tokens of a run are those of its lexemes and the one of the end. -/
theorem exists_over_of_mem {tokens : List Token} {t : Token}
    (h : r.tokensBehind before rest = .ok tokens) (ht : t ∈ tokens) :
    t = r.endToken (before ++ rest) (.between (before ++ rest) []) ∨
      ∃ middle c cs taken after label, rest = middle ++ c :: cs ∧
        r.lexeme CharClass.precedence c cs = .ok ⟨taken, after, some label⟩ ∧
        t = label.over (before ++ middle) taken after := by
  induction hn : rest.length using Nat.strong_induction_on generalizing before rest tokens with
  | _ n ih =>
    subst hn
    cases rest with
    | nil =>
      rw [tokensBehind_nil] at h
      cases h
      rw [List.append_nil]
      exact .inl (List.mem_singleton.1 ht)
    | cons c cs =>
      cases hl : r.lexeme CharClass.precedence c cs with
      | error f =>
        rw [tokensBehind, tokensFrom_of_error hl] at h
        cases h
      | ok l =>
        obtain ⟨taken, after, label⟩ := l
        have hcs : taken ++ after = c :: cs := (lexeme_splits hl).1
        rw [tokensBehind_of_ok hl] at h
        cases htail : r.tokensBehind (before ++ taken) after with
        | error e =>
          rw [htail] at h
          cases h
        | ok tail =>
          rw [htail] at h
          cases h
          rcases List.mem_append.1 ht with ht | ht
          · obtain ⟨label, hlabel, rfl⟩ := Option.map_eq_some_iff.1 (Option.mem_toList.1 ht)
            obtain rfl : _ = some label := hlabel
            exact .inr ⟨[], c, cs, taken, after, label, rfl, hl, by rw [List.append_nil]⟩
          · rcases ih _ (lexeme_splits hl).length_rest_lt htail ht rfl with hend |
              ⟨middle, d, ds, taken', after', label', hafter, hlexeme, rfl⟩
            · rw [List.append_assoc, hcs] at hend
              exact .inl hend
            · refine .inr ⟨taken ++ middle, d, ds, taken', after', label', ?_, hlexeme, ?_⟩
              · rw [← hcs, hafter, List.append_assoc]
              · rw [List.append_assoc]

/-- The class of the first character settles the scanner. -/
theorem lexeme_of_belongs (hv : r.validate = .ok ()) {cls : CharClass}
    (hc : r.belongs c cls = true) (cs : List Char) :
    r.lexeme CharClass.precedence c cs = r.lexemeOf c cs cls := by
  have hfind := (find?_belongs_eq_some_iff hv CharClass.mem_precedence).2 hc
  rw [lexeme, hfind]

end Rules

end RuleLexer
