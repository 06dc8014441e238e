import RuleLexer.Proofs.Extension
import RuleLexer.Proofs.Passes

/-!
# Where passes lead to

A scanner takes a lexeme off the characters that are left, and a loop finds the end of the same
lexeme pass by pass, or fails at the same place. `settle` turns what a scanner says into the pass
that the loop comes to. A loop over a run of characters comes to the end of the run.
-/

namespace RuleLexer
open Text

/-- A pass leads to the one in which its loop is left, through the passes that go on. -/
inductive Pass.LeadsTo (r : Rules) (text : List Char) (start : Position) : Pass → Pass → Prop
  | done (k : Cursor) (label : Option Label) : LeadsTo r text start (.done k label) (.done k label)
  | failed (e : LexError) : LeadsTo r text start (.failed e) (.failed e)
  | again {loop : Loop} {k : Cursor} {p' : Pass}
      (h : LeadsTo r text start (r.loopPass text start k loop) p') :
      LeadsTo r text start (.again loop k) p'

open Cursor (between between_position between_ch slice_between advance_cons advance_nil)
open Pass (LeadsTo)

variable {r : Rules} {text before front back cs : List Char} {c : Char} {start : Position}

theorem Pass.LeadsTo.of_eq {loop : Loop} {k : Cursor} {p p' : Pass}
    (hpass : r.loopPass text start k loop = p) (h : LeadsTo r text start p p') :
    LeadsTo r text start (.again loop k) p' := .again (hpass ▸ h)

/-! ## Outcomes of scanners as passes -/

theorem Failure.toError_behind (f : Failure) (h : text = front ++ c :: back) :
    (f.behind c).toError text (.between front (c :: back)) =
      f.toError text (.between (front ++ [c]) back) := by
  rw [toError, toError, behind, Position.walk_cons, Position.advance_between c h]

/-- What a scanner says as a pass. A failure counts from the place between `front` and `back`. -/
def settle {α : Type} (text front back : List Char) (p : α → Pass) : Except Failure α → Pass
  | .ok a => p a
  | .error f => .failed (f.toError text (.between front back))

theorem settle_behind {α β : Type} {p : α → Pass} {φ : β → α} (x : Except Failure β)
    (h : text = front ++ c :: back) :
    settle text front (c :: back) p ((x.map φ).mapError (·.behind c)) =
      settle text (front ++ [c]) back (fun b => p (φ b)) x := by
  cases x with
  | ok b => rfl
  | error f => exact congrArg Pass.failed (f.toError_behind h)

/-- The pass that is done with `l`, which starts behind `before`. -/
def Lexeme.pass (before : List Char) (l : Lexeme) : Pass :=
  .done (between (before ++ l.taken) l.rest) l.label

/-! ## Loops over runs of characters -/

section Runs
variable {p : Char → Bool}

/-- A loop that takes the characters in `p` and is done at any other comes to the end of the run. -/
theorem leadsTo_takeWhile {loop : Loop} {label : Option Label}
    (hpass : ∀ k, r.loopPass text start k loop =
      if k.ch.any p then .again loop (k.advance text) else .done k label)
    (htext : text = front ++ cs) :
    LeadsTo r text start (.again loop (between front cs))
      (.done (between (front ++ cs.takeWhile p) (cs.dropWhile p)) label) := by
  induction cs generalizing front with
  | nil =>
    rw [List.takeWhile_nil, List.dropWhile_nil, List.append_nil]
    exact .of_eq (hpass _) (.done _ _)
  | cons c cs ih =>
    refine .of_eq (hpass _) ?_
    rw [between_ch, List.head?_cons, Option.any_some]
    by_cases hc : p c
    · have hbehind : text = front ++ [c] ++ cs := by rw [htext, List.append_cons]
      have hnext := ih hbehind
      rw [if_pos hc, advance_cons htext, List.takeWhile_cons_of_pos hc,
        List.dropWhile_cons_of_pos hc]
      rwa [← List.append_cons] at hnext
    · rw [if_neg hc, List.takeWhile_cons_of_neg hc, List.dropWhile_cons_of_neg hc, List.append_nil]
      exact .done _ _

/-- The loop counts the characters in `p` that it takes. It fails at one over the limit, and any
other character ends the run. -/
def Counts (r : Rules) (text : List Char) (start : Position) (p : Char → Bool) (limit : Nat)
    (loop : Nat → Loop) (kind : LexError.Kind) (stop : Cursor → Pass) : Prop :=
  ∀ n k, r.loopPass text start k (loop n) =
    if k.ch.any p then
      if limit < n + 1 then k.failed kind none else .again (loop (n + 1)) (k.advance text)
    else stop k

variable {limit : Nat} {loop : Nat → Loop} {kind : LexError.Kind} {stop : Cursor → Pass}

/-- Characters within the limit are passed. -/
theorem Counts.leadsTo_of_le (hcounts : Counts r text start p limit loop kind stop)
    {run rest : List Char} (hrun : ∀ d ∈ run, p d) {n : Nat} (hlimit : n + run.length ≤ limit)
    (htext : text = front ++ (run ++ rest)) {p' : Pass}
    (h : LeadsTo r text start (.again (loop (n + run.length)) (between (front ++ run) rest)) p') :
    LeadsTo r text start (.again (loop n) (between front (run ++ rest))) p' := by
  induction run generalizing front n with
  | nil => simpa using h
  | cons c run ih =>
    have hnext : n + (run.length + 1) = n + 1 + run.length := by omega
    rw [List.length_cons] at hlimit h
    rw [hnext, List.append_cons] at h
    rw [List.cons_append] at htext ⊢
    refine .of_eq (hcounts _ _) ?_
    rw [between_ch, List.head?_cons, Option.any_some, if_pos (hrun c (List.mem_cons_self ..)),
      if_neg (by omega), advance_cons htext]
    exact ih (fun d hd => hrun d (List.mem_cons_of_mem _ hd)) (by omega)
      (by rw [htext, List.append_cons]) h

theorem Counts.leadsTo_of_lt (hcounts : Counts r text start p limit loop kind stop)
    {run rest : List Char} (hrun : ∀ d ∈ run, p d) (hlong : limit < run.length)
    (htext : text = front ++ (run ++ rest)) :
    LeadsTo r text start (.again (loop 0) (between front (run ++ rest)))
      (.failed (Failure.toError ⟨kind, run.take limit, run[limit]?, none⟩ text
        (.between front (run ++ rest)))) := by
  have hcs : run ++ rest = run.take limit ++ (run[limit] :: (run.drop (limit + 1) ++ rest)) := by
    rw [← List.cons_append, ← List.drop_eq_getElem_cons hlong, ← List.append_assoc,
      List.take_append_drop]
  have hlength : (run.take limit).length = limit := List.length_take_of_le hlong.le
  rw [Failure.toError, List.getElem?_eq_getElem hlong]
  rw [hcs] at htext ⊢
  rw [Position.walk_between _ htext]
  refine hcounts.leadsTo_of_le (fun d hd => hrun d (List.mem_of_mem_take hd)) (by omega) htext ?_
  refine .of_eq (hcounts _ _) ?_
  rw [between_ch, List.head?_cons, Option.any_some, if_pos (hrun _ (List.getElem_mem hlong)),
    if_pos (by omega)]
  exact .failed _

/-- Behind the longest run there is no character of it. -/
theorem any_head?_dropWhile (p : Char → Bool) (cs : List Char) :
    (cs.dropWhile p).head?.any p = false := by
  rw [Option.any_eq_false]
  exact fun d hd => by simp [dropWhile_stops p cs d hd]

/-- A loop that counts the longest run at the cursor fails in it or stops behind it. -/
theorem Counts.leadsTo (hcounts : Counts r text start p limit loop kind stop) (hc : p c)
    (htext : text = front ++ c :: cs) {p' : Pass}
    (hlong : limit < (c :: cs.takeWhile p).length →
      .failed (Failure.toError ⟨kind, (c :: cs.takeWhile p).take limit,
        (c :: cs.takeWhile p)[limit]?, none⟩ text (.between front (c :: cs))) = p')
    (hshort : (c :: cs.takeWhile p).length ≤ limit →
      LeadsTo r text start (stop (between (front ++ c :: cs.takeWhile p) (cs.dropWhile p))) p') :
    LeadsTo r text start (.again (loop 0) (between front (c :: cs))) p' := by
  have hsplit : c :: cs.takeWhile p ++ cs.dropWhile p = c :: cs := by
    rw [List.cons_append, List.takeWhile_append_dropWhile]
  have hrun : ∀ d ∈ c :: cs.takeWhile p, p d := by
    rintro d hd
    rcases List.mem_cons.1 hd with rfl | hd
    · exact hc
    · exact List.mem_takeWhile_imp hd
  rw [← hsplit] at htext hlong ⊢
  rcases Nat.lt_or_ge limit (c :: cs.takeWhile p).length with hlt | hle
  · rw [← hlong hlt]
    exact hcounts.leadsTo_of_lt hrun hlt htext
  · refine hcounts.leadsTo_of_le (n := 0) hrun (by omega) htext (.of_eq (hcounts _ _) ?_)
    rw [between_ch, any_head?_dropWhile, if_neg Bool.false_ne_true]
    exact hshort hle

end Runs

end RuleLexer
