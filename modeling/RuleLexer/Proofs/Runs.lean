import RuleLexer.Proofs.Agreement

/-!
# Runs of a stream

One operation on a stream takes the token under the cursor and moves behind it, or takes nothing and
leaves the cursor where it is. So whatever operations follow each other, the tokens they take are
those before the cursor, in order and each once. Past the end a substitute may be handed out and
match again and again, but the list has nothing left to take.

The handler for unexpected tokens is told of one token for each `expect` that is answered by
`false`, and the state of the stream is what it makes of them.
-/

namespace RuleLexer.TokenStream
variable {σ : Type} {s : TokenStream σ} {t : Token}

/-- A stream as it is set up, before any operation: with or without a delimiter and handlers. -/
inductive Fresh : TokenStream σ → Prop where
  | new (source : Source) (tokens : List Token) (state : σ) : Fresh (.new source tokens state)
  | withRules (source : Source) (tokens : List Token) (rules : Rules) (state : σ) :
      Fresh (.withRules source tokens rules state)
  | withSubkindDelimiter {s : TokenStream σ} (hs : Fresh s) (delimiter : String) :
      Fresh (s.withSubkindDelimiter delimiter)
  | withUnexpectedHandler {s : TokenStream σ} (hs : Fresh s) (handler : Unexpected → σ → σ) :
      Fresh (s.withUnexpectedHandler handler)
  | withEndOfTokensHandler {s : TokenStream σ} (hs : Fresh s) (handler : Source → Token) :
      Fresh (s.withEndOfTokensHandler handler)

theorem Fresh.index_eq_zero (hs : s.Fresh) : s.index = 0 := by
  induction hs with
  | new => rfl
  | withRules => rfl
  | withSubkindDelimiter _ _ ih => exact ih
  | withUnexpectedHandler _ _ ih => exact ih
  | withEndOfTokensHandler _ _ ih => exact ih

/-- The token that an operation takes: the one that `next` hands out, that `accept` and `expect`
find to be an expected one, and that `advance` passes over. At the end there is none to take. -/
def takes (s : TokenStream σ) (op : Op) : Option Token :=
  if s.atEnd then none
  else
    match op, (s.step op).1 with
    | .next, .token t => some t
    | .accept _ _, .truth true => s.current.toOption
    | .expect _ _, .truth true => s.current.toOption
    | .advance, _ => s.current.toOption
    | _, _ => none

/-- The tokens that operations take one after the other. -/
def taken (s : TokenStream σ) : List Op → List Token
  | [] => []
  | op :: ops => (s.takes op).toList ++ (s.step op).2.taken ops

@[simp] theorem run_nil (s : TokenStream σ) : (s.run []).2 = s := rfl

@[simp] theorem run_cons (s : TokenStream σ) (op : Op) (ops : List Op) :
    (s.run (op :: ops)).2 = ((s.step op).2.run ops).2 := rfl

theorem run_append (s : TokenStream σ) (ops ops' : List Op) :
    (s.run (ops ++ ops')).2 = ((s.run ops).2.run ops').2 := by
  induction ops generalizing s with
  | nil => rfl
  | cons op ops ih => exact ih (s.step op).2

/-! ## One operation -/

/-- Nothing has been taken: at most a handler has been called. -/
structure Stays (s s' : TokenStream σ) : Prop where
  tokens : s'.tokens = s.tokens
  index : s'.index = s.index

theorem Stays.refl (s : TokenStream σ) : s.Stays s := ⟨rfl, rfl⟩

theorem Refused.stays {category : MatchCategory} {expected : List String} {found : Token → String}
    {answer : Except StreamError Bool} {s' : TokenStream σ} {reported : List Unexpected}
    (h : s.Refused category expected found answer s' reported) : s.Stays s' := by
  cases h with
  | ended => exact .refl s
  | reported => exact ⟨rfl, rfl⟩
  | failed => exact .refl s

theorem next_cases (s : TokenStream σ) :
    (∃ e, s.next = (.error e, s)) ∨ ∃ t, s.current = .ok t ∧ s.next = (.ok t, s.advance) := by
  unfold next
  cases s.current with
  | error e => exact .inl ⟨e, rfl⟩
  | ok t => exact .inr ⟨t, rfl, rfl⟩

/-- What stands under the cursor, past the end nothing. -/
theorem under_eq (s : TokenStream σ) :
    (if s.atEnd then none else s.current.toOption) = s.tokens[s.index]? := by
  cases hunder : s.tokens[s.index]? with
  | none => rw [if_pos (atEnd_iff.2 hunder)]
  | some t =>
    have hinside : ¬ s.atEnd = true := by simp [atEnd_iff, hunder]
    rw [if_neg hinside, current, hunder]
    rfl

theorem advance_of_none (h : s.tokens[s.index]? = none) : s.advance = s :=
  if_neg (Nat.not_lt.2 (List.getElem?_eq_none_iff.1 h))

theorem advance_of_some {t : Token} (h : s.tokens[s.index]? = some t) :
    s.advance = { s with index := s.index + 1 } := by
  obtain ⟨hlt, -⟩ := List.getElem?_eq_some_iff.1 h
  exact if_pos hlt

/-- An operation takes what stands under the cursor and moves on, or takes nothing and stays. -/
theorem step_cases (s : TokenStream σ) (op : Op) :
    (s.takes op = none ∧ s.Stays (s.step op).2) ∨
      (s.takes op = s.tokens[s.index]? ∧ (s.step op).2 = s.advance) := by
  rw [← under_eq]
  cases op with
  | next =>
    rcases s.next_cases with ⟨e, he⟩ | ⟨t, hcurrent, ht⟩
    · refine .inl ⟨?_, ?_⟩
      · simp [takes, step, he, Answer.ofResult]
      · simpa [step, he] using Stays.refl s
    · refine .inr ⟨?_, ?_⟩
      · simp [takes, step, ht, hcurrent, Answer.ofResult, Except.toOption]
      · simp [step, ht]
  | accept category expected =>
    cases his : s.is category expected with
    | true => exact .inr ⟨by simp [takes, step, accept_eq, his], by simp [step, accept_eq, his]⟩
    | false =>
      refine .inl ⟨by simp [takes, step, accept_eq, his], ?_⟩
      simpa [step, accept_eq, his] using Stays.refl s
  | expect category expected =>
    cases his : s.is category expected with
    | true =>
      have hexpect := expect_of_is his
      exact .inr ⟨by simp [takes, step, hexpect, Answer.ofResult], by simp [step, hexpect]⟩
    | false =>
      obtain ⟨answer, s', reported, hrefused, hexpect, -⟩ := exists_refused his
      refine .inl ⟨?_, by simpa [step, hexpect] using hrefused.stays⟩
      cases hrefused with
      | ended => simp [takes, step, hexpect, Answer.ofResult]
      | reported => simp [takes, step, hexpect, Answer.ofResult]
      | failed => simp [takes, step, hexpect, Answer.ofResult]
  | advance => exact .inr ⟨by simp [takes], rfl⟩
  | _ => exact .inl ⟨by simp [takes], .refl s⟩

theorem step_tokens (s : TokenStream σ) (op : Op) : (s.step op).2.tokens = s.tokens := by
  rcases s.step_cases op with ⟨-, hstays⟩ | ⟨-, hadvance⟩
  · exact hstays.tokens
  · rw [hadvance, advance]
    split <;> rfl

theorem step_index (s : TokenStream σ) (op : Op) :
    (s.step op).2.index = s.index + (s.takes op).toList.length := by
  rcases s.step_cases op with ⟨htakes, hstays⟩ | ⟨htakes, hadvance⟩
  · rw [hstays.index, htakes]
    rfl
  · rw [hadvance, htakes]
    cases hunder : s.tokens[s.index]? with
    | none => rw [advance_of_none hunder]; rfl
    | some t => rw [advance_of_some hunder]; rfl

theorem take_append_takes (s : TokenStream σ) (op : Op) :
    s.tokens.take s.index ++ (s.takes op).toList = s.tokens.take (s.step op).2.index := by
  rw [step_index]
  rcases s.step_cases op with ⟨htakes, -⟩ | ⟨htakes, -⟩
  · simp [htakes]
  · rw [htakes]
    cases hunder : s.tokens[s.index]? with
    | none => simp
    | some t => simp [List.take_add_one, hunder]

theorem step_index_le (h : s.index ≤ s.size) (op : Op) : (s.step op).2.index ≤ s.size := by
  rw [step_index]
  rcases s.step_cases op with ⟨htakes, -⟩ | ⟨htakes, -⟩
  · simpa [htakes] using h
  · rw [htakes]
    cases hunder : s.tokens[s.index]? with
    | none => simpa using h
    | some t =>
      obtain ⟨hlt, -⟩ := List.getElem?_eq_some_iff.1 hunder
      exact hlt

/-! ## Many operations -/

theorem run_tokens (s : TokenStream σ) (ops : List Op) : (s.run ops).2.tokens = s.tokens := by
  induction ops generalizing s with
  | nil => rfl
  | cons op ops ih => rw [run_cons, ih, step_tokens]

theorem run_index (s : TokenStream σ) (ops : List Op) :
    (s.run ops).2.index = s.index + (s.taken ops).length := by
  induction ops generalizing s with
  | nil => rfl
  | cons op ops ih => rw [run_cons, ih, step_index, taken, List.length_append, Nat.add_assoc]

theorem length_taken_le (s : TokenStream σ) (ops : List Op) :
    (s.taken ops).length ≤ ops.length := by
  induction ops generalizing s with
  | nil => exact Nat.le_refl 0
  | cons op ops ih =>
    have hone : (s.takes op).toList.length ≤ 1 := by cases s.takes op <;> simp
    have hrest := ih (s.step op).2
    simp only [taken, List.length_append, List.length_cons]
    omega

theorem run_index_le (h : s.index ≤ s.size) (ops : List Op) : (s.run ops).2.index ≤ s.size := by
  induction ops generalizing s with
  | nil => exact h
  | cons op ops ih =>
    have hsize : (s.step op).2.size = s.size := congrArg List.length (s.step_tokens op)
    rw [run_cons, ← hsize]
    exact ih (hsize ▸ step_index_le h op)

theorem take_append_taken (s : TokenStream σ) (ops : List Op) :
    s.tokens.take s.index ++ s.taken ops = s.tokens.take (s.run ops).2.index := by
  induction ops generalizing s with
  | nil => exact List.append_nil _
  | cons op ops ih =>
    rw [taken, ← List.append_assoc, take_append_takes, ← s.step_tokens op, ih, run_cons,
      s.step_tokens]

/-! ## What the handler is told -/

/-- What operations tell the handler, one after the other. -/
def reports (s : TokenStream σ) : List Op → List Unexpected
  | [] => []
  | op :: ops => s.calls op ++ (s.step op).2.reports ops

/-- Whether an operation with this answer has told the handler of a token. -/
def isReported : Op → Answer → Bool
  | .expect _ _, .truth false => true
  | _, _ => false

theorem Refused.length_eq {category : MatchCategory} {expected : List String}
    {found : Token → String} {answer : Except StreamError Bool} {s' : TokenStream σ}
    {told : List Unexpected} (h : s.Refused category expected found answer s' told) :
    told.length =
      if isReported (.expect category expected) (.ofResult .truth answer) then 1 else 0 := by
  cases h with
  | ended => rfl
  | reported => rfl
  | failed => rfl

theorem length_calls (s : TokenStream σ) (op : Op) :
    (s.calls op).length = if isReported op (s.step op).1 then 1 else 0 := by
  cases op with
  | accept category expected =>
    rw [calls_accept]
    rfl
  | expect category expected =>
    cases his : s.is category expected with
    | true => simp [calls_expect_of_is his, step, expect_of_is his, Answer.ofResult, isReported]
    | false => exact (refused_of_not_is his).length_eq
  | next =>
    rw [calls_next]
    rfl
  | advance =>
    rw [calls_advance]
    rfl
  | _ => rfl

/-- A recorded run gives the same answers, and its handler has been told the reports. -/
theorem run_recording (s : TokenStream σ) (told : List Unexpected) (ops : List Op) :
    (s.recording told).run ops =
      ((s.run ops).1, (s.run ops).2.recording (told ++ s.reports ops)) := by
  induction ops generalizing s told with
  | nil => simp [run, reports]
  | cons op ops ih => simp [run, reports, step_recording, ih]

theorem run_replay (s : TokenStream σ) (ops : List Op) (told : List Unexpected) :
    (s.run ops).2.replay told = s.replay (s.reports ops ++ told) := by
  induction ops generalizing s with
  | nil => rfl
  | cons op ops ih => rw [run_cons, ih, step_replay, reports, List.append_assoc]

/-- The state is what the handler makes of the reports. -/
theorem run_state (s : TokenStream σ) (ops : List Op) :
    (s.run ops).2.state = s.replay (s.reports ops) := by
  have hreplay := s.run_replay ops []
  rwa [replay_nil, List.append_nil] at hreplay

/-- There is one report for each `expect` that is answered by `false`, and no other. -/
theorem length_reports (s : TokenStream σ) (ops : List Op) :
    (s.reports ops).length =
      (ops.zip (s.run ops).1).countP fun e => isReported e.1 e.2 := by
  induction ops generalizing s with
  | nil => rfl
  | cons op ops ih =>
    rw [reports, List.length_append, ih, length_calls, run, List.zip_cons_cons,
      List.countP_cons, Nat.add_comm]

theorem peek?_eq {s : TokenStream σ} (hsize : s.size ≤ indexLimit) (offset : Nat) :
    s.peek? offset = s.tokens[s.index + offset]? := by
  unfold peek? addIndex?
  split
  · rfl
  · next hlimit => exact (List.getElem?_eq_none (Nat.le_trans hsize (Nat.le_of_not_lt hlimit))).symm

/-- However operations follow each other, the tokens they take are those before the cursor, which
stays within the list and never goes back, and `peek` counts on from the cursor. -/
theorem run_takes_in_order {s : TokenStream σ} (hs : s.Fresh) (ops : List Op) :
    (s.run ops).2.tokens = s.tokens ∧
      (s.run ops).2.index ≤ s.size ∧
      s.taken ops = s.tokens.take (s.run ops).2.index ∧
      (∀ more, (s.run ops).2.index ≤ (s.run (ops ++ more)).2.index ∧
        (s.run (ops ++ more)).2.index ≤ (s.run ops).2.index + more.length) ∧
      (s.size ≤ indexLimit →
        ∀ offset, (s.run ops).2.peek? offset = s.tokens[(s.run ops).2.index + offset]?) := by
  have hstart := hs.index_eq_zero
  have htokens := s.run_tokens ops
  refine ⟨htokens, run_index_le (by omega) ops, ?_, fun more => ?_, fun hsize offset => ?_⟩
  · simpa [hstart] using s.take_append_taken ops
  · have htaken := length_taken_le (s.run ops).2 more
    rw [run_append, run_index (s.run ops).2 more]
    omega
  · have hlimit : (s.run ops).2.size ≤ indexLimit := by
      rwa [size, htokens]
    rw [peek?_eq hlimit, htokens]

/-- A token is accepted, one refused and handed out, and the end token is accepted twice. -/
theorem run_takes_in_order_sample :
    let ops : List Op := [.accept .kind ["KEYWORD"], .expect .kind ["NUMBER"], .next,
      .accept .kind ["EOF"], .accept .kind ["EOF"]]
    sample.Fresh ∧ (sample.run ops).1[4]? = some (.truth true) ∧
      (sample.run ops).2.state.length = 1 ∧ (sample.run ops).2.index = 2 ∧
      sample.taken ops = sample.tokens ∧
      (sample.run ops).2.peek? 18446744073709551615 = none := by
  intro ops
  have hfresh : sample.Fresh := ((Fresh.new _ _ _).withUnexpectedHandler _).withEndOfTokensHandler _
  obtain ⟨-, -, htaken, -, hpeek⟩ := run_takes_in_order hfresh ops
  have hindex : (sample.run ops).2.index = 2 := by decide +kernel
  refine ⟨hfresh, by decide +kernel, by decide +kernel, hindex, ?_, ?_⟩
  · rw [htaken, hindex]
    rfl
  · rw [hpeek (by decide), hindex]
    rfl

end RuleLexer.TokenStream
