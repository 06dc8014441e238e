import RuleLexer.Proofs.Sample
import RuleLexer.Stream

/-!
# Tests of the current token

`is`, `accept` and `expect` compare the same token with the same texts. When it is one of the
expected, they all say so and the last two take it. When it is not, the cursor stays: `accept`
leaves it at that, and `expect` reports the token to the handler or, without one, fails.

How often the handler is called does not show in a stream, as the handler may act on its state in
any way. So it is replaced by one that writes its calls down. Every operation gives the same answer
on such a stream, and its calls determine what the real handler makes of the state.
-/

namespace RuleLexer.TokenStream
variable {σ : Type} {s : TokenStream σ} {t : Token} {e : StreamError}
variable {category : MatchCategory} {expected : List String} {found : Token → String}

/-! ## The current token -/

/-- The token that is compared: the one under the cursor, or the substitute past the end. -/
inductive Reads (s : TokenStream σ) : Token → Prop where
  | token {t : Token} (hunder : s.tokens[s.index]? = some t) : Reads s t
  | substitute {handler : Source → Token} (hunder : s.tokens[s.index]? = none)
      (hhandler : s.onEndOfTokens = some handler) : Reads s (handler s.source)

theorem atEnd_iff : s.atEnd = true ↔ s.tokens[s.index]? = none :=
  decide_eq_true_iff.trans List.getElem?_eq_none_iff.symm

theorem current_eq_ok_iff : s.current = .ok t ↔ s.Reads t := by
  constructor
  · intro h
    unfold current at h
    split at h
    · next hunder =>
      cases h
      exact .token hunder
    · next hunder =>
      split at h
      · next hhandler =>
        cases h
        exact .substitute hunder hhandler
      · cases h
  · intro h
    cases h with
    | token hunder => simp only [current, hunder]
    | substitute hunder hhandler => simp only [current, hunder, hhandler]

theorem current_eq_error_iff : s.current = .error e ↔
    s.atEnd = true ∧ s.onEndOfTokens = none ∧ e = .endOfTokens s.source.name := by
  rw [atEnd_iff]
  unfold current
  cases s.tokens[s.index]? with
  | some t => simp
  | none =>
    cases s.onEndOfTokens with
    | some handler => simp
    | none => simp [eq_comm]

theorem is_iff : s.is category expected = true ↔
    ∃ t, s.Reads t ∧ category.field s.source t ∈ expected := by
  simp only [← current_eq_ok_iff, is]
  cases s.current with
  | error e => simp
  | ok t => simp

theorem advance_eq (s : TokenStream σ) :
    s.advance = { s with index := if s.index < s.size then s.index + 1 else s.index } := by
  unfold advance
  split
  · rfl
  · rfl

theorem accept_eq (s : TokenStream σ) (category : MatchCategory) (expected : List String) :
    s.accept category expected =
      (s.is category expected, if s.is category expected then s.advance else s) := by
  unfold accept
  cases s.is category expected <;> rfl

/-! ## What `expect` does -/

/-- What the handler is told about a token of which `found` was compared and is not expected. -/
def report (s : TokenStream σ) (category : MatchCategory) (expected : List String)
    (found : Token → String) (t : Token) : Unexpected :=
  ⟨s.source, t, expected, category, found t⟩

theorem current_of_not_is (h : s.is category expected = false) :
    (∃ e, s.current = .error e) ∨
      ∃ t, s.current = .ok t ∧ category.field s.source t ∉ expected := by
  unfold is at h
  cases hcurrent : s.current with
  | error e => exact .inl ⟨e, rfl⟩
  | ok t =>
    rw [hcurrent] at h
    exact .inr ⟨t, rfl, by simpa using h⟩

theorem expect_of_is (h : s.is category expected = true) :
    s.expect category expected = (.ok true, s.advance) := by
  obtain ⟨t, hreads, hmem⟩ := is_iff.1 h
  simp [expect, current_eq_ok_iff.2 hreads, hmem]

theorem expect_of_error (h : s.current = .error e) :
    s.expect category expected = (.error e, s) := by
  simp [expect, h]

theorem expect_of_handler {handler : Unexpected → σ → σ} (h : s.current = .ok t)
    (hother : category.field s.source t ∉ expected) (hhandler : s.onUnexpected = some handler) :
    s.expect category expected =
      (.ok false,
        { s with
          state := handler (s.report category expected (category.field s.source) t) s.state }) := by
  simp [expect, h, hother, hhandler, report]

theorem expect_of_no_handler (h : s.current = .ok t)
    (hother : category.field s.source t ∉ expected) (hnone : s.onUnexpected = none) :
    s.expect category expected =
      (.error (.unexpectedToken category expected (category.field s.source t) t.location), s) := by
  simp [expect, h, hother, hnone]

/-! ## Calls of the handler -/

/-- The same stream, where a handler writes down what it is told behind `told`. -/
def recording (s : TokenStream σ) (told : List Unexpected) : TokenStream (List Unexpected) :=
  { s with
    onUnexpected := s.onUnexpected.map fun _ call told => told ++ [call]
    state := told }

/-- What an operation tells the handler. -/
def calls (s : TokenStream σ) (op : Op) : List Unexpected :=
  ((s.recording []).step op).2.state

@[simp] theorem recording_state (s : TokenStream σ) (told : List Unexpected) :
    (s.recording told).state = told := rfl

@[simp] theorem recording_current (s : TokenStream σ) (told : List Unexpected) :
    (s.recording told).current = s.current := rfl

@[simp] theorem recording_advance (s : TokenStream σ) (told : List Unexpected) :
    (s.recording told).advance = s.advance.recording told := by
  rw [advance_eq, advance_eq]
  rfl

/-- `accept` tells the handler nothing. -/
theorem accept_recording (s : TokenStream σ) (told : List Unexpected) :
    (s.recording told).accept category expected =
      ((s.accept category expected).1, (s.accept category expected).2.recording told) := by
  have his : (s.recording told).is category expected = s.is category expected := rfl
  rw [accept_eq, accept_eq, his, recording_advance]
  cases s.is category expected with
  | true => rfl
  | false => rfl

theorem expect_recording_of_is (h : s.is category expected = true) (told : List Unexpected) :
    (s.recording told).expect category expected = (.ok true, s.advance.recording told) := by
  have his : (s.recording told).is category expected = true := h
  rw [expect_of_is his, recording_advance]

/-- Answer, stream and calls of `expect` when the part of the current token that is compared, given
by `found`, is not one of the expected. -/
inductive Refused (s : TokenStream σ) (category : MatchCategory) (expected : List String)
    (found : Token → String) :
    Except StreamError Bool → TokenStream σ → List Unexpected → Prop where
  | ended (hend : s.atEnd = true) (hnone : s.onEndOfTokens = none) :
      Refused s category expected found (.error (.endOfTokens s.source.name)) s []
  | reported {t : Token} {handler : Unexpected → σ → σ} (hreads : s.Reads t)
      (hhandler : s.onUnexpected = some handler) :
      Refused s category expected found (.ok false)
        { s with state := handler (s.report category expected found t) s.state }
        [s.report category expected found t]
  | failed {t : Token} (hreads : s.Reads t) (hnone : s.onUnexpected = none) :
      Refused s category expected found
        (.error (.unexpectedToken category expected (found t) t.location)) s []

/-- What `expect` does with a token that is not one of the expected, and what it records then. -/
theorem exists_refused (h : s.is category expected = false) :
    ∃ answer s' reported,
      s.Refused category expected (category.field s.source) answer s' reported ∧
      s.expect category expected = (answer, s') ∧
      ∀ told, (s.recording told).expect category expected =
        (answer, s'.recording (told ++ reported)) := by
  rcases current_of_not_is h with ⟨e, hcurrent⟩ | ⟨t, hcurrent, hother⟩
  · obtain ⟨hend, hnone, rfl⟩ := current_eq_error_iff.1 hcurrent
    refine ⟨_, _, _, .ended hend hnone, expect_of_error hcurrent, fun told => ?_⟩
    rw [expect_of_error ((s.recording_current told).trans hcurrent), List.append_nil]
  · have hrecording (told) := (s.recording_current told).trans hcurrent
    have hreads := current_eq_ok_iff.1 hcurrent
    cases hhandler : s.onUnexpected with
    | some handler =>
      refine ⟨_, _, _, .reported hreads hhandler, expect_of_handler hcurrent hother hhandler,
        fun told => ?_⟩
      exact expect_of_handler (hrecording told) hother (congrArg (Option.map _) hhandler)
    | none =>
      refine ⟨_, _, _, .failed hreads hhandler, expect_of_no_handler hcurrent hother hhandler,
        fun told => ?_⟩
      rw [expect_of_no_handler (hrecording told) hother (congrArg (Option.map _) hhandler),
        List.append_nil]
      rfl

theorem calls_next (s : TokenStream σ) : s.calls .next = [] := by
  simp only [calls, step, next, recording_current]
  cases s.current with
  | error e => rfl
  | ok t => simp

theorem calls_advance (s : TokenStream σ) : s.calls .advance = [] := by
  simp [calls, step]

theorem calls_accept (s : TokenStream σ) (category : MatchCategory) (expected : List String) :
    s.calls (.accept category expected) = [] := by
  simp [calls, step, accept_recording]

theorem calls_expect_of_is (h : s.is category expected = true) :
    s.calls (.expect category expected) = [] := by
  simp [calls, step, expect_recording_of_is h]

theorem refused_of_not_is (h : s.is category expected = false) :
    s.Refused category expected (category.field s.source) (s.expect category expected).1
      (s.expect category expected).2 (s.calls (.expect category expected)) := by
  obtain ⟨answer, s', reported, hrefused, hexpect, hrecording⟩ := exists_refused h
  have hcalls : s.calls (.expect category expected) = reported := by
    simp [calls, step, hrecording]
  rwa [hexpect, hcalls]

/-- The answers of a stream stay the same, and so do its moves, when its calls are recorded. -/
theorem step_recording (s : TokenStream σ) (told : List Unexpected) (op : Op) :
    (s.recording told).step op = ((s.step op).1, (s.step op).2.recording (told ++ s.calls op)) := by
  cases op with
  | next =>
    simp only [calls_next, step, next, recording_current]
    cases s.current with
    | error e => simp
    | ok t => simp
  | accept category expected => simp [calls_accept, step, accept_recording]
  | expect category expected =>
    cases his : s.is category expected with
    | true => simp [calls_expect_of_is his, step, expect_of_is his, expect_recording_of_is his]
    | false =>
      obtain ⟨answer, s', reported, -, hexpect, hrecording⟩ := exists_refused his
      simp [calls, step, hexpect, hrecording]
  | advance => simp [calls_advance, step]
  | _ =>
    simp only [calls, step, recording_state, List.append_nil]
    rfl

/-- What the handler makes of the state of a stream when it is told `told`. -/
def replay (s : TokenStream σ) (told : List Unexpected) : σ :=
  match s.onUnexpected with
  | some handler => told.foldl (fun state call => handler call state) s.state
  | none => s.state

theorem replay_nil (s : TokenStream σ) : s.replay [] = s.state := by
  unfold replay
  cases s.onUnexpected with
  | none => rfl
  | some handler => rfl

theorem replay_advance (s : TokenStream σ) (told : List Unexpected) :
    s.advance.replay told = s.replay told := by
  rw [advance_eq]
  rfl

theorem Refused.replay_eq {answer : Except StreamError Bool} {s' : TokenStream σ}
    {reported : List Unexpected} (h : s.Refused category expected found answer s' reported)
    (told : List Unexpected) : s'.replay told = s.replay (reported ++ told) := by
  cases h with
  | ended => rfl
  | reported _ hhandler =>
    simp only [replay, hhandler]
    rfl
  | failed => rfl

/-- What an operation and the calls behind it make of the state. -/
theorem step_replay (s : TokenStream σ) (op : Op) (told : List Unexpected) :
    (s.step op).2.replay told = s.replay (s.calls op ++ told) := by
  cases op with
  | next =>
    rw [calls_next]
    simp only [step, next]
    cases s.current with
    | error e => rfl
    | ok t => exact replay_advance s told
  | accept category expected =>
    rw [calls_accept]
    simp only [step, accept_eq]
    cases s.is category expected with
    | true => exact replay_advance s told
    | false => rfl
  | expect category expected =>
    cases his : s.is category expected with
    | true => simp [step, calls_expect_of_is his, expect_of_is his, replay_advance]
    | false => exact (refused_of_not_is his).replay_eq told
  | advance =>
    rw [calls_advance]
    exact replay_advance s told
  | _ => rfl

/-- `accept` and `expect` agree with `is`, which looks for the value, kind or subkind of the current
token among the expected texts. When it holds, both move past the token, within the list, and the
handler is told nothing. When it does not, the cursor and the tokens stay: `accept` tells the
handler nothing, and `expect` tells it of the current token, once, or fails. -/
theorem is_accept_expect_agree (s : TokenStream σ) (category : MatchCategory)
    (expected : List String) :
    let found (t : Token) : String :=
      match category with
      | .value => t.value s.source
      | .kind => t.kind
      | .subkind => t.subkind
    (s.accept category expected).1 = s.is category expected ∧
    ((s.expect category expected).1 = .ok true ↔ s.is category expected = true) ∧
    (s.is category expected = true ↔ ∃ t, s.Reads t ∧ found t ∈ expected) ∧
    (s.is category expected = true →
      let moved := { s with index := if s.index < s.size then s.index + 1 else s.index }
      (s.accept category expected).2 = moved ∧ (s.expect category expected).2 = moved ∧
        s.calls (.accept category expected) = [] ∧ s.calls (.expect category expected) = []) ∧
    (s.is category expected = false →
      (s.accept category expected).2 = s ∧ s.calls (.accept category expected) = [] ∧
        s.Refused category expected found (s.expect category expected).1
          (s.expect category expected).2 (s.calls (.expect category expected))) := by
  intro found
  have hfound : category.field s.source = found := by
    cases category with
    | value => rfl
    | kind => rfl
    | subkind => rfl
  rw [← hfound]
  refine ⟨by rw [accept_eq], ?_, is_iff, fun his => ?_, fun hnot => ?_⟩
  · cases his : s.is category expected with
    | true => simp [expect_of_is his]
    | false =>
      have hrefused := refused_of_not_is his
      refine ⟨fun hanswer => ?_, fun h => absurd h Bool.false_ne_true⟩
      rw [hanswer] at hrefused
      cases hrefused
  · rw [accept_eq, his, expect_of_is his, advance_eq]
    exact ⟨rfl, rfl, calls_accept s category expected, calls_expect_of_is his⟩
  · rw [accept_eq, hnot]
    exact ⟨rfl, calls_accept s category expected, refused_of_not_is hnot⟩

/-- Two tokens, a record of the unexpected ones, and an end token past the end. -/
def sample : TokenStream (List Unexpected) :=
  ((new .sample
    [{ kind := "KEYWORD", start := 0, stop := 2, location := .start [] },
      { kind := "WORD", start := 3, stop := 5, location := .start [] }] []).withUnexpectedHandler
      fun call calls => calls ++ [call]).withEndOfTokensHandler
    fun _ => { kind := "EOF", start := 0, stop := 0, location := .start [] }

/-- A keyword is taken where one is expected, and reported where a number is. -/
theorem is_accept_expect_agree_sample :
    sample.is .kind ["KEYWORD"] = true ∧ sample.is .kind ["NUMBER"] = false ∧
      (sample.accept .kind ["KEYWORD"]).2 = (sample.expect .kind ["KEYWORD"]).2 ∧
      sample.Refused .kind ["NUMBER"] (·.kind) (.ok false) (sample.expect .kind ["NUMBER"]).2
        (sample.calls (.expect .kind ["NUMBER"])) := by
  have his : sample.is .kind ["KEYWORD"] = true := by decide +kernel
  have hnot : sample.is .kind ["NUMBER"] = false := by decide +kernel
  obtain ⟨-, -, -, hmoved, -⟩ := is_accept_expect_agree sample .kind ["KEYWORD"]
  obtain ⟨-, -, -, -, hrefused⟩ := is_accept_expect_agree sample .kind ["NUMBER"]
  obtain ⟨haccept, hexpect, -, -⟩ := hmoved his
  exact ⟨his, hnot, haccept.trans hexpect.symm, (hrefused hnot).2.2⟩

end RuleLexer.TokenStream
