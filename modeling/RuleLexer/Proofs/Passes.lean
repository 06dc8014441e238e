import RuleLexer.Proofs.Cursor
import RuleLexer.Proofs.Scan

/-!
# The scan as passes of loops

A scan can be carried out with a cursor and nothing else: a driver loop looks at the character under
the cursor and hands over to the loop of a scanner, and each pass of such a loop looks at the
character and moves on, ends the lexeme, or fails. `Rules.pass` is one pass. A pass that stays in
its loop steps over a character, and a lexeme that ends has stepped over one at least, so the
driver comes back to a later place each time.
-/

namespace RuleLexer
open Text

/-- The loop that a scanner is in, with what it keeps from pass to pass. -/
inductive Loop where
  | whitespace
  | string (quote : Char)
  /-- `digits` counts those of the base; a suffix is known by the offset that it starts at. -/
  | number (base : Option NumberBase) (hasPoint : Bool) (digits : Nat) (suffixFrom : Option Nat)
  | operator (length : Nat)
  | lineComment (m : Marker)
  /-- The body of the block starts at the offset `body`. -/
  | blockComment (m : Marker) (mark : String) (body : Nat)
  | word (length : Nat)

/-- What a pass of a scanner's loop leads to. -/
inductive Pass where
  | again (loop : Loop) (k : Cursor)
  | done (k : Cursor) (label : Option Label)
  | failed (e : LexError)

/-- A place in the run of the scan: the driver, or a lexeme that has been started. -/
inductive Point where
  | driver (k : Cursor) (tokens : List Token)
  | lexeme (start : Position) (loop : Loop) (k : Cursor) (tokens : List Token)

/-- A scan that has ended on the left, one that goes on on the right. -/
abbrev Stage := Except LexError (List Token) ⊕ Point

namespace Cursor

def failed (k : Cursor) (kind : LexError.Kind) (hint : Option String) : Pass :=
  .failed ⟨kind, k.ch, k.position, hint⟩

/-- The token from `start` up to the cursor. -/
def token (k : Cursor) (start : Position) (label : Label) : Token where
  kind := label.kind
  subkind := label.subkind
  start := start.index
  stop := k.position.index
  location := start
  base := label.base
  suffix := label.suffix

end Cursor

namespace Rules

/-! ## Passes of the scanners -/

def numberDone (r : Rules) (text : List Char) (k : Cursor) (base : Option NumberBase)
    (hasPoint : Bool) (digits : Nat) (suffixFrom : Option Nat) : Pass :=
  let suffix := (suffixFrom.map fun i => String.ofList (k.slice text i)).getD ""
  match base with
  | some b =>
    if digits = 0 then k.failed .invalidNumber (some "expected digits after the base prefix")
    else .done k (some ⟨r.kinds.number, b.subkind, b.radix, suffix⟩)
  | none =>
    let subkind := if hasPoint then r.numbers.floatSubkind else r.numbers.subkind
    .done k (some ⟨r.kinds.number, subkind, 10, suffix⟩)

def numberPass (r : Rules) (text : List Char) (k : Cursor) (base : Option NumberBase)
    (hasPoint : Bool) (digits : Nat) (suffixFrom : Option Nat) : Pass :=
  let again (hasPoint : Bool) (digits : Nat) (suffixFrom : Option Nat) : Pass :=
    .again (.number base hasPoint digits suffixFrom) (k.advance text)
  let stop := r.numberDone text k base hasPoint digits suffixFrom
  match k.ch with
  | none => stop
  | some c =>
    if suffixFrom.isSome then
      if isWordChar c then again hasPoint digits suffixFrom
      else if r.isBoundary c then stop
      else k.failed .invalidNumber none
    else if (base.map (·.accepts c)).getD c.isDigit then again hasPoint (digits + 1) none
    else if r.isSeparator c then again hasPoint digits none
    else if c = '.' then
      match base with
      | some b => k.failed .invalidNumber (some s!"no fractional part in base {b.radix}")
      | none =>
        if hasPoint then k.failed .invalidNumber (some "second decimal point")
        else again true digits none
    else if base.isNone ∧ isAlphabetic c then again hasPoint digits (some k.position.index)
    else if r.isBoundary c then stop
    else k.failed .invalidNumber (base.map fun b => s!"not a base {b.radix} digit")

def stringPass (r : Rules) (text : List Char) (start : Position) (k : Cursor) (quote : Char) :
    Pass :=
  match k.ch with
  | none => .failed ⟨.unterminatedString, some quote, start, none⟩
  | some c =>
    if some c = r.strings.escape then .again (.string quote) ((k.advance text).advance text)
    else if c = quote then
      .done (k.advance text) (some ⟨r.kinds.string, (r.strings.subkind? quote).getD "", 10, ""⟩)
    else .again (.string quote) (k.advance text)

/-- A run of operator characters has ended: it is a marker or an operator. -/
def operatorDone (r : Rules) (text : List Char) (start : Position) (k : Cursor) : Pass :=
  let run := String.ofList (k.slice text start.index)
  match r.marker? run with
  | some m =>
    match m.closing with
    | some mark => .again (.blockComment m mark k.position.index) k
    | none => .again (.lineComment m) k
  | none => .done k (some ⟨r.kinds.operator, (r.tokenName? run).getD "", 10, ""⟩)

def commentLabel (m : Marker) : Option Label :=
  if m.keep then some ⟨m.kind, m.subkind, 10, ""⟩ else none

def blockPass (text : List Char) (start : Position) (k : Cursor) (m : Marker) (mark : String)
    (body : Nat) : Pass :=
  match k.ch with
  | none => .failed ⟨.unterminatedComment, none, start, some s!"expected {quoteString mark}"⟩
  | some _ =>
    let k' := k.advance text
    if mark.toList.isSuffixOf (k'.slice text body) then .done k' (commentLabel m)
    else .again (.blockComment m mark body) k'

/-- One pass of the loop of a lexeme that starts at `start`. -/
def loopPass (r : Rules) (text : List Char) (start : Position) (k : Cursor) : Loop → Pass
  | .whitespace =>
    if k.ch.any r.whitespace.chars.contains then .again .whitespace (k.advance text)
    else .done k (if r.whitespace.keep then some ⟨r.kinds.whitespace, "", 10, ""⟩ else none)
  | .string quote => r.stringPass text start k quote
  | .number base hasPoint digits suffixFrom =>
    r.numberPass text k base hasPoint digits suffixFrom
  | .operator length =>
    if k.ch.any r.operators.chars.contains then
      if r.operators.maxLength < length + 1 then
        k.failed (.operatorTooLong r.operators.maxLength) none
      else .again (.operator (length + 1)) (k.advance text)
    else r.operatorDone text start k
  | .lineComment m =>
    if k.ch.any (· != '\n') then .again (.lineComment m) (k.advance text)
    else .done k (commentLabel m)
  | .blockComment m mark body => blockPass text start k m mark body
  | .word length =>
    if k.ch.any isWordChar then
      if r.words.maxLength < length + 1 then
        k.failed (.identifierTooLong r.words.maxLength) none
      else .again (.word (length + 1)) (k.advance text)
    else .done k (some (r.wordLabel (String.ofList (k.slice text start.index))))

/-! ## Passes of the driver -/

/-- A number is entered behind its zero and the letter of its base, if it has them. -/
def enterNumber (r : Rules) (text : List Char) (k : Cursor) : Pass :=
  if k.ch = some '0' then
    let k' := k.advance text
    match k'.ch.bind r.numbers.base? with
    | some b => .again (.number (some b) false 0 none) (k'.advance text)
    | none => .again (.number none false 0 none) k'
  else .again (.number none false 0 none) k

/-- Starts the lexeme of `c`, the character at the cursor. -/
def enter (r : Rules) (text : List Char) (k : Cursor) (c : Char) : CharClass → Pass
  | .whitespace => .again .whitespace k
  | .quote => .again (.string c) (k.advance text)
  | .digit => r.enterNumber text k
  | .delimiter =>
    let k' := k.advance text
    let name := r.tokenName? (String.ofList (k'.slice text k.position.index))
    .done k' (some ⟨r.kinds.delimiter, name.getD "", 10, ""⟩)
  | .operator => .again (.operator 0) k
  | .letter => .again (.word 0) k

/-- The stage that a pass of the lexeme from `start` leads to. -/
def stageOf (start : Position) (tokens : List Token) : Pass → Stage
  | .again loop k => .inr (.lexeme start loop k tokens)
  | .done k label => .inr (.driver k (tokens ++ (label.map (k.token start)).toList))
  | .failed e => .inl (.error e)

/-- One pass of the loop that the scan is in. -/
def pass (r : Rules) (text : List Char) : Point → Stage
  | .driver k tokens =>
    match k.ch with
    | none => .inl (.ok (tokens ++ [r.endToken text k.position]))
    | some c =>
      match CharClass.precedence.find? (r.belongs c) with
      | some cls => stageOf k.position tokens (r.enter text k c cls)
      | none => stageOf k.position tokens (k.failed .unexpectedCharacter none)
  | .lexeme start loop k tokens => stageOf start tokens (r.loopPass text start k loop)

/-- The stage behind a stage: a scan that has ended stays so. -/
def next (r : Rules) (text : List Char) : Stage → Stage
  | .inl result => .inl result
  | .inr point => r.pass text point

/-- The stage of the scan after `n` passes. -/
def stage (r : Rules) (text : List Char) (n : Nat) : Stage :=
  (r.next text)^[n] (.inr (.driver (.start text) []))

theorem stage_succ (r : Rules) (text : List Char) (n : Nat) :
    r.stage text (n + 1) = r.next text (r.stage text n) :=
  Function.iterate_succ_apply' ..

theorem stage_of_ended {r : Rules} {text : List Char} {a b : Nat}
    {result : Except LexError (List Token)} (h : r.stage text a = .inl result) (hab : a ≤ b) :
    r.stage text b = .inl result := by
  induction b, hab using Nat.le_induction with
  | base => exact h
  | succ b _ ih => rw [stage_succ, ih, next]

end Rules

/-! ## What a pass of a scanner can do -/

namespace Loop

/-- The offsets that a loop slices the text from. -/
def marks : Loop → List Nat
  | .number _ _ _ suffixFrom => suffixFrom.toList
  | .blockComment _ _ body => [body]
  | _ => []

/-- A run of operator characters that is a marker is left to the loop of its comment. -/
inductive HandsOver : Loop → Loop → Prop
  | line (length : Nat) (m : Marker) : HandsOver (.operator length) (.lineComment m)
  | block (length : Nat) (m : Marker) (mark : String) (body : Nat) :
      HandsOver (.operator length) (.blockComment m mark body)

/-- `c` is a character that the loop steps over wherever it meets it. -/
def Takes (r : Rules) (c : Char) : Loop → Prop
  | .whitespace => r.belongs c .whitespace
  | .number none _ _ none => c.isDigit
  | .operator _ => r.belongs c .operator
  | .word _ => isWordChar c
  | _ => False

end Loop

/-- What a pass of `loop` at the cursor `k` leads to: it steps over characters and goes on, with no
mark but the old ones and the place of the cursor, or leaves the loop. -/
inductive Pass.Follows (text : List Char) (loop : Loop) (k : Cursor) : Pass → Prop
  | moves {loop' : Loop} (d : Nat) (hch : k.ch ≠ none)
      (hmarks : loop'.marks ⊆ k.position.index :: loop.marks) :
      Follows text loop k (.again loop' ((Cursor.advance text)^[d + 1] k))
  | handsOver {loop' : Loop} (h : loop.HandsOver loop')
      (hmarks : loop'.marks ⊆ k.position.index :: loop.marks) :
      Follows text loop k (.again loop' k)
  | leaves {label : Option Label} (d : Nat) :
      Follows text loop k (.done ((Cursor.advance text)^[d] k) label)
  | fails {e : LexError} : Follows text loop k (.failed e)

theorem Pass.Follows.marks_subset {text : List Char} {loop loop' : Loop} {k k' : Cursor}
    (h : Pass.Follows text loop k (.again loop' k')) :
    loop'.marks ⊆ k.position.index :: loop.marks := by
  cases h with
  | moves _ _ hmarks => exact hmarks
  | handsOver _ hmarks => exact hmarks

namespace Rules
variable {r : Rules} {text : List Char} {start : Position} {k : Cursor} {c : Char}

theorem numberPass_follows (base : Option NumberBase) (hasPoint : Bool) (digits : Nat)
    (suffixFrom : Option Nat) :
    Pass.Follows text (.number base hasPoint digits suffixFrom) k
      (r.numberPass text k base hasPoint digits suffixFrom) := by
  have hstop : Pass.Follows text (.number base hasPoint digits suffixFrom) k
      (r.numberDone text k base hasPoint digits suffixFrom) := by
    unfold numberDone
    split
    · split
      · exact .fails
      · exact .leaves 0
    · exact .leaves 0
  unfold numberPass
  cases hch : k.ch with
  | none => exact hstop
  | some c =>
    have hsome : k.ch ≠ none := by simp [hch]
    -- a pass that goes on keeps the mark, drops it or sets it here
    have hkeep (point : Bool) : Pass.Follows text (.number base hasPoint digits suffixFrom) k
        (.again (.number base point digits suffixFrom) (k.advance text)) :=
      .moves 0 hsome (List.subset_cons_self _ _)
    have hdrop (point : Bool) (count : Nat) :
        Pass.Follows text (.number base hasPoint digits suffixFrom) k
          (.again (.number base point count none) (k.advance text)) :=
      .moves 0 hsome (List.nil_subset _)
    have hset : Pass.Follows text (.number base hasPoint digits suffixFrom) k
        (.again (.number base hasPoint digits (some k.position.index)) (k.advance text)) :=
      .moves 0 hsome (List.cons_subset_cons _ (List.nil_subset _))
    dsimp only
    split
    · split
      · exact hkeep hasPoint
      · split
        · exact hstop
        · exact .fails
    · split
      · exact hdrop hasPoint (digits + 1)
      · split
        · exact hdrop hasPoint digits
        · split
          · split
            · exact .fails
            · split
              · exact .fails
              · exact hdrop true digits
          · split
            · exact hset
            · split
              · exact hstop
              · exact .fails

theorem stringPass_follows (quote : Char) :
    Pass.Follows text (.string quote) k (r.stringPass text start k quote) := by
  rw [stringPass]
  cases hch : k.ch with
  | none => exact .fails
  | some c =>
    have hsome : k.ch ≠ none := by simp [hch]
    dsimp only
    split
    · exact .moves 1 hsome (List.nil_subset _)
    · split
      · exact .leaves 1
      · exact .moves 0 hsome (List.nil_subset _)

theorem operatorDone_follows (length : Nat) :
    Pass.Follows text (.operator length) k (r.operatorDone text start k) := by
  rw [operatorDone]
  split
  · split
    · exact .handsOver (.block ..) (List.cons_subset_cons _ (List.nil_subset _))
    · exact .handsOver (.line ..) (List.nil_subset _)
  · exact .leaves 0

theorem blockPass_follows (m : Marker) (mark : String) (body : Nat) :
    Pass.Follows text (.blockComment m mark body) k (blockPass text start k m mark body) := by
  rw [blockPass]
  cases hch : k.ch with
  | none => exact .fails
  | some c =>
    dsimp only
    split
    · exact .leaves 1
    · exact .moves 0 (by simp [hch]) (List.subset_cons_self _ _)

theorem loopPass_follows (r : Rules) (text : List Char) (start : Position) (k : Cursor)
    (loop : Loop) : Pass.Follows text loop k (r.loopPass text start k loop) := by
  have hsome {p : Char → Bool} (h : k.ch.any p) : k.ch ≠ none := by
    rintro hnone
    rw [hnone] at h
    cases h
  cases loop with
  | whitespace =>
    rw [loopPass]
    split
    · next h => exact .moves 0 (hsome h) (List.nil_subset _)
    · exact .leaves 0
  | string quote => exact stringPass_follows quote
  | number base hasPoint digits suffixFrom =>
    exact numberPass_follows base hasPoint digits suffixFrom
  | operator length =>
    rw [loopPass]
    split
    · next h =>
      split
      · exact .fails
      · exact .moves 0 (hsome h) (List.nil_subset _)
    · exact operatorDone_follows length
  | lineComment m =>
    rw [loopPass]
    split
    · next h => exact .moves 0 (hsome h) (List.nil_subset _)
    · exact .leaves 0
  | blockComment m mark body => exact blockPass_follows m mark body
  | word length =>
    rw [loopPass]
    split
    · next h =>
      split
      · exact .fails
      · exact .moves 0 (hsome h) (List.nil_subset _)
    · exact .leaves 0

/-- A loop does not end before a character that it takes. -/
theorem loopPass_of_takes {loop : Loop} (text : List Char) (start : Position)
    (hch : k.ch = some c) (htakes : loop.Takes r c) :
    (∃ loop', r.loopPass text start k loop = .again loop' (k.advance text)) ∨
      ∃ e, r.loopPass text start k loop = .failed e := by
  cases loop with
  | whitespace =>
    have hspace : r.whitespace.chars.contains c = true := htakes
    refine .inl ⟨.whitespace, ?_⟩
    rw [loopPass, hch, Option.any_some, if_pos hspace]
  | operator length =>
    have hoperator : r.operators.chars.contains c = true := htakes
    rw [loopPass, hch, Option.any_some, if_pos hoperator]
    split
    · exact .inr ⟨_, rfl⟩
    · exact .inl ⟨_, rfl⟩
  | word length =>
    have hword : isWordChar c = true := htakes
    rw [loopPass, hch, Option.any_some, if_pos hword]
    split
    · exact .inr ⟨_, rfl⟩
    · exact .inl ⟨_, rfl⟩
  | number base hasPoint digits suffixFrom =>
    rcases base with - | base
    · rcases suffixFrom with - | offset
      · have hdigit : c.isDigit = true := htakes
        refine .inl ⟨.number none hasPoint (digits + 1) none, ?_⟩
        simp [loopPass, numberPass, hch, hdigit]
      · exact htakes.elim
    · exact htakes.elim
  | string quote => exact htakes.elim
  | lineComment m => exact htakes.elim
  | blockComment m mark body => exact htakes.elim

/-! ## What the driver can do -/

/-- The driver enters a loop, having moved or at a character that the loop takes, or it is done with
a lexeme of one character. -/
theorem enter_cases {cls : CharClass} (text : List Char) (k : Cursor) (hc : r.belongs c cls) :
    (∃ loop, r.enter text k c cls = .again loop k ∧ loop.Takes r c ∧ loop.marks = []) ∨
      (∃ loop d, r.enter text k c cls = .again loop ((Cursor.advance text)^[d + 1] k) ∧
        loop.marks = []) ∨
      ∃ label, r.enter text k c cls = .done (k.advance text) label := by
  cases cls with
  | whitespace => exact .inl ⟨_, rfl, hc, rfl⟩
  | quote => exact .inr (.inl ⟨_, 0, rfl, rfl⟩)
  | digit =>
    rw [enter, enterNumber]
    split
    · dsimp only
      split
      · exact .inr (.inl ⟨_, 1, rfl, rfl⟩)
      · exact .inr (.inl ⟨_, 0, rfl, rfl⟩)
    · exact .inl ⟨_, rfl, hc, rfl⟩
  | delimiter => exact .inr (.inr ⟨_, rfl⟩)
  | operator => exact .inl ⟨_, rfl, hc, rfl⟩
  | letter => exact .inl ⟨_, rfl, isWordChar_of_isAlphabetic hc, rfl⟩

end Rules

end RuleLexer
