import RuleLexer.Json.Fault
import RuleLexer.Text.Bytes

/-!
# Reading scalars

`readScalar` reads a literal, a number or a string at the head of a text and gives the number of
characters it takes. Digits of a number are taken up as long as they fit into 64 bits; those of the
whole part that no longer fit count as factors of ten, those of the fraction are passed over.
-/

namespace RuleLexer.Json
open Text

def Fault.at (problem : Problem) (offset : Nat) : Fault := ⟨problem, some offset⟩

/-- Reads what is left of a literal; `read` characters of it are behind. -/
def readLiteral (offset : Nat) (value : Scalar) (read : Nat) :
    List Char → List Char → Except Fault (Scalar × Nat)
  | [], _ => .ok (value, read)
  | _ :: _, [] => .error (.at .endInValue offset)
  | e :: expected, c :: rest =>
    if c = e then readLiteral (offset + 1) value (read + 1) expected rest
    else .error (.at .expectedLiteral (offset + 1))

/-! ## Numbers -/

def wordLimit : Nat := 0x10000000000000000

def digitValue (c : Char) : Nat := c.toNat - '0'.toNat

/-- Takes up digits behind `value` while the result fits into 64 bits, and gives those left over. -/
def takeUpDigits (value : Nat) : List Char → Nat × List Char
  | [] => (value, [])
  | c :: cs =>
    let next := 10 * value + digitValue c
    if next < wordLimit then takeUpDigits next cs else (value, c :: cs)

/-- The value of an exponent's digits, and how many there are. The value is none when it exceeds 31
bits, and then the digits up to there count. -/
def exponentValue (value read : Nat) : List Char → Option Nat × Nat
  | [] => (some value, read)
  | c :: cs =>
    let next := 10 * value + digitValue c
    if next < 0x80000000 then exponentValue next (read + 1) cs else (none, read + 1)

/-- The part of a number that has been read. -/
structure NumberHead where
  negative : Bool
  significand : Nat
  exponent : Int
  /-- Characters taken. -/
  length : Nat

def NumberHead.toFloat (h : NumberHead) (offset : Nat) : Except Fault (Scalar × Nat) :=
  match Binary64.ofDecimal? h.significand h.exponent with
  | some x => .ok (.number (.float h.negative x), h.length)
  | none => .error (.at .numberOutOfRange (offset + h.length))

/-- Reads an exponent; `cs` follows the letter that starts it, which `h` counts. -/
def readExponent (offset : Nat) (h : NumberHead) (cs : List Char) :
    Except Fault (Scalar × Nat) :=
  let (down, signs, cs) :=
    match cs with
    | '+' :: rest => (false, 1, rest)
    | '-' :: rest => (true, 1, rest)
    | _ => (false, 0, cs)
  let start := h.length + signs
  match cs with
  | [] => .error (.at .endInValue (offset + start))
  | c :: _ =>
    if c.isDigit then
      let digits := cs.takeWhile Char.isDigit
      match exponentValue 0 0 digits with
      | (some e, read) =>
        let shift : Int := if down then -(e : Int) else e
        ({ h with exponent := h.exponent + shift, length := start + read }).toFloat offset
      | (none, read) =>
        if h.significand ≠ 0 ∧ !down then .error (.at .numberOutOfRange (offset + start + read))
        else .ok (.number (.float h.negative .zero), start + digits.length)
    else .error (.at .invalidNumber (offset + start + 1))

/-- Reads a fraction; `cs` follows the decimal point, which `h` counts. -/
def readFraction (offset : Nat) (h : NumberHead) (cs : List Char) :
    Except Fault (Scalar × Nat) :=
  let digits := cs.takeWhile Char.isDigit
  let rest := cs.dropWhile Char.isDigit
  let here := offset + h.length
  if digits.isEmpty then
    .error (if rest.isEmpty then .at .endInValue here else .at .invalidNumber (here + 1))
  else
    let (significand, left) := takeUpDigits h.significand digits
    let places := digits.length - left.length
    let h := { h with
      significand, exponent := h.exponent - places, length := h.length + digits.length }
    match rest with
    | 'e' :: rest | 'E' :: rest => readExponent offset { h with length := h.length + 1 } rest
    | _ => h.toFloat offset

/-- A number of nothing but a whole part. -/
def wholeNumber (h : NumberHead) (offset : Nat) : Except Fault (Scalar × Nat) :=
  if h.exponent ≠ 0 then h.toFloat offset
  else if !h.negative then .ok (.number (.integer h.significand), h.length)
  else if h.significand = 0 ∨ 0x8000000000000000 < h.significand then h.toFloat offset
  else .ok (.number (.integer (-(h.significand : Int))), h.length)

/-- Reads a number behind its sign. -/
def readUnsigned (offset : Nat) (negative : Bool) (cs : List Char) : Except Fault (Scalar × Nat) :=
  let signs := if negative then 1 else 0
  match cs with
  | [] => .error (.at .endInValue (offset + signs))
  | c :: rest =>
    if !c.isDigit then .error (.at .invalidNumber (offset + signs + 1))
    else if c = '0' ∧ (rest.head?.any Char.isDigit) then
      .error (.at .invalidNumber (offset + signs + 2))
    else
      let digits := cs.takeWhile Char.isDigit
      let (significand, left) := takeUpDigits 0 digits
      let h : NumberHead := ⟨negative, significand, left.length, signs + digits.length⟩
      match cs.dropWhile Char.isDigit with
      | '.' :: rest => readFraction offset { h with length := h.length + 1 } rest
      | 'e' :: rest | 'E' :: rest => readExponent offset { h with length := h.length + 1 } rest
      | _ => wholeNumber h offset

/-! ## Strings -/

def isLead (n : Nat) : Bool := 0xD800 ≤ n && n < 0xDC00

def isTrail (n : Nat) : Bool := 0xDC00 ≤ n && n < 0xE000

/-- The character of a surrogate pair. -/
def joinPair (lead trail : Nat) : Char :=
  Char.ofNat (0x10000 + (lead - 0xD800) * 0x400 + (trail - 0xDC00))

/-- How far into an escape the reader of a string stands. A surrogate `lead` waits for its other
half. -/
inductive StringState where
  | plain
  | escape
  | hex (lead : Option Nat) (start digits value : Nat)
  | pairBackslash (lead : Nat)
  | pairLetter (lead : Nat)

def shortEscape? : Char → Option Char
  | '"' => some '"'
  | '\\' => some '\\'
  | '/' => some '/'
  | 'b' => some '\x08'
  | 'f' => some '\x0c'
  | 'n' => some '\n'
  | 'r' => some '\r'
  | 't' => some '\t'
  | _ => none

/-- What four hexadecimal digits lead to: a state, and the character they complete. -/
def afterHex (offset : Nat) (lead : Option Nat) (value : Nat) :
    Except Fault (StringState × Option Char) :=
  match lead with
  | some l =>
    if isTrail value then .ok (.plain, some (joinPair l value))
    else .error (.at .loneSurrogate offset)
  | none =>
    if isTrail value then .error (.at .loneSurrogate offset)
    else if isLead value then .ok (.pairBackslash value, none)
    else .ok (.plain, some (Char.ofNat value))

/-- Reads a string behind its opening mark. `chars` are the characters read so far, in reverse, and
`read` counts what they took. -/
def readString (offset read : Nat) (chars : List Char) :
    StringState → List Char → Except Fault (String × Nat)
  | _, [] => .error (.at .endInString offset)
  | .plain, c :: rest =>
    if c = '"' then .ok (String.ofList chars.reverse, read + 1)
    else if c = '\\' then readString (offset + 1) (read + 1) chars .escape rest
    else if c.val < 0x20 then .error (.at .controlCharacter (offset + 1))
    else readString (offset + c.utf8Size) (read + 1) (c :: chars) .plain rest
  | .escape, c :: rest =>
    if c = 'u' then readString (offset + 1) (read + 1) chars (.hex none (offset + 1) 0 0) rest
    else
      match shortEscape? c with
      | some d => readString (offset + 1) (read + 1) (d :: chars) .plain rest
      | none => .error (.at .invalidEscape (offset + 1))
  | .hex lead start digits value, c :: rest =>
    match hexDigit? c with
    | none =>
      let left := offset - start + byteLength (c :: rest)
      .error (if left < 4 then .at .endInString (start + left) else .at .invalidEscape (start + 4))
    | some d =>
      let value := 16 * value + d
      if digits < 3 then
        readString (offset + 1) (read + 1) chars (.hex lead start (digits + 1) value) rest
      else
        match afterHex (offset + 1) lead value with
        | .error f => .error f
        | .ok (state, some d) => readString (offset + 1) (read + 1) (d :: chars) state rest
        | .ok (state, none) => readString (offset + 1) (read + 1) chars state rest
  | .pairBackslash lead, c :: rest =>
    if c = '\\' then readString (offset + 1) (read + 1) chars (.pairLetter lead) rest
    else .error (.at .brokenSurrogatePair (offset + 1))
  | .pairLetter lead, c :: rest =>
    if c = 'u' then
      readString (offset + 1) (read + 1) chars (.hex (some lead) (offset + 1) 0 0) rest
    else .error (.at .brokenSurrogatePair (offset + 1))

/-- Reads the scalar that starts with `c`. -/
def readScalar (offset : Nat) (c : Char) (rest : List Char) : Except Fault (Scalar × Nat) :=
  match c with
  | 'n' => readLiteral (offset + 1) .null 1 "ull".toList rest
  | 't' => readLiteral (offset + 1) (.bool true) 1 "rue".toList rest
  | 'f' => readLiteral (offset + 1) (.bool false) 1 "alse".toList rest
  | '"' => (readString (offset + 1) 1 [] .plain rest).map fun (s, read) => (.string s, read)
  | '-' => readUnsigned offset true rest
  | _ =>
    if c.isDigit then readUnsigned offset false (c :: rest)
    else .error (.at .expectedValue (offset + 1))

end RuleLexer.Json
