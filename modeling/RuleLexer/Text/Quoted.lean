import RuleLexer.Text.GraphemeExtend
import RuleLexer.Text.Unprintable

/-!
# Quoted text

`quoteString` and `quoteChar` write text so that every character can be told apart: quotes,
backslashes and control characters are escaped, and a character that has no visible form of its own
is written by its code point in hexadecimal. `unquote` reads a quoted string back.
-/

namespace RuleLexer.Text

def lineEscape? : Char → Option Char
  | '\x00' => some '0'
  | '\t' => some 't'
  | '\n' => some 'n'
  | '\r' => some 'r'
  | '\\' => some '\\'
  | _ => none

/-- The code point of `c` in lower-case hexadecimal, as `\u` followed by braces. -/
def codeEscape (c : Char) : List Char :=
  ['\\', 'u', '{'] ++ Nat.toDigits 16 c.toNat ++ ['}']

/-- One character inside the given quote mark, which is escaped too. -/
def escapeChar (mark c : Char) : List Char :=
  if c = mark then ['\\', c]
  else
    match lineEscape? c with
    | some e => ['\\', e]
    | none => if joinsPrevious c || !isPrintable c then codeEscape c else [c]

def quote (mark : Char) (cs : List Char) : List Char :=
  mark :: cs.flatMap (escapeChar mark) ++ [mark]

def quoteString (s : String) : String :=
  String.ofList (quote '"' s.toList)

def quoteChar (c : Char) : String :=
  String.ofList (quote '\'' [c])

/-- The character that a backslash and `c` stand for, code points apart. -/
def unescape? : Char → Option Char
  | '0' => some '\x00'
  | 't' => some '\t'
  | 'n' => some '\n'
  | 'r' => some '\r'
  | '\\' => some '\\'
  | '"' => some '"'
  | '\'' => some '\''
  | _ => none

def hexDigit? (c : Char) : Option Nat :=
  if '0' ≤ c ∧ c ≤ '9' then some (c.toNat - '0'.toNat)
  else if 'a' ≤ c ∧ c ≤ 'f' then some (c.toNat - 'a'.toNat + 10)
  else if 'A' ≤ c ∧ c ≤ 'F' then some (c.toNat - 'A'.toNat + 10)
  else none

/-- How far into an escape the reader of quoted text stands. -/
inductive EscapeState where
  | plain
  | backslash
  | code
  | digits (value : Nat)

/-- Reads the inside of a quoted string up to and including its closing mark, which must come
last. -/
def unquoteFrom : EscapeState → List Char → Option (List Char)
  | _, [] => none
  | .plain, c :: rest =>
    if c = '\\' then unquoteFrom .backslash rest
    else if c = '"' then if rest.isEmpty then some [] else none
    else (unquoteFrom .plain rest).map (c :: ·)
  | .backslash, c :: rest =>
    if c = 'u' then unquoteFrom .code rest
    else
      match unescape? c with
      | some d => (unquoteFrom .plain rest).map (d :: ·)
      | none => none
  | .code, c :: rest => if c = '{' then unquoteFrom (.digits 0) rest else none
  | .digits value, c :: rest =>
    if c = '}' then
      if value.isValidChar then (unquoteFrom .plain rest).map (Char.ofNat value :: ·) else none
    else
      match hexDigit? c with
      | some d => unquoteFrom (.digits (16 * value + d)) rest
      | none => none

def unquote : List Char → Option (List Char)
  | '"' :: rest => unquoteFrom .plain rest
  | _ => none

end RuleLexer.Text
