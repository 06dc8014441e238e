/-!
# Files that cannot be read

A file system is a function from paths to texts or the reason why there is none.
-/

namespace RuleLexer

inductive ReadError where
  /-- The operating system refuses, with its text and number for the reason. -/
  | system (text : String) (code : Nat)
  /-- The bytes of the file are not UTF-8. -/
  | notText
  /-- A path with a zero byte names no file. -/
  | zeroByte
  deriving DecidableEq

namespace ReadError

def notFound : ReadError := .system "No such file or directory" 2

def notDirectory : ReadError := .system "Not a directory" 20

def isDirectory : ReadError := .system "Is a directory" 21

def nameTooLong : ReadError := .system "File name too long" 36

def message : ReadError → String
  | system text code => s!"{text} (os error {code})"
  | notText => "stream did not contain valid UTF-8"
  | zeroByte => "file name contained an unexpected NUL byte"

end ReadError

/-- The text that the bytes of a file spell. -/
def decodeText (bytes : ByteArray) : Except ReadError String :=
  match String.fromUTF8? bytes with
  | some text => .ok text
  | none => .error .notText

abbrev FileSystem := String → Except ReadError String

end RuleLexer
