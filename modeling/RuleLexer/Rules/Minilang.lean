import RuleLexer.Rules.Loading

/-!
# The minilang rules

The rules of a small language, bundled as a document so that they are loaded, and can be edited,
like any other.
-/

namespace RuleLexer.Minilang

def texts (members : List (String × String)) : Json :=
  .ofMembers (members.map fun m => (m.1, .string m.2))

def words (ws : List String) : Json := .list (ws.map .string)

def kinds : Json := texts [
  ("whitespace", "WS"), ("word", "WORD"), ("keyword", "KEYWORD"), ("number", "NUMBER"),
  ("delimiter", "DELIMITER"), ("operator", "OPERATOR"), ("string", "STRING"),
  ("comment", "COMMENT"), ("documentation", "DOCUMENTATION"), ("eof", "EOF")]

def whitespace : Json := .ofMembers [
  ("chars", .string " \t\r\n"), ("include", .bool false)]

def strings : Json := .ofMembers [
  ("escape", .string "\\"),
  ("quotes", texts [("'", "SINGLEQUOTE"), ("\"", "DOUBLEQUOTE"), ("`", "TEMPLATE")])]

def numbers : Json := .ofMembers [
  ("subkind", .string "INTEGER"), ("float_subkind", .string "FLOAT"), ("separator", .string "_"),
  ("bases", .ofMembers [
    ("x", texts [("digits", "0123456789ABCDEF"), ("subkind", "HEXADECIMAL")]),
    ("o", texts [("digits", "01234567"), ("subkind", "OCTAL")]),
    ("b", texts [("digits", "01"), ("subkind", "BINARY")])])]

def operators : Json := .ofMembers [
  ("chars", .string "=<>!+-*/%&|^~?"), ("max_length", .nat 3)]

def delimiters : Json := texts [("chars", "()[]\x7b\x7d,.;:")]

def comments : Json := .ofMembers [
  ("line", .string "//"), ("subkind", .string "LINE"), ("include", .bool false),
  ("block", texts [("begin", "/*"), ("end", "*/"), ("subkind", "BLOCK")])]

def documentation : Json := .ofMembers [
  ("line", .string "///"), ("subkind", .string "LINE"), ("include", .bool true),
  ("block", texts [("begin", "/**"), ("end", "*/"), ("subkind", "BLOCK")])]

def keywords : Json := .ofMembers [
  ("subkind", .string "reserved"),
  ("reserved", words [
    "import", "get", "set", "if", "elif", "else", "while", "do", "switch", "return", "break",
    "breakpoint", "continue", "repeat", "print", "assert"]),
  ("subkinds", words [
    "access", "keyvalue", "qualifier", "primitive"]),
  ("access", words [
    "public", "protected", "private"]),
  ("keyvalue", words [
    "null", "true", "false", "this", "super", "base", "value"]),
  ("qualifier", words [
    "static", "unbound", "final", "abstract", "const", "readonly", "override", "overload"]),
  ("primitive", words [
    "i8", "i16", "i32", "i64", "u8", "u16", "u32", "u64", "f32", "f64", "boolean", "string"])]

def identifiers : Json := .ofMembers [
  ("subkind", .string "identifier"), ("max_length", .nat 64)]

def tokens : Json := texts [
  ("(", "LPAREN"), (")", "RPAREN"), ("\x7b", "LBRACE"), ("\x7d", "RBRACE"), ("[", "LBRACKET"),
  ("]", "RBRACKET"), (",", "COMMA"), (".", "DOT"), ("=", "ASSIGN"), ("<<", "LSHIFT"),
  (";", "SEMICOLON"), (":", "COLON"), ("->", "POINTER"), ("++", "INCR"), ("--", "DECR"),
  ("+", "ADD"), ("-", "SUB"), ("*", "MUL"), ("/", "DIV"), ("%", "MOD")]

def document : Json := .ofMembers [
  ("subkind_delimiter", .string ":"), ("kinds", kinds), ("whitespace", whitespace),
  ("string", strings), ("number", numbers), ("operator", operators), ("delimiter", delimiters),
  ("comment", comments), ("document", documentation), ("keyword", keywords), ("word", identifiers),
  ("tokens", tokens)]

def rules : Except LoadError Rules := Rules.ofJson document

end RuleLexer.Minilang
