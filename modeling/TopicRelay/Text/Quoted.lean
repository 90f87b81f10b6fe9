import TopicRelay.Text.Hidden

/-!
# Quoted texts in diagnostics

A text between quotes, as diagnostics show it: the quote and the backslash are escaped,
four control characters have letters of their own, and every other character that does
not show on its own is written as its code point in braces.
-/

namespace TopicRelay

set_option autoImplicit false

namespace Text

/-- A code point in lower-case hexadecimal, between braces. -/
def bracedCode (char : Char) : List Char :=
  ['\\', 'u', '\x7b'] ++ Nat.toDigits 16 char.toNat ++ ['\x7d']

/-- How one character is written between quotes. -/
def quoteChar (char : Char) : List Char :=
  if char = '\x00' then ['\\', '0']
  else if char = '\t' then ['\\', 't']
  else if char = '\r' then ['\\', 'r']
  else if char = '\n' then ['\\', 'n']
  else if char = '"' then ['\\', '"']
  else if char = '\\' then ['\\', '\\']
  else if isHidden char then bracedCode char
  else [char]

/-- The text between quotes. -/
def quoted (text : String) : String :=
  String.ofList ('"' :: text.toList.flatMap quoteChar ++ ['"'])

end Text

end TopicRelay
