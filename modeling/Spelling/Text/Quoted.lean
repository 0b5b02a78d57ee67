import Spelling.Text.Printable

/-!
# Quoted text

A text between quotation marks, with everything that could not be read back written as an escape:

    "  \      a backslash before it
    LF CR TAB NUL   \n \r \t \0
    printable characters that stand by themselves   as they are
    all others   \u{…} with the code point in hexadecimal
-/

namespace Spelling.Text

/-- A character by its code point. -/
def codePointEscape (c : Char) : List Char :=
  ['\\', 'u', '\x7b'] ++ Nat.toDigits 16 c.toNat ++ ['\x7d']

/-- How a character is written inside a quoted text. -/
def quoteChar (c : Char) : List Char :=
  if c = '"' then ['\\', '"']
  else if c = '\\' then ['\\', '\\']
  else if c = '\n' then ['\\', 'n']
  else if c = '\r' then ['\\', 'r']
  else if c = '\t' then ['\\', 't']
  else if c = '\x00' then ['\\', '0']
  else if isPrintable c && !isExtending c then [c]
  else codePointEscape c

/-- A text between quotation marks. -/
def quoted (s : String) : String :=
  String.ofList ('"' :: s.toList.flatMap quoteChar ++ ['"'])

end Spelling.Text
