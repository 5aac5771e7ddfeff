import CommentSeparator.Text.Hexadecimal
import CommentSeparator.Text.Printable

/-!
# Quoted text

Messages and log lines show a text between quotation marks, so that its ends and its invisible
characters can be seen.

* `quoteChar` — one character: the quotation mark and the backslash after a backslash, NUL, tab, LF
  and CR by a letter, a character that cannot be shown by its code point in braces.
* `quote` — the whole text between quotation marks.
-/

namespace CommentSeparator.Text

/-- One character as quoted text shows it. -/
def quoteChar (c : Char) : List Char :=
  if c = '\x00' then ['\\', '0']
  else if c = '\t' then ['\\', 't']
  else if c = '\r' then ['\\', 'r']
  else if c = '\n' then ['\\', 'n']
  else if c = '"' ∨ c = '\\' then ['\\', c]
  else if isShown c then [c]
  else ['\\', 'u', '\x7b'] ++ hexDigits c ++ ['\x7d']

/-- A text between quotation marks. -/
def quote (text : String) : String :=
  String.ofList ('"' :: text.toList.flatMap quoteChar ++ ['"'])

end CommentSeparator.Text
