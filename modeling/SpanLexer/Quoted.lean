import SpanLexer.Text
import SpanLexer.Unicode.Unprintable

/-!
# Quoted text

Messages show text in double quotes, one character at a time, so that what cannot be seen or
would end the quote is written by an escape.

* `escape` — how one character is written.
* `quoted` — a whole text in quotes.
-/

namespace SpanLexer

/-- One character inside quotes: the quote and the backslash get a backslash, four controls have
short names, other unprintable characters are written by their code point in hexadecimal. -/
def escape (c : Char) : Text :=
  if c = nul then ['\\', '0']
  else if c = '\t' then ['\\', 't']
  else if c = '\n' then ['\\', 'n']
  else if c = '\r' then ['\\', 'r']
  else if c = '"' then ['\\', '"']
  else if c = '\\' then ['\\', '\\']
  else if Unicode.unprintable.contains c.toNat then
    ['\\', 'u', '\x7b'] ++ Nat.toDigits 16 c.toNat ++ ['\x7d']
  else [c]

/-- A text in double quotes, each character on its own. -/
def quoted (t : Text) : Text :=
  '"' :: (t.flatMap escape ++ ['"'])

end SpanLexer
