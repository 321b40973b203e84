import SpanLexer.Text

/-!
# Lines by index

Finds the line that holds a character, for reports that show it.

* `LineLocation` — a line with its number and a column in it.
* `Text.locate` — the line that holds the character at an index.
-/

namespace SpanLexer

/-- A line, its number counted from 1, and a column counted from 0. -/
structure LineLocation where
  number : Nat
  text : Text
  column : Nat
  deriving DecidableEq, Repr

namespace Text

/-- Finds the line that holds an index counted from the beginning of the first of these lines,
which has the given number. -/
def locateIn (number : Nat) : List Text → Nat → Option LineLocation
  | [], _ => none
  | line :: later, index =>
      if index < line.length then some ⟨number, line, index⟩
      else locateIn (number + 1) later (index - line.length)

/-- The line that holds the character at an index; its text includes the line feed. -/
def locate (t : Text) (index : Nat) : Option LineLocation :=
  locateIn 1 (lines t) index

end Text
end SpanLexer
