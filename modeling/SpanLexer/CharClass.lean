import SpanLexer.Text
import SpanLexer.Unicode.DecimalDigit
import SpanLexer.Unicode.Letter
import SpanLexer.Unicode.WhiteSpace
import SpanLexer.Unicode.Symbol
import SpanLexer.Unicode.Punctuation

/-!
# Character classes

The scanning rules see a character through a few Unicode classes.

* `isDigit`, `isLetter`, `isWhitespace`, `isSymbol`, `isPunctuation`, `isLetterOrDigit` — the
  classes as predicates.
* `CharClass` — the classes as names, `CharClass.holds` the predicate of each.
* `CharClass.runs` — the maximal ranges of members between two code points.
-/

namespace SpanLexer

/-- A decimal digit of any script. -/
def isDigit (c : Char) : Bool := Unicode.decimalDigits.contains c.toNat

/-- A letter of any script. -/
def isLetter (c : Char) : Bool := Unicode.letters.contains c.toNat

/-- A blank: spaces, tabs and everything that ends a line. -/
def isWhitespace (c : Char) : Bool := Unicode.whiteSpace.contains c.toNat

/-- A symbol: mathematical, currency, modifier or other. -/
def isSymbol (c : Char) : Bool := Unicode.symbols.contains c.toNat

/-- A punctuation mark, brackets, quotes and connectors included. -/
def isPunctuation (c : Char) : Bool := Unicode.punctuation.contains c.toNat

/-- A letter or a decimal digit. -/
def isLetterOrDigit (c : Char) : Bool := isLetter c || isDigit c

/-- The names of the character classes. -/
inductive CharClass where
  | digit
  | letter
  | letterOrDigit
  | whitespace
  | symbol
  | punctuation
  deriving DecidableEq, Repr

namespace CharClass

/-- Whether a character belongs to the class. -/
def holds : CharClass → Char → Bool
  | digit => isDigit
  | letter => isLetter
  | letterOrDigit => isLetterOrDigit
  | whitespace => isWhitespace
  | symbol => isSymbol
  | punctuation => isPunctuation

/-- The ranges of the class in ascending order. -/
def ranges : CharClass → List Unicode.CodeRange
  | digit => Unicode.decimalDigitsRanges
  | letter => Unicode.lettersRanges
  | letterOrDigit => Unicode.CodeRange.union Unicode.lettersRanges Unicode.decimalDigitsRanges
  | whitespace => Unicode.whiteSpaceRanges
  | symbol => Unicode.symbolsRanges
  | punctuation => Unicode.punctuationRanges

/-- The maximal runs of members among the code points from `lower` to `upper`. -/
def runs (cls : CharClass) (lower upper : Nat) : List Unicode.CodeRange :=
  Unicode.CodeRange.join (cls.ranges.filterMap (Unicode.CodeRange.clip lower upper))

end CharClass
end SpanLexer
