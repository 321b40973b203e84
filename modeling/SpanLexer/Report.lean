import SpanLexer.CharClass
import SpanLexer.LineLocation
import SpanLexer.ScanError

/-!
# Error reports

A report shows an error with the line it is on and a caret under the character that caused it.  The
fields of its lines are of limited width.  A report breaks off in front of a line in which a field
would be wider.

* `Report.alignRight` — a text in a field, if the field can be that wide.
* `Report.shownPart`, `Report.gutterWidth`, `Report.caretWidth` — what is shown of a line, and how
  wide the fields beside it and below it are.
* `Report.lines` — the lines of a report, where they can be laid out.
* `Report.printed`, `Report.render` — the report as it is printed.
* `Report.breaksOff` — whether one of its lines cannot be laid out.
-/

namespace SpanLexer
namespace Report

/-- The width that the fields of a line may have; widths are numbers of 16 bits. -/
def widthLimit : Nat := 65535

/-- A text at the right end of a field that is filled up with another character on the left, if the
field is not too wide. -/
def alignRight (fill : Char) (width : Nat) (t : Text) : Option Text :=
  if width ≤ widthLimit then some (List.replicate (width - t.length) fill ++ t) else none

theorem alignRight_singleton {width : Nat} (h : width < widthLimit) (fill c : Char) :
    alignRight fill (width + 1) [c] = some (List.replicate width fill ++ [c]) :=
  if_pos h

/-- A text without the white space at its end. -/
def trimEnd (t : Text) : Text :=
  (t.reverse.dropWhile isWhitespace).reverse

/-- What is shown of a line: all but the spaces at its beginning and the white space at its end. -/
def shownPart (line : Text) : Text :=
  trimEnd (line.dropWhile (· == ' '))

/-- The width of the field at whose right end the caret stands.  The caret moves left by as many
columns as there are spaces at the beginning of the line. -/
def caretWidth (location : LineLocation) : Nat :=
  location.column - (location.text.takeWhile (· == ' ')).length + 1

/-- The heading of an error: its name, and in parentheses its advice. -/
def heading (failure : Failure) : Text :=
  "Error: ".toList ++ failure.name ++
    match failure.tip with
    | none => []
    | some advice => " (".toList ++ advice ++ ")".toList

/-- The width of the gutter beside a line: a bar, with room for the number of the line and a space in
front of it. -/
def gutterWidth (location : LineLocation) : Nat :=
  (decimal location.number).length + 2

/-- The gutter beside a line. -/
def gutter (location : LineLocation) : Option Text :=
  alignRight ' ' (gutterWidth location) ['|']

/-- The gutter, the shown line and the caret line. -/
def excerpt (location : LineLocation) : List (Option Text) :=
  [gutter location,
   some (decimal location.number ++ " | ".toList ++ shownPart location.text),
   do return (← gutter location) ++ ' ' :: (← alignRight '-' (caretWidth location) ['^'])]

/-- The lines of a report about an error in a text.  Only the first two are there when the error
lies beyond the text. -/
def lines (error : ScanError) (source name : Text) : List (Option Text) :=
  let header := [some (heading error.failure), some ("-> ".toList ++ name)]
  match Text.locate source error.position.index with
  | none => header
  | some location => header ++ excerpt location

/-- Lines as they are printed, each ended, up to the first that cannot be laid out. -/
def printed : List (Option Text) → Text
  | some line :: later => line ++ '\n' :: printed later
  | none :: _ | [] => []

/-- Lines that all can be laid out are printed. -/
theorem printed_map_some (laidOut : List Text) :
    printed (laidOut.map some) = laidOut.flatMap (· ++ ['\n']) := by
  induction laidOut with
  | nil => rfl
  | cons line later ih =>
    rw [List.map_cons, printed, ih, List.flatMap_cons, List.append_assoc]
    rfl

/-- The report as it is printed. -/
def render (error : ScanError) (source name : Text) : Text :=
  printed (lines error source name)

/-- Whether a line of the report cannot be laid out. -/
def breaksOff (error : ScanError) (source name : Text) : Bool :=
  (lines error source name).contains none

end Report
end SpanLexer
