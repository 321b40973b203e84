import SpanLexer.Rule
import SpanLexer.ScanError
import SpanLexer.Token

/-!
# Log events

Scanning tells what it does through a list of events, oldest first.

* `Event` — what can be told.
* `Event.level`, `Event.message` — how an event is headed.
* `Event.fields` — the values it carries, by name.
-/

namespace SpanLexer

/-- How much an event matters. -/
inductive Level where
  | trace
  | debug
  | warn
  deriving DecidableEq, Repr

/-- The value of an event's field. -/
inductive Field where
  | text (value : Text)
  | number (value : Nat)
  deriving DecidableEq, Repr

/-- What a scan tells about itself. -/
inductive Event where
  /-- A rule read a token. -/
  | scanned (rule : Rule) (token : Token)
  /-- The opening character of a malformed span became a token of its own. -/
  | recovered (token : Token)
  /-- A phone number has a wrong length. -/
  | wrongLength (number : Text) (length : Nat)
  /-- The stream of tokens ended with an error. -/
  | stopped (error : ScanError)
  deriving DecidableEq, Repr

namespace Level

/-- The word for a level. -/
def label : Level → Text
  | trace => "TRACE".toList
  | debug => "DEBUG".toList
  | warn => "WARN".toList

end Level

namespace Event

/-- The level at which an event is told. -/
def level : Event → Level
  | scanned _ _ => .trace
  | recovered _ => .debug
  | wrongLength _ _ => .warn
  | stopped _ => .warn

/-- The heading of an event. -/
def message : Event → Text
  | scanned _ _ => "scanned token".toList
  | recovered _ => "recovered from malformed span".toList
  | wrongLength _ _ => "Phone number length should be 13 digits".toList
  | stopped _ => "token stream ended before the end of input".toList

/-- The values of an event. -/
def fields : Event → List (String × Field)
  | scanned rule token =>
      [("recognizer", .text rule.name), ("kind", .text token.kind.label),
       ("value", .text token.value), ("index", .number token.position.index),
       ("line", .number token.position.line)]
  | recovered token =>
      [("value", .text token.value), ("index", .number token.position.index),
       ("line", .number token.position.line)]
  | wrongLength number length => [("number", .text number), ("length", .number length)]
  | stopped error => [("error", .text error.message)]

end Event
end SpanLexer
