import SpanLexer.Position
import SpanLexer.Quoted

/-!
# Scan errors

A scan fails in one of two ways: no rule opens at a character, or a phone number has the wrong
length.

* `Failure` — what went wrong, without the place.
* `ScanError` — a failure and its position.
* `Failure.message`, `ScanError.message` — the wording.
* `Failure.name`, `Failure.tip` — the heading of a report about it.
-/

namespace SpanLexer

/-- The number of characters of a phone number, country code included. -/
def phoneNumberLength : Nat := 13

/-- What went wrong. -/
inductive Failure where
  /-- No rule opens at this text. -/
  | unrecognised (token : Text)
  /-- A phone number of a length other than the one expected. -/
  | phoneLength (number : Text) (length : Nat)
  deriving DecidableEq, Repr

namespace Failure

/-- The heading of a failure. -/
def name : Failure → Text
  | unrecognised _ => "UnrecognisedToken".toList
  | phoneLength _ _ => "InvalidPhoneNumber".toList

/-- The advice that goes with a failure, if there is any. -/
def tip : Failure → Option Text
  | unrecognised _ => none
  | phoneLength _ length =>
      some ("Phone number length should be ".toList ++ decimal phoneNumberLength ++
        " characters, found ".toList ++ decimal length)

/-- The failure in words. -/
def message : Failure → Text
  | unrecognised token => "unrecognised token: ".toList ++ quoted token
  | phoneLength number length =>
      "invalid phone number ".toList ++ quoted number ++
      ": expected ".toList ++ decimal phoneNumberLength ++
      " characters, received ".toList ++ decimal length

end Failure

/-- A failure and the position of the text that caused it. -/
structure ScanError where
  failure : Failure
  position : Position
  deriving DecidableEq, Repr

namespace ScanError

/-- The failure in words, with its index and line. -/
def message (error : ScanError) : Text :=
  error.failure.message ++
  " at index ".toList ++ decimal error.position.index ++
  ", line ".toList ++ decimal error.position.line

end ScanError
end SpanLexer
