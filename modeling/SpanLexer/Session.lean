import SpanLexer.Scan

/-!
# Sessions

A session works with several cursors and with marks that any of them may return to, one command
at a time.

* `Command`, `Reply` — what can be asked of a session and what it says.
* `Session` — the cursors, the one in use, and the marks.
* `Session.perform` — one command.
* `Session.trace` — a list of commands, with the session after each.
-/

namespace SpanLexer

/-- What can be asked of a session.  Commands act on the cursor in use; cursors and marks are
numbered in the order they were made, from 0. -/
inductive Command where
  /-- Makes a cursor at the beginning of a text and uses it. -/
  | openText (source : Text)
  /-- Makes a copy of the cursor and uses it. -/
  | duplicate
  /-- Uses another cursor. -/
  | select (cursor : Nat)
  /-- Asks for the next character. -/
  | head
  /-- Asks for a character near the position. -/
  | lookahead (n : Nat)
  /-- Moves past one character. -/
  | next
  /-- Moves past several characters. -/
  | take (n : Nat)
  /-- Asks for the position. -/
  | position
  /-- Marks the position. -/
  | mark
  /-- Goes to a mark. -/
  | moveTo (mark : Nat)
  /-- Asks whether two marks are at the same position. -/
  | sameMark (left right : Nat)
  /-- Asks whether a rule opens. -/
  | opens (rule : Rule)
  /-- Asks for all rules that open. -/
  | openRules
  /-- Lets a rule read, whether or not it opens. -/
  | apply (rule : Rule)
  /-- Scans one span. -/
  | scan (rules : List Rule)
  /-- Scans one span for its token. -/
  | scanToken (rules : List Rule)
  /-- Scans all that can be scanned. -/
  | drain (rules : List Rule)
  deriving DecidableEq, Repr

/-- What a session says to a command. -/
inductive Reply where
  | done
  | number (n : Nat)
  | text (t : Text)
  | position (p : Position)
  | truth (holds : Bool)
  | rules (rules : List Rule)
  | outcome (outcome : Outcome)
  | token (token : Option Token)
  | tokens (tokens : List Token)
  deriving DecidableEq, Repr

/-- Why a command cannot be performed. -/
inductive SessionFault where
  | noCursor (number : Nat)
  | noMark (number : Nat)
  deriving DecidableEq, Repr

/-- Several cursors, one of them in use, and the marks they share. -/
structure Session where
  cursors : List Cursor
  active : Nat
  marks : List Position
  active_lt : active < cursors.length

/-- What a rule's answer means for a scan. -/
def Outcome.ofResult : Except ScanError Token → Outcome
  | .ok read => .token read
  | .error error => .failed error

namespace Session

/-- A session with one cursor, at the beginning of a text. -/
def ofText (source : Text) : Session :=
  ⟨[Cursor.ofText source], 0, [], by simp⟩

/-- The cursor in use. -/
def current (s : Session) : Cursor := s.cursors.get ⟨s.active, s.active_lt⟩

/-- Puts a cursor in the place of the one in use. -/
def update (s : Session) (c : Cursor) : Session where
  cursors := s.cursors.set s.active c
  active := s.active
  marks := s.marks
  active_lt := by simpa using s.active_lt

/-- Adds a cursor and uses it. -/
def add (s : Session) (c : Cursor) : Session where
  cursors := s.cursors ++ [c]
  active := s.cursors.length
  marks := s.marks
  active_lt := by simp

/-- Adds a mark. -/
def addMark (s : Session) (p : Position) : Session :=
  { s with marks := s.marks ++ [p] }

/-- The mark of a number. -/
def findMark (s : Session) (number : Nat) : Except SessionFault Position :=
  match s.marks[number]? with
  | some p => .ok p
  | none => .error (.noMark number)

/-- Performs one command. -/
def perform (s : Session) : Command → Except SessionFault (Reply × Session)
  | .openText source => .ok (.number s.cursors.length, s.add (Cursor.ofText source))
  | .duplicate => .ok (.number s.cursors.length, s.add s.current)
  | .select number =>
      if h : number < s.cursors.length then
        .ok (.number number, { s with active := number, active_lt := h })
      else .error (.noCursor number)
  | .head => .ok (.text [s.current.head], s)
  | .lookahead n => .ok (.text [s.current.lookahead n], s)
  | .next =>
      let (char, cursor) := s.current.next
      .ok (.text [char], s.update cursor)
  | .take n =>
      let (passed, cursor) := s.current.take n
      .ok (.text passed, s.update cursor)
  | .position => .ok (.position s.current.position, s)
  | .mark => .ok (.number s.marks.length, s.addMark s.current.position)
  | .moveTo number => do
      let p ← s.findMark number
      return (.done, s.update (s.current.moveTo p))
  | .sameMark left right => do
      let p ← s.findMark left
      let q ← s.findMark right
      return (.truth (p = q), s)
  | .opens rule => .ok (.truth (rule.opensAt s.current), s)
  | .openRules => .ok (.rules (Rule.all.filter (fun rule => rule.opensAt s.current)), s)
  | .apply rule =>
      let step := rule.apply s.current
      .ok (.outcome (Outcome.ofResult step.answer), s.update step.cursor)
  | .scan rules =>
      let step := s.current.scan rules
      .ok (.outcome step.answer, s.update step.cursor)
  | .scanToken rules =>
      let step := s.current.scan? rules
      .ok (.token step.answer, s.update step.cursor)
  | .drain rules =>
      let step := s.current.drain rules
      .ok (.tokens step.answer, s.update step.cursor)

/-- Performs commands in order.  Every reply comes with the session after its command. -/
def trace (s : Session) : List Command → Except SessionFault (List (Reply × Session))
  | [] => .ok []
  | command :: later => do
      let (reply, next) ← s.perform command
      let replies ← next.trace later
      return (reply, next) :: replies

end Session
end SpanLexer
