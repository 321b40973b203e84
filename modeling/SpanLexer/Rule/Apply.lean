import SpanLexer.Event
import SpanLexer.Loop
import SpanLexer.Rule.Reading

/-!
# Letting a rule read

A rule reads at a cursor with the means of cursors: it asks whether text is left, looks ahead, passes
characters in a loop, and goes back to where it began if the span is malformed.

* `Step` — an answer, the cursor after it, and the log.
* `Rule.member?`, `Rule.goesOn`, `Rule.runLoop` — the rules for runs: their members, and how their
  loops ask for them, which `Rule.goesOn_eq` says comes to the same; `Rule.tagLoop`,
  `Rule.hexColorLoop`, `Rule.phoneNumberLoop`, `Rule.commentLoop`, `Loop.through` — those of the
  other rules.
* `Cursor.recover` — going back, and passing over the opening character alone.
* `Rule.apply` — one rule, whether or not it opens.
* `Reading.stepAt`, `Rule.apply_eq` — what a rule does is what becomes of the span it reads: moving
  in loops and back comes to the same as `Rule.read` and one move.
-/

namespace SpanLexer

/-- The result of an operation on a cursor.  The log is in order, oldest first. -/
structure Step (α : Type) where
  answer : α
  cursor : Cursor
  log : List Event

/-- A loop that passes all characters, and ends behind the first that is `close`. -/
def Loop.through (close : Char) : Loop where
  goesOn := fun _ c => c.hasMore
  ends := fun passed => passed.head? == some close
  hasMore_of_goesOn := fun _ _ h => h

theorem Loop.through_goesOn (close : Char) (passed : Text) (c : Cursor) :
    (through close).goesOn passed c = c.rest.head?.any (fun _ => true) := by
  rw [← c.hasMore_and, Bool.and_true]
  rfl

theorem Loop.through_ends (close x : Char) (passed : Text) :
    (through close).ends (x :: passed) = (x == close) := rfl

namespace Rule

/-- The members of the runs that a rule reads. -/
def member? : Rule → Option (Char → Bool)
  | number => some isDigit
  | identifier => some fun x => isLetterOrDigit x || x == '_'
  | whitespace => some isWhitespace
  | account => some fun x => isLetterOrDigit x || x == '@'
  | symbol => some isSymbol
  | punctuation => some isPunctuation
  | string | hexColor | lineComment | brackets | phoneNumber | htmlTag | comment => none

/-- The test of the loop in which a rule reads a run: whether it passes the next character.  The
other rules have no such loop. -/
def goesOn : Rule → Cursor → Bool
  | number, c => c.hasMore && isDigit c.head
  -- A low line is passed whether or not text is left.
  | identifier, c => c.hasMore && isLetterOrDigit c.head || c.head == '_'
  | whitespace, c => c.hasMore && isWhitespace c.head
  -- A line feed is ruled out although it is neither letter nor digit nor `@`.
  | account, c => c.hasMore && c.head != '\n' && (isLetterOrDigit c.head || c.head == '@')
  | symbol, c => c.hasMore && isSymbol c.head
  | punctuation, c => c.hasMore && isPunctuation c.head
  | string, _ | hexColor, _ | lineComment, _ | brackets, _ | phoneNumber, _ | htmlTag, _
  | comment, _ => false

/-- The loop in which a rule reads a run. -/
def runLoop (rule : Rule) : Loop where
  goesOn := fun _ c => rule.goesOn c
  ends := fun _ => false
  hasMore_of_goesOn := by
    intro _ c h
    cases rule with
    | number | whitespace | symbol | punctuation => exact (Bool.and_eq_true_iff.1 h).1
    | account => exact (Bool.and_eq_true_iff.1 (Bool.and_eq_true_iff.1 h).1).1
    | identifier =>
      -- The lookahead at the end is no low line.
      cases hmore : c.hasMore with
      | true => rfl
      | false =>
        have hhead : c.head = nul := by
          rw [Cursor.hasMore, Bool.not_eq_false', List.isEmpty_iff] at hmore
          rw [Cursor.head, hmore]
          rfl
        rw [goesOn, hmore, hhead] at h
        exact absurd h (by decide)
    | string | hexColor | lineComment | brackets | phoneNumber | htmlTag | comment => cases h

/-- The test of the loop in which a tag is read: whether it passes the next character. -/
def tagGoesOn (c : Cursor) : Bool :=
  c.hasMore && (isLetterOrDigit c.head || "</>".toList.contains c.head)

/-- The loop in which a tag is read.  It ends behind the first `>`. -/
def tagLoop : Loop where
  goesOn := fun _ c => tagGoesOn c
  ends := fun passed => passed.head? == some '>'
  hasMore_of_goesOn := fun _ _ h => (Bool.and_eq_true_iff.1 h).1

/-- The loop in which the digits of a hex color are read, which it counts. -/
def hexColorLoop : Loop where
  goesOn := fun digits c =>
    c.hasMore && isLetterOrDigit c.head && decide (digits.length < Reading.hexColorDigits)
  ends := fun _ => false
  hasMore_of_goesOn := fun _ _ h => (Bool.and_eq_true_iff.1 (Bool.and_eq_true_iff.1 h).1).1

/-- The loop in which a phone number is read behind its first character.  It counts what it passes,
so that it notices a number that is too long. -/
def phoneNumberLoop : Loop where
  goesOn := fun later c =>
    c.hasMore && c.head != ' ' && decide (later.length ≤ phoneNumberLength)
  ends := fun _ => false
  hasMore_of_goesOn := fun _ _ h => (Bool.and_eq_true_iff.1 (Bool.and_eq_true_iff.1 h).1).1

/-- The loop in which a comment is read behind its first character.  It ends in front of a line
feed, and behind a slash if what was passed ends with the mark that closes a comment. -/
def commentLoop : Loop where
  goesOn := fun _ c => c.hasMore && c.head != '\n'
  ends := fun passed => passed.head? == some '/' && ['/', '*'].isPrefixOf passed
  hasMore_of_goesOn := fun _ _ h => (Bool.and_eq_true_iff.1 h).1

theorem tagLoop_goesOn (passed : Text) (c : Cursor) :
    tagLoop.goesOn passed c =
      c.rest.head?.any (fun x => isLetterOrDigit x || "</>".toList.contains x) :=
  c.hasMore_and fun x => isLetterOrDigit x || "</>".toList.contains x

theorem hexColorLoop_goesOn (digits : Text) (c : Cursor) :
    hexColorLoop.goesOn digits c = (c.rest.head?.any isLetterOrDigit &&
      decide (digits.length < Reading.hexColorDigits)) := by
  rw [← c.hasMore_and]
  rfl

theorem phoneNumberLoop_goesOn (later : Text) (c : Cursor) :
    phoneNumberLoop.goesOn later c = (c.rest.head?.any (· != ' ') &&
      decide (later.length < phoneNumberLength + 1)) := by
  rw [← c.hasMore_and, decide_eq_decide.2 Nat.lt_succ_iff]
  rfl

theorem commentLoop_goesOn (passed : Text) (c : Cursor) :
    commentLoop.goesOn passed c = c.rest.head?.any (· != '\n') :=
  c.hasMore_and (· != '\n')

theorem commentLoop_ends (x d : Char) (passed : Text) :
    commentLoop.ends (d :: x :: passed) = true ↔ (x, d) = ('*', '/') := by
  have hends : commentLoop.ends (d :: x :: passed) =
      (d == '/' && ('/' == d && ('*' == x && true))) := rfl
  rw [hends, Bool.and_true, Bool.and_eq_true, Bool.and_eq_true, beq_iff_eq, beq_iff_eq,
    beq_iff_eq, Prod.mk.injEq]
  constructor
  · rintro ⟨hslash, -, hstar⟩
    exact ⟨hstar.symm, hslash⟩
  · rintro ⟨hstar, hslash⟩
    exact ⟨hslash, hslash.symm, hstar.symm⟩

end Rule

namespace Cursor

/-- Makes a token of all that a loop passes. -/
def readLoop (c : Cursor) (kind : TokenKind) (loop : Loop) : Step (Except ScanError Token) :=
  let (passed, last) := loop.run [] c
  ⟨.ok ⟨kind, passed.reverse, c.position⟩, last, []⟩

/-- Goes back to a mark and passes over one character, which becomes a token of its own. -/
def recover (c : Cursor) (mark : Position) : Step (Except ScanError Token) :=
  let back := c.moveTo mark
  let (value, last) := if back.hasMore then ([back.next.1], back.next.2) else ([], back)
  let token : Token := ⟨.unexpected, value, back.position⟩
  ⟨.ok token, last, [.recovered token]⟩

/-- Passes the opening character and then everything through the first `close`.  If what was passed
does not end with `close`, the text came to its end, and all of that is undone. -/
def readDelimited (c : Cursor) (kind : TokenKind) (close : Char) :
    Step (Except ScanError Token) :=
  let (opening, behind) := c.next
  let (passed, last) := (Loop.through close).run [opening] behind
  if passed.head? = some close then ⟨.ok ⟨kind, passed.reverse, c.position⟩, last, []⟩
  else last.recover c.position

/-- Passes the opening character and up to six letters or digits, and puts zeros in the place of
those that are missing. -/
def readHexColor (c : Cursor) : Step (Except ScanError Token) :=
  let (opening, behind) := c.next
  let (digits, last) := Rule.hexColorLoop.run [] behind
  let zeros := List.replicate (Reading.hexColorDigits - digits.length) '0'
  ⟨.ok ⟨.hexColor, opening :: (digits.reverse ++ zeros), c.position⟩, last, []⟩

/-- Passes everything through the end of the line, if two slashes come first. -/
def readLineComment (c : Cursor) : Step (Except ScanError Token) :=
  if c.head != '/' || c.lookahead 2 != '/' then c.recover c.position
  else c.readLoop .comment (Loop.through '\n')

/-- Passes a phone number, and judges it by its length. -/
def readPhoneNumber (c : Cursor) : Step (Except ScanError Token) :=
  let (opening, behind) := c.next
  let (later, last) := Rule.phoneNumberLoop.run [] behind
  let number := opening :: later.reverse
  if number.length = phoneNumberLength then ⟨.ok ⟨.phoneNumber, number, c.position⟩, last, []⟩
  else
    ⟨.error ⟨.phoneLength number number.length, c.position⟩, last,
      [.wrongLength number number.length]⟩

/-- Passes a comment. -/
def readComment (c : Cursor) : Step (Except ScanError Token) :=
  let (opening, behind) := c.next
  let (passed, last) := Rule.commentLoop.run [opening] behind
  ⟨.ok ⟨.comment, passed.reverse, c.position⟩, last, []⟩

end Cursor

/-- Lets a rule read at the cursor, whether or not it opens there. -/
def Rule.apply (rule : Rule) (c : Cursor) : Step (Except ScanError Token) :=
  match rule with
  | number => c.readLoop .number number.runLoop
  | identifier => c.readLoop .identifier identifier.runLoop
  | whitespace => c.readLoop .whitespace whitespace.runLoop
  | string => c.readDelimited .string '"'
  | hexColor => c.readHexColor
  | lineComment => c.readLineComment
  | brackets => c.readDelimited .squareBrackets ']'
  | phoneNumber => c.readPhoneNumber
  | account => c.readLoop .account account.runLoop
  | symbol => c.readLoop .symbol symbol.runLoop
  | htmlTag => c.readLoop .htmlTag tagLoop
  | punctuation => c.readLoop .punctuation punctuation.runLoop
  | comment => c.readComment

/-- What comes of a reading at a cursor: the cursor moves past the span, and the verdict decides
the answer. -/
def Reading.stepAt (reading : Reading) (c : Cursor) : Step (Except ScanError Token) :=
  let passed := c.advance reading.span.length
  match reading.verdict with
  | .accepted kind value => ⟨.ok ⟨kind, value, c.position⟩, passed, []⟩
  | .recovered =>
      let token : Token := ⟨.unexpected, reading.span, c.position⟩
      ⟨.ok token, passed, [.recovered token]⟩
  | .rejected phone =>
      ⟨.error ⟨.phoneLength phone phone.length, c.position⟩, passed,
        [.wrongLength phone phone.length]⟩

namespace Cursor

variable {c : Cursor} {x : Char} {later : Text}

/-- One step, where text is left. -/
theorem next_of_rest_cons (h : c.rest = x :: later) :
    c.next = (x, c.advance 1) ∧ (c.advance 1).rest = later := by
  rw [next, head, rest_advance, h]
  exact ⟨rfl, rfl⟩

/-- One step, where no text is left. -/
theorem next_of_rest_nil (h : c.rest = []) : c.next = (nul, c) := by
  rw [next, head, h, advance_of_rest_nil h]
  rfl

/-- A loop makes a token of the span that it passes. -/
theorem readLoop_of_run {loop : Loop} {span : Text}
    (h : loop.run [] c = (span.reverse, c.advance span.length)) (kind : TokenKind) :
    c.readLoop kind loop = (Reading.whole kind span).stepAt c := by
  rw [readLoop, h]
  dsimp only
  rw [List.reverse_reverse]
  rfl

/-- A loop over members, with a stop behind which it ends, reads the longest run through its first
stop. -/
theorem readLoop_eq {loop : Loop} {member stop : Char → Bool} (c : Cursor)
    (hgoesOn : ∀ passed (c : Cursor), loop.goesOn passed c = c.rest.head?.any member)
    (hends : ∀ x passed, loop.ends (x :: passed) = stop x) (kind : TokenKind) :
    c.readLoop kind loop =
      (Reading.whole kind (takeThrough stop (c.rest.takeWhile member))).stepAt c := by
  refine readLoop_of_run ?_ kind
  rw [Loop.run_eq_takeThrough hgoesOn hends, List.append_nil]

/-- **Going back undoes a move**, whatever was passed: what remains is that the next character is
passed over. -/
theorem recover_advance (c : Cursor) (n : Nat) :
    (c.advance n).recover c.position = (Reading.recovery c.rest).stepAt c := by
  rw [recover, moveTo_advance]
  cases hrest : c.rest with
  | nil =>
    have hmore : c.hasMore = false := by rw [hasMore, hrest]; rfl
    rw [hmore, if_neg Bool.false_ne_true, Reading.recovery, Reading.stepAt, List.take_nil,
      List.length_nil, advance_zero]
  | cons x later =>
    have hmore : c.hasMore = true := by rw [hasMore, hrest]; rfl
    rw [hmore, if_pos rfl, (next_of_rest_cons hrest).1]
    rfl

/-- What a loop through a closing character passes. -/
theorem run_through (close : Char) (passed : Text) (c : Cursor) :
    (Loop.through close).run passed c =
      ((takeThrough (· == close) c.rest).reverse ++ passed,
        c.advance (takeThrough (· == close) c.rest).length) := by
  have hrun := Loop.run_eq_takeThrough (Loop.through_goesOn close) (Loop.through_ends close) passed c
  have hall : c.rest.takeWhile (fun _ => true) = c.rest := by
    rw [← List.append_nil c.rest, List.takeWhile_append_of_pos fun _ _ => rfl]
    rfl
  rwa [hall] at hrun

/-- **A delimited span** is read to its end and judged by it. -/
theorem readDelimited_eq {close : Char} (c : Cursor) (hclose : close ≠ nul) (kind : TokenKind) :
    c.readDelimited kind close = (Reading.delimited kind close c.rest).stepAt c := by
  cases hrest : c.rest with
  | nil =>
    have hnul : ¬ some nul = some close := fun h => hclose (Option.some.inj h).symm
    have hback := c.recover_advance 0
    rw [advance_zero, hrest] at hback
    simp only [readDelimited, next_of_rest_nil hrest, run_through, hrest, takeThrough_nil,
      List.reverse_nil, List.nil_append, List.head?_cons, if_neg hnul, List.length_nil,
      advance_zero, hback]
    rfl
  | cons x later =>
    obtain ⟨hnext, hlater⟩ := next_of_rest_cons hrest
    have hlast : ((takeThrough (· == close) later).reverse ++ [x]).head? =
        (x :: takeThrough (· == close) later).getLast? := by
      rw [← List.reverse_cons, List.head?_reverse]
    simp only [readDelimited, hnext, run_through, hlater, hlast, Reading.delimited,
      advance_advance]
    split
    · rw [← List.reverse_cons, List.reverse_reverse, Nat.add_comm 1]
      rfl
    · rw [recover_advance, hrest]

/-- A hex color is a loop that counts. -/
theorem readHexColor_eq (c : Cursor) :
    c.readHexColor = (Reading.hexColor c.rest).stepAt c := by
  have hrun := Loop.run_eq_bounded Rule.hexColorLoop_goesOn (fun _ => rfl) []
  simp only [List.length_nil, Nat.sub_zero, List.append_nil] at hrun
  cases hrest : c.rest with
  | nil =>
    simp only [readHexColor, next_of_rest_nil hrest, hrun, hrest, Reading.hexColor,
      Reading.stepAt, List.take_nil, List.takeWhile_nil, List.tail_nil, List.reverse_nil,
      List.headD_nil, List.append_nil, List.length_nil]
  | cons x later =>
    obtain ⟨hnext, hlater⟩ := next_of_rest_cons hrest
    simp only [readHexColor, hnext, hrun, hlater, Reading.hexColor, Reading.stepAt,
      advance_advance, List.reverse_reverse, List.length_reverse, List.tail_cons, List.headD_cons,
      List.take_succ_cons, List.take_zero, List.singleton_append, List.length_cons,
      Nat.add_comm 1]

/-- A phone number is a loop that counts, and then judged by its length. -/
theorem readPhoneNumber_eq (c : Cursor) :
    c.readPhoneNumber = (Reading.phoneNumber c.rest).stepAt c := by
  have hrun := Loop.run_eq_bounded Rule.phoneNumberLoop_goesOn (fun _ => rfl) []
  simp only [List.length_nil, Nat.sub_zero, List.append_nil] at hrun
  cases hrest : c.rest with
  | nil =>
    simp only [readPhoneNumber, next_of_rest_nil hrest, hrun, hrest, Reading.phoneNumber,
      Reading.stepAt, List.take_nil, List.takeWhile_nil, List.tail_nil, List.reverse_nil,
      List.headD_nil, List.append_nil, List.length_nil]
    rfl
  | cons x later =>
    obtain ⟨hnext, hlater⟩ := next_of_rest_cons hrest
    simp only [readPhoneNumber, hnext, hrun, hlater, advance_advance, List.reverse_reverse]
    rw [Nat.add_comm 1, Reading.phoneNumber_cons, Reading.stepAt]
    split
    · rfl
    · rfl

/-- A line comment is read where two slashes stand. -/
theorem readLineComment_eq (c : Cursor) :
    c.readLineComment = (Reading.lineComment c.rest).stepAt c := by
  have hread : c.readLoop .comment (Loop.through '\n') =
      (Reading.whole .comment (takeThrough (· == '\n') c.rest)).stepAt c := by
    refine readLoop_of_run ?_ .comment
    rw [run_through, List.append_nil]
  have hback := c.recover_advance 0
  rw [advance_zero] at hback
  have hslashes : (c.head != '/' || c.lookahead 2 != '/') =
      !(['/', '/'].isPrefixOf c.rest) := by
    rw [head, lookahead_succ]
    rcases c.rest with - | ⟨x, - | ⟨y, later⟩⟩
    · rfl
    · simp [List.isPrefixOf, nul]
    · simp [List.isPrefixOf, bne, Bool.beq_comm]
  rw [readLineComment, hslashes, hread, hback, Reading.lineComment]
  cases ['/', '/'].isPrefixOf c.rest <;> rfl

/-- What the loop of comments passes behind a character. -/
theorem run_commentLoop (x : Char) (passed : Text) (c : Cursor) :
    Rule.commentLoop.run (x :: passed) c =
      ((Reading.commentTail (x :: c.rest)).reverse ++ x :: passed,
        c.advance (Reading.commentTail (x :: c.rest)).length) := by
  -- Induction on the text that is left, with the ways in which a comment goes on as cases.
  induction hrest : c.rest generalizing x passed c with
  | nil =>
    have hstops : ¬ Rule.commentLoop.goesOn (x :: passed) c = true := by
      rw [Rule.commentLoop_goesOn, hrest]
      exact Bool.false_ne_true
    rw [Loop.run, dif_neg hstops, Reading.commentTail_singleton, List.length_nil, advance_zero]
    rfl
  | cons d later ih =>
    obtain ⟨hnext, hlater⟩ := next_of_rest_cons hrest
    have hgoes : Rule.commentLoop.goesOn (x :: passed) c = (d != '\n') := by
      rw [Rule.commentLoop_goesOn, hrest]
      rfl
    rw [Reading.commentTail_cons_cons, Loop.run, hgoes, hnext]
    by_cases hfeed : d = '\n'
    · rw [dif_neg (by simp [hfeed]), if_pos hfeed, List.length_nil, advance_zero]
      rfl
    · rw [dif_pos (bne_iff_ne.2 hfeed), if_neg hfeed]
      by_cases hclose : (x, d) = ('*', '/')
      · rw [if_pos ((Rule.commentLoop_ends x d passed).2 hclose), if_pos hclose]
        rfl
      · rw [if_neg (mt (Rule.commentLoop_ends x d passed).1 hclose), if_neg hclose,
          ih d (x :: passed) _ hlater, advance_advance, List.reverse_cons, List.append_assoc,
          List.singleton_append, Nat.add_comm 1]
        rfl

theorem readComment_eq (c : Cursor) :
    c.readComment = (Reading.comment c.rest).stepAt c := by
  cases hrest : c.rest with
  | nil =>
    simp only [readComment, next_of_rest_nil hrest, run_commentLoop, hrest,
      Reading.commentTail_singleton, advance_zero, List.reverse_nil, List.length_nil]
    rw [Reading.comment, Reading.stepAt]
    simp [Reading.commentTail]
  | cons x later =>
    obtain ⟨hnext, hlater⟩ := next_of_rest_cons hrest
    simp only [readComment, hnext, run_commentLoop, hlater, Reading.comment, Reading.stepAt,
      advance_advance, List.reverse_append, List.reverse_reverse, List.reverse_singleton,
      List.singleton_append, List.headD_cons, List.take_succ_cons, List.take_zero,
      List.length_cons, Nat.add_comm 1]

end Cursor

namespace Rule

/-- **However a loop asks**, it asks whether the next character is a member. -/
theorem goesOn_eq {rule : Rule} {member : Char → Bool} (h : rule.member? = some member)
    (c : Cursor) : rule.goesOn c = c.rest.head?.any member := by
  cases rule with
  | number | whitespace | symbol | punctuation =>
    obtain rfl := Option.some.inj h
    exact c.hasMore_and _
  | identifier =>
    obtain rfl := Option.some.inj h
    rw [goesOn, Cursor.head, Cursor.hasMore]
    cases c.rest with
    | nil =>
      show (false && isLetterOrDigit nul || nul == '_') = false
      rw [Bool.false_and]
      decide
    | cons x later =>
      rw [List.isEmpty_cons, Bool.not_false, Bool.true_and, List.headD_cons, List.head?_cons,
        Option.any_some]
  | account =>
    obtain rfl := Option.some.inj h
    rw [goesOn, Bool.and_assoc, c.hasMore_and fun x => x != '\n' && (isLetterOrDigit x || x == '@')]
    refine congrArg c.rest.head?.any (funext fun x => ?_)
    by_cases hfeed : x = '\n'
    · subst hfeed
      show false = (isLetterOrDigit '\n' || false)
      decide +kernel
    · rw [bne_iff_ne.2 hfeed, Bool.true_and]
  | string | hexColor | lineComment | brackets | phoneNumber | htmlTag | comment => cases h

/-- A loop for a run reads the longest run. -/
theorem readLoop_runLoop {rule : Rule} {member : Char → Bool} (h : rule.member? = some member)
    (kind : TokenKind) (c : Cursor) :
    c.readLoop kind rule.runLoop = (Reading.run kind member c.rest).stepAt c := by
  have hends : ∀ x passed, rule.runLoop.ends (x :: passed) = false := fun _ _ => rfl
  rw [c.readLoop_eq (fun _ => goesOn_eq h) hends kind, takeThrough_never]
  rfl

/-- **Letting a rule read** comes to one move past the span it reads: the loops pass that span, and
where a rule goes back, it has moved past one character in the end. -/
theorem apply_eq (rule : Rule) (c : Cursor) : rule.apply c = (rule.read c.rest).stepAt c := by
  cases rule with
  | number | identifier | whitespace | account | symbol | punctuation =>
    exact readLoop_runLoop rfl _ c
  | string | brackets => exact c.readDelimited_eq (by decide) _
  | hexColor => exact c.readHexColor_eq
  | lineComment => exact c.readLineComment_eq
  | phoneNumber => exact c.readPhoneNumber_eq
  | htmlTag => exact c.readLoop_eq tagLoop_goesOn (fun _ _ => rfl) _
  | comment => exact c.readComment_eq

end Rule
end SpanLexer
