import SpanLexer.Proofs.Lookahead
import SpanLexer.Proofs.Run
import SpanLexer.Proofs.Trace

/-!
# Scanning comes to rest

Draining ends, from whatever state it begins in, and leaves a cursor that no further scanning with
the same rules moves.  There are three ways to stop: a stored error, the end of the text, and a
character where no rule opens.

* `Cursor.Stops` — the ways in which a scan can stop, one constructor for each;
  `Cursor.stops_scan` says that a scan that reads no token goes in one of them.
* `Cursor.Stops.exists_culprit` — with a rule for white space, a scan does not stop at a blank.
* `Cursor.exists_boundary` — draining a text reads its tokens up to a boundary and stops there.
* `Cursor.Settled` — scanning reads no token and leaves the cursor as it is.
* `Cursor.settled_drain` — draining settles the cursor.
* `Cursor.Settled.answer_eq_finished_iff`, `Cursor.Settled.answer_eq_failed_iff` — what a settled
  cursor answers.
* `Session.trace_of_settled` — scanning a settled cursor, over and over, changes nothing.
-/

namespace SpanLexer
namespace Cursor

variable {rules : List Rule} {c : Cursor}

/-- **How a scan stops** on a cursor that was not stopped before. -/
inductive Stops (rules : List Rule) (c : Cursor) : Outcome → Cursor → Prop
  /-- The first rule that opens is the one for phone numbers, and it rejects the number. -/
  | rejected {number : Text}
      (hfind : rules.find? (fun rule => rule.opens c.rest) = some .phoneNumber)
      (hread : Rule.phoneNumber.read c.rest = ⟨number, .rejected number⟩) :
      Stops rules c (.failed ⟨.phoneLength number number.length, c.position⟩)
        ((c.advance number.length).halt ⟨.phoneLength number number.length, c.position⟩)
  /-- Text is left, but no rule opens. -/
  | stalled {x : Char} {later : Text} (hrest : c.rest = x :: later)
      (hrules : ∀ rule ∈ rules, rule.opens (x :: later) = false) :
      Stops rules c (.failed ⟨.unrecognised [x], c.position⟩) c
  /-- No text is left. -/
  | finished (hrest : c.rest = []) : Stops rules c .finished c

/-- **A scan that reads no token stops** in one of the ways of `Stops`. -/
theorem stops_scan (hhalted : c.halted = none)
    (hstop : ∀ token, (c.scan rules).answer ≠ .token token) :
    c.Stops rules (c.scan rules).answer (c.scan rules).cursor := by
  have hscans := scans_scan rules c
  generalize (c.scan rules).answer = answer at hscans hstop ⊢
  generalize (c.scan rules).cursor = next at hscans ⊢
  cases hscans with
  | halted hstored =>
      rw [hhalted] at hstored
      cases hstored
  | read _ _ _ => exact absurd rfl (hstop _)
  | @rejected rule error _ hfind hanswer =>
      have hopens := List.find?_some hfind
      obtain ⟨rfl, -, hspan⟩ := Rule.error_of_apply_error (Rule.ne_nil_of_opens hopens) hanswer
      obtain ⟨number, hverdict, rfl⟩ := Rule.verdict_of_apply_error hanswer
      obtain ⟨hnumber, -⟩ := Failure.phoneLength.inj (ScanError.mk.inj hspan).1
      have hread : Rule.phoneNumber.read c.rest = ⟨number, .rejected number⟩ := by
        rw [← hverdict, hnumber]
      rw [Rule.cursor_apply, hread]
      exact .rejected hfind hread
  | @stalled x later _ hfind hrest =>
      rw [hrest, List.find?_eq_none] at hfind
      exact .stalled hrest fun rule hrule => Bool.eq_false_iff.2 (hfind rule hrule)
  | finished _ hrest => exact .finished hrest

/-- **With a rule for white space, a scan does not stop at a blank.** -/
theorem Stops.exists_culprit {error : ScanError} {next : Cursor}
    (h : c.Stops rules (.failed error) next) (hblanks : Rule.whitespace ∈ rules) :
    error.position = c.position ∧
      ∃ culprit, c.rest.head? = some culprit ∧ isWhitespace culprit = false := by
  cases h with
  | rejected hfind _ =>
      -- It stops at the plus sign of a phone number.
      have hopens := List.find?_some hfind
      exact ⟨rfl, '+', Rule.head?_of_opens_phoneNumber hopens, by decide +kernel⟩
  | @stalled x later hrest hrules =>
      exact ⟨rfl, x, by rw [hrest]; rfl, hrules _ hblanks⟩

/-- **Draining a text stops at a boundary**: the tokens lead to a cursor at which the scan stops, in
the way that the cursor after draining and its next scan show. -/
theorem exists_boundary (rules : List Rule) (s : Text) :
    ∃ boundary, (ofText s).Reads rules ((ofText s).drain rules).answer boundary ∧
      boundary.Stops rules (((ofText s).drain rules).cursor.scan rules).answer
        ((ofText s).drain rules).cursor := by
  obtain ⟨boundary, hreads, hstop, hcursor⟩ := exists_reads_drain rules (ofText s)
  refine ⟨boundary, hreads, ?_⟩
  rw [hcursor, scan_scan hstop]
  exact stops_scan hreads.halted_eq hstop

/-- A settled cursor: scanning with the rules reads no token and leaves the cursor as it is. -/
structure Settled (rules : List Rule) (c : Cursor) : Prop where
  no_token : ∀ token, (c.scan rules).answer ≠ .token token
  cursor_eq : (c.scan rules).cursor = c

/-- **Draining settles the cursor.** -/
theorem settled_drain (rules : List Rule) (c : Cursor) : (c.drain rules).cursor.Settled rules := by
  -- The cursor is where the last scan leaves it, and that scan is repeated from there.
  obtain ⟨last, -, hstop, hcursor⟩ := exists_reads_drain rules c
  have hagain := scan_scan hstop
  rw [hcursor]
  exact ⟨fun token => by rw [hagain]; exact hstop token, by rw [hagain]⟩

/-- A stopped cursor is settled, whatever the rules. -/
theorem settled_of_halted {error : ScanError} (h : c.halted = some error) : c.Settled rules := by
  have hscan : c.scan rules = ⟨.failed error, c, []⟩ := scan_of_halted h
  exact ⟨fun token => by rw [hscan]; exact nofun, by rw [hscan]⟩

/-- What a settled cursor replies to the commands that scan with its rules. -/
def settledReply (rules : List Rule) (c : Cursor) : Command → Reply
  | .scan _ => .outcome (c.scan rules).answer
  | .drain _ => .tokens []
  | _ => .token none

namespace Settled

theorem drain (h : c.Settled rules) :
    (c.drain rules).answer = [] ∧ (c.drain rules).cursor = c := by
  obtain ⟨hanswer, hcursor⟩ := drain_of_stop h.no_token
  exact ⟨hanswer, hcursor.trans h.cursor_eq⟩

theorem answer_eq_finished_iff (h : c.Settled rules) :
    (c.scan rules).answer = .finished ↔
      c.halted = none ∧ c.source.length ≤ c.position.index := by
  constructor
  · intro hfinished
    have hscans := scans_scan rules c
    rw [hfinished, h.cursor_eq] at hscans
    cases hscans with
    | finished hhalted hrest => exact ⟨hhalted, c.rest_eq_nil_iff.1 hrest⟩
  · rintro ⟨hhalted, hend⟩
    rw [scan_of_rest_nil hhalted (c.rest_eq_nil_iff.2 hend)]

/-- A settled cursor fails with the error it stores, or with the character it stands at if no rule
opens there. -/
theorem answer_eq_failed_iff (h : c.Settled rules) (error : ScanError) :
    (c.scan rules).answer = .failed error ↔
      c.halted = some error ∨
        c.halted = none ∧ (∀ rule ∈ rules, rule.opens c.rest = false) ∧
          ∃ char, c.source[c.position.index]? = some char ∧
            error = ⟨.unrecognised [char], c.position⟩ := by
  constructor
  · intro hfailed
    have hscans := scans_scan rules c
    have hcursor := h.cursor_eq
    rw [hfailed] at hscans
    generalize (c.scan rules).cursor = next at hscans hcursor
    cases hscans with
    | halted hhalted => exact Or.inl hhalted
    | rejected hhalted _ _ =>
        -- The rule would leave the cursor halted, and it is not.
        rw [← hcursor] at hhalted
        cases hhalted
    | @stalled char later hhalted hfind hrest =>
        refine Or.inr ⟨hhalted, by simpa [List.find?_eq_none] using hfind, char, ?_, rfl⟩
        rw [← c.head?_rest, hrest]
        rfl
  · rintro (hhalted | ⟨hhalted, hrules, char, hchar, rfl⟩)
    · rw [scan_of_halted hhalted]
    · rw [← c.head?_rest] at hchar
      obtain ⟨later, hrest⟩ := List.head?_eq_some_iff.1 hchar
      rw [scan_of_no_rule hhalted hrest hrules]
      rfl

end Settled

end Cursor

namespace Session

variable {rules : List Rule} {session : Session}

theorem update_current (session : Session) : session.update session.current = session := by
  obtain ⟨cursors, active, marks, hactive⟩ := session
  simp [update, current]

/-- A command that scans a settled cursor leaves the session as it is. -/
theorem perform_of_settled {command : Command} (h : session.current.Settled rules)
    (hcommand : command = .scan rules ∨ command = .scanToken rules ∨ command = .drain rules) :
    session.perform command = .ok (session.current.settledReply rules command, session) := by
  rcases hcommand with rfl | rfl | rfl
  · show Except.ok (_, session.update (session.current.scan rules).cursor) = _
    rw [h.cursor_eq, update_current]
    rfl
  · show Except.ok (Reply.token (session.current.scan? rules).answer,
      session.update (session.current.scan? rules).cursor) = _
    rw [Cursor.scan?_answer_eq_none h.no_token, Cursor.scan?_cursor, h.cursor_eq, update_current]
    rfl
  · show Except.ok (Reply.tokens (session.current.drain rules).answer,
      session.update (session.current.drain rules).cursor) = _
    rw [h.drain.1, h.drain.2, update_current]
    rfl

/-- **Scanning a settled cursor, over and over, changes nothing**: all replies to one command are
the same, and the session stays as it is. -/
theorem trace_of_settled {commands : List Command} (h : session.current.Settled rules)
    (hcommands : ∀ command ∈ commands,
      command = .scan rules ∨ command = .scanToken rules ∨ command = .drain rules) :
    session.trace commands =
      .ok (commands.map fun command => (session.current.settledReply rules command, session)) := by
  induction commands with
  | nil => rfl
  | cons command later ih =>
      obtain ⟨hcommand, hlater⟩ := List.forall_mem_cons.1 hcommands
      rw [trace_cons_eq_ok_iff]
      exact ⟨_, _, _, perform_of_settled h hcommand, ih hlater, rfl⟩

end Session

/-- **Scanning comes to rest.**  Draining reads at most as many tokens as there are characters
left.  After it no scan with the same rules reads a token: a scan is finished just when the cursor
was not stopped and is at the end of the text, and it fails just with the error that stopped the
cursor or with the character at the index of one that was not stopped, where no rule opens.
However often it is scanned, it replies the same and stays as it is. -/
theorem Cursor.drain_settles (rules : List Rule) (c : Cursor) :
    let drained := c.drain rules
    let rested := drained.cursor
    let last := rested.scan rules
    drained.answer.length ≤ c.source.length - c.position.index ∧
    rested.source = c.source ∧
    (∀ token, last.answer ≠ .token token) ∧
    (last.answer = .finished ↔
      rested.halted = none ∧ c.source.length ≤ rested.position.index) ∧
    (∀ error, last.answer = .failed error ↔
      rested.halted = some error ∨
        rested.halted = none ∧ (∀ rule ∈ rules, rule.opens rested.rest = false) ∧
          ∃ char, c.source[rested.position.index]? = some char ∧
            error = ⟨.unrecognised [char], rested.position⟩) ∧
    ∀ session : Session, session.current = rested → ∀ commands : List Command,
      (∀ command ∈ commands,
        command = .scan rules ∨ command = .scanToken rules ∨ command = .drain rules) →
      session.trace commands =
        .ok (commands.map fun command => (rested.settledReply rules command, session)) := by
  intro drained rested last
  have hsettled : rested.Settled rules := settled_drain rules c
  have hsource : rested.source = c.source := source_drain rules c
  obtain ⟨boundary, hreads, -, -⟩ := exists_reads_drain rules c
  obtain ⟨n, hcount, hlength, -⟩ := hreads.exists_advance
  have hbound : drained.answer.length ≤ c.source.length - c.position.index := by
    rw [c.rest_eq, List.length_drop] at hlength
    exact Nat.le_trans hcount hlength
  refine ⟨hbound, hsource, hsettled.no_token, ?_, ?_, ?_⟩
  · rw [← hsource]
    exact hsettled.answer_eq_finished_iff
  · rw [← hsource]
    exact hsettled.answer_eq_failed_iff
  · rintro session hcurrent commands hcommands
    rw [← hcurrent] at hsettled ⊢
    exact Session.trace_of_settled hsettled hcommands

end SpanLexer
