import SpanLexer.Proofs.Settling

/-!
# The log retells the scan

Four places write events: a rule that backs out, a rule that rejects a number, the scan that reads
a token, and the loop that asks for the next token and gets none.  Together they tell of a whole
scan what its tokens and its end are, in order, and nothing else.

* `Entry`, `Event.entry` — an event as a reader of the log sees it.
* `Token.entries`, `Outcome.entries` — what a reader should learn of a token, and of the end.
* `Rule.entries_apply_ok`, `Rule.entries_apply_error` — what one rule writes.
* `Cursor.entries_scan?_token`, `Cursor.entries_scan?_stop` — what one scan writes.
* `Cursor.Reads.entries_drain` — what a run writes.
* `Cursor.log_retells_scan` — what draining a text writes, and what every attempt after it does.
-/

namespace SpanLexer

/-- An entry of a log: a level and named values. -/
abbrev Entry := Level × List (String × Field)

/-- An event as a reader of the log sees it. -/
def Event.entry (event : Event) : Entry := (event.level, event.fields)

/-- **The entries about a token** that a rule read: that the rule backed out, if the token is
unexpected, and that it read the token. -/
def Token.entries (rule : Rule) (token : Token) : List Entry :=
  let span := [("value", Field.text token.value), ("index", .number token.position.index),
    ("line", .number token.position.line)]
  let backedOut := if token.kind = .unexpected then [(Level.debug, span)] else []
  backedOut ++
    [(.trace, [("recognizer", .text rule.name), ("kind", .text token.kind.label)] ++ span)]

/-- The entries about a failure where it happens: a number of a wrong length is told, a character
where no rule opens is not. -/
def Failure.entries : Failure → List Entry
  | .unrecognised _ => []
  | .phoneLength number length => [(.warn, [("number", .text number), ("length", .number length)])]

/-- The entry about an error with which the tokens end. -/
def ScanError.entry (error : ScanError) : Entry := (.warn, [("error", .text error.message)])

/-- **The entries about the end** of the tokens. -/
def Outcome.entries : Outcome → List Entry
  | .token _ | .finished => []
  | .failed error => error.failure.entries ++ [error.entry]

namespace Rule

variable {rule : Rule} {c : Cursor} {token : Token} {error : ScanError}

/-- Before a token that is unexpected, a rule tells that it backed out; before others, nothing. -/
theorem log_apply_ok (h : (rule.apply c).answer = .ok token) :
    (rule.apply c).log = if token.kind = .unexpected then [.recovered token] else [] := by
  rw [apply_eq, Reading.stepAt] at h ⊢
  split at h
  · next kind value hverdict =>
      obtain rfl := Except.ok.inj h
      have hkind : kind ≠ .unexpected := by
        rw [kind_of_accepted hverdict]
        exact rule.kind_ne_unexpected
      exact (if_neg hkind).symm
  · obtain rfl := Except.ok.inj h
    rfl
  · cases h

/-- **What a rule writes about a token**, together with the event of the scan that chose it. -/
theorem entries_apply_ok (h : (rule.apply c).answer = .ok token) :
    ((rule.apply c).log ++ [Event.scanned rule token]).map Event.entry = token.entries rule := by
  rw [log_apply_ok h, Token.entries]
  split <;> rfl

/-- **What a rule writes about a span** that it rejects. -/
theorem entries_apply_error (h : (rule.apply c).answer = .error error) :
    (rule.apply c).log.map Event.entry = error.failure.entries := by
  rw [apply_eq, Reading.stepAt] at h ⊢
  split at h
  · cases h
  · cases h
  · obtain rfl := Except.error.inj h
    rfl

end Rule

namespace Cursor

variable {rules : List Rule} {c last : Cursor} {token : Token} {tokens : List Token}
  {error : ScanError}

theorem log_scan?_of_token (h : (c.scan rules).answer = .token token) :
    (c.scan? rules).log = (c.scan rules).log := by
  simp only [scan?, h]

theorem log_scan?_of_failed (h : (c.scan rules).answer = .failed error) :
    (c.scan? rules).log = (c.scan rules).log ++ [.stopped error] := by
  simp only [scan?, h]

/-- **A scan that reads a token** writes the entries about it; they name the first rule that opens
at its index. -/
theorem entries_scan?_token (h : (c.scan rules).answer = .token token) :
    ∃ rule, c.source.ruleAt rules token.position.index = some rule ∧
      (c.scan? rules).log.map Event.entry = token.entries rule := by
  obtain ⟨rule, hhalted, hfind, hanswer, -⟩ := exists_rule_of_scan_token h
  have hposition := (Rule.verdict_of_apply_ok hanswer).1
  refine ⟨rule, ?_, ?_⟩
  · rw [hposition, ruleAt_source, hfind]
  · rw [log_scan?_of_token h, scan_of_read hhalted hfind hanswer]
    exact Rule.entries_apply_ok hanswer

/-- **A scan that reads no token** writes the entries about the end, unless the cursor was stopped
before. -/
theorem entries_scan?_stop (hhalted : c.halted = none)
    (hstop : ∀ token, (c.scan rules).answer ≠ .token token) :
    (c.scan? rules).log.map Event.entry = (c.scan rules).answer.entries := by
  have hscans := scans_scan rules c
  generalize hanswer : (c.scan rules).answer = answer at hscans hstop ⊢
  generalize (c.scan rules).cursor = next at hscans
  cases hscans with
  | halted hstored =>
      rw [hhalted] at hstored
      cases hstored
  | read _ _ _ => exact absurd rfl (hstop _)
  | @rejected rule error _ hfind happly =>
      rw [log_scan?_of_failed hanswer, scan_of_rejected hhalted hfind happly, List.map_append,
        Rule.entries_apply_error happly]
      rfl
  | stalled _ hfind hrest =>
      have hrules := List.find?_eq_none.1 hfind
      rw [log_scan?_of_failed hanswer,
        scan_of_no_rule hhalted hrest fun rule hrule => Bool.eq_false_iff.2 (hrules rule hrule)]
      rfl
  | finished _ hrest =>
      simp only [scan?, scan_of_rest_nil hhalted hrest]
      rfl

/-- **A run** writes the entries about each of its tokens, one token after the other, before what is
written behind it. -/
theorem Reads.entries_drain (h : c.Reads rules tokens last) :
    ∃ chosen : List Rule,
      chosen.map some = tokens.map (fun token => c.source.ruleAt rules token.position.index) ∧
      (c.drain rules).log.map Event.entry =
        (List.zipWith Token.entries chosen tokens).flatten ++
          (last.drain rules).log.map Event.entry := by
  induction h with
  | nil c => exact ⟨[], rfl, rfl⟩
  | @cons c last token tokens hscan _ ih =>
      obtain ⟨rule, hrule, hentries⟩ := entries_scan?_token hscan
      obtain ⟨chosen, hchosen, hlater⟩ := ih
      rw [source_scan] at hchosen
      refine ⟨rule :: chosen, ?_, ?_⟩
      · rw [List.map_cons, List.map_cons, hrule, hchosen]
      · rw [drain_of_some (scan?_answer_eq_some_iff.2 hscan), scan?_cursor, List.map_append,
          hentries, hlater, List.zipWith_cons_cons, List.flatten_cons, List.append_assoc]

/-- **The log retells the scan.**  Draining a text writes, for each token in turn, the entries about
it, with the name of the first rule that opens at its index; then the entries about the end; and
nothing else.  After an error, every further attempt to read a token writes one entry about the
same error, and leaves the cursor as it is. -/
theorem log_retells_scan (rules : List Rule) (s : Text) :
    let drained := (ofText s).drain rules
    let last := drained.cursor.scan rules
    let again := drained.cursor.scan? rules
    (∃ chosen : List Rule,
      chosen.map some =
        drained.answer.map (fun token => s.ruleAt rules token.position.index) ∧
      drained.log.map Event.entry =
        (List.zipWith Token.entries chosen drained.answer).flatten ++ last.answer.entries) ∧
    ∀ error, last.answer = .failed error →
      again.answer = none ∧ again.cursor = drained.cursor ∧
        again.log.map Event.entry = [error.entry] := by
  intro drained last again
  obtain ⟨boundary, hreads, hstop, hcursor⟩ := exists_reads_drain rules (ofText s)
  have hagain : drained.cursor.scan rules =
      ⟨(boundary.scan rules).answer, drained.cursor, []⟩ := by
    show ((ofText s).drain rules).cursor.scan rules = _
    rw [hcursor, scan_scan hstop, ← hcursor]
  refine ⟨?_, fun error herror => ?_⟩
  · obtain ⟨chosen, hchosen, hlog⟩ := hreads.entries_drain
    refine ⟨chosen, hchosen, ?_⟩
    have hend : (boundary.drain rules).log.map Event.entry = last.answer.entries := by
      rw [drain_of_none (scan?_answer_eq_none hstop), entries_scan?_stop hreads.halted_eq hstop]
      show _ = (drained.cursor.scan rules).answer.entries
      rw [hagain]
    rw [← hend]
    exact hlog
  · -- The scan after draining tells nothing by itself; the error is told by who asked for a token.
    have hlog : again.log = [.stopped error] := by
      show (drained.cursor.scan? rules).log = _
      rw [log_scan?_of_failed herror, hagain]
      rfl
    refine ⟨?_, ?_, by rw [hlog]; rfl⟩
    · exact scan?_answer_eq_none fun token htoken => by rw [herror] at htoken; cases htoken
    · show (drained.cursor.scan? rules).cursor = _
      rw [scan?_cursor, hagain]

/-- A bracket that is never closed, and a number that is too short. -/
example :
    ((ofText "[+9665".toList).drain Rule.standard).log =
      [.recovered ⟨.unexpected, ['['], ⟨0, 1⟩⟩,
        .scanned .brackets ⟨.unexpected, ['['], ⟨0, 1⟩⟩,
        .wrongLength "+9665".toList 5,
        .stopped ⟨.phoneLength "+9665".toList 5, ⟨1, 1⟩⟩] := by
  decide +kernel

end Cursor
end SpanLexer
