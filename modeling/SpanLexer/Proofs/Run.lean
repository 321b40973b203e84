import SpanLexer.Proofs.Span

/-!
# Steps and runs of a scan

A scan is one step; draining is a run of steps, each of which reads a token, and one last step
which reads none.

* `Text.ruleAt` — the rule that a scan at an index of a text chooses.
* `Cursor.length_rest`, `Cursor.extract_of_prefix`, `Cursor.index_lt_length` — what a cursor has
  left, by the indices of its text.
* `Cursor.Scans` — how one scan goes, with one constructor for each way; `Cursor.scans_scan` says
  that every scan goes in one of them, and `Cursor.Scans.scan_eq` that it can go in no other.
* `Cursor.scan_token` — a step that reads a token: where it leads and what the token shows.
* `Cursor.Reads` — a run of such steps; `Cursor.Reads.exists_scan` finds the step of a token, and
  `Cursor.Reads.pairwise_index_lt` says that the tokens come in the order of their indices.
* `Cursor.exists_reads_drain` — draining is a run to a boundary at which the next scan reads no
  token; the cursor is left where that scan leaves it.
* `Cursor.Reads.drain_eq` — draining goes on behind a run.
* `Cursor.scan_scan` — a scan that reads no token is repeated by the next one.
-/

namespace SpanLexer

/-- The rule that a scan at an index of a text chooses: the first of the rules that opens there. -/
def Text.ruleAt (rules : List Rule) (s : Text) (index : Nat) : Option Rule :=
  rules.find? fun rule => rule.opens (s.drop index)

namespace Cursor

/-- Moving past all that is left, it does not matter by how much. -/
theorem advance_congr {c : Cursor} {m n : Nat}
    (h : min m c.rest.length = min n c.rest.length) : c.advance m = c.advance n := by
  refine eq_of_fields rfl ?_ rfl
  rw [position_advance, position_advance, List.take_eq_take_iff.2 h]

/-- What is left begins with the character at the index. -/
theorem head?_rest (c : Cursor) : c.rest.head? = c.source[c.position.index]? := by
  rw [c.rest_eq, List.head?_drop]

/-- What is left behind the next character is what is left at the next index. -/
theorem drop_index_succ {c : Cursor} {x : Char} {later : Text} (h : c.rest = x :: later) :
    c.source.drop (c.position.index + 1) = later := by
  rw [← List.drop_drop, ← c.rest_eq, h, List.drop_one, List.tail_cons]

theorem length_rest (c : Cursor) : c.rest.length = c.source.length - c.position.index := by
  rw [c.rest_eq, List.length_drop]

/-- What is left from the index of a cursor to another one. -/
theorem extract_eq_take (c : Cursor) (stop : Nat) :
    c.source.extract c.position.index stop = c.rest.take (stop - c.position.index) := by
  rw [List.extract, ← c.rest_eq]

/-- What a cursor has left begins with a span that stands in the text from the index on. -/
theorem extract_of_prefix {c : Cursor} {span : Text} (h : span <+: c.rest) :
    c.source.extract c.position.index (c.position.index + span.length) = span := by
  rw [extract_eq_take, Nat.add_sub_cancel_left]
  exact (List.prefix_iff_eq_take.1 h).symm

/-- A cursor that has text left stands at a character of its text. -/
theorem index_lt_length {c : Cursor} (h : c.rest ≠ []) : c.position.index < c.source.length :=
  Nat.not_le.1 (mt c.rest_eq_nil_iff.2 h)

/-- What is left opens for the rule that the text has at the index. -/
theorem ruleAt_source (rules : List Rule) (c : Cursor) :
    c.source.ruleAt rules c.position.index = rules.find? (fun rule => rule.opens c.rest) := by
  rw [Text.ruleAt, ← c.rest_eq]

/-- How one scan goes.  An error of a rule halts the cursor; a character where no rule opens
leaves it as it is. -/
inductive Scans (rules : List Rule) (c : Cursor) : Outcome → Cursor → Prop
  /-- The cursor was stopped before. -/
  | halted {error : ScanError} (hhalted : c.halted = some error) : Scans rules c (.failed error) c
  /-- The first rule that opens reads a token. -/
  | read {rule : Rule} {token : Token} (hhalted : c.halted = none)
      (hfind : rules.find? (fun rule => rule.opens c.rest) = some rule)
      (hanswer : (rule.apply c).answer = .ok token) :
      Scans rules c (.token token) (rule.apply c).cursor
  /-- The first rule that opens rejects its span. -/
  | rejected {rule : Rule} {error : ScanError} (hhalted : c.halted = none)
      (hfind : rules.find? (fun rule => rule.opens c.rest) = some rule)
      (hanswer : (rule.apply c).answer = .error error) :
      Scans rules c (.failed error) ((rule.apply c).cursor.halt error)
  /-- Text is left, but no rule opens. -/
  | stalled {char : Char} {later : Text} (hhalted : c.halted = none)
      (hfind : rules.find? (fun rule => rule.opens c.rest) = none)
      (hrest : c.rest = char :: later) :
      Scans rules c (.failed (c.unrecognised char)) c
  /-- No text is left. -/
  | finished (hhalted : c.halted = none) (hrest : c.rest = []) : Scans rules c .finished c

/-- Every scan goes in one of the ways of `Scans`. -/
theorem scans_scan (rules : List Rule) (c : Cursor) :
    c.Scans rules (c.scan rules).answer (c.scan rules).cursor := by
  unfold scan
  rw [Rule.opensAt_eq_opens]
  split
  · next error hhalted => exact .halted hhalted
  · next hhalted =>
      split
      · next rule hfind =>
          dsimp only
          split
          · next token hanswer => exact .read hhalted hfind hanswer
          · next error hanswer => exact .rejected hhalted hfind hanswer
      · next hfind =>
          split
          · next char later hrest => exact .stalled hhalted hfind hrest
          · next hrest => exact .finished hhalted hrest

section Steps

variable {rules : List Rule} {c : Cursor} {token : Token}

/-- A token comes from the first rule that opens, on a cursor that was not stopped. -/
theorem exists_rule_of_scan_token (h : (c.scan rules).answer = .token token) :
    ∃ rule, c.halted = none ∧ rules.find? (fun rule => rule.opens c.rest) = some rule ∧
      (rule.apply c).answer = .ok token ∧ (c.scan rules).cursor = (rule.apply c).cursor := by
  have hscans := scans_scan rules c
  rw [h] at hscans
  generalize (c.scan rules).cursor = next at hscans ⊢
  cases hscans with
  | read hhalted hfind hanswer => exact ⟨_, hhalted, hfind, hanswer, rfl⟩

/-- **One step.**  A scan that reads a token passes a part of the text that is not empty, and the
token shows that part from where it begins. -/
theorem scan_token (h : (c.scan rules).answer = .token token) :
    ∃ span later, c.rest = span ++ later ∧ span ≠ [] ∧ token.position = c.position ∧
      token.Shows span ∧ (c.scan rules).cursor = c.advance span.length := by
  obtain ⟨rule, -, hfind, hanswer, hcursor⟩ := exists_rule_of_scan_token h
  have hopens := List.find?_some hfind
  obtain ⟨later, hlater⟩ := rule.span_prefix_self c.rest
  refine ⟨(rule.read c.rest).span, later, hlater.symm, Rule.span_ne_nil hopens, ?_, ?_, ?_⟩
  · exact (Rule.verdict_of_apply_ok hanswer).1
  · exact Rule.shows_of_apply_ok hopens hanswer
  · rw [hcursor, Rule.cursor_apply]

/-- Where the first rule that opens makes a token, a scan answers with it and tells of it. -/
theorem scan_of_read {rule : Rule} (hhalted : c.halted = none)
    (hfind : rules.find? (fun rule => rule.opens c.rest) = some rule)
    (hanswer : (rule.apply c).answer = .ok token) :
    c.scan rules =
      ⟨.token token, (rule.apply c).cursor, (rule.apply c).log ++ [.scanned rule token]⟩ := by
  unfold scan
  rw [Rule.opensAt_eq_opens]
  rw [hhalted]
  dsimp only
  rw [hfind]
  dsimp only
  rw [hanswer]

/-- Where the first rule that opens rejects its span, a scan answers with the error and stops the
cursor. -/
theorem scan_of_rejected {rule : Rule} {error : ScanError} (hhalted : c.halted = none)
    (hfind : rules.find? (fun rule => rule.opens c.rest) = some rule)
    (hanswer : (rule.apply c).answer = .error error) :
    c.scan rules = ⟨.failed error, (rule.apply c).cursor.halt error, (rule.apply c).log⟩ := by
  unfold scan
  rw [Rule.opensAt_eq_opens]
  rw [hhalted]
  dsimp only
  rw [hfind]
  dsimp only
  rw [hanswer]

/-- A cursor that was stopped answers with its error. -/
theorem scan_of_halted {error : ScanError} (h : c.halted = some error) :
    c.scan rules = ⟨.failed error, c, []⟩ := by
  simp [scan, h]

/-- A character where no rule opens is an error that leaves the cursor as it is. -/
theorem scan_of_no_rule {char : Char} {later : Text} (hhalted : c.halted = none)
    (hrest : c.rest = char :: later) (hrules : ∀ rule ∈ rules, rule.opens c.rest = false) :
    c.scan rules = ⟨.failed (c.unrecognised char), c, []⟩ := by
  have hfind : rules.find? (fun rule => rule.opens c.rest) = none := by
    simpa [List.find?_eq_none] using hrules
  unfold scan
  rw [Rule.opensAt_eq_opens]
  rw [hhalted]
  dsimp only
  rw [hfind]
  simp only [hrest]

/-- At the end of the text a scan is finished. -/
theorem scan_of_rest_nil (hhalted : c.halted = none) (hrest : c.rest = []) :
    c.scan rules = ⟨.finished, c, []⟩ := by
  have hfind : rules.find? (fun rule => rule.opens c.rest) = none := by
    simp [List.find?_eq_none, hrest]
  unfold scan
  rw [Rule.opensAt_eq_opens]
  rw [hhalted]
  dsimp only
  rw [hfind]
  simp only [hrest]

/-- **How a scan goes determines it.** -/
theorem Scans.scan_eq {answer : Outcome} {next : Cursor} (h : c.Scans rules answer next) :
    (c.scan rules).answer = answer ∧ (c.scan rules).cursor = next := by
  cases h with
  | halted hhalted =>
      rw [scan_of_halted hhalted]
      exact ⟨rfl, rfl⟩
  | read hhalted hfind hanswer =>
      rw [scan_of_read hhalted hfind hanswer]
      exact ⟨rfl, rfl⟩
  | rejected hhalted hfind hanswer =>
      rw [scan_of_rejected hhalted hfind hanswer]
      exact ⟨rfl, rfl⟩
  | stalled hhalted hfind hrest =>
      have hrules : ∀ rule ∈ rules, rule.opens c.rest = false := by
        simpa [List.find?_eq_none] using hfind
      rw [scan_of_no_rule hhalted hrest hrules]
      exact ⟨rfl, rfl⟩
  | finished hhalted hrest =>
      rw [scan_of_rest_nil hhalted hrest]
      exact ⟨rfl, rfl⟩

/-- Where the first rule that opens reads a span as it stands, a scan reads a token of it. -/
theorem scan_of_whole {rule : Rule} {kind : TokenKind} {span : Text} (hhalted : c.halted = none)
    (hfind : rules.find? (fun rule => rule.opens c.rest) = some rule)
    (hread : rule.read c.rest = Reading.whole kind span) :
    (c.scan rules).answer = .token ⟨kind, span, c.position⟩ ∧
      (c.scan rules).cursor = c.advance span.length := by
  have hanswer := Rule.answer_apply_of_accepted (congrArg Reading.verdict hread)
  obtain ⟨htoken, hnext⟩ := (Scans.read hhalted hfind hanswer).scan_eq
  rw [Rule.cursor_apply, hread] at hnext
  exact ⟨htoken, hnext⟩

/-- Orders that choose the same rule scan the same. -/
theorem scan_congr {others : List Rule}
    (h : rules.find? (fun rule => rule.opens c.rest) =
      others.find? (fun rule => rule.opens c.rest)) : c.scan rules = c.scan others := by
  unfold scan
  rw [Rule.opensAt_eq_opens]
  rw [h]

/-- A scan is finished on a cursor that was not stopped and has no text left, and on no other. -/
theorem scan_eq_finished_iff :
    (c.scan rules).answer = .finished ↔ c.halted = none ∧ c.rest = [] := by
  constructor
  · intro hfinished
    have hscans := scans_scan rules c
    rw [hfinished] at hscans
    generalize (c.scan rules).cursor = next at hscans
    cases hscans with
    | finished hhalted hrest => exact ⟨hhalted, hrest⟩
  · rintro ⟨hhalted, hrest⟩
    rw [scan_of_rest_nil hhalted hrest]

@[simp] theorem source_scan : (c.scan rules).cursor.source = c.source := by
  have hscans := scans_scan rules c
  generalize (c.scan rules).answer = answer at hscans
  generalize (c.scan rules).cursor = next at hscans ⊢
  cases hscans with
  | halted _ | stalled _ _ _ | finished _ _ => rfl
  | read _ _ _ => rw [Rule.cursor_apply, source_advance]
  | rejected _ _ _ => rw [source_halt, Rule.cursor_apply, source_advance]

/-- A scan that reads no token is repeated by the next one, which tells nothing. -/
theorem scan_scan (h : ∀ token, (c.scan rules).answer ≠ .token token) :
    (c.scan rules).cursor.scan rules = ⟨(c.scan rules).answer, (c.scan rules).cursor, []⟩ := by
  have hscans := scans_scan rules c
  generalize (c.scan rules).answer = answer at hscans h ⊢
  generalize (c.scan rules).cursor = next at hscans ⊢
  cases hscans with
  | halted hhalted => exact scan_of_halted hhalted
  | read _ _ _ => exact absurd rfl (h _)
  -- The one way in which the cursor changes: from now on it answers with the error it stores.
  | rejected _ _ _ => exact scan_of_halted rfl
  | stalled hhalted hfind hrest =>
      exact scan_of_no_rule hhalted hrest (by simpa [List.find?_eq_none] using hfind)
  | finished hhalted hrest => exact scan_of_rest_nil hhalted hrest

theorem scan?_answer_eq_some_iff :
    (c.scan? rules).answer = some token ↔ (c.scan rules).answer = .token token := by
  cases hscan : (c.scan rules).answer with
  | token read => simp [scan?, hscan]
  | finished => simp [scan?, hscan]
  | failed error => simp [scan?, hscan]

theorem scan?_answer_eq_none (h : ∀ token, (c.scan rules).answer ≠ .token token) :
    (c.scan? rules).answer = none := by
  cases hanswer : (c.scan? rules).answer with
  | none => rfl
  | some token => exact absurd (scan?_answer_eq_some_iff.1 hanswer) (h token)

@[simp] theorem scan?_cursor : (c.scan? rules).cursor = (c.scan rules).cursor := by
  cases hscan : (c.scan rules).answer <;> simp [scan?, hscan]

end Steps

/-- A run of scans that read tokens, one after the other. -/
inductive Reads (rules : List Rule) : Cursor → List Token → Cursor → Prop
  | nil (c : Cursor) : Reads rules c [] c
  | cons {c last : Cursor} {token : Token} {tokens : List Token}
      (hscan : (c.scan rules).answer = .token token)
      (hlater : Reads rules (c.scan rules).cursor tokens last) :
      Reads rules c (token :: tokens) last

/-- Two runs, the second from where the first ends, are one. -/
theorem Reads.append {rules : List Rule} {c middle last : Cursor} {tokens later : List Token}
    (h : c.Reads rules tokens middle) (hlater : middle.Reads rules later last) :
    c.Reads rules (tokens ++ later) last := by
  induction h with
  | nil c => exact hlater
  | cons hscan _ ih => exact Reads.cons hscan (ih hlater)

/-- A run moves the cursor on, by at least one character for every token. -/
theorem Reads.exists_advance {rules : List Rule} {c last : Cursor} {tokens : List Token}
    (h : c.Reads rules tokens last) :
    ∃ n, tokens.length ≤ n ∧ n ≤ c.rest.length ∧ last = c.advance n := by
  induction h with
  | nil c => exact ⟨0, Nat.le_refl _, Nat.zero_le _, c.advance_zero.symm⟩
  | @cons c last token tokens hscan _ ih =>
      obtain ⟨n, hcount, hlength, hlast⟩ := ih
      obtain ⟨span, later, hrest, hspan, -, -, hcursor⟩ := scan_token hscan
      have hpos := List.length_pos_iff.2 hspan
      rw [hcursor, rest_advance, hrest, List.drop_left] at hlength
      refine ⟨span.length + n, ?_, ?_, ?_⟩
      · rw [List.length_cons]
        omega
      · rw [hrest, List.length_append]
        omega
      · rw [hlast, hcursor, advance_advance]

/-- A run stays in its text. -/
theorem Reads.source_eq {rules : List Rule} {c last : Cursor} {tokens : List Token}
    (h : c.Reads rules tokens last) : last.source = c.source := by
  obtain ⟨n, -, -, rfl⟩ := h.exists_advance
  rfl

/-- No run stops its cursor. -/
theorem Reads.halted_eq {rules : List Rule} {c last : Cursor} {tokens : List Token}
    (h : c.Reads rules tokens last) : last.halted = c.halted := by
  obtain ⟨n, -, -, rfl⟩ := h.exists_advance
  rfl

/-- Where a run from the beginning of a text leads, what is left is what the text has from there. -/
theorem Reads.drop_index {rules : List Rule} {s : Text} {c : Cursor} {tokens : List Token}
    (h : (ofText s).Reads rules tokens c) : s.drop c.position.index = c.rest := by
  have hsource : c.source = s := h.source_eq
  rw [c.rest_eq, hsource]

/-- Every token of a run is read by one of its steps. -/
theorem Reads.exists_scan {rules : List Rule} {c last : Cursor} {tokens : List Token} {token : Token}
    (h : c.Reads rules tokens last) (hmem : token ∈ tokens) :
    ∃ n, ((c.advance n).scan rules).answer = .token token := by
  induction h with
  | nil c => cases hmem
  | @cons c last first later hscan _ ih =>
      rcases List.mem_cons.1 hmem with rfl | hlater
      · exact ⟨0, by rw [advance_zero, hscan]⟩
      · obtain ⟨n, hn⟩ := ih hlater
        obtain ⟨span, -, -, -, -, -, hcursor⟩ := scan_token hscan
        rw [hcursor, advance_advance] at hn
        exact ⟨span.length + n, hn⟩

/-- The tokens of a run come in the order of their indices. -/
theorem Reads.pairwise_index_lt {rules : List Rule} {c last : Cursor} {tokens : List Token}
    (h : c.Reads rules tokens last) :
    tokens.Pairwise fun a b => a.position.index < b.position.index := by
  induction h with
  | nil c => exact List.Pairwise.nil
  | @cons c last first later hscan hlater ih =>
      refine List.pairwise_cons.2 ⟨fun token hmem => ?_, ih⟩
      obtain ⟨span, behind, hrest, hspan, hposition, -, hcursor⟩ := scan_token hscan
      obtain ⟨n, hn⟩ := hlater.exists_scan hmem
      obtain ⟨-, -, -, -, hpositionLater, -, -⟩ := scan_token hn
      -- The later token begins behind the span of the first one, which is not empty.
      have hpos := List.length_pos_iff.2 hspan
      rw [hposition, hpositionLater, hcursor, position_advance, position_advance,
        Position.index_after, Position.index_after, hrest, List.take_left]
      omega

/-- **Draining is a run.**  It reads tokens up to a boundary where the next scan reads none, and
leaves the cursor where that scan leaves it. -/
theorem exists_reads_drain (rules : List Rule) (c : Cursor) :
    ∃ last, c.Reads rules (c.drain rules).answer last ∧
      (∀ token, (last.scan rules).answer ≠ .token token) ∧
      (c.drain rules).cursor = (last.scan rules).cursor := by
  -- Induction on the length of the text that is left, which every token makes shorter.
  induction hlength : c.rest.length using Nat.strongRecOn generalizing c with
  | ind length ih =>
      cases hanswer : (c.scan? rules).answer with
      | none =>
          rw [drain_of_none hanswer]
          refine ⟨c, Reads.nil c, ?_, scan?_cursor⟩
          intro token hscan
          rw [scan?_answer_eq_some_iff.2 hscan] at hanswer
          cases hanswer
      | some token =>
          have hscan := scan?_answer_eq_some_iff.1 hanswer
          have hlt := length_rest_scan_lt hscan
          rw [drain_of_some hanswer, scan?_cursor]
          obtain ⟨last, hreads, hstop, hcursor⟩ := ih _ (hlength ▸ hlt) _ rfl
          exact ⟨last, Reads.cons hscan hreads, hstop, hcursor⟩

/-- Draining reads nothing where the next scan reads no token. -/
theorem drain_of_stop {rules : List Rule} {c : Cursor}
    (h : ∀ token, (c.scan rules).answer ≠ .token token) :
    (c.drain rules).answer = [] ∧ (c.drain rules).cursor = (c.scan rules).cursor := by
  rw [drain_of_none (scan?_answer_eq_none h)]
  exact ⟨rfl, scan?_cursor⟩

/-- **Draining goes on behind a run.**  It reads the tokens of the run, and then what draining
reads from where the run ends. -/
theorem Reads.drain_eq {rules : List Rule} {c last : Cursor} {tokens : List Token}
    (h : c.Reads rules tokens last) :
    (c.drain rules).answer = tokens ++ (last.drain rules).answer ∧
      (c.drain rules).cursor = (last.drain rules).cursor := by
  induction h with
  | nil c => exact ⟨rfl, rfl⟩
  | cons hscan _ ih =>
      obtain ⟨hanswer, hcursor⟩ := ih
      rw [drain_of_some (scan?_answer_eq_some_iff.2 hscan), scan?_cursor]
      exact ⟨by rw [List.cons_append, ← hanswer], hcursor⟩

/-- A run that cannot go on is all that draining reads. -/
theorem Reads.drain_of_stop {rules : List Rule} {c last : Cursor} {tokens : List Token}
    (h : c.Reads rules tokens last) (hstop : ∀ token, (last.scan rules).answer ≠ .token token) :
    (c.drain rules).answer = tokens ∧ (c.drain rules).cursor = (last.scan rules).cursor := by
  obtain ⟨hanswer, hcursor⟩ := h.drain_eq
  obtain ⟨hnone, hend⟩ := Cursor.drain_of_stop hstop
  rw [hanswer, hcursor, hnone, List.append_nil]
  exact ⟨rfl, hend⟩

@[simp] theorem source_drain (rules : List Rule) (c : Cursor) :
    (c.drain rules).cursor.source = c.source := by
  obtain ⟨last, hreads, -, hcursor⟩ := exists_reads_drain rules c
  rw [hcursor, source_scan, hreads.source_eq]

end Cursor
end SpanLexer
