import SpanLexer.Rule.Apply

/-!
# Scanning

Scanning applies rules to a cursor.  Each operation answers with the cursor after it and with the
events it tells.

* `Outcome` — how a scan can end.
* `Cursor.scan` — the first rule of a list that opens; an error of the rule stops the cursor.
* `Cursor.scan?` — the same with every error turned into the end of the tokens.
* `Cursor.drain` — all tokens up to the end of the text or the first error.
* `Cursor.drain_of_some`, `Cursor.drain_of_none` — draining is scanning over and over.
-/

namespace SpanLexer

/-- How one scan can end. -/
inductive Outcome where
  /-- A token was read. -/
  | token (token : Token)
  /-- The text has come to its end. -/
  | finished
  /-- The scan cannot go on. -/
  | failed (error : ScanError)
  deriving DecidableEq, Repr

/-- A rule moves the cursor past its span. -/
@[simp] theorem Rule.cursor_apply (rule : Rule) (c : Cursor) :
    (rule.apply c).cursor = c.advance (rule.read c.rest).span.length := by
  rw [Rule.apply_eq, Reading.stepAt]
  split <;> rfl

/-- A rule that opens at the cursor leaves less text. -/
theorem Rule.length_rest_apply_lt {rule : Rule} {c : Cursor} (h : rule.opens c.rest = true) :
    (rule.apply c).cursor.rest.length < c.rest.length := by
  have hspan := List.length_pos_iff.2 (span_ne_nil h)
  have hle := (rule.span_prefix_self c.rest).length_le
  simp only [cursor_apply, Cursor.rest_advance, List.length_drop]
  omega

namespace Cursor

/-- The failure at a character where no rule opens. -/
def unrecognised (c : Cursor) (char : Char) : ScanError := ⟨.unrecognised [char], c.position⟩

/-- Scans one span with the first of the rules that opens.  An error of a rule stops the cursor,
which answers with that error from then on; a character where no rule opens does not. -/
def scan (rules : List Rule) (c : Cursor) : Step Outcome :=
  match c.halted with
  | some error => ⟨.failed error, c, []⟩
  | none =>
      match rules.find? (fun rule => rule.opensAt c) with
      | some rule =>
          let applied := rule.apply c
          match applied.answer with
          | .ok token => ⟨.token token, applied.cursor, applied.log ++ [.scanned rule token]⟩
          | .error error => ⟨.failed error, applied.cursor.halt error, applied.log⟩
      | none =>
          match c.rest with
          | char :: _ => ⟨.failed (c.unrecognised char), c, []⟩
          | [] => ⟨.finished, c, []⟩

/-- Scans one span and answers with its token, if there is one.  An error is only told. -/
def scan? (rules : List Rule) (c : Cursor) : Step (Option Token) :=
  let scanned := c.scan rules
  match scanned.answer with
  | .token token => ⟨some token, scanned.cursor, scanned.log⟩
  | .finished => ⟨none, scanned.cursor, scanned.log⟩
  | .failed error => ⟨none, scanned.cursor, scanned.log ++ [.stopped error]⟩

/-- A scan that reads a token leaves less text. -/
theorem length_rest_scan_lt {rules : List Rule} {c : Cursor} {token : Token}
    (h : (c.scan rules).answer = .token token) :
    (c.scan rules).cursor.rest.length < c.rest.length := by
  revert h
  unfold scan
  rw [Rule.opensAt_eq_opens]
  split
  · intro h
    cases h
  · split
    · next rule hfind =>
      have hopens := List.find?_some hfind
      have hlt := Rule.length_rest_apply_lt hopens
      dsimp only
      split
      · exact fun _ => hlt
      · intro h
        cases h
    · split
      · intro h
        cases h
      · intro h
        cases h

theorem length_rest_scan?_lt {rules : List Rule} {c : Cursor} {token : Token}
    (h : (c.scan? rules).answer = some token) :
    (c.scan? rules).cursor.rest.length < c.rest.length := by
  cases hscan : (c.scan rules).answer with
  | token token =>
    have hlt := length_rest_scan_lt hscan
    simpa only [scan?, hscan] using hlt
  | finished => simp [scan?, hscan] at h
  | failed error => simp [scan?, hscan] at h

/-- Scans on until no token comes, with the tokens and events so far in reverse order. -/
def drainInto (rules : List Rule) (tokens : List Token) (log : List Event) (c : Cursor) :
    Step (List Token) :=
  let scanned := c.scan? rules
  match _h : scanned.answer with
  | none => ⟨tokens.reverse, scanned.cursor, (scanned.log.reverse ++ log).reverse⟩
  | some token => drainInto rules (token :: tokens) (scanned.log.reverse ++ log) scanned.cursor
termination_by c.rest.length
decreasing_by exact length_rest_scan?_lt _h

/-- Scans until no token comes, and answers with all tokens. -/
def drain (rules : List Rule) (c : Cursor) : Step (List Token) :=
  drainInto rules [] [] c

theorem drainInto_eq (rules : List Rule) (tokens : List Token) (log : List Event) (c : Cursor) :
    drainInto rules tokens log c =
      ⟨tokens.reverse ++ (c.drain rules).answer, (c.drain rules).cursor,
        log.reverse ++ (c.drain rules).log⟩ := by
  have key : ∀ n, ∀ c : Cursor, c.rest.length = n → ∀ tokens log,
      drainInto rules tokens log c =
        ⟨tokens.reverse ++ (drainInto rules [] [] c).answer, (drainInto rules [] [] c).cursor,
          log.reverse ++ (drainInto rules [] [] c).log⟩ := by
    intro n
    induction n using Nat.strongRecOn with
    | ind n ih =>
      intro c hc tokens log
      cases hanswer : (c.scan? rules).answer with
      | none =>
        rw [drainInto, drainInto]
        split
        · simp
        · next h => simp [hanswer] at h
      | some token =>
        have hlt := length_rest_scan?_lt hanswer
        rw [drainInto, drainInto]
        split
        · next h => simp [hanswer] at h
        · next token' h =>
          rw [ih _ (hc ▸ hlt) _ rfl (token' :: tokens), ih _ (hc ▸ hlt) _ rfl [token']]
          simp
  exact key _ c rfl tokens log

/-- Where no token comes, draining is one scan. -/
theorem drain_of_none {rules : List Rule} {c : Cursor} (h : (c.scan? rules).answer = none) :
    c.drain rules = ⟨[], (c.scan? rules).cursor, (c.scan? rules).log⟩ := by
  rw [drain, drainInto]
  split
  · simp
  · next h' => simp [h] at h'

/-- Where a token comes, draining goes on from the cursor after it. -/
theorem drain_of_some {rules : List Rule} {c : Cursor} {token : Token}
    (h : (c.scan? rules).answer = some token) :
    c.drain rules =
      ⟨token :: ((c.scan? rules).cursor.drain rules).answer,
        ((c.scan? rules).cursor.drain rules).cursor,
        (c.scan? rules).log ++ ((c.scan? rules).cursor.drain rules).log⟩ := by
  rw [drain, drainInto]
  split
  · next h' => simp [h] at h'
  · next token' h' =>
    rw [h, Option.some.injEq] at h'
    subst h'
    rw [drainInto_eq]
    simp

end Cursor
end SpanLexer
