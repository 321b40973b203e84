import SpanLexer.Proofs.Placement

/-!
# Scanning depends on the text that is left

A cursor in the middle of a text scans what a cursor at the beginning of the remaining text scans:
the same tokens and the same errors, only that all positions are seen from the longer text.  What
was passed before is never looked at, and no decision rests on an index or a line.

* `Position.rebase` — a position seen from a longer text in which its own text begins somewhere;
  `Token.rebase`, `ScanError.rebase` and `Outcome.rebase` move what carries a position.
  `Position.InText.toNat_line_rebase` says by how much.
* `Cursor.Rebases` — one cursor is another one seen from a longer text.
* `Cursor.Rebases.apply`, `Cursor.Rebases.scan`, `Cursor.Rebases.drain` — what a rule, a scan and
  draining do to one, they do to the other.
* `Cursor.scanning_rebases_rest` — so it is for a cursor behind a text `p` and one at the beginning
  of the text `q` that follows.
-/

namespace SpanLexer

/-- A position of a text, seen from a longer text in which that text begins at `origin`.  Indices
count from 0 and lines from 1, in 32 bits. -/
def Position.rebase (origin p : Position) : Position :=
  ⟨p.index + origin.index, p.line + origin.line - 1⟩

/-- A token, seen from a longer text. -/
def Token.rebase (origin : Position) (token : Token) : Token :=
  { token with position := token.position.rebase origin }

/-- An error, seen from a longer text. -/
def ScanError.rebase (origin : Position) (error : ScanError) : ScanError :=
  { error with position := error.position.rebase origin }

/-- The outcome of a scan, seen from a longer text. -/
def Outcome.rebase (origin : Position) : Outcome → Outcome
  | .token read => .token (read.rebase origin)
  | .finished => .finished
  | .failed error => .failed (error.rebase origin)

/-- The cursor `c` is the cursor `d`, seen from a longer text in which the text of `d` begins at
`origin`: the same text is left, and the position and the stopping error are moved. -/
structure Cursor.Rebases (origin : Position) (c d : Cursor) : Prop where
  rest_eq : c.rest = d.rest
  position_eq : c.position = d.position.rebase origin
  halted_eq : c.halted = d.halted.map (ScanError.rebase origin)

namespace Position

variable {origin p : Position}

@[simp] theorem rebase_start (origin : Position) : start.rebase origin = origin := by
  obtain ⟨index, line⟩ := origin
  simp [start, rebase]

/-- Passing some text is the same seen from either text. -/
theorem after_rebase (t : Text) :
    (p.rebase origin).after t = (p.after t).rebase origin := by
  simp only [after, rebase, mk.injEq]
  grind

/-- Seen from the longer text, a place in a text is on a line whose number is the greater by as many
lines as were passed before, as long as 32 bits hold the lines. -/
theorem InText.toNat_line_rebase {s : Text} (h : p.InText s) (hpos : 0 < origin.line.toNat)
    (hfits : origin.line.toNat + s.count '\n' < UInt32.size) :
    (p.rebase origin).line.toNat = p.line.toNat + origin.line.toNat - 1 := by
  have hcount := (List.take_sublist p.index s).count_le '\n'
  have hline := h.toNat_line (by omega)
  have hrebased : (p.rebase origin).line =
      origin.line + UInt32.ofNat ((s.take p.index).count '\n') := by
    rw [rebase, h.2]
    grind
  rw [hrebased, toNat_add_ofNat (by omega), hline]
  omega

end Position

namespace Outcome

variable {result : Except ScanError Token}

theorem ofResult_eq_token_iff {token : Token} :
    ofResult result = .token token ↔ result = .ok token := by
  cases result <;> simp [ofResult]

theorem ofResult_eq_failed_iff {error : ScanError} :
    ofResult result = .failed error ↔ result = .error error := by
  cases result <;> simp [ofResult]

end Outcome

namespace Cursor

variable {origin : Position} {c d : Cursor} {rules : List Rule} {rule : Rule}

namespace Rebases

/-- A cursor that was not stopped, and one at the beginning of the text that is left. -/
theorem ofText (c : Cursor) (hhalted : c.halted = none) :
    Rebases c.position c (ofText c.rest) where
  rest_eq := rfl
  position_eq := (Position.rebase_start _).symm
  halted_eq := hhalted

theorem advance (h : Rebases origin c d) (n : Nat) :
    Rebases origin (c.advance n) (d.advance n) where
  rest_eq := by rw [rest_advance, rest_advance, h.rest_eq]
  position_eq := by
    rw [position_advance, position_advance, h.rest_eq, h.position_eq, Position.after_rebase]
  halted_eq := h.halted_eq

theorem halt (h : Rebases origin c d) (error : ScanError) :
    Rebases origin (c.halt (error.rebase origin)) (d.halt error) where
  rest_eq := h.rest_eq
  position_eq := h.position_eq
  halted_eq := rfl

theorem halted_eq_none (h : Rebases origin c d) (hhalted : d.halted = none) : c.halted = none := by
  rw [h.halted_eq, hhalted]
  rfl

/-- A rule answers the same, whether or not it opens. -/
theorem answer_apply (h : Rebases origin c d) (rule : Rule) :
    Outcome.ofResult (rule.apply c).answer =
      (Outcome.ofResult (rule.apply d).answer).rebase origin := by
  rw [Rule.apply_eq, Rule.apply_eq, Reading.stepAt, Reading.stepAt, h.rest_eq, h.position_eq]
  split <;> rfl

theorem answer_apply_ok (h : Rebases origin c d) {token : Token}
    (hanswer : (rule.apply d).answer = .ok token) :
    (rule.apply c).answer = .ok (token.rebase origin) := by
  rw [← Outcome.ofResult_eq_token_iff, h.answer_apply, hanswer]
  rfl

theorem answer_apply_error (h : Rebases origin c d) {error : ScanError}
    (hanswer : (rule.apply d).answer = .error error) :
    (rule.apply c).answer = .error (error.rebase origin) := by
  rw [← Outcome.ofResult_eq_failed_iff, h.answer_apply, hanswer]
  rfl

theorem apply (h : Rebases origin c d) (rule : Rule) :
    Rebases origin (rule.apply c).cursor (rule.apply d).cursor := by
  rw [Rule.cursor_apply, Rule.cursor_apply, h.rest_eq]
  exact h.advance _

/-- **A scan depends on the text that is left.** -/
theorem scan (h : Rebases origin c d) (rules : List Rule) :
    (c.scan rules).answer = (d.scan rules).answer.rebase origin ∧
      Rebases origin (c.scan rules).cursor (d.scan rules).cursor := by
  -- The scan at `d` goes in one of the ways; the one at `c` goes the same way.
  suffices ∃ next, c.Scans rules ((d.scan rules).answer.rebase origin) next ∧
      Rebases origin next (d.scan rules).cursor by
    obtain ⟨next, hscans, hnext⟩ := this
    obtain ⟨hanswer, rfl⟩ := hscans.scan_eq
    exact ⟨hanswer, hnext⟩
  have hscans := scans_scan rules d
  generalize (d.scan rules).answer = answer at hscans ⊢
  generalize (d.scan rules).cursor = next at hscans ⊢
  cases hscans with
  | @halted error hhalted =>
      have hstopped : c.halted = some (error.rebase origin) := by
        rw [h.halted_eq, hhalted]
        rfl
      exact ⟨c, .halted hstopped, h⟩
  | @read rule token hhalted hfind hanswer =>
      rw [← h.rest_eq] at hfind
      exact ⟨_, .read (h.halted_eq_none hhalted) hfind (h.answer_apply_ok hanswer), h.apply rule⟩
  | @rejected rule error hhalted hfind hanswer =>
      rw [← h.rest_eq] at hfind
      exact ⟨_, .rejected (h.halted_eq_none hhalted) hfind (h.answer_apply_error hanswer),
        (h.apply rule).halt error⟩
  | @stalled char later hhalted hfind hrest =>
      have hfailure : (d.unrecognised char).rebase origin = c.unrecognised char := by
        rw [unrecognised, unrecognised, h.position_eq]
        rfl
      rw [← h.rest_eq] at hfind hrest
      rw [Outcome.rebase, hfailure]
      exact ⟨c, .stalled (h.halted_eq_none hhalted) hfind hrest, h⟩
  | finished hhalted hrest =>
      exact ⟨c, .finished (h.halted_eq_none hhalted) (h.rest_eq.trans hrest), h⟩

/-- A run depends on the text that is left. -/
theorem reads {tokens : List Token} {last : Cursor} (h : Rebases origin c d)
    (hreads : d.Reads rules tokens last) :
    ∃ moved, c.Reads rules (tokens.map (Token.rebase origin)) moved ∧
      Rebases origin moved last := by
  induction hreads generalizing c with
  | nil d => exact ⟨c, Reads.nil c, h⟩
  | @cons d last token tokens hscan _ ih =>
      obtain ⟨hanswer, hnext⟩ := h.scan rules
      rw [hscan] at hanswer
      obtain ⟨moved, hlater, hmoved⟩ := ih hnext
      exact ⟨moved, Reads.cons hanswer hlater, hmoved⟩

/-- **Draining depends on the text that is left.** -/
theorem drain (h : Rebases origin c d) (rules : List Rule) :
    (c.drain rules).answer = (d.drain rules).answer.map (Token.rebase origin) ∧
      Rebases origin (c.drain rules).cursor (d.drain rules).cursor := by
  obtain ⟨last, hreads, hstop, hcursor⟩ := exists_reads_drain rules d
  obtain ⟨moved, hmovedReads, hmoved⟩ := h.reads hreads
  obtain ⟨hanswer, hrest⟩ := hmoved.scan rules
  -- The run at `c` stops where the one at `d` does.
  have hmovedStop : ∀ token, (moved.scan rules).answer ≠ .token token := by
    intro token htoken
    rw [htoken] at hanswer
    cases hlast : (last.scan rules).answer with
    | token read => exact hstop read hlast
    | finished | failed _ =>
        rw [hlast] at hanswer
        cases hanswer
  obtain ⟨hdrain, hdrained⟩ := hmovedReads.drain_of_stop hmovedStop
  rw [hdrain, hdrained, hcursor]
  exact ⟨rfl, hrest⟩

end Rebases

/-- **Scanning depends on the remaining text only.**  A cursor that was not stopped and stands
behind `p` in the text `p ++ q`, on whatever line, does what a cursor at the beginning of `q` does,
moved to its position: with every rule, in every scan and in draining.  If it is a cursor that the
scan of `p ++ q` comes to, then the rest of that scan is the scan of `q`.  As long as 32 bits hold
the lines, moving a place in `q` adds one less than the line of the cursor to its line. -/
theorem scanning_rebases_rest {p q : Text} {c : Cursor} (rules : List Rule)
    (hsource : c.source = p ++ q) (hindex : c.position.index = p.length)
    (hhalted : c.halted = none) :
    let alone := ofText q
    (∀ rule : Rule,
      Outcome.ofResult (rule.apply c).answer =
          (Outcome.ofResult (rule.apply alone).answer).rebase c.position ∧
        Rebases c.position (rule.apply c).cursor (rule.apply alone).cursor) ∧
    ((c.scan rules).answer = (alone.scan rules).answer.rebase c.position ∧
      Rebases c.position (c.scan rules).cursor (alone.scan rules).cursor) ∧
    ((c.drain rules).answer = (alone.drain rules).answer.map (Token.rebase c.position) ∧
      Rebases c.position (c.drain rules).cursor (alone.drain rules).cursor) ∧
    (∀ tokens, (ofText (p ++ q)).Reads rules tokens c →
      ((ofText (p ++ q)).drain rules).answer =
          tokens ++ (alone.drain rules).answer.map (Token.rebase c.position) ∧
        Rebases c.position ((ofText (p ++ q)).drain rules).cursor (alone.drain rules).cursor) ∧
    (0 < c.position.line.toNat → c.position.line.toNat + q.count '\n' < UInt32.size →
      ∀ place : Position, place.InText q → (place.rebase c.position).line.toNat =
        place.line.toNat + c.position.line.toNat - 1) := by
  intro alone
  have hrest : c.rest = q := by
    rw [c.rest_eq, hsource, hindex, List.drop_left]
  have hrebases : Rebases c.position c alone := by
    have hself := Rebases.ofText c hhalted
    rwa [hrest] at hself
  have hdrain := hrebases.drain rules
  refine ⟨fun rule => ⟨hrebases.answer_apply rule, hrebases.apply rule⟩, hrebases.scan rules,
    hdrain, fun tokens hreads => ?_, fun hpos hfits place hplace =>
      hplace.toNat_line_rebase hpos hfits⟩
  obtain ⟨hanswer, hcursor⟩ := hreads.drain_eq
  rw [hanswer, hcursor, hdrain.1]
  exact ⟨rfl, hdrain.2⟩

/-- A cursor that was set to another line: the tokens of the text that is left, and the error that
ends its scan, come with the index and the line of the cursor. -/
theorem scanning_rebases_rest_on_line_41 :
    let p : Text := "x\n ".toList
    let q : Text := "7\n+9665".toList
    let c := (ofText (p ++ q)).moveTo ⟨3, 41⟩
    c.source = p ++ q ∧ c.position.index = p.length ∧ c.halted = none ∧
      (c.drain Rule.standard).answer =
        [⟨.number, ['7'], ⟨3, 41⟩⟩, ⟨.whitespace, ['\n'], ⟨4, 41⟩⟩] ∧
      ((c.drain Rule.standard).cursor.scan Rule.standard).answer =
        .failed ⟨.phoneLength "+9665".toList 5, ⟨5, 42⟩⟩ := by
  intro p q c
  obtain ⟨-, -, ⟨hanswer, hrebases⟩, -, -⟩ :=
    scanning_rebases_rest Rule.standard (p := p) (q := q) (c := c) rfl rfl rfl
  refine ⟨rfl, rfl, rfl, ?_, ?_⟩
  · rw [hanswer]
    decide +kernel
  · rw [(hrebases.scan Rule.standard).1]
    decide +kernel

end Cursor
end SpanLexer
