import SpanLexer.Proofs.Run

/-!
# What a rule does to a cursor

A rule may be let read anywhere, also where it does not open and where no text is left.  It moves
the cursor on in its text and does nothing else to it, and what it answers is about the text passed.

* `Cursor.MovesOn` — one cursor comes from another by moving on in its text.
* `Cursor.length_extract` — how much text stands between two indices.
* `Cursor.movesOn_advance`, `Rule.movesOn_apply` — advancing moves on, and so does a rule.
* `Rule.extract_apply` — the text that a rule passes is its span.
* `Rule.position_cursor_apply` — where a rule leads to.
* `Rule.apply_of_whole`, `Rule.apply_of_span`, `Rule.apply_of_recovery` — what a rule does that
  reads a span as it stands, and one that backs out.
* `Rule.apply_moves_on` — what every rule does, whatever the cursor.
-/

namespace SpanLexer
namespace Cursor

/-- **Moving on.**  The cursor `next` stands in the text of `c`, not before `c`; its line counts the
line feeds between the two, in 32 bits, so that as numbers the lines differ by that count as long as
32 bits hold them; and it stores the same error, if any. -/
structure MovesOn (c next : Cursor) : Prop where
  source_eq : next.source = c.source
  halted_eq : next.halted = c.halted
  index_le : c.position.index ≤ next.position.index
  line_eq : next.position.line = c.position.line +
    UInt32.ofNat ((c.source.extract c.position.index next.position.index).count '\n')
  toNat_line_eq :
    let feeds := (c.source.extract c.position.index next.position.index).count '\n'
    c.position.line.toNat + feeds < UInt32.size →
      next.position.line.toNat = c.position.line.toNat + feeds

theorem length_extract {c : Cursor} {stop : Nat} (hinside : stop ≤ c.source.length) :
    (c.source.extract c.position.index stop).length = stop - c.position.index := by
  rw [List.extract, List.length_take, List.length_drop]
  omega

/-- **Advancing moves on**, by as much text as is left. -/
theorem movesOn_advance (c : Cursor) (n : Nat) : c.MovesOn (c.advance n) := by
  have hpassed : c.source.extract c.position.index (c.advance n).position.index =
      c.rest.take n := extract_of_prefix (List.take_prefix n c.rest)
  refine ⟨rfl, rfl, Nat.le_add_right _ _, ?_, ?_⟩
  · rw [hpassed]
    rfl
  · rw [hpassed]
    exact Position.toNat_line_after

end Cursor

namespace Rule

variable {rule : Rule} {c : Cursor} {token : Token} {error : ScanError} {span : Text}

theorem movesOn_apply (rule : Rule) (c : Cursor) : c.MovesOn (rule.apply c).cursor := by
  rw [cursor_apply]
  exact c.movesOn_advance _

/-- A rule moves the cursor on by the length of its span, which the text that is left begins
with. -/
theorem index_cursor_apply (rule : Rule) (c : Cursor) :
    (rule.apply c).cursor.position.index =
      c.position.index + (rule.read c.rest).span.length := by
  have hle := (rule.span_prefix_self c.rest).length_le
  rw [cursor_apply, Cursor.position_advance, Position.index_after, List.length_take_of_le hle]

/-- A rule does not lead out of the text. -/
theorem index_cursor_apply_le (rule : Rule) (h : c.position.index ≤ c.source.length) :
    (rule.apply c).cursor.position.index ≤ c.source.length := by
  have hle := (rule.span_prefix_self c.rest).length_le
  rw [c.length_rest] at hle
  rw [index_cursor_apply]
  omega

/-- **The text that a rule passes is its span.** -/
theorem extract_apply (rule : Rule) (c : Cursor) :
    c.source.extract c.position.index (rule.apply c).cursor.position.index =
      (rule.read c.rest).span := by
  rw [index_cursor_apply]
  exact Cursor.extract_of_prefix (rule.span_prefix_self c.rest)

/-- Where no text is left a rule leaves the cursor as it is. -/
theorem cursor_apply_of_rest_nil (rule : Rule) (h : c.rest = []) : (rule.apply c).cursor = c := by
  have hspan := rule.span_prefix_self c.rest
  rw [h, List.prefix_nil] at hspan
  rw [cursor_apply, h, hspan]
  exact c.advance_zero

/-- The index to which a rule moves the cursor shows how many line feeds it counts. -/
theorem position_of_index_cursor_apply {stop : Nat}
    (hstop : (rule.apply c).cursor.position.index = stop) :
    (rule.apply c).cursor.position =
      ⟨stop, c.position.line + UInt32.ofNat ((c.source.extract c.position.index stop).count '\n')⟩ := by
  subst hstop
  exact congrArg (Position.mk _) (rule.movesOn_apply c).line_eq

/-- A rule whose span is the text up to an index moves the cursor there. -/
theorem position_cursor_apply {stop : Nat} (hle : c.position.index ≤ stop)
    (hinside : stop ≤ c.source.length)
    (hspan : (rule.read c.rest).span = c.source.extract c.position.index stop) :
    (rule.apply c).cursor.position =
      ⟨stop, c.position.line + UInt32.ofNat ((c.source.extract c.position.index stop).count '\n')⟩ := by
  refine position_of_index_cursor_apply ?_
  rw [index_cursor_apply, hspan, Cursor.length_extract hinside, Nat.add_sub_cancel' hle]

/-- A rule that reads a span as it stands makes a token of it, and moves behind it. -/
theorem apply_of_whole {kind : TokenKind} (h : rule.read c.rest = Reading.whole kind span) :
    (rule.apply c).answer = .ok ⟨kind, span, c.position⟩ ∧
      (rule.apply c).cursor = c.advance span.length := by
  refine ⟨answer_apply_of_accepted (congrArg Reading.verdict h), ?_⟩
  rw [cursor_apply, h]
  rfl

/-- **A rule that reads a span as it stands** makes a token of the text up to an index, which is the
span, and moves there. -/
theorem apply_of_span {kind : TokenKind} {stop : Nat}
    (h : rule.read c.rest = Reading.whole kind span)
    (hstop : c.position.index + span.length = stop) :
    c.source.extract c.position.index stop = span ∧
      (rule.apply c).answer = .ok ⟨kind, c.source.extract c.position.index stop, c.position⟩ ∧
      (rule.apply c).cursor.position =
        ⟨stop, c.position.line + UInt32.ofNat ((c.source.extract c.position.index stop).count '\n')⟩ := by
  have hindex : (rule.apply c).cursor.position.index = stop := by
    rw [index_cursor_apply, h]
    exact hstop
  have hspan : c.source.extract c.position.index stop = span := by
    have hextract := rule.extract_apply c
    rwa [hindex, h] at hextract
  refine ⟨hspan, ?_, position_of_index_cursor_apply hindex⟩
  rw [hspan]
  exact (apply_of_whole h).1

/-- A rule that backs out makes an unexpected token of the next character, and leaves the cursor
behind that one. -/
theorem apply_of_recovery (h : rule.read c.rest = Reading.recovery c.rest) (hrest : c.rest ≠ []) :
    (rule.apply c).answer = .ok ⟨.unexpected, c.rest.take 1, c.position⟩ ∧
      (rule.apply c).cursor = c.next.2 := by
  have hlength : (c.rest.take 1).length = 1 :=
    List.length_take_of_le (List.length_pos_iff.2 hrest)
  rw [cursor_apply, h, Reading.recovery, hlength]
  refine ⟨?_, rfl⟩
  rw [apply_eq, h]
  rfl

/-- Where text is left, the token of a rule has the text passed as its value. -/
theorem value_of_apply_ok_of_ne (hrule : rule ≠ .hexColor) (hrest : c.rest ≠ [])
    (h : (rule.apply c).answer = .ok token) : token.value = (rule.read c.rest).span := by
  have hkind : token.kind ≠ .hexColor := fun hkind => hrule (eq_hexColor_of_apply_ok h hkind)
  rw [value_of_apply_ok hrest h, TokenKind.valueOf_of_ne hkind]

/-- Where text is left, a hex color has zeros behind the text passed, and seven characters. -/
theorem value_of_apply_hexColor (hrest : c.rest ≠ [])
    (h : (hexColor.apply c).answer = .ok token) :
    token.length = 7 ∧
      ∃ n, token.value = (hexColor.read c.rest).span ++ List.replicate n '0' := by
  obtain ⟨x, later, hcons⟩ := List.exists_cons_of_ne_nil hrest
  obtain ⟨-, haccepted | ⟨hrecovered, -⟩⟩ := verdict_of_apply_ok h
  · rw [hcons] at haccepted ⊢
    have hvalue := (Verdict.accepted.inj
      (haccepted.symm.trans (Reading.verdict_hexColor x later))).2
    refine ⟨?_, _, hvalue⟩
    rw [Token.length, hvalue]
    exact Reading.length_valueOf_hexColor x later
  · cases hrecovered

/-- **A rule moves the cursor on, and answers about the text it passes.**  Whether or not it opens,
it leaves the text and the stored error as they are, and does not move back.  Where text is left, it
stays inside, counts the line feeds that it passes, in 32 bits and so exactly as long as 32 bits hold
the line, and hands out a token or an error that stands where it began, with the text passed as its
value or number, but for the zeros that make a hex color seven characters long; and it moves if it
opens.  Where no text is left, it stays where it is. -/
theorem apply_moves_on (rule : Rule) (c : Cursor) :
    let applied := rule.apply c
    let start := c.position
    let stop := applied.cursor.position
    let span := c.source.extract start.index stop.index
    let feeds := span.count '\n'
    applied.cursor.source = c.source ∧ applied.cursor.halted = c.halted ∧
    start.index ≤ stop.index ∧
    (start.index < c.source.length →
      stop.index ≤ c.source.length ∧ stop.line = start.line + UInt32.ofNat feeds ∧
      (start.line.toNat + feeds < UInt32.size → stop.line.toNat = start.line.toNat + feeds) ∧
      (∀ token, applied.answer = .ok token →
        token.position = start ∧ (rule ≠ .hexColor → token.value = span) ∧
        (rule = .hexColor →
          token.length = 7 ∧ ∃ n, token.value = span ++ List.replicate n '0')) ∧
      (∀ error, applied.answer = .error error →
        error = ⟨.phoneLength span span.length, start⟩) ∧
      (rule.opens c.rest = true → start.index < stop.index)) ∧
    (c.source.length ≤ start.index → stop = start) := by
  intro applied start stop span feeds
  have hmoves : c.MovesOn applied.cursor := rule.movesOn_apply c
  have hspan : span = (rule.read c.rest).span := rule.extract_apply c
  have hstop : stop.index = start.index + (rule.read c.rest).span.length :=
    rule.index_cursor_apply c
  refine ⟨hmoves.source_eq, hmoves.halted_eq, hmoves.index_le, fun hinside => ?_, fun hend => ?_⟩
  · have hrest : c.rest ≠ [] := fun hnil =>
      absurd (c.rest_eq_nil_iff.1 hnil) (Nat.not_le.2 hinside)
    refine ⟨rule.index_cursor_apply_le (Nat.le_of_lt hinside), hmoves.line_eq,
      hmoves.toNat_line_eq, fun token htoken => ⟨?_, ?_, ?_⟩, fun error herror => ?_, fun hopens => ?_⟩
    · exact (verdict_of_apply_ok htoken).1
    · intro hrule
      rw [hspan]
      exact value_of_apply_ok_of_ne hrule hrest htoken
    · rintro rfl
      rw [hspan]
      exact value_of_apply_hexColor hrest htoken
    · rw [hspan]
      exact (error_of_apply_error hrest herror).2.2
    · have hpos := List.length_pos_iff.2 (span_ne_nil hopens)
      omega
  · have hstays := rule.cursor_apply_of_rest_nil (c.rest_eq_nil_iff.2 hend)
    exact congrArg Cursor.position hstays

/-- Where it does not open, the rule for phone numbers rejects a `nul` of the text and what follows,
and counts the line feed; on the last line that 32 bits can count it goes on with line 0.  Behind the
end of the text it rejects the `nul` of the lookahead, and stays.  A rule for hex colors that opens
moves on and fills up. -/
theorem apply_moves_on_at_nul :
    let c := (Cursor.ofText [nul, '\n', 'f']).moveTo ⟨0, 5⟩
    let last := c.moveTo ⟨0, 4294967295⟩
    let d := c.moveTo ⟨9, 2⟩
    let e := Cursor.ofText "#f".toList
    (phoneNumber.opens c.rest = false ∧ c.position.index < c.source.length ∧
      (phoneNumber.apply c).answer = .error ⟨.phoneLength [nul, '\n', 'f'] 3, c.position⟩ ∧
      (phoneNumber.apply c).cursor.position.line.toNat = 6) ∧
    (last.position.index < last.source.length ∧
      (phoneNumber.apply last).cursor.position.line = 0) ∧
    (d.source.length ≤ d.position.index ∧
      (phoneNumber.apply d).answer = .error ⟨.phoneLength [nul] 1, d.position⟩ ∧
      (phoneNumber.apply d).cursor.position = d.position) ∧
    (hexColor.opens e.rest = true ∧ e.position.index < (hexColor.apply e).cursor.position.index ∧
      ∃ token, (hexColor.apply e).answer = .ok token ∧ token.length = 7) := by
  intro c last d e
  have hopens : hexColor.opens e.rest = true := by decide
  obtain ⟨-, -, -, hinside, -⟩ := apply_moves_on phoneNumber c
  obtain ⟨-, -, hline, -⟩ := hinside (by decide)
  obtain ⟨-, -, -, hwraps, -⟩ := apply_moves_on phoneNumber last
  obtain ⟨-, hwrapped, -⟩ := hwraps (by decide)
  obtain ⟨-, -, -, -, hend⟩ := apply_moves_on phoneNumber d
  obtain ⟨-, -, -, hcolor, -⟩ := apply_moves_on hexColor e
  obtain ⟨-, -, -, htoken, -, hmoves⟩ := hcolor (by decide)
  rw [extract_apply] at hline hwrapped
  refine ⟨⟨by decide, by decide, ?_, hline (by decide +kernel)⟩,
    ⟨by decide, hwrapped.trans (by decide +kernel)⟩, ⟨by decide, ?_, hend (by decide)⟩,
    ⟨hopens, hmoves hopens, ?_⟩⟩
  · rw [apply_eq]
    rfl
  · rw [apply_eq]
    rfl
  · have hread : (hexColor.read e.rest).verdict = .accepted .hexColor "#f00000".toList := by
      decide +kernel
    have hanswer := answer_apply_of_accepted hread
    exact ⟨_, hanswer, ((htoken _ hanswer).2.2 rfl).1⟩

end Rule
end SpanLexer
