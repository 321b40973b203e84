import SpanLexer.Proofs.Lookahead
import SpanLexer.Proofs.Run

/-!
# Appending to a text

The tokens of a text that are settled stay what they are when text is appended.  A token is settled
if five characters were in sight where it begins, so that no rule missed a longer opening, if a
character stands behind its span, so that the span did not end for want of text, and if it was not
made by backing out, which rests on the whole rest of the text.

* `Token.Firm` — a settled token.
* `Cursor.ends` — where the spans of tokens end; by `Cursor.Reads.cons_ends` each ends where the
  next one begins.  `Cursor.firmPart` — the settled tokens in front.
* `Cursor.Extends` — a cursor over a text with more text appended.
* `Cursor.Extends.scan_token` — a scan that reads a settled token reads it there, too.
* `Cursor.firmPart_prefix_drain_append` — so the settled tokens in front begin every longer scan.
-/

namespace SpanLexer

/-- A token whose span ends at the index `stop` is settled in a text of the given length. -/
def Token.Firm (length : Nat) (token : Token) (stop : Nat) : Prop :=
  token.kind ≠ .unexpected ∧ token.position.index + 5 ≤ length ∧ stop < length

instance (length : Nat) (token : Token) (stop : Nat) : Decidable (token.Firm length stop) :=
  inferInstanceAs (Decidable (_ ∧ _ ∧ _))

namespace Cursor

/-- The indices at which the spans of tokens end that a cursor reads one after the other: where the
cursor stands after each of them. -/
def ends (rules : List Rule) : Cursor → List Token → List Nat
  | _, [] => []
  | c, _ :: later =>
      (c.scan rules).cursor.position.index :: ends rules (c.scan rules).cursor later

/-- The span of a token ends where the next token begins, and the last one where the run ends. -/
theorem Reads.cons_ends {rules : List Rule} {c last : Cursor} {tokens : List Token}
    (h : c.Reads rules tokens last) :
    c.position.index :: c.ends rules tokens =
      tokens.map (fun token => token.position.index) ++ [last.position.index] := by
  induction h with
  | nil c => rfl
  | cons hscan _ ih =>
      obtain ⟨span, later, -, -, hposition, -, -⟩ := Cursor.scan_token hscan
      rw [ends, ih, List.map_cons, List.cons_append, hposition]

/-- The longest initial segment of settled tokens, in a text of the given length. -/
def firmPart (length : Nat) (tokens : List Token) (stops : List Nat) : List Token :=
  ((tokens.zip stops).takeWhile fun entry => entry.1.Firm length entry.2).map Prod.fst

/-- The cursor `d` stands where `c` stands, in a text with `t` appended. -/
structure Extends (t : Text) (d c : Cursor) : Prop where
  rest_eq : d.rest = c.rest ++ t
  position_eq : d.position = c.position
  halted_eq : d.halted = c.halted

variable {rules : List Rule} {c d : Cursor} {t : Text}

namespace Extends

theorem ofText (s t : Text) : Extends t (ofText (s ++ t)) (ofText s) :=
  ⟨rfl, rfl, rfl⟩

/-- Passing text that comes before the end of the shorter text. -/
theorem advance (h : Extends t d c) {n : Nat} (hn : n ≤ c.rest.length) :
    Extends t (d.advance n) (c.advance n) where
  rest_eq := by
    rw [rest_advance, rest_advance, h.rest_eq, List.drop_append_of_le_length hn]
  position_eq := by
    rw [position_advance, position_advance, h.rest_eq, h.position_eq,
      List.take_append_of_le_length hn]
  halted_eq := h.halted_eq

/-- **A settled token is read again** when text is appended. -/
theorem scan_token (h : Extends t d c) {token : Token}
    (hscan : (c.scan rules).answer = .token token)
    (hfirm : token.Firm c.source.length (c.scan rules).cursor.position.index) :
    (d.scan rules).answer = .token token ∧
      Extends t (d.scan rules).cursor (c.scan rules).cursor := by
  obtain ⟨hkind, hsight, hstop⟩ := hfirm
  obtain ⟨rule, hhalted, hfind, hanswer, hcursor⟩ := exists_rule_of_scan_token hscan
  obtain ⟨hposition, hverdict⟩ := Rule.verdict_of_apply_ok hanswer
  rw [hcursor, Rule.cursor_apply] at hstop ⊢
  have hleft := c.length_rest
  have hspan := (rule.span_prefix_self c.rest).length_le
  -- Five characters are left, so the same rule opens.
  have hfindLonger : rules.find? (fun rule => rule.opens d.rest) = some rule := by
    rw [hposition] at hsight
    have hfive : 5 ≤ c.rest.length := by omega
    have hopens : ∀ rule : Rule, rule.opens d.rest = rule.opens c.rest := by
      intro rule
      rw [h.rest_eq, Rule.opens_append hfive]
    simpa only [hopens] using hfind
  -- A character stands behind the span, and the rule did not back out, so it reads the same.
  have hread : rule.read d.rest = rule.read c.rest := by
    have hbehind : (rule.read c.rest).span.length < c.rest.length := by
      rw [position_advance, Position.index_after, List.length_take_of_le hspan] at hstop
      omega
    have haccepted : (rule.read c.rest).verdict ≠ .recovered := by
      rcases hverdict with haccepted | ⟨-, hunexpected, -⟩
      · rw [haccepted]
        exact nofun
      · exact absurd hunexpected hkind
    have hopens := List.find?_some hfind
    rw [h.rest_eq]
    exact Rule.read_append hopens hbehind haccepted t
  have hagain := Rule.answer_apply_congr hread hanswer
  rw [h.position_eq, ← hposition] at hagain
  obtain ⟨hlonger, hnext⟩ :=
    (Scans.read (h.halted_eq.trans hhalted) hfindLonger hagain).scan_eq
  refine ⟨hlonger, ?_⟩
  rw [hnext, Rule.cursor_apply, hread]
  exact h.advance hspan

/-- The settled tokens of a run are a run of their own when text is appended. -/
theorem reads_firmPart {tokens : List Token} {last : Cursor} (h : Extends t d c)
    (hreads : c.Reads rules tokens last) :
    ∃ lastLonger,
      d.Reads rules (firmPart c.source.length tokens (c.ends rules tokens)) lastLonger := by
  induction hreads generalizing d with
  | nil c => exact ⟨d, Reads.nil d⟩
  | @cons c last token tokens hscan _ ih =>
      by_cases hfirm : token.Firm c.source.length (c.scan rules).cursor.position.index
      · obtain ⟨hlonger, hnext⟩ := h.scan_token hscan hfirm
        obtain ⟨lastLonger, hlater⟩ := ih hnext
        rw [source_scan] at hlater
        refine ⟨lastLonger, ?_⟩
        simp only [firmPart, ends, List.zip_cons_cons, List.takeWhile_cons, hfirm, decide_true,
          if_true, List.map_cons]
        exact Reads.cons hlonger hlater
      · -- The segment ends in front of this token.
        refine ⟨d, ?_⟩
        simp only [firmPart, ends, List.zip_cons_cons, List.takeWhile_cons, hfirm, decide_false,
          Bool.false_eq_true, if_false, List.map_nil]
        exact Reads.nil d

end Extends

/-- **Lookahead is bounded.**  The longest initial segment of the tokens of a text that are settled
there is an initial segment of the tokens of the text with anything appended. -/
theorem firmPart_prefix_drain_append (rules : List Rule) (s t : Text) :
    let tokens := ((ofText s).drain rules).answer
    firmPart s.length tokens ((ofText s).ends rules tokens) <+:
      ((ofText (s ++ t)).drain rules).answer := by
  intro tokens
  obtain ⟨last, hreads, -, -⟩ := exists_reads_drain rules (ofText s)
  obtain ⟨lastLonger, hlonger⟩ := (Extends.ofText s t).reads_firmPart hreads
  rw [hlonger.drain_eq.1]
  exact List.prefix_append _ _

/-- All but the last word are settled; that one ends with the text and may go on. -/
example :
    let c := ofText "ab cd efgh".toList
    let tokens := (c.drain Rule.standard).answer
    (firmPart 10 tokens (c.ends Rule.standard tokens)).map Token.value =
      ["ab".toList, [' '], "cd".toList, [' ']] := by
  decide +kernel

end Cursor
end SpanLexer
