import SpanLexer.Proofs.Settling

/-!
# Further rules behind others

Rules behind others are asked only where none of the others opens.  So a scan with further rules is
the scan with the others up to the first character at which that one stalls, and goes on from there;
if it does not stall, the further rules are never asked.

* `Cursor.scan_append_rules` — a scan that does not stall is the same with further rules.
* `Cursor.Reads.append_rules` — so is a run.
* `Cursor.drain_append_rules` — draining with further rules goes on where draining without stopped.
* `Cursor.drain_goes_on_with_further_rules` — the tokens of a text are kept, and so is everything
  if the scan does not stall.
-/

namespace SpanLexer
namespace Cursor

variable {rules : List Rule} {c last : Cursor} {tokens : List Token}

/-- The scan fails because no rule opens at the next character. -/
def Stalls (rules : List Rule) (c : Cursor) : Prop :=
  ∃ text p, (c.scan rules).answer = .failed ⟨.unrecognised text, p⟩

/-- A scan that reads a token does not stall. -/
theorem not_stalls_of_token {token : Token} (h : (c.scan rules).answer = .token token) :
    ¬ c.Stalls rules := by
  rintro ⟨text, p, hfailed⟩
  rw [h] at hfailed
  cases hfailed

/-- **A scan that does not stall is the same with further rules.** -/
theorem scan_append_rules (h : ¬ c.Stalls rules) (further : List Rule) :
    c.scan (rules ++ further) = c.scan rules := by
  cases hhalted : c.halted with
  | some error => rw [scan_of_halted hhalted, scan_of_halted hhalted]
  | none =>
      cases hfind : rules.find? (fun rule => rule.opens c.rest) with
      | some rule =>
          -- The first rule that opens is one of the others.
          refine scan_congr ?_
          rw [List.find?_append, hfind, Option.some_or]
      | none =>
          cases hrest : c.rest with
          | nil => rw [scan_of_rest_nil hhalted hrest, scan_of_rest_nil hhalted hrest]
          | cons x later =>
              have hrules : ∀ rule ∈ rules, rule.opens c.rest = false := by
                simpa [List.find?_eq_none] using hfind
              refine absurd ⟨[x], c.position, ?_⟩ h
              rw [scan_of_no_rule hhalted hrest hrules]
              rfl

/-- A scan that stalls leaves the cursor as it is. -/
theorem cursor_scan_of_stalls (h : c.Stalls rules) : (c.scan rules).cursor = c := by
  obtain ⟨text, p, hfailed⟩ := h
  have hscans := scans_scan rules c
  rw [hfailed] at hscans
  generalize (c.scan rules).cursor = next at hscans ⊢
  generalize hanswer : Outcome.failed ⟨.unrecognised text, p⟩ = answer at hscans
  cases hscans with
  | halted _ | stalled _ _ _ => rfl
  | read _ _ _ | finished _ _ => cases hanswer
  | rejected _ _ hrejected =>
      -- What a rule rejects is a number, and no character that no rule opens at.
      obtain ⟨number, -, rfl⟩ := Rule.verdict_of_apply_error hrejected
      cases hanswer

/-- **A run is the same with further rules.** -/
theorem Reads.append_rules (h : c.Reads rules tokens last) (further : List Rule) :
    c.Reads (rules ++ further) tokens last := by
  induction h with
  | nil c => exact Reads.nil c
  | @cons c last token tokens hscan _ ih =>
      have hsame := scan_append_rules (not_stalls_of_token hscan) further
      refine Reads.cons (hsame ▸ hscan) ?_
      rw [hsame]
      exact ih

/-- A cursor that is settled without a stall is settled with further rules, too. -/
theorem Settled.append_rules (h : c.Settled rules) (hstalls : ¬ c.Stalls rules)
    (further : List Rule) : c.Settled (rules ++ further) := by
  have hsame := scan_append_rules hstalls further
  refine ⟨?_, ?_⟩
  · rw [hsame]
    exact h.no_token
  · rw [hsame]
    exact h.cursor_eq

/-- **Draining with further rules** reads what draining without them reads, and goes on from where
that one stopped. -/
theorem drain_append_rules (rules further : List Rule) (c : Cursor) :
    (c.drain (rules ++ further)).answer =
        (c.drain rules).answer ++ ((c.drain rules).cursor.drain (rules ++ further)).answer ∧
      (c.drain (rules ++ further)).cursor =
        ((c.drain rules).cursor.drain (rules ++ further)).cursor := by
  obtain ⟨last, hreads, hstop, hcursor⟩ := exists_reads_drain rules c
  obtain ⟨hanswer, hend⟩ := (hreads.append_rules further).drain_eq
  rw [hanswer, hend]
  by_cases hstalls : last.Stalls rules
  · rw [hcursor, cursor_scan_of_stalls hstalls]
    exact ⟨rfl, rfl⟩
  · -- The run stops with the further rules, too, and both ways lead to one settled cursor.
    have hsame := scan_append_rules hstalls further
    have hstopBoth : ∀ token, (last.scan (rules ++ further)).answer ≠ .token token := by
      rw [hsame]
      exact hstop
    obtain ⟨hnone, hlast⟩ := drain_of_stop hstopBoth
    have hrested : ¬ (c.drain rules).cursor.Stalls rules := by
      rw [hcursor, Stalls, scan_scan hstop]
      exact hstalls
    have hsettled := (settled_drain rules c).append_rules hrested further
    rw [hnone, hlast, hsame, hsettled.drain.1, hsettled.drain.2, hcursor]
    exact ⟨rfl, rfl⟩

/-- **Further rules are conservative.**  With further rules behind the others, the tokens of a text
begin with those that are read without, and scanning goes on from where it stopped without.  If it
did not stop because no rule opens, all is the same: the tokens, how the scan ends, and the cursor
before and after that last scan. -/
theorem drain_goes_on_with_further_rules (rules further : List Rule) (s : Text) :
    let first := (ofText s).drain rules
    let both := (ofText s).drain (rules ++ further)
    let last := first.cursor.scan rules
    let lastOfBoth := both.cursor.scan (rules ++ further)
    first.answer <+: both.answer ∧
    (both.answer = first.answer ++ (first.cursor.drain (rules ++ further)).answer ∧
      both.cursor = (first.cursor.drain (rules ++ further)).cursor) ∧
    ((∀ text p, last.answer ≠ .failed ⟨.unrecognised text, p⟩) →
      both.answer = first.answer ∧ lastOfBoth.answer = last.answer ∧
        both.cursor = first.cursor ∧ lastOfBoth.cursor = last.cursor) := by
  intro first both last lastOfBoth
  obtain ⟨hanswer, hcursor⟩ := drain_append_rules rules further (ofText s)
  refine ⟨⟨_, hanswer.symm⟩, ⟨hanswer, hcursor⟩, fun hend => ?_⟩
  have hstalls : ¬ first.cursor.Stalls rules := by
    rintro ⟨text, p, hfailed⟩
    exact hend text p hfailed
  have hsettled := (settled_drain rules (ofText s)).append_rules hstalls further
  have htokens : both.answer = first.answer := by
    rw [hanswer, hsettled.drain.1, List.append_nil]
  have hsameCursor : both.cursor = first.cursor := hcursor.trans hsettled.drain.2
  have hlast : lastOfBoth = last := by
    show both.cursor.scan (rules ++ further) = first.cursor.scan rules
    rw [hsameCursor, scan_append_rules hstalls]
  exact ⟨htokens, by rw [hlast], hsameCursor, by rw [hlast]⟩

/-- Rules without one for symbols stall at the plus sign of a sum, and further rules read on from
there.  Where the rules end in a rejected number, the further ones are never asked, although the one
for symbols opens at the number, too. -/
theorem drain_goes_on_with_further_rules_at_plus :
    let rules : List Rule := [.phoneNumber, .number]
    let further : List Rule := [.symbol, .whitespace]
    let c := ofText "1+2".toList
    let d := ofText "7+9665 ".toList
    (c.drain rules).answer.map Token.value = [['1']] ∧
      (c.drain (rules ++ further)).answer.map Token.value = [['1'], ['+'], ['2']] ∧
      (c.drain rules).answer <+: (c.drain (rules ++ further)).answer ∧
      ((d.drain rules).cursor.scan rules).answer =
        .failed ⟨.phoneLength "+9665".toList 5, ⟨1, 1⟩⟩ ∧
      (d.drain (rules ++ further)).answer = (d.drain rules).answer ∧
      (d.drain (rules ++ further)).cursor = (d.drain rules).cursor := by
  intro rules further c d
  have hend : ((d.drain rules).cursor.scan rules).answer =
      .failed ⟨.phoneLength "+9665".toList 5, ⟨1, 1⟩⟩ := by decide +kernel
  obtain ⟨hbegins, -, -⟩ := drain_goes_on_with_further_rules rules further "1+2".toList
  obtain ⟨-, -, hsame⟩ := drain_goes_on_with_further_rules rules further "7+9665 ".toList
  obtain ⟨htokens, -, hcursor, -⟩ := hsame fun text p hfailed => by
    rw [hend] at hfailed
    cases hfailed
  refine ⟨?_, ?_, hbegins, hend, htokens, hcursor⟩
  · decide +kernel
  · decide +kernel

end Cursor
end SpanLexer
