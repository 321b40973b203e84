import Mathlib.Data.List.TakeWhile
import SpanLexer.Proofs.Halting

/-!
# Running out of text

A scan that stops with text left has failed.  One that stops without has come to its end, except
where a number takes all the text that is left and is rejected: then it has failed although nothing
shows it but the answer.

* `Text.Boundary` — an index to which the tokens of a text lead.
* `Text.RunsOut` — a number that takes all that is left and is rejected.
* `Reading.phoneNumber_eq_rejected_self_iff` — which texts are taken as a whole and rejected.
* `Cursor.Stops.takesAll_or_finished`, `Cursor.scan_of_takesAll` — a scan that stops without text
  left, and why.
* `Cursor.hasMore_tells_unless_runsOut` — whether text is left tells a scan that has failed from one
  that is finished, unless the text runs out.
-/

namespace SpanLexer

/-- An index to which the tokens lead that are scanned from the beginning of a text. -/
def Text.Boundary (rules : List Rule) (s : Text) (index : Nat) : Prop :=
  ∃ tokens c, (Cursor.ofText s).Reads rules tokens c ∧ c.position.index = index

/-- **A text runs out at an index**: the tokens lead there, the rule for phone numbers is the first
that opens, and what is left has no space and from five to fifteen characters, but not thirteen. -/
structure Text.RunsOut (rules : List Rule) (s : Text) (index : Nat) : Prop where
  boundary : s.Boundary rules index
  rule : s.ruleAt rules index = some .phoneNumber
  no_space : ' ' ∉ s.drop index
  five_le : 5 ≤ s.length - index
  le_fifteen : s.length - index ≤ 15
  ne_thirteen : s.length - index ≠ 13

namespace Reading

/-- A number takes the whole of a text without a space and of at most fifteen characters, and of no
other one. -/
theorem span_phoneNumber_eq_self_iff {t : Text} (h : phonePrefix <+: t) :
    (phoneNumber t).span = t ↔ ' ' ∉ t ∧ t.length ≤ 15 := by
  obtain ⟨later, rfl⟩ := h
  have hspace : ' ' ∉ phonePrefix := by decide
  have hprefix : phonePrefix.length = 5 := rfl
  rw [span_phoneNumber_append, List.append_cancel_left_eq, List.mem_append, or_iff_right hspace,
    List.length_append, hprefix]
  constructor
  · intro hall
    have hlimit := length_bounded_le later 10 (· != ' ')
    rw [hall] at hlimit
    rw [List.take_of_length_le hlimit, List.takeWhile_eq_self_iff] at hall
    exact ⟨fun hmem => absurd (hall ' ' hmem) (by decide), by omega⟩
  · rintro ⟨hnone, hlength⟩
    rw [List.take_of_length_le (by omega), List.takeWhile_eq_self_iff]
    intro x hx
    exact bne_iff_ne.2 fun hxspace => hnone (hxspace ▸ hx)

/-- **Which texts are taken as a whole and rejected**, among those that begin like a number. -/
theorem phoneNumber_eq_rejected_self_iff {t : Text} (h : phonePrefix <+: t) :
    phoneNumber t = ⟨t, .rejected t⟩ ↔ ' ' ∉ t ∧ t.length ≤ 15 ∧ t.length ≠ 13 := by
  have hne : t ≠ [] := by
    rintro rfl
    cases List.prefix_nil.1 h
  rw [← and_assoc, ← span_phoneNumber_eq_self_iff h]
  constructor
  · intro hread
    have hrejected : (Rule.phoneNumber.read t).verdict = .rejected t :=
      congrArg Reading.verdict hread
    exact ⟨congrArg Reading.span hread, (Rule.phoneNumber_of_rejected hrejected).2⟩
  · rintro ⟨hspan, hlength⟩
    have hwrong : t.length ≠ phoneNumberLength := hlength
    rw [phoneNumber_of_span hne hspan, if_neg hwrong]

end Reading

namespace Cursor

variable {rules : List Rule} {c : Cursor}

/-- The first rule that opens is the one for phone numbers; it takes all that is left and rejects
it. -/
def TakesAll (rules : List Rule) (c : Cursor) : Prop :=
  rules.find? (fun rule => rule.opens c.rest) = some .phoneNumber ∧
    Rule.phoneNumber.read c.rest = ⟨c.rest, .rejected c.rest⟩

/-- Where the rule for phone numbers is the first that opens, what is left begins like a number. -/
theorem phonePrefix_of_find?_eq
    (h : rules.find? (fun rule => rule.opens c.rest) = some .phoneNumber) :
    phonePrefix <+: c.rest := by
  have hopens := List.find?_some h
  exact Rule.opens_phoneNumber_iff.1 hopens

/-- A text runs out where its tokens lead to a cursor at which a number takes all. -/
theorem Reads.runsOut_iff {s : Text} {tokens : List Token} (h : (ofText s).Reads rules tokens c) :
    s.RunsOut rules c.position.index ↔ c.TakesAll rules := by
  have hrest : s.drop c.position.index = c.rest := h.drop_index
  have hlength : s.length - c.position.index = c.rest.length := by rw [← hrest, List.length_drop]
  have hrule : s.ruleAt rules c.position.index = rules.find? (fun rule => rule.opens c.rest) := by
    rw [Text.ruleAt, hrest]
  constructor
  · intro hruns
    have hfind := hrule.symm.trans hruns.rule
    have hprefix := phonePrefix_of_find?_eq hfind
    refine ⟨hfind, (Reading.phoneNumber_eq_rejected_self_iff hprefix).2 ?_⟩
    rw [← hlength, ← hrest]
    exact ⟨hruns.no_space, hruns.le_fifteen, hruns.ne_thirteen⟩
  · rintro ⟨hfind, hread⟩
    have hprefix := phonePrefix_of_find?_eq hfind
    have hspan : (Reading.phoneNumber c.rest).span = c.rest := congrArg Reading.span hread
    obtain ⟨hspace, hmax, hwrong⟩ := (Reading.phoneNumber_eq_rejected_self_iff hprefix).1 hread
    obtain ⟨-, hmin, -⟩ := Reading.bounds_of_phonePrefix hprefix
    rw [hspan] at hmin
    rw [← hlength] at hmin hmax hwrong
    exact ⟨⟨tokens, c, h, rfl⟩, hrule.trans hfind, hrest ▸ hspace, hmin, hmax, hwrong⟩

/-- A number that takes all and is rejected fails the scan and leaves no text. -/
theorem scan_of_takesAll (hhalted : c.halted = none) (h : c.TakesAll rules) :
    (c.scan rules).answer = .failed ⟨.phoneLength c.rest c.rest.length, c.position⟩ ∧
      (c.scan rules).cursor.hasMore = false := by
  obtain ⟨hfind, hread⟩ := h
  have hanswer : (Rule.phoneNumber.apply c).answer =
      .error ⟨.phoneLength c.rest c.rest.length, c.position⟩ :=
    Rule.answer_apply_of_rejected (congrArg Reading.verdict hread)
  rw [scan_of_rejected hhalted hfind hanswer, Rule.cursor_apply, hread]
  refine ⟨rfl, ?_⟩
  show (!(c.rest.drop c.rest.length).isEmpty) = false
  rw [List.drop_length]
  rfl

/-- Where tokens lead to a number that takes all, draining stops without text left. -/
theorem Reads.drain_of_takesAll {s : Text} {tokens : List Token}
    (h : (ofText s).Reads rules tokens c) (htakes : c.TakesAll rules) :
    ((ofText s).drain rules).cursor.hasMore = false ∧
      (((ofText s).drain rules).cursor.scan rules).answer =
        .failed ⟨.phoneLength c.rest c.rest.length, c.position⟩ := by
  obtain ⟨hanswer, hend⟩ := scan_of_takesAll h.halted_eq htakes
  have hstop : ∀ token, (c.scan rules).answer ≠ .token token := by
    intro token
    rw [hanswer]
    exact nofun
  obtain ⟨-, hcursor⟩ := h.drain_of_stop hstop
  rw [hcursor, scan_scan hstop]
  exact ⟨hend, hanswer⟩

/-- **A scan that stops without text left** is finished, or has failed at a number that took all. -/
theorem Stops.takesAll_or_finished {answer : Outcome} {next : Cursor}
    (h : c.Stops rules answer next) (hend : next.hasMore = false) :
    c.TakesAll rules ∨ answer = .finished := by
  cases h with
  | @rejected number hfind hread =>
      -- The number is what is left begins with, and nothing is left behind it.
      have hprefix : number <+: c.rest := by
        simpa only [hread] using Rule.phoneNumber.span_prefix_self c.rest
      obtain ⟨later, hlater⟩ := hprefix
      have hbehind : (c.rest.drop number.length).isEmpty = true := by
        simpa only [hasMore, rest_halt, rest_advance, Bool.not_eq_false'] using hend
      rw [← hlater, List.drop_left, List.isEmpty_iff] at hbehind
      rw [hbehind, List.append_nil] at hlater
      exact Or.inl ⟨hfind, hlater ▸ hread⟩
  | stalled hrest _ =>
      rw [hasMore, hrest] at hend
      cases hend
  | finished _ => exact Or.inr rfl

/-- **Whether text is left tells why scanning ended**, with one exception.  If text is left after
draining, the next scan fails.  If none is left, the next scan is finished, or the text runs out
at some index.  And where a text runs out, no text is left and the next scan fails with the number
that took all. -/
theorem hasMore_tells_unless_runsOut (rules : List Rule) (s : Text) :
    let drained := (ofText s).drain rules
    let last := drained.cursor.scan rules
    (drained.cursor.hasMore = true → ∃ error, last.answer = .failed error) ∧
    (drained.cursor.hasMore = false →
      last.answer = .finished ∨ ∃ index, s.RunsOut rules index) ∧
    ∀ index, s.RunsOut rules index →
      drained.cursor.hasMore = false ∧ ∃ p, p.index = index ∧
        last.answer = .failed ⟨.phoneLength (s.drop index) (s.length - index), p⟩ := by
  intro drained last
  refine ⟨fun hmore => ?_, fun hend => ?_, fun index hruns => ?_⟩
  · cases hlast : last.answer with
    | token token => exact absurd hlast ((settled_drain rules (ofText s)).no_token token)
    | failed error => exact ⟨error, rfl⟩
    | finished =>
        obtain ⟨-, hrest⟩ := scan_eq_finished_iff.1 hlast
        rw [hasMore, hrest] at hmore
        cases hmore
  · obtain ⟨boundary, hreads, hstops⟩ := exists_boundary rules s
    rcases hstops.takesAll_or_finished hend with htakes | hfinished
    · exact Or.inr ⟨_, hreads.runsOut_iff.2 htakes⟩
    · exact Or.inl hfinished
  · obtain ⟨tokens, c, hreads, rfl⟩ := hruns.boundary
    obtain ⟨hend, hlast⟩ := hreads.drain_of_takesAll (hreads.runsOut_iff.1 hruns)
    refine ⟨hend, c.position, rfl, ?_⟩
    rw [← List.length_drop, hreads.drop_index]
    exact hlast

/-- Fifteen characters are taken as a whole, and of sixteen one is left. -/
example :
    ((ofText "+96651234567890".toList).drain Rule.standard).cursor.hasMore = false ∧
      ((ofText "+966512345678901".toList).drain Rule.standard).cursor.rest = ['1'] := by
  decide +kernel

end Cursor
end SpanLexer
