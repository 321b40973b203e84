import Mathlib.Data.List.Basic
import SpanLexer.Proofs.Applying
import SpanLexer.Proofs.Halting

/-!
# Phone numbers

A phone number goes up to a space, and no further than the fifteenth character; it is accepted if it
has thirteen.  So it is accepted exactly where the text goes on with thirteen characters other than
the space and then a space, or nothing.

* `idxOf_eq_iff` — how many elements stand before the first of a kind.
* `Reading.span_phoneNumber_cons` — the span of a phone number.
* `Rule.apply_phoneNumber` — what the rule for phone numbers does to a cursor where it opens.
-/

namespace SpanLexer

section Lists

variable {α : Type} [DecidableEq α] {items : List α} {x : α}

/-- A run of limited length up to an element goes to its first place, or to the limit. -/
theorem takeWhile_take_ne_eq_take_idxOf (items : List α) (x : α) (limit : Nat) :
    (items.take limit).takeWhile (· != x) = items.take (min (items.idxOf x) limit) := by
  have hnot : (fun y => !(y != x)) = (· == x) := funext fun y => Bool.not_not _
  rw [← List.take_takeWhile, List.takeWhile_eq_take_findIdx_not, hnot, List.take_take,
    Nat.min_comm]
  rfl

/-- **How many elements stand before the first of a kind**: those of a part without one at the
beginning, which is all or has one behind it. -/
theorem idxOf_eq_iff {n : Nat} :
    items.idxOf x = n ↔
      ∃ part, part.length = n ∧ x ∉ part ∧ (items = part ∨ part ++ [x] <+: items) := by
  constructor
  · rintro rfl
    refine ⟨items.take (items.idxOf x), List.length_take_of_le List.idxOf_le_length, ?_, ?_⟩
    · intro hmem
      have hitems := List.mem_of_mem_take hmem
      exact Nat.lt_irrefl _ ((List.mem_take_iff_idxOf_lt hitems).1 hmem)
    · by_cases hmem : x ∈ items
      · have hlt := List.idxOf_lt_length_iff.2 hmem
        have hnext := List.take_append_getElem hlt
        rw [List.getElem_idxOf hlt] at hnext
        exact Or.inr (hnext ▸ List.take_prefix _ items)
      · rw [List.idxOf_eq_length_iff.2 hmem, List.take_length]
        exact Or.inl rfl
  · rintro ⟨part, rfl, hnone, rfl | ⟨later, rfl⟩⟩
    · exact List.idxOf_eq_length_iff.2 hnone
    · rw [List.append_assoc, List.idxOf_append_of_notMem hnone]
      simp

end Lists

/-- A phone number goes up to the first space, but not beyond its fifteenth character. -/
theorem Reading.span_phoneNumber_cons {x : Char} (later : Text) (hx : x ≠ ' ') :
    (phoneNumber (x :: later)).span =
      (x :: later).take (min ((x :: later).idxOf ' ') 15) := by
  have hbehind : (x :: later).idxOf ' ' = later.idxOf ' ' + 1 := List.idxOf_cons_ne _ hx
  have hmin : min (later.idxOf ' ' + 1) 15 = min (later.idxOf ' ') 14 + 1 := by omega
  rw [hbehind, hmin, List.take_succ_cons, ← takeWhile_take_ne_eq_take_idxOf]
  rfl

namespace Rule

variable {c : Cursor}

/-- The span of a phone number by its indices, where the rule opens. -/
theorem span_phoneNumber_of_opens (hopens : phoneNumber.opens c.rest = true) :
    (phoneNumber.read c.rest).span = c.source.extract c.position.index
      (c.position.index + min ((c.source.drop c.position.index).idxOf ' ') 15) := by
  obtain ⟨later, hlater⟩ := List.head?_eq_some_iff.1 (head?_of_opens_phoneNumber hopens)
  rw [Cursor.extract_eq_take, Nat.add_sub_cancel_left, ← c.rest_eq, hlater]
  exact Reading.span_phoneNumber_cons later (by decide)

/-- A phone number is accepted if it has the expected length, and rejected otherwise. -/
theorem answer_apply_phoneNumber {span : Text} (hrest : c.rest ≠ [])
    (hspan : (phoneNumber.read c.rest).span = span) :
    (phoneNumber.apply c).answer =
      if span.length = phoneNumberLength then .ok ⟨.phoneNumber, span, c.position⟩
      else .error ⟨.phoneLength span span.length, c.position⟩ := by
  have hread : phoneNumber.read c.rest = ⟨span, if span.length = phoneNumberLength then
      .accepted .phoneNumber span else .rejected span⟩ :=
    Reading.phoneNumber_of_span hrest hspan
  split
  · next hlength =>
      rw [if_pos hlength] at hread
      exact answer_apply_of_accepted (congrArg Reading.verdict hread)
  · next hlength =>
      rw [if_neg hlength] at hread
      exact answer_apply_of_rejected (congrArg Reading.verdict hread)

/-- **Phone numbers are accepted exactly at thirteen characters.**  Where the rule for phone
numbers opens, it moves on up to the first space, but by fifteen characters at most, and counts the
line feeds among them in 32 bits.  It makes a token of what it passes if thirteen characters come before the
first space, and rejects it with its length otherwise.  So it accepts exactly where thirteen
characters other than the space are followed by a space or by nothing, and the lengths that it
reports are from 5 to 15, without 13. -/
theorem apply_phoneNumber (hopens : phoneNumber.opens c.rest = true) :
    let s := c.source
    let start := c.position.index
    let before := (s.drop start).idxOf ' '
    let number := s.extract start (start + min before 15)
    let applied := phoneNumber.apply c
    c.MovesOn applied.cursor ∧
    applied.cursor.position =
      ⟨start + min before 15, c.position.line + UInt32.ofNat (number.count '\n')⟩ ∧
    applied.answer =
      (if before = 13 then .ok ⟨.phoneNumber, number, c.position⟩
        else .error ⟨.phoneLength number (min before 15), c.position⟩) ∧
    ((∃ token, applied.answer = .ok token) ↔
      ∃ digits, digits.length = 13 ∧ ' ' ∉ digits ∧
        (s.drop start = digits ∨ digits ++ [' '] <+: s.drop start)) ∧
    ∀ error, applied.answer = .error error →
      ∃ length, error.failure = .phoneLength number length ∧
        5 ≤ length ∧ length ≤ 15 ∧ length ≠ 13 := by
  intro s start before number applied
  have hrest : c.rest ≠ [] := ne_nil_of_opens hopens
  have hspan : (phoneNumber.read c.rest).span = number := span_phoneNumber_of_opens hopens
  have hinside : start + min before 15 ≤ s.length := by
    have hle : before ≤ (s.drop start).length := List.idxOf_le_length
    have hstart : start < s.length := Nat.not_le.1 (mt c.rest_eq_nil_iff.2 hrest)
    rw [List.length_drop] at hle
    omega
  have hlength : number.length = min before 15 := by
    rw [Cursor.length_extract hinside, Nat.add_sub_cancel_left]
  have hexpected : min before 15 = phoneNumberLength ↔ before = 13 := by
    rw [phoneNumberLength]
    omega
  have hbounds : 5 ≤ number.length ∧ number.length ≤ 15 := by
    rw [← hspan]
    exact (Reading.bounds_of_phonePrefix (opens_phoneNumber_iff.1 hopens)).2
  have hanswer : applied.answer =
      if before = 13 then .ok ⟨.phoneNumber, number, c.position⟩
      else .error ⟨.phoneLength number (min before 15), c.position⟩ := by
    have hjudged := answer_apply_phoneNumber hrest hspan
    simp only [hlength, hexpected] at hjudged
    exact hjudged
  refine ⟨phoneNumber.movesOn_apply c, ?_, hanswer, ?_, fun error herror => ?_⟩
  · exact position_cursor_apply (Nat.le_add_right _ _) hinside hspan
  · rw [← idxOf_eq_iff, hanswer]
    constructor
    · rintro ⟨token, htoken⟩
      split at htoken
      · next hbefore => exact hbefore
      · cases htoken
    · intro hbefore
      exact ⟨_, if_pos hbefore⟩
  · obtain ⟨-, hwrong, rfl⟩ := error_of_apply_error hrest herror
    rw [hspan] at hwrong ⊢
    exact ⟨_, rfl, hbounds.1, hbounds.2, hwrong⟩

/-- Thirteen characters with a line feed among them, and a space behind them; and seventeen
characters, of which fifteen are passed and reported. -/
theorem apply_phoneNumber_over_lines :
    let c := (Cursor.ofText "\n+9665\n1234567 8".toList).advance 1
    let d := Cursor.ofText "+9665123456789012".toList
    (phoneNumber.opens c.rest = true ∧
      (phoneNumber.apply c).answer = .ok ⟨.phoneNumber, "+9665\n1234567".toList, ⟨1, 2⟩⟩ ∧
      (phoneNumber.apply c).cursor.position = ⟨14, 3⟩) ∧
    (phoneNumber.opens d.rest = true ∧
      (phoneNumber.apply d).answer =
        .error ⟨.phoneLength "+96651234567890".toList 15, ⟨0, 1⟩⟩ ∧
      (phoneNumber.apply d).cursor.position = ⟨15, 1⟩) := by
  intro c d
  have hc : phoneNumber.opens c.rest = true := by decide
  have hd : phoneNumber.opens d.rest = true := by decide
  obtain ⟨-, haccepted, hnumber, -⟩ := apply_phoneNumber hc
  obtain ⟨-, hrejected, herror, -⟩ := apply_phoneNumber hd
  rw [if_pos (by decide)] at hnumber
  rw [if_neg (by decide)] at herror
  exact ⟨⟨hc, hnumber, haccepted⟩, hd, herror, hrejected⟩

end Rule
end SpanLexer
