import SpanLexer.Proofs.Applying

/-!
# Looking ahead and stepping

The lookahead finds a character by its index in the text, if any text is left at all.  A step hands
out the character it passes, and stays where it is when no text is left.  They agree wherever a
cursor stands, also behind the end of its text: the lookahead foretells what steps will hand out,
and a step takes the lookahead with it.

* `Cursor.steps`, `Cursor.handedOut` — some steps, one after another, and what they hand out.
* `Cursor.steps_eq_advance` — many steps are one move.
* `Cursor.handedOut_eq` — what steps hand out is the text they pass, and `nul` from its end on;
  `Cursor.take_eq` says that taking several characters at once does the same.
* `Cursor.movesOn_steps`, `Cursor.index_steps`, `Cursor.extract_steps` — where steps lead, and what
  they pass.
* `Cursor.lookahead_foretells_steps` — what lookahead and steps have to do with each other.
-/

namespace SpanLexer
namespace Cursor

/-- The cursor after `k` steps, one after another. -/
def steps (c : Cursor) : Nat → Cursor
  | 0 => c
  | k + 1 => (c.steps k).next.2

/-- The characters that `k` steps hand out, one after another. -/
def handedOut (c : Cursor) : Nat → Text
  | 0 => []
  | k + 1 => c.handedOut k ++ [(c.steps k).next.1]

/-- Many steps are one move. -/
theorem steps_eq_advance (c : Cursor) (k : Nat) : c.steps k = c.advance k := by
  induction k with
  | zero => exact c.advance_zero.symm
  | succ k ih => rw [steps, ih, next, advance_advance]

/-- The character that a step hands out is the first one that is left. -/
theorem next_steps (c : Cursor) (n : Nat) : (c.steps n).next.1 = c.rest.getD n nul := by
  rw [steps_eq_advance, next, head, rest_advance, List.headD_eq_head?_getD, List.head?_drop,
    List.getD_eq_getElem?_getD]

/-- **What steps hand out** is the text they pass, and `nul` for every step behind its end. -/
theorem handedOut_eq (c : Cursor) (k : Nat) :
    c.handedOut k = c.rest.take k ++ List.replicate (k - c.rest.length) nul := by
  induction k with
  | zero => rw [handedOut, Nat.zero_sub, List.take_zero]; rfl
  | succ k ih =>
      rw [handedOut, ih, next_steps, List.getD_eq_getElem?_getD]
      by_cases hk : k < c.rest.length
      · rw [List.getElem?_eq_getElem hk, Nat.sub_eq_zero_of_le hk,
          Nat.sub_eq_zero_of_le (Nat.le_of_lt hk), ← List.take_append_getElem hk]
        simp
      · have hle := Nat.not_lt.1 hk
        rw [List.getElem?_eq_none hle, List.take_of_length_le hle,
          List.take_of_length_le (Nat.le_succ_of_le hle), Nat.succ_sub hle, List.append_assoc,
          List.replicate_succ']
        rfl

/-- Moving past several characters at once answers what as many steps hand out. -/
theorem take_eq (c : Cursor) (k : Nat) : c.take k = (c.handedOut k, c.steps k) := by
  rw [handedOut_eq, steps_eq_advance]
  rfl

/-- Steps take the lookahead with them, also to the end of the text. -/
theorem lookahead_steps (c : Cursor) (k n : Nat) :
    (c.steps k).lookahead (n + 1) = c.lookahead (n + 1 + k) := by
  rw [Nat.add_right_comm, lookahead_succ, lookahead_succ, steps_eq_advance, rest_advance,
    List.getD_eq_getElem?_getD, List.getD_eq_getElem?_getD, List.getElem?_drop, Nat.add_comm k]

/-- Steps move on in the text. -/
theorem movesOn_steps (c : Cursor) (k : Nat) : c.MovesOn (c.steps k) := by
  rw [steps_eq_advance]
  exact c.movesOn_advance k

/-- They move on by one character each, as long as there are characters. -/
theorem index_steps (c : Cursor) (k : Nat) :
    (c.steps k).position.index =
      c.position.index + min k (c.source.length - c.position.index) := by
  rw [steps_eq_advance, position_advance, Position.index_after, List.length_take, length_rest]

/-- The text that steps pass. -/
theorem extract_steps (c : Cursor) (k : Nat) :
    c.source.extract c.position.index (c.steps k).position.index = c.rest.take k := by
  rw [steps_eq_advance, position_advance, Position.index_after]
  exact extract_of_prefix (List.take_prefix k c.rest)

/-- **Lookahead foretells steps.**  Wherever a cursor stands, also behind the end of its text, the
lookahead of `n + 1` is what the step after `n` steps hands out, which is the character of the text
at that index, or `nul` if there is none; and after `k` steps the lookahead of a number is what it
was for `k` more before, whether or not text is left.  Taking `k` characters at once is `k` steps.
These leave the text and the stored error as they are.  They move on by one character each, but not
beyond the end of the text, and count the line feeds that they pass, in 32 bits and so exactly as long
as 32 bits hold the line; what they hand out is the text passed, with `nul` for every step that finds
no text left. -/
theorem lookahead_foretells_steps (c : Cursor) :
    (∀ n, c.lookahead (n + 1) = (c.steps n).next.1 ∧
      c.lookahead (n + 1) = c.source.getD (c.position.index + n) nul) ∧
    (∀ k n, (c.steps k).lookahead (n + 1) = c.lookahead (n + 1 + k)) ∧
    ∀ k,
      let last := c.steps k
      let passed := c.source.extract c.position.index last.position.index
      c.take k = (c.handedOut k, last) ∧ last.source = c.source ∧ last.halted = c.halted ∧
      last.position =
        ⟨c.position.index + min k (c.source.length - c.position.index),
          c.position.line + UInt32.ofNat (passed.count '\n')⟩ ∧
      (c.position.line.toNat + passed.count '\n' < UInt32.size →
        last.position.line.toNat = c.position.line.toNat + passed.count '\n') ∧
      c.handedOut k = passed ++ List.replicate (k - passed.length) nul := by
  refine ⟨fun n => ⟨?_, ?_⟩, c.lookahead_steps, fun k => ?_⟩
  · rw [lookahead_succ, next_steps]
  · rw [lookahead_succ, c.rest_eq, List.getD_eq_getElem?_getD, List.getD_eq_getElem?_getD,
      List.getElem?_drop]
  · intro last passed
    have hmoves : c.MovesOn last := c.movesOn_steps k
    have hpassed : passed = c.rest.take k := c.extract_steps k
    refine ⟨c.take_eq k, hmoves.source_eq, hmoves.halted_eq, ?_, hmoves.toNat_line_eq, ?_⟩
    · exact congr (congrArg Position.mk (c.index_steps k)) hmoves.line_eq
    · have hmissing : k - min k c.rest.length = k - c.rest.length := by omega
      rw [hpassed, handedOut_eq, List.length_take, hmissing]

end Cursor
end SpanLexer
