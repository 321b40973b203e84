import Mathlib.Data.List.DropRight
import SpanLexer.LineLocation
import SpanLexer.Proofs.Lookahead

/-!
# Which line an index is on

The lookup adds up the lengths of lines until it comes to the one that holds the index.  Looking
from the index instead, that line reaches back to the last line feed before the index, and on
through the next one; its number counts the line feeds before the index.

* `Text.lines_eq_cons` — the lines of a text are the first one and the lines of what follows.
* `Text.lineBefore`, `Text.lineAt` — the line around an index.
* `Text.locate_eq` — the lookup finds this line.
-/

namespace SpanLexer

/-- A run at the end of a list does not reach past an element that is not a member. -/
theorem rtakeWhile_append_cons {α : Type} {member : α → Bool} {x : α} (hx : member x = false)
    (earlier later : List α) :
    (earlier ++ x :: later).rtakeWhile member = later.rtakeWhile member := by
  induction later using List.reverseRecOn with
  | nil => rw [List.rtakeWhile_concat, hx, if_neg Bool.false_ne_true, List.rtakeWhile_nil]
  | append_singleton later y ih =>
      rw [← List.cons_append, ← List.append_assoc, List.rtakeWhile_concat, List.rtakeWhile_concat,
        ih]

namespace Text

theorem consLine_feed (ls : List Text) : consLine '\n' ls = ['\n'] :: ls := by
  cases ls <;> rfl

/-- The first line of a text that is not empty goes through the first line feed. -/
theorem lines_eq_cons {s : Text} (h : s ≠ []) :
    lines s = takeThrough (· == '\n') s ::
      lines (s.drop (takeThrough (· == '\n') s).length) := by
  induction s with
  | nil => exact absurd rfl h
  | cons c t ih =>
      rw [lines_cons, takeThrough_cons]
      split
      · next hfeed =>
          obtain rfl := eq_of_beq hfeed
          rw [consLine_feed]
          rfl
      · next hother =>
          have hne : c ≠ '\n' := fun heq => hother (beq_iff_eq.2 heq)
          rcases eq_or_ne t [] with rfl | ht
          · rfl
          · rw [ih ht, consLine, if_neg hne]
            rfl

/-- The part of a line that stands before an index: all behind the last line feed there. -/
def lineBefore (s : Text) (index : Nat) : Text :=
  (s.take index).rtakeWhile (· != '\n')

/-- **The line around an index**, with the line feed that ends it; the last line may have none. -/
def lineAt (s : Text) (index : Nat) : Text :=
  lineBefore s index ++ takeThrough (· == '\n') (s.drop index)

/-- The character at an index stands in its line behind the part before it. -/
theorem getElem?_lineAt (s : Text) (index : Nat) :
    (lineAt s index)[(lineBefore s index).length]? = s[index]? := by
  rw [lineAt, List.getElem?_append_right (Nat.le_refl _), Nat.sub_self, ← List.head?_eq_getElem?,
    ← List.head?_drop]
  cases s.drop index <;> rfl

section FirstLine

variable {s : Text} {index : Nat}

/-- On the first line, the part before an index is all of the text there. -/
theorem lineBefore_of_not_mem (h : '\n' ∉ s.take index) : lineBefore s index = s.take index := by
  rw [lineBefore, List.rtakeWhile_eq_self_iff]
  exact fun c hc => bne_iff_ne.2 (ne_of_mem_of_not_mem hc h)

/-- The first line is the line around every index on it. -/
theorem lineAt_of_not_mem (h : '\n' ∉ s.take index) :
    lineAt s index = takeThrough (· == '\n') s := by
  rw [lineAt, lineBefore_of_not_mem h, ← takeThrough_append_of_not_mem h, List.take_append_drop]

/-- The lookup stops at the first line if the index is on it. -/
theorem locateIn_of_not_mem (number : Nat) (h : '\n' ∉ s.take index) (hindex : index < s.length) :
    locateIn number (lines s) index = some ⟨number, lineAt s index, index⟩ := by
  have hcolumn := getElem?_lineAt s index
  rw [lineBefore_of_not_mem h, List.length_take_of_le (Nat.le_of_lt hindex),
    List.getElem?_eq_getElem hindex] at hcolumn
  obtain ⟨hhere, -⟩ := List.getElem?_eq_some_iff.1 hcolumn
  have hne : s ≠ [] := List.ne_nil_of_length_pos (Nat.zero_lt_of_lt hindex)
  rw [lineAt_of_not_mem h] at hhere ⊢
  rw [lines_eq_cons hne, locateIn, if_pos hhere]

end FirstLine

section LaterLines

/-- Before an index that is not on the first line, that line and its line feed come. -/
theorem exists_append_line {s : Text} {index : Nat} (h : '\n' ∈ s.take index) :
    ∃ line later i, '\n' ∉ line ∧ s = line ++ ['\n'] ++ later ∧
      index = (line ++ ['\n']).length + i := by
  obtain ⟨line, rest, hsplit, hline⟩ := List.eq_append_cons_of_mem h
  have hlength := List.length_take_le index s
  rw [hsplit, List.length_append, List.length_cons] at hlength
  have hle : (line ++ ['\n']).length ≤ index := by
    rw [List.length_append, List.length_singleton]
    omega
  obtain ⟨i, hi⟩ := Nat.exists_eq_add_of_le hle
  refine ⟨line, rest ++ s.drop index, i, hline, ?_, hi⟩
  calc s = s.take index ++ s.drop index := (List.take_append_drop index s).symm
    _ = line ++ ['\n'] ++ (rest ++ s.drop index) := by rw [hsplit]; simp

variable {line : Text} (later : Text) (i : Nat)

/-- A line that ends before an index is not a part of the line there. -/
theorem lineBefore_append_line (line : Text) :
    lineBefore (line ++ ['\n'] ++ later) ((line ++ ['\n']).length + i) = lineBefore later i := by
  rw [lineBefore, lineBefore, List.take_length_add_append, List.append_assoc, List.singleton_append]
  exact rtakeWhile_append_cons (by decide) line _

theorem lineAt_append_line (line : Text) :
    lineAt (line ++ ['\n'] ++ later) ((line ++ ['\n']).length + i) = lineAt later i := by
  rw [lineAt, lineAt, lineBefore_append_line, List.drop_length_add_append]

/-- It counts for the number of the line there. -/
theorem count_take_append_line (h : '\n' ∉ line) :
    ((line ++ ['\n'] ++ later).take ((line ++ ['\n']).length + i)).count '\n' =
      (later.take i).count '\n' + 1 := by
  rw [List.take_length_add_append, List.count_append, List.count_append, List.count_eq_zero.2 h]
  exact Nat.add_comm _ _

/-- The lookup passes a line that ends before the index. -/
theorem locateIn_append_line (number : Nat) (h : '\n' ∉ line) :
    locateIn number (lines (line ++ ['\n'] ++ later)) ((line ++ ['\n']).length + i) =
      locateIn (number + 1) (lines later) i := by
  have hfirst : takeThrough (· == '\n') (line ++ ['\n'] ++ later) = line ++ ['\n'] := by
    rw [List.append_assoc, takeThrough_append_of_not_mem h]
    rfl
  rw [lines_eq_cons (by simp), hfirst, locateIn, if_neg (by omega), List.drop_left,
    Nat.add_sub_cancel_left]

end LaterLines

/-- The lookup from a line of a given number on. -/
theorem locateIn_lines {s : Text} {index : Nat} (number : Nat) (h : index < s.length) :
    locateIn number (lines s) index =
      some ⟨number + (s.take index).count '\n', lineAt s index, (lineBefore s index).length⟩ := by
  -- Induction on the number of line feeds before the index: the lookup passes one line for each.
  induction hcount : (s.take index).count '\n' generalizing s number index with
  | zero =>
      have hfirst := List.count_eq_zero.1 hcount
      rw [locateIn_of_not_mem number hfirst h, lineBefore_of_not_mem hfirst,
        List.length_take_of_le (Nat.le_of_lt h)]
      rfl
  | succ n ih =>
      have hfeed : '\n' ∈ s.take index := List.count_pos_iff.1 (by omega)
      obtain ⟨line, later, i, hline, rfl, rfl⟩ := exists_append_line hfeed
      have hi : i < later.length := by
        simp only [List.length_append] at h
        omega
      have hcountLater : (later.take i).count '\n' = n := by
        rw [count_take_append_line later i hline] at hcount
        omega
      rw [locateIn_append_line later i number hline, ih (number + 1) hi hcountLater,
        lineAt_append_line, lineBefore_append_line, Nat.add_assoc, Nat.add_comm 1]

/-- **The lookup is exact.**  It finds the line around the index, the number of that line, and where
in the line the index is. -/
theorem locate_eq {s : Text} {index : Nat} (h : index < s.length) :
    locate s index =
      some ⟨1 + (s.take index).count '\n', lineAt s index, (lineBefore s index).length⟩ :=
  locateIn_lines 1 h

end Text
end SpanLexer
