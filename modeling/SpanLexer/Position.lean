import SpanLexer.Text

/-!
# Positions

A position is a place between two characters of a text: the number of characters before it,
and the line it is on.  Lines are counted in 32 bits; behind the last number the count goes on
with 0.

* `Position` — the pair of index and line; a mark set on a cursor is one.
* `Position.start` — the beginning of a text.
* `Position.after` — the place reached by passing some text.
* `Position.toNat_line_after` — as long as 32 bits hold it, the count of lines is one of numbers.
-/

namespace SpanLexer

/-- A number read as one of 32 bits. -/
scoped instance coeLine : Coe Nat UInt32 := ⟨UInt32.ofNat⟩

/-- A number of 32 bits read as a number. -/
scoped instance coeNumber : Coe UInt32 Nat := ⟨UInt32.toNat⟩

/-- A place in a text: the index of the character that follows, and the number of its line. -/
structure Position where
  index : Nat
  line : UInt32
  deriving DecidableEq, Repr

namespace Position

/-- The beginning of a text, on line 1. -/
def start : Position := ⟨0, 1⟩

/-- The place reached from `p` by passing the characters of `t`; a line feed leads to a new line,
whose number has 32 bits like that of the old one. -/
def after (p : Position) (t : Text) : Position :=
  ⟨p.index + t.length, p.line + (t.count '\n' : UInt32)⟩

@[simp] theorem index_after (p : Position) (t : Text) :
    (p.after t).index = p.index + t.length := rfl

@[simp] theorem line_after (p : Position) (t : Text) :
    (p.after t).line = p.line + UInt32.ofNat (t.count '\n') := rfl

@[simp] theorem after_nil (p : Position) : p.after [] = p := by
  obtain ⟨index, line⟩ := p
  simp [after]

/-- No line feed leads to no other line. -/
theorem add_ofNat_zero (line : UInt32) : line + UInt32.ofNat 0 = line :=
  UInt32.add_zero line

/-- A text without line feeds leads to no other line. -/
theorem after_of_count_eq_zero {t : Text} (h : t.count '\n' = 0) (p : Position) :
    p.after t = ⟨p.index + t.length, p.line⟩ := by
  rw [after, h, add_ofNat_zero]

/-- Passing two texts in turn is passing them joined. -/
@[simp] theorem after_after (p : Position) (s t : Text) :
    (p.after s).after t = p.after (s ++ t) := by
  simp [after, Nat.add_assoc, UInt32.add_assoc, UInt32.ofNat_add]

/-- **Counting lines in 32 bits** is counting them, as long as 32 bits hold the number. -/
theorem toNat_add_ofNat {line : UInt32} {feeds : Nat} (h : line.toNat + feeds < UInt32.size) :
    (line + UInt32.ofNat feeds).toNat = line.toNat + feeds := by
  have hfeeds : feeds < UInt32.size := Nat.lt_of_le_of_lt (Nat.le_add_left _ _) h
  rw [UInt32.toNat_add, UInt32.toNat_ofNat_of_lt' hfeeds]
  exact Nat.mod_eq_of_lt h

/-- The lines of the text passed add up, as long as 32 bits hold their number. -/
theorem toNat_line_after {p : Position} {t : Text}
    (h : p.line.toNat + t.count '\n' < UInt32.size) :
    (p.after t).line.toNat = p.line.toNat + t.count '\n' :=
  toNat_add_ofNat h

end Position
end SpanLexer
