import SpanLexer.ScanError

/-!
# Cursors

A cursor stands at a position in its text and moves forward, or back to a position marked
earlier.  It also carries the error that stopped its scan, once there is one.

* `Cursor` — the text, the position, what is left of the text, and the stopping error.
* `Cursor.ofText` — a cursor at the beginning of a text.
* `Cursor.lookahead`, `Cursor.head` — characters near the position.
* `Cursor.advance`, `Cursor.next` — moving past characters, counting the line feeds.
* `Cursor.moveTo` — going to a marked position, which may come from another cursor and lie
  beyond the end of this cursor's text.
* `Cursor.eq_of_fields` — a cursor is given by its text, its position and its error.
* `Cursor.lookahead_succ`, `Cursor.hasMore_and` — what a cursor sees of the text that is left.
-/

namespace SpanLexer

/-- A place in a text, with the text that is left there.  `halted` is the error that stopped the
scan for good. -/
structure Cursor where
  source : Text
  position : Position
  rest : Text
  halted : Option ScanError
  rest_eq : rest = source.drop position.index
  deriving DecidableEq

namespace Cursor

/-- The cursor at the beginning of a text. -/
def ofText (t : Text) : Cursor :=
  ⟨t, Position.start, t, none, rfl⟩

/-- Whether any text is left. -/
def hasMore (c : Cursor) : Bool := !c.rest.isEmpty

/-- The next character, `nul` at the end. -/
def head (c : Cursor) : Char := c.rest.headD nul

/-- The `n`-th character from the position, counted from 1; the 0-th is the one just passed.
It is `nul` outside the text, and always when no text is left. -/
def lookahead (c : Cursor) (n : Nat) : Char :=
  if c.hasMore ∧ 0 < c.position.index + n then
    (c.source[c.position.index + n - 1]?).getD nul
  else
    nul

/-- The index of the character just passed, -1 at the beginning. -/
def lastIndex (c : Cursor) : Int := (c.position.index : Int) - 1

/-- Moves past `n` characters, or past all that are left. -/
def advance (c : Cursor) (n : Nat) : Cursor where
  source := c.source
  position := c.position.after (c.rest.take n)
  rest := c.rest.drop n
  halted := c.halted
  rest_eq := by
    rw [Position.index_after, ← List.drop_drop, ← c.rest_eq, List.length_take]
    by_cases h : n ≤ c.rest.length
    · rw [Nat.min_eq_left h]
    · rw [Nat.min_eq_right (by omega), List.drop_length, List.drop_of_length_le (by omega)]

/-- The next character, and the cursor after it; at the end `nul`, and the cursor as it is. -/
def next (c : Cursor) : Char × Cursor := (c.head, c.advance 1)

/-- The next `n` characters, filled up with `nul` past the end, and the cursor after them. -/
def take (c : Cursor) (n : Nat) : Text × Cursor :=
  (c.rest.take n ++ List.replicate (n - c.rest.length) nul, c.advance n)

/-- Goes to a marked position.  The stopping error stays. -/
def moveTo (c : Cursor) (p : Position) : Cursor where
  source := c.source
  position := p
  rest := c.source.drop p.index
  halted := c.halted
  rest_eq := rfl

/-- Records the error that stops the scan. -/
def halt (c : Cursor) (error : ScanError) : Cursor :=
  { c with halted := some error }

@[simp] theorem rest_ofText (t : Text) : (ofText t).rest = t := rfl

@[simp] theorem position_ofText (t : Text) : (ofText t).position = Position.start := rfl

@[simp] theorem halted_ofText (t : Text) : (ofText t).halted = none := rfl

@[simp] theorem source_advance (c : Cursor) (n : Nat) : (c.advance n).source = c.source := rfl

@[simp] theorem position_advance (c : Cursor) (n : Nat) :
    (c.advance n).position = c.position.after (c.rest.take n) := rfl

@[simp] theorem rest_advance (c : Cursor) (n : Nat) : (c.advance n).rest = c.rest.drop n := rfl

@[simp] theorem halted_advance (c : Cursor) (n : Nat) : (c.advance n).halted = c.halted := rfl

@[simp] theorem source_halt (c : Cursor) (e : ScanError) : (c.halt e).source = c.source := rfl

@[simp] theorem position_halt (c : Cursor) (e : ScanError) : (c.halt e).position = c.position := rfl

@[simp] theorem rest_halt (c : Cursor) (e : ScanError) : (c.halt e).rest = c.rest := rfl

@[simp] theorem halted_halt (c : Cursor) (e : ScanError) : (c.halt e).halted = some e := rfl

@[simp] theorem source_moveTo (c : Cursor) (p : Position) : (c.moveTo p).source = c.source := rfl

@[simp] theorem position_moveTo (c : Cursor) (p : Position) : (c.moveTo p).position = p := rfl

@[simp] theorem halted_moveTo (c : Cursor) (p : Position) : (c.moveTo p).halted = c.halted := rfl

/-- A cursor is given by its text, its position and the error that stopped it. -/
theorem eq_of_fields {c d : Cursor} (hsource : c.source = d.source)
    (hposition : c.position = d.position) (hhalted : c.halted = d.halted) : c = d := by
  obtain ⟨source, position, rest, halted, hrest⟩ := c
  obtain ⟨source', position', rest', halted', hrest'⟩ := d
  obtain rfl : source = source' := hsource
  obtain rfl : position = position' := hposition
  obtain rfl : halted = halted' := hhalted
  -- What is left is determined by the text and the position.
  subst hrest
  subst hrest'
  rfl

@[simp] theorem advance_zero (c : Cursor) : c.advance 0 = c :=
  eq_of_fields rfl (by simp) rfl

/-- Moving on in two steps is moving on in one. -/
theorem advance_advance (c : Cursor) (m n : Nat) :
    (c.advance m).advance n = c.advance (m + n) :=
  eq_of_fields rfl (by simp [List.take_add]) rfl

/-- A cursor stands at the end of its text when its index does. -/
theorem rest_eq_nil_iff (c : Cursor) : c.rest = [] ↔ c.source.length ≤ c.position.index := by
  rw [c.rest_eq, List.drop_eq_nil_iff]

theorem hasMore_iff (c : Cursor) : c.hasMore = true ↔ c.position.index < c.source.length := by
  rw [hasMore, Bool.not_eq_true', List.isEmpty_eq_false_iff, Ne, rest_eq_nil_iff, Nat.not_le]

/-- **The lookahead by what is left of the text**: `nul` behind its end. -/
theorem lookahead_succ (c : Cursor) (n : Nat) : c.lookahead (n + 1) = c.rest.getD n nul := by
  have hindex : c.source[c.position.index + (n + 1) - 1]? = c.rest[n]? := by
    rw [c.rest_eq, List.getElem?_drop]
    rfl
  rw [lookahead, hindex, List.getD_eq_getElem?_getD]
  split
  · rfl
  · next hnone =>
      -- The lookahead is refused at the end only, and there nothing is left.
      have hend : c.rest = [] := by
        rw [c.rest_eq_nil_iff]
        have hmore : ¬ c.position.index < c.source.length := fun hlt =>
          hnone ⟨c.hasMore_iff.2 hlt, Nat.succ_pos _⟩
        exact Nat.not_lt.1 hmore
      rw [hend]
      rfl

/-- Asking for a member in front of a cursor that has text left is asking what the text that is left
begins with. -/
theorem hasMore_and (c : Cursor) (member : Char → Bool) :
    (c.hasMore && member c.head) = c.rest.head?.any member := by
  rw [hasMore, head]
  cases c.rest <;> rfl

/-- At the end of its text a cursor stays. -/
theorem advance_of_rest_nil {c : Cursor} (h : c.rest = []) (n : Nat) : c.advance n = c :=
  eq_of_fields rfl (by rw [position_advance, h, List.take_nil, Position.after_nil]) rfl

/-- Going back to where a cursor came from undoes the way. -/
theorem moveTo_advance (c : Cursor) (n : Nat) : (c.advance n).moveTo c.position = c :=
  eq_of_fields rfl rfl rfl

end Cursor
end SpanLexer
