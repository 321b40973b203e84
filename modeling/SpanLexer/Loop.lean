import SpanLexer.Cursor

/-!
# Loops over characters

Spans are read by loops that pass one character after another.  A loop asks in front of every
character whether it goes on, and behind it whether it ends there; both may depend on what it has
passed so far.

* `Loop`, `Loop.run` — a loop by its two tests, and what it does to a cursor.
* `Cursor.PassesThrough` — how a loop goes whose tests look at the cursor and at the last character
  only; `Loop.run_of_passesThrough` says that it goes so.
* `Loop.run_eq_takeThrough` — such a loop passes the longest run of members, through its first stop.
* `Loop.run_eq_bounded` — a loop that counts passes a run of limited length.
-/

namespace SpanLexer

/-- A loop over characters.  `goesOn` is asked in front of a character, of what was passed so far
and of the cursor; `ends` is asked behind it, of what was passed with it.  What was passed comes with
the latest character first.  A loop does not go on at the end of a text. -/
structure Loop where
  goesOn : Text → Cursor → Bool
  ends : Text → Bool
  hasMore_of_goesOn : ∀ passed c, goesOn passed c = true → c.hasMore = true

/-- A step from a cursor that has more leaves less text. -/
theorem Cursor.length_rest_next_lt {c : Cursor} (h : c.hasMore = true) :
    c.next.2.rest.length < c.rest.length := by
  have hne : c.rest ≠ [] := by simpa [hasMore] using h
  have hpos := List.length_pos_iff.2 hne
  simp only [next, rest_advance, List.length_drop]
  omega

/-- Runs a loop at a cursor.  `passed` is what was passed before, the latest character first; the
answer is what was passed then, and the cursor where the loop ends. -/
def Loop.run (loop : Loop) (passed : Text) (c : Cursor) : Text × Cursor :=
  if _h : loop.goesOn passed c = true then
    if loop.ends (c.next.1 :: passed) then (c.next.1 :: passed, c.next.2)
    else loop.run (c.next.1 :: passed) c.next.2
  else (passed, c)
termination_by c.rest.length
decreasing_by exact Cursor.length_rest_next_lt (loop.hasMore_of_goesOn _ _ _h)

namespace Cursor

/-- **A loop that passes characters** while `goesOn` holds of the cursor, but ends at once behind a
character that `ends` it.  `passed` is what it passed, and `last` is the cursor where it ends. -/
inductive PassesThrough (goesOn : Cursor → Bool) (ends : Char → Bool) :
    Cursor → Text → Cursor → Prop
  | stop {c : Cursor} (htest : goesOn c = false) : PassesThrough goesOn ends c [] c
  | leave {c : Cursor} (htest : goesOn c = true) (hends : ends c.next.1 = true) :
      PassesThrough goesOn ends c [c.next.1] c.next.2
  | pass {c last : Cursor} {passed : Text} (htest : goesOn c = true)
      (hgoes : ends c.next.1 = false) (hlater : PassesThrough goesOn ends c.next.2 passed last) :
      PassesThrough goesOn ends c (c.next.1 :: passed) last

/-- A loop whose test is whether the next character is a member passes the longest run, through its
first end if it has one. -/
theorem passesThrough_takeThrough {goesOn : Cursor → Bool} {member : Char → Bool}
    (htest : ∀ c : Cursor, goesOn c = c.rest.head?.any member) (ends : Char → Bool) (c : Cursor) :
    c.PassesThrough goesOn ends (takeThrough ends (c.rest.takeWhile member))
      (c.advance (takeThrough ends (c.rest.takeWhile member)).length) := by
  -- Induction on the text that is left, with the ways in which the loop goes on as cases.
  induction hrest : c.rest generalizing c with
  | nil =>
      rw [List.takeWhile_nil, takeThrough_nil, List.length_nil, advance_zero]
      exact .stop (by rw [htest, hrest]; rfl)
  | cons x later ih =>
      have hhead : goesOn c = member x := by rw [htest, hrest]; rfl
      have hnext : c.next.1 = x := by rw [next, head, hrest]; rfl
      rw [List.takeWhile_cons]
      split
      · next hx =>
          rw [takeThrough_cons]
          split
          · next hends =>
              have hleave := PassesThrough.leave (hhead.trans hx)
                ((congrArg ends hnext).trans hends)
              rwa [hnext] at hleave
          · next hgoes =>
              have hlater := ih c.next.2 (by rw [next, rest_advance, hrest]; rfl)
              rw [next, advance_advance, Nat.add_comm 1] at hlater
              have hpass := PassesThrough.pass (hhead.trans hx)
                ((congrArg ends hnext).trans (Bool.eq_false_iff.2 hgoes)) hlater
              rwa [hnext] at hpass
      · next hx =>
          rw [takeThrough_nil, List.length_nil, advance_zero]
          exact .stop (hhead.trans (Bool.eq_false_iff.2 hx))

end Cursor

namespace Loop

variable {loop : Loop}

/-- **A loop goes as its tests say.** -/
theorem run_of_passesThrough {goesOn : Cursor → Bool} {ends : Char → Bool} {c last : Cursor}
    {part : Text} (h : c.PassesThrough goesOn ends part last)
    (hgoesOn : ∀ passed c, loop.goesOn passed c = goesOn c)
    (hends : ∀ x passed, loop.ends (x :: passed) = ends x) (passed : Text) :
    loop.run passed c = (part.reverse ++ passed, last) := by
  induction h generalizing passed with
  | @stop c htest =>
      have hstops : ¬ loop.goesOn passed c = true := by rw [hgoesOn, htest]; exact Bool.false_ne_true
      rw [run, dif_neg hstops]
      rfl
  | @leave c htest hleaves =>
      rw [run, dif_pos ((hgoesOn passed c).trans htest), if_pos ((hends _ passed).trans hleaves)]
      rfl
  | @pass c last part htest hgoes _ ih =>
      have hgoesOnward : ¬ loop.ends (c.next.1 :: passed) = true := by
        rw [hends, hgoes]
        exact Bool.false_ne_true
      rw [run, dif_pos ((hgoesOn passed c).trans htest), if_neg hgoesOnward, ih, List.reverse_cons,
        List.append_assoc, List.singleton_append]

/-- **A loop over members** passes the longest run of them, through the first stop. -/
theorem run_eq_takeThrough {member stop : Char → Bool}
    (hgoesOn : ∀ passed (c : Cursor), loop.goesOn passed c = c.rest.head?.any member)
    (hends : ∀ x passed, loop.ends (x :: passed) = stop x) (passed : Text) (c : Cursor) :
    loop.run passed c = ((takeThrough stop (c.rest.takeWhile member)).reverse ++ passed,
      c.advance (takeThrough stop (c.rest.takeWhile member)).length) :=
  run_of_passesThrough (Cursor.passesThrough_takeThrough (fun _ => rfl) stop c) hgoesOn hends passed

/-- Members of limited number, in front of a member. -/
private theorem takeWhile_take_cons {member : Char → Bool} {x : Char} {n : Nat}
    (hx : member x = true) (later : Text) :
    ((x :: later).take (n + 1)).takeWhile member = x :: (later.take n).takeWhile member := by
  rw [List.take_succ_cons, List.takeWhile_cons_of_pos hx]

/-- Members of limited number: none in front of another character, or if none is allowed. -/
private theorem takeWhile_take_cons_eq_nil {member : Char → Bool} {x : Char} {n : Nat}
    (h : member x = false ∨ n = 0) (later : Text) :
    ((x :: later).take n).takeWhile member = [] := by
  cases n with
  | zero => rfl
  | succ n =>
      have hx := h.resolve_right (Nat.succ_ne_zero n)
      rw [List.take_succ_cons, List.takeWhile_cons_of_neg (Bool.eq_false_iff.1 hx)]

/-- **A loop that counts** what it passed, up to a limit, passes a run of limited length. -/
theorem run_eq_bounded {member : Char → Bool} {limit : Nat}
    (hgoesOn : ∀ passed (c : Cursor), loop.goesOn passed c =
      (c.rest.head?.any member && decide (passed.length < limit)))
    (hends : ∀ passed, loop.ends passed = false) (passed : Text) (c : Cursor) :
    loop.run passed c =
      (((c.rest.take (limit - passed.length)).takeWhile member).reverse ++ passed,
        c.advance ((c.rest.take (limit - passed.length)).takeWhile member).length) := by
  induction hrest : c.rest generalizing c passed with
  | nil =>
      have hstops : ¬ loop.goesOn passed c = true := by rw [hgoesOn, hrest]; exact Bool.false_ne_true
      rw [run, dif_neg hstops, List.take_nil, List.takeWhile_nil, List.length_nil,
        Cursor.advance_zero]
      rfl
  | cons x later ih =>
      have hgoes : loop.goesOn passed c = (member x && decide (passed.length < limit)) := by
        rw [hgoesOn, hrest]
        rfl
      have hnext : c.next.1 = x := by rw [Cursor.next, Cursor.head, hrest]; rfl
      have hlater : c.next.2.rest = later := by rw [Cursor.next, Cursor.rest_advance, hrest]; rfl
      rw [run]
      split
      · next htest =>
          rw [hgoes, Bool.and_eq_true, decide_eq_true_eq] at htest
          have hmore : limit - passed.length = limit - (x :: passed).length + 1 := by
            rw [List.length_cons]
            omega
          rw [hends, if_neg Bool.false_ne_true, hnext, ih (x :: passed) c.next.2 hlater, hmore,
            takeWhile_take_cons htest.1, Cursor.next, Cursor.advance_advance, List.reverse_cons,
            List.append_assoc, List.singleton_append, Nat.add_comm 1]
          rfl
      · next htest =>
          rw [Bool.not_eq_true, hgoes, Bool.and_eq_false_iff, decide_eq_false_iff_not,
            Nat.not_lt] at htest
          rw [takeWhile_take_cons_eq_nil (htest.imp_right Nat.sub_eq_zero_of_le), List.length_nil,
            Cursor.advance_zero]
          rfl

end Loop
end SpanLexer
