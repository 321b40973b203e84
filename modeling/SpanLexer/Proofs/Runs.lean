import SpanLexer.Proofs.Applying
import SpanLexer.Proofs.Lookahead

/-!
# Runs of characters

Six rules pass one character after another as long as the next one is a member of their run, and
each asks for that in its own way.  The rule for identifiers takes a low line without asking whether
any text is left, which the `nul` of the lookahead makes harmless; the rule for accounts asks for a
line feed, which is no member anyway.  All of them read the longest run from where they open, and it
is not empty.  A hex color is a number sign and a run of limited length; the zeros that fill it up
are not passed.

* `Text.RunsTo` — where the longest run from an index on ends; `Text.runsTo_takeWhile` finds it, and
  `Text.RunsTo.eq` says that there is one end only.
* `Cursor.PassesWhile` — a loop that passes characters and ends behind none;
  `Cursor.passesWhile_takeWhile` says that it passes the longest run if its test is whether the next
  character is a member.
* `Rule.apply_run` — what the rules for runs do to a cursor where they open.
* `Rule.apply_hexColor_of_sign`, `Rule.apply_hexColor` — and the one for hex colors.
-/

namespace SpanLexer

/-- **The longest run** of members from the index `start` on ends at the index `stop`: all
characters between the two are members, and the one at `stop`, if there is one, is not. -/
structure Text.RunsTo (s : Text) (member : Char → Bool) (start stop : Nat) : Prop where
  le : start ≤ stop
  inside : stop ≤ s.length
  members : ∀ i x, start ≤ i → i < stop → s[i]? = some x → member x = true
  ends : ∀ x, s[stop]? = some x → member x = false

/-- From every index of a text a run goes as far as the members that are left there. -/
theorem Text.runsTo_takeWhile {s : Text} {start : Nat} (h : start ≤ s.length)
    (member : Char → Bool) :
    s.RunsTo member start (start + ((s.drop start).takeWhile member).length) where
  le := Nat.le_add_right _ _
  inside := by
    have hle := (List.takeWhile_prefix (l := s.drop start) member).length_le
    rw [List.length_drop] at hle
    omega
  members := by
    intro i x hi hlt hx
    obtain ⟨k, rfl⟩ := Nat.exists_eq_add_of_le hi
    have hrun := List.prefix_iff_eq_take.1 (List.takeWhile_prefix (l := s.drop start) member)
    rw [← List.getElem?_drop, ← List.getElem?_take_of_lt (Nat.lt_of_add_lt_add_left hlt),
      ← hrun] at hx
    exact of_mem_takeWhile (List.mem_of_getElem? hx)
  ends := by
    intro x hx
    rw [← List.getElem?_drop, ← List.head?_drop] at hx
    exact not_member_behind_takeWhile hx

/-- The longest run from an index on has one end. -/
theorem Text.RunsTo.eq {s : Text} {member : Char → Bool} {start i j : Nat}
    (hi : s.RunsTo member start i) (hj : s.RunsTo member start j) : i = j := by
  have hnot : ∀ {i j}, s.RunsTo member start i → s.RunsTo member start j → ¬ i < j := by
    intro i j hi hj hlt
    have hx := List.getElem?_eq_getElem (Nat.lt_of_lt_of_le hlt hj.inside)
    have hmember := hj.members i _ hi.le hlt hx
    rw [hi.ends _ hx] at hmember
    cases hmember
  exact Nat.le_antisymm (Nat.not_lt.1 (hnot hj hi)) (Nat.not_lt.1 (hnot hi hj))

namespace Cursor

/-- **A loop that passes characters.**  While `goesOn` holds of the cursor, it passes the next
character.  `passed` is what it passed, and `last` is the cursor where the loop ends. -/
inductive PassesWhile (goesOn : Cursor → Bool) : Cursor → Text → Cursor → Prop
  | stop {c : Cursor} (htest : goesOn c = false) : PassesWhile goesOn c [] c
  | pass {c last : Cursor} {passed : Text} (htest : goesOn c = true)
      (hlater : PassesWhile goesOn c.next.2 passed last) :
      PassesWhile goesOn c (c.next.1 :: passed) last

/-- A loop that ends behind no character passes characters. -/
theorem PassesThrough.passesWhile {goesOn : Cursor → Bool} {c last : Cursor} {passed : Text}
    (h : c.PassesThrough goesOn (fun _ => false) passed last) :
    c.PassesWhile goesOn passed last := by
  induction h with
  | stop htest => exact .stop htest
  | leave _ hends => cases hends
  | pass htest _ _ ih => exact .pass htest ih

/-- A loop whose test is whether the next character is a member passes the longest run. -/
theorem passesWhile_takeWhile {goesOn : Cursor → Bool} {member : Char → Bool}
    (htest : ∀ c : Cursor, goesOn c = c.rest.head?.any member) (c : Cursor) :
    c.PassesWhile goesOn (c.rest.takeWhile member)
      (c.advance (c.rest.takeWhile member).length) := by
  have hpasses := passesThrough_takeThrough htest (fun _ => false) c
  rw [takeThrough_never] at hpasses
  exact hpasses.passesWhile

end Cursor

namespace Rule

variable {rule : Rule} {member : Char → Bool} {c : Cursor}

/-- A rule with members reads their longest run. -/
theorem read_of_member (h : rule.member? = some member) (t : Text) :
    rule.read t = Reading.run rule.kind member t := by
  cases rule with
  | number | identifier | whitespace | account | symbol | punctuation =>
      obtain rfl := Option.some.inj h
      rfl
  | string | hexColor | lineComment | brackets | phoneNumber | htmlTag | comment => cases h

/-- **Runs.**  Where a rule with members opens, it makes a token of its kind of the longest run of
them, which is not empty, and moves behind it, counting the line feeds in it in 32 bits.  That is
also where its loop ends, and what the loop passes. -/
theorem apply_run (hmember : rule.member? = some member) (hopens : rule.opens c.rest = true) :
    let s := c.source
    let start := c.position.index
    let applied := rule.apply c
    ∃ stop, start < stop ∧ s.RunsTo member start stop ∧
      applied.answer = .ok ⟨rule.kind, s.extract start stop, c.position⟩ ∧
      c.MovesOn applied.cursor ∧
      applied.cursor.position =
        ⟨stop, c.position.line + UInt32.ofNat ((s.extract start stop).count '\n')⟩ ∧
      c.PassesWhile rule.goesOn (s.extract start stop) applied.cursor := by
  intro s start applied
  have hread : rule.read c.rest = Reading.run rule.kind member c.rest := read_of_member hmember _
  have hne : 0 < (rule.read c.rest).span.length := List.length_pos_iff.2 (span_ne_nil hopens)
  have hstart : start < s.length := Cursor.index_lt_length (ne_nil_of_opens hopens)
  have hruns := Text.runsTo_takeWhile (Nat.le_of_lt hstart) member
  rw [show s.drop start = c.rest from c.rest_eq.symm] at hruns
  rw [hread] at hne
  obtain ⟨hspan, hanswer, hposition⟩ := apply_of_span hread rfl
  refine ⟨start + (c.rest.takeWhile member).length, Nat.lt_add_of_pos_right hne, hruns, hanswer,
    rule.movesOn_apply c, hposition, ?_⟩
  rw [hspan, show applied.cursor = _ from (apply_of_whole hread).2]
  exact Cursor.passesWhile_takeWhile (goesOn_eq hmember) c

/-- An identifier up to a `nul`, which the lookahead behind the text cannot be told from; blanks over
line feeds up to the end of the text, on a line that was set, which may be the last that 32 bits can
count; and an account up to a line feed. -/
theorem apply_run_up_to_nul :
    let c := (Cursor.ofText ['-', '_', '7', nul, '_']).advance 1
    let d := (Cursor.ofText "x\n \n".toList).moveTo ⟨1, 5⟩
    let last := d.moveTo ⟨1, 4294967295⟩
    let e := Cursor.ofText "@a@\n_".toList
    (identifier.opens c.rest = true ∧
      (identifier.apply c).answer = .ok ⟨.identifier, ['_', '7'], ⟨1, 1⟩⟩ ∧
      (identifier.apply c).cursor.position = ⟨3, 1⟩) ∧
    (whitespace.opens d.rest = true ∧
      (whitespace.apply d).answer = .ok ⟨.whitespace, "\n \n".toList, ⟨1, 5⟩⟩ ∧
      (whitespace.apply d).cursor.position = ⟨4, 7⟩) ∧
    (whitespace.opens last.rest = true ∧
      (whitespace.apply last).cursor.position = ⟨4, 1⟩) ∧
    (account.opens e.rest = true ∧
      (account.apply e).answer = .ok ⟨.account, "@a@".toList, ⟨0, 1⟩⟩ ∧
      (account.apply e).cursor.position = ⟨3, 1⟩) := by
  intro c d last e
  have hc : identifier.opens c.rest = true := by decide +kernel
  have hd : whitespace.opens d.rest = true := by decide +kernel
  have hlast : whitespace.opens last.rest = true := by decide +kernel
  have he : account.opens e.rest = true := by decide
  obtain ⟨i, -, hi, hidentifier, -, hci, -⟩ := apply_run rfl hc
  obtain ⟨j, -, hj, hblanks, -, hdj, -⟩ := apply_run rfl hd
  obtain ⟨n, -, hn, -, -, hwraps, -⟩ := apply_run rfl hlast
  obtain ⟨k, -, hk, haccount, -, hek, -⟩ := apply_run rfl he
  obtain rfl : i = 3 := (hi.eq (Text.runsTo_takeWhile (by decide) _)).trans (by decide +kernel)
  obtain rfl : j = 4 := (hj.eq (Text.runsTo_takeWhile (by decide) _)).trans (by decide +kernel)
  obtain rfl : n = 4 := (hn.eq (Text.runsTo_takeWhile (by decide) _)).trans (by decide +kernel)
  obtain rfl : k = 3 := (hk.eq (Text.runsTo_takeWhile (by decide) _)).trans (by decide +kernel)
  exact ⟨⟨hc, hidentifier, hci⟩, ⟨hd, hblanks, hdj⟩,
    ⟨hlast, hwraps.trans (by decide +kernel)⟩, he, haccount, hek⟩

end Rule

/-- The span of a hex color is its opening character with a run of limited length. -/
theorem Reading.length_span_hexColor (x : Char) (later : Text) :
    (hexColor (x :: later)).span.length = 1 + min 6 (later.takeWhile isLetterOrDigit).length := by
  show ((later.take 6).takeWhile isLetterOrDigit).length + 1 = _
  rw [← List.take_takeWhile, List.length_take, Nat.add_comm]

/-- No line feed stands in a hex color. -/
theorem Reading.count_span_hexColor {x : Char} (hx : x ≠ '\n') (later : Text) :
    (hexColor (x :: later)).span.count '\n' = 0 := by
  refine List.count_eq_zero.2 fun hmem => ?_
  rcases List.mem_cons.1 hmem with heq | hdigit
  · exact hx heq.symm
  · have hmember := of_mem_takeWhile hdigit
    exact absurd hmember (by decide +kernel)

namespace Rule

variable {c : Cursor}

/-- In front of a number sign, the rule for hex colors passes the sign and up to six letters or
digits, on the same line, and makes a token of them with zeros in the place of the missing ones. -/
theorem apply_hexColor_of_sign {later : Text} {digits : Nat} (hrest : c.rest = '#' :: later)
    (hdigits : digits = min 6 (later.takeWhile isLetterOrDigit).length) :
    let passed := c.source.extract c.position.index (c.position.index + 1 + digits)
    let value := passed ++ List.replicate (6 - digits) '0'
    value.length = 7 ∧
      (hexColor.apply c).answer = .ok ⟨.hexColor, value, c.position⟩ ∧
      (hexColor.apply c).cursor.position = ⟨c.position.index + 1 + digits, c.position.line⟩ := by
  intro passed value
  have hlength : (hexColor.read c.rest).span.length = 1 + digits := by
    rw [hrest, hdigits]
    exact Reading.length_span_hexColor '#' later
  have hindex : (hexColor.apply c).cursor.position.index = c.position.index + 1 + digits := by
    rw [index_cursor_apply, hlength, Nat.add_assoc]
  have hpassed : passed = (hexColor.read c.rest).span := by
    have hextract := hexColor.extract_apply c
    rwa [hindex] at hextract
  have hvalue : value = TokenKind.hexColor.valueOf (hexColor.read c.rest).span := by
    rw [TokenKind.valueOf, if_pos rfl, List.rightpad, hlength, ← hpassed, Reading.hexColorDigits,
      Nat.add_comm 1, Nat.add_sub_add_right]
  have hcount : passed.count '\n' = 0 := by
    rw [hpassed, hrest]
    exact Reading.count_span_hexColor (by decide) later
  refine ⟨?_, ?_, ?_⟩
  · rw [hvalue, hrest]
    exact Reading.length_valueOf_hexColor '#' later
  · rw [hvalue]
    refine answer_apply_of_accepted ?_
    rw [hrest]
    exact Reading.verdict_hexColor '#' later
  · rw [position_of_index_cursor_apply hindex, hcount, Position.add_ofNat_zero]

/-- **Hex colors.**  Where the rule for hex colors opens, it passes the number sign and six letters
or digits, or as many as there are in the longest run of them behind the sign, if that is shorter.
It makes a token of what it passes, with zeros in the place of the missing digits, so that the value
always has seven characters; but the cursor stands behind what was passed, on the same line, and if
digits are missing, neither a letter nor a digit stands there. -/
theorem apply_hexColor (hopens : hexColor.opens c.rest = true) :
    let s := c.source
    let start := c.position.index
    let applied := hexColor.apply c
    ∃ stop zeros, s.RunsTo isLetterOrDigit (start + 1) stop ∧
      let digits := min 6 (stop - (start + 1))
      let value := s.extract start (start + 1 + digits) ++ List.replicate zeros '0'
      digits + zeros = 6 ∧ value.length = 7 ∧
      applied.answer = .ok ⟨.hexColor, value, c.position⟩ ∧
      c.MovesOn applied.cursor ∧
      applied.cursor.position = ⟨start + 1 + digits, c.position.line⟩ ∧
      (digits < 6 →
        ∀ x, s[start + 1 + digits]? = some x → isLetter x = false ∧ isDigit x = false) := by
  intro s start applied
  obtain ⟨x, later, hrest⟩ := List.exists_cons_of_ne_nil (ne_nil_of_opens hopens)
  obtain rfl : x = '#' := by
    rw [hrest] at hopens
    exact eq_of_beq hopens
  have hstart : start < s.length := Cursor.index_lt_length (ne_nil_of_opens hopens)
  have hruns := Text.runsTo_takeWhile hstart isLetterOrDigit
  rw [show s.drop (start + 1) = later from Cursor.drop_index_succ hrest] at hruns
  refine ⟨_, 6 - min 6 (later.takeWhile isLetterOrDigit).length, hruns, ?_⟩
  rw [Nat.add_sub_cancel_left]
  intro digits value
  obtain ⟨hlength, hanswer, hposition⟩ := apply_hexColor_of_sign hrest rfl
  refine ⟨Nat.add_sub_cancel' (Nat.min_le_left _ _), hlength, hanswer, hexColor.movesOn_apply c,
    hposition, fun hshort x hx => ?_⟩
  -- Fewer than six digits are the whole run.
  have hwhole : digits = (later.takeWhile isLetterOrDigit).length := by omega
  rw [hwhole] at hx
  exact Bool.or_eq_false_iff.1 (hruns.ends x hx)

/-- Six of seven digits; an eastern digit up to a `nul`, on a line that was set; and a sign at the
end of the text, in the place of whose digits zeros stand. -/
theorem apply_hexColor_three_lengths :
    let c := Cursor.ofText "#12345ab".toList
    let d := (Cursor.ofText ['\n', '#', '٣', nul]).moveTo ⟨1, 5⟩
    let e := Cursor.ofText "#".toList
    (hexColor.opens c.rest = true ∧
      (hexColor.apply c).answer = .ok ⟨.hexColor, "#12345a".toList, ⟨0, 1⟩⟩ ∧
      (hexColor.apply c).cursor.position = ⟨7, 1⟩) ∧
    (hexColor.opens d.rest = true ∧
      (hexColor.apply d).answer = .ok ⟨.hexColor, "#٣00000".toList, ⟨1, 5⟩⟩ ∧
      (hexColor.apply d).cursor.position = ⟨3, 5⟩) ∧
    (hexColor.opens e.rest = true ∧
      (hexColor.apply e).answer = .ok ⟨.hexColor, "#000000".toList, ⟨0, 1⟩⟩ ∧
      (hexColor.apply e).cursor.position = ⟨1, 1⟩) := by
  intro c d e
  have hc : hexColor.opens c.rest = true := by decide
  have hd : hexColor.opens d.rest = true := by decide
  have he : hexColor.opens e.rest = true := by decide
  obtain ⟨i, m, hi, hm, -, hlong, -, hci, -⟩ := apply_hexColor hc
  obtain ⟨j, n, hj, hn, -, hshort, -, hdj, -⟩ := apply_hexColor hd
  obtain ⟨k, o, hk, ho, -, hnone, -, hek, -⟩ := apply_hexColor he
  obtain rfl : i = 8 := (hi.eq (Text.runsTo_takeWhile (by decide) _)).trans (by decide +kernel)
  obtain rfl : j = 3 := (hj.eq (Text.runsTo_takeWhile (by decide) _)).trans (by decide +kernel)
  obtain rfl : k = 1 := (hk.eq (Text.runsTo_takeWhile (by decide) _)).trans (by decide +kernel)
  obtain rfl : m = 0 := Nat.add_left_cancel hm
  obtain rfl : n = 5 := Nat.add_left_cancel hn
  obtain rfl : o = 6 := Nat.add_left_cancel ho
  exact ⟨⟨hc, hlong, hci⟩, ⟨hd, hshort, hdj⟩, he, hnone, hek⟩

end Rule
end SpanLexer
