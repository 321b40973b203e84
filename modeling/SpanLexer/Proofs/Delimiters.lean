import SpanLexer.Proofs.Applying
import SpanLexer.Proofs.Lookahead

/-!
# Delimited spans

A string or brackets reach from the opening character to the first closing character behind it.  If
there is none, the rule backs out and passes over the opening character alone, except that a quote
at the very end of a text is a string.

* `Text.FirstFrom` — the first place of a character from an index on; `Text.firstFrom_idxOf` finds
  it.
* `Rule.closer?` — the closing character of a rule.
* `Rule.apply_of_reads_through` — what a rule does that reads through a closing character.
* `Rule.apply_of_closes`, `Rule.apply_string_of_lone_quote`, `Rule.apply_of_unclosed` — what the
  rules for strings and brackets do to a cursor, case by case.
* `Rule.apply_delimited` — what they do to it wherever they open.
-/

namespace SpanLexer

/-- **The first place of a character** from an index on. -/
structure Text.FirstFrom (s : Text) (x : Char) (start j : Nat) : Prop where
  le : start ≤ j
  here : s[j]? = some x
  before : ∀ i, start ≤ i → i < j → s[i]? ≠ some x

/-- A character that occurs from an index on has a first place there. -/
theorem Text.firstFrom_idxOf {s : Text} {x : Char} {start : Nat} (h : x ∈ s.drop start) :
    s.FirstFrom x start (start + (s.drop start).idxOf x) where
  le := Nat.le_add_right _ _
  here := by
    have hlt := List.idxOf_lt_length_iff.2 h
    rw [← List.getElem?_drop, List.getElem?_eq_getElem hlt, List.getElem_idxOf hlt]
  before := by
    intro i hi hlt hhere
    obtain ⟨k, rfl⟩ := Nat.exists_eq_add_of_le hi
    rw [← List.getElem?_drop] at hhere
    obtain ⟨hk, hx⟩ := List.getElem?_eq_some_iff.1 hhere
    have hbefore : ((s.drop start)[k] == x) = false :=
      List.not_of_lt_findIdx (Nat.lt_of_add_lt_add_left hlt)
    exact absurd hx (beq_eq_false_iff_ne.1 hbefore)

/-- There is one first place at most. -/
theorem Text.FirstFrom.eq {s : Text} {x : Char} {start i j : Nat} (hi : s.FirstFrom x start i)
    (hj : s.FirstFrom x start j) : i = j := by
  rcases Nat.lt_trichotomy i j with hlt | heq | hlt
  · exact absurd hi.here (hj.before i hi.le hlt)
  · exact heq
  · exact absurd hj.here (hi.before j hj.le hlt)

/-- One step passes a character that ends no line. -/
theorem Cursor.position_next {c : Cursor} {x : Char} {later : Text} (hrest : c.rest = x :: later)
    (hline : x ≠ '\n') : c.next.2.position = ⟨c.position.index + 1, c.position.line⟩ := by
  have hcount : [x].count '\n' = 0 := List.count_eq_zero.2 fun hmem =>
    hline (List.mem_singleton.1 hmem).symm
  show c.position.after (c.rest.take 1) = _
  rw [hrest, List.take_succ_cons, List.take_zero, Position.after_of_count_eq_zero hcount]
  rfl

namespace Rule

variable {rule : Rule} {closing : Char} {c : Cursor}

/-- The closing character of a rule for delimited spans. -/
def closer? : Rule → Option Char
  | string => some '"'
  | brackets => some ']'
  | number | identifier | whitespace | hexColor | lineComment | phoneNumber | account | symbol
  | htmlTag | punctuation | comment => none

/-- A rule with a closing character reads delimited spans. -/
theorem read_of_closer (h : rule.closer? = some closing) (t : Text) :
    rule.read t = Reading.delimited rule.kind closing t := by
  cases rule with
  | string | brackets =>
      obtain rfl := Option.some.inj h
      rfl
  | number | identifier | whitespace | hexColor | lineComment | phoneNumber | account | symbol
  | htmlTag | punctuation | comment => cases h

/-- Where a rule with a closing character opens, the opening character ends no line, and it is the
closing one for strings only. -/
theorem opening_of_closer {x : Char} {later : Text} (hcloser : rule.closer? = some closing)
    (hopens : rule.opens (x :: later) = true) : x ≠ '\n' ∧ (x = closing ↔ rule = .string) := by
  cases rule with
  | string | brackets =>
      obtain rfl := Option.some.inj hcloser
      have hx := eq_of_beq hopens
      subst hx
      decide
  | number | identifier | whitespace | hexColor | lineComment | phoneNumber | account | symbol
  | htmlTag | punctuation | comment => cases hcloser

/-- A rule whose span goes through the first closing character behind the opening one makes a token
of the text up to there, and moves behind it. -/
theorem apply_of_reads_through {x : Char} {later : Text} (hrest : c.rest = x :: later)
    (hmem : closing ∈ later)
    (hread : rule.read c.rest =
      Reading.whole rule.kind ((x :: later).take (later.idxOf closing + 2))) :
    ∃ j, c.source.FirstFrom closing (c.position.index + 1) j ∧
      (rule.apply c).answer =
        .ok ⟨rule.kind, c.source.extract c.position.index (j + 1), c.position⟩ ∧
      (rule.apply c).cursor.position = ⟨j + 1,
        c.position.line + UInt32.ofNat ((c.source.extract c.position.index (j + 1)).count '\n')⟩ := by
  have hlater := Cursor.drop_index_succ hrest
  have hstop : c.position.index + ((x :: later).take (later.idxOf closing + 2)).length =
      c.position.index + 1 + later.idxOf closing + 1 := by
    rw [List.length_take_of_le (Nat.succ_le_succ (List.idxOf_lt_length_iff.2 hmem))]
    omega
  rw [← hlater] at hmem
  have hfirst := Text.firstFrom_idxOf hmem
  rw [hlater] at hfirst
  obtain ⟨-, hanswer, hposition⟩ := apply_of_span hread hstop
  exact ⟨_, hfirst, hanswer, hposition⟩

/-- With a closing character behind the opening one, a rule makes a token of the text up to the
first of them. -/
theorem apply_of_closes {x : Char} {later : Text} (hcloser : rule.closer? = some closing)
    (hrest : c.rest = x :: later) (hmem : closing ∈ later) :
    ∃ j, c.source.FirstFrom closing (c.position.index + 1) j ∧
      (rule.apply c).answer =
        .ok ⟨rule.kind, c.source.extract c.position.index (j + 1), c.position⟩ ∧
      (rule.apply c).cursor.position = ⟨j + 1,
        c.position.line + UInt32.ofNat ((c.source.extract c.position.index (j + 1)).count '\n')⟩ := by
  refine apply_of_reads_through hrest hmem ?_
  rw [read_of_closer hcloser, hrest, Reading.delimited_of_mem hmem]
  rfl

/-- A quote that is all that is left is a string. -/
theorem apply_string_of_lone_quote (hrest : c.rest = ['"']) :
    (string.apply c).answer = .ok ⟨.string, ['"'], c.position⟩ ∧
      (string.apply c).cursor = c.next.2 := by
  have hread : string.read c.rest = Reading.whole .string ['"'] := by
    rw [read_of_closer rfl, hrest, Reading.delimited_singleton]
    rfl
  refine ⟨answer_apply_of_accepted (congrArg Reading.verdict hread), ?_⟩
  rw [cursor_apply, hread]
  rfl

/-- Without a closing character a rule backs out, unless the opening one is a closing one, too, and
all that is left. -/
theorem apply_of_unclosed {x : Char} {later : Text} (hcloser : rule.closer? = some closing)
    (hrest : c.rest = x :: later) (hmem : closing ∉ later)
    (hlone : ¬ (later = [] ∧ x = closing)) :
    (rule.apply c).answer = .ok ⟨.unexpected, [x], c.position⟩ ∧
      (rule.apply c).cursor = c.next.2 := by
  have hread : rule.read c.rest = Reading.recovery c.rest := by
    rw [read_of_closer hcloser, hrest]
    exact Reading.delimited_of_not_mem hmem hlone
  have happly := apply_of_recovery hread (by rw [hrest]; exact List.cons_ne_nil x later)
  rwa [hrest] at happly

/-- **Delimited spans.**  Where the rule for strings or the one for brackets opens: if its closing
character comes behind the opening one, the rule makes a token of all the text up to the first of
them and moves behind that one.  Otherwise a quote that is the last character of the text is a
string; and all else is an unexpected token of the opening character alone, with the cursor as one
step leaves it. -/
theorem apply_delimited (hcloser : rule.closer? = some closing)
    (hopens : rule.opens c.rest = true) :
    let s := c.source
    let start := c.position.index
    let applied := rule.apply c
    if closing ∈ s.drop (start + 1) then
      ∃ j, s.FirstFrom closing (start + 1) j ∧
        applied.answer = .ok ⟨rule.kind, s.extract start (j + 1), c.position⟩ ∧
        c.MovesOn applied.cursor ∧
        applied.cursor.position =
          ⟨j + 1, c.position.line + UInt32.ofNat ((s.extract start (j + 1)).count '\n')⟩
    else if rule = .string ∧ start + 1 = s.length then
      applied.answer = .ok ⟨.string, ['"'], c.position⟩ ∧
        c.MovesOn applied.cursor ∧ applied.cursor.position = ⟨s.length, c.position.line⟩
    else
      ∃ opening, s[start]? = some opening ∧
        applied.answer = .ok ⟨.unexpected, [opening], c.position⟩ ∧
        applied.cursor = c.next.2 ∧ applied.cursor.position = ⟨start + 1, c.position.line⟩ ∧
        applied.cursor.halted = c.halted := by
  intro s start applied
  have hmoves : c.MovesOn applied.cursor := rule.movesOn_apply c
  obtain ⟨x, later, hrest⟩ := List.exists_cons_of_ne_nil (ne_nil_of_opens hopens)
  obtain ⟨hline, hquote⟩ := opening_of_closer hcloser (hrest ▸ hopens)
  have hnext : c.next.2.position = ⟨start + 1, c.position.line⟩ :=
    Cursor.position_next hrest hline
  have hlater : s.drop (start + 1) = later := Cursor.drop_index_succ hrest
  have hhere : s[start]? = some x := by rw [← c.head?_rest, hrest, List.head?_cons]
  have hend : later = [] ↔ start + 1 = s.length := by
    obtain ⟨hstart, -⟩ := List.getElem?_eq_some_iff.1 hhere
    rw [← hlater, List.drop_eq_nil_iff]
    omega
  rw [hlater]
  split
  · next hcloses =>
      obtain ⟨j, hfirst, hanswer, hposition⟩ := apply_of_closes hcloser hrest hcloses
      exact ⟨j, hfirst, hanswer, hmoves, hposition⟩
  · next hopen =>
      split
      · next hlast =>
          obtain ⟨rfl, hlength⟩ := hlast
          obtain rfl := hend.2 hlength
          obtain rfl := hquote.2 rfl
          obtain rfl := Option.some.inj hcloser
          obtain ⟨hanswer, hcursor⟩ := apply_string_of_lone_quote hrest
          refine ⟨hanswer, hmoves, ?_⟩
          rw [← hlength, ← hnext]
          exact congrArg Cursor.position hcursor
      · next hlast =>
          have hlone : ¬ (later = [] ∧ x = closing) := fun hboth =>
            hlast ⟨hquote.1 hboth.2, hend.1 hboth.1⟩
          obtain ⟨hanswer, hcursor⟩ := apply_of_unclosed hcloser hrest hopen hlone
          refine ⟨x, hhere, hanswer, hcursor, ?_, hmoves.halted_eq⟩
          rw [← hnext]
          exact congrArg Cursor.position hcursor

/-- A string over a line feed, a quote that ends the text, and brackets that nothing closes, where
the line feeds behind are not counted. -/
theorem apply_delimited_three_ways :
    let c := (Cursor.ofText "x\"a\nb\"c\"".toList).advance 1
    let d := (Cursor.ofText "x\"".toList).advance 1
    let e := Cursor.ofText "[\n\n".toList
    (string.opens c.rest = true ∧
      (string.apply c).answer = .ok ⟨.string, "\"a\nb\"".toList, ⟨1, 1⟩⟩ ∧
      (string.apply c).cursor.position = ⟨6, 2⟩) ∧
    (string.opens d.rest = true ∧ (string.apply d).answer = .ok ⟨.string, ['"'], ⟨1, 1⟩⟩ ∧
      (string.apply d).cursor.position = ⟨2, 1⟩) ∧
    (brackets.opens e.rest = true ∧ (brackets.apply e).cursor = e.next.2 ∧
      (brackets.apply e).cursor.position = ⟨1, 1⟩) := by
  intro c d e
  have hc : string.opens c.rest = true := by decide
  have hd : string.opens d.rest = true := by decide
  have he : brackets.opens e.rest = true := by decide
  have hclosed := apply_delimited rfl hc
  have hlone := apply_delimited rfl hd
  have hunclosed := apply_delimited rfl he
  dsimp only at hclosed hlone hunclosed
  rw [if_pos (by decide)] at hclosed
  rw [if_neg (by decide), if_pos (by decide)] at hlone
  rw [if_neg (by decide), if_neg (by decide)] at hunclosed
  obtain ⟨j, hfirst, hanswer, -, hposition⟩ := hclosed
  obtain rfl : j = 5 := hfirst.eq (Text.firstFrom_idxOf (by decide))
  obtain ⟨hquote, -, hend⟩ := hlone
  obtain ⟨-, -, -, hnext, hstep, -⟩ := hunclosed
  exact ⟨⟨hc, hanswer, hposition⟩, ⟨hd, hquote, hend⟩, he, hnext, hstep⟩

end Rule
end SpanLexer
