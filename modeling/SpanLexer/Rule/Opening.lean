import SpanLexer.CharClass
import SpanLexer.Cursor
import SpanLexer.Rule

/-!
# Where a rule opens

A rule decides from the next few characters whether the text begins with a span of its kind.

* `Rule.opens` — whether the rule opens at a text; at the end of the text none does.
* `Rule.opensAt` — how a rule asks a cursor for that, and never moves it; `Rule.opensAt_eq` says that
  it asks whether the rule opens at the text that is left.
-/

namespace SpanLexer

/-- A letter or the low line: what an identifier begins with. -/
def isIdentifierStart (c : Char) : Bool := isLetter c || c == '_'

/-- What a phone number begins with: the country code and the digit after it. -/
def phonePrefix : Text := "+9665".toList

namespace Rule

/-- Whether a span of the rule begins at the text. -/
def opens (rule : Rule) : Text → Bool
  | [] => false
  | c :: later =>
      match rule with
      | number => isDigit c
      | identifier => isIdentifierStart c
      | whitespace => isWhitespace c
      | string => c == '"'
      | hexColor => c == '#'
      | lineComment => c == '/' && later.head? == some '/'
      | brackets => c == '['
      | phoneNumber => phonePrefix.isPrefixOf (c :: later)
      | account => c == '@'
      | symbol => isSymbol c
      | htmlTag => c == '<'
      | punctuation => isPunctuation c
      | comment => c == '/' && (later.head? == some '/' || later.head? == some '*')

@[simp] theorem opens_nil (rule : Rule) : rule.opens [] = false := rfl

/-- Whether a rule opens at a cursor: it asks whether text is left, and looks ahead. -/
def opensAt (rule : Rule) (c : Cursor) : Bool :=
  c.hasMore &&
    match rule with
    | number => isDigit c.head
    | identifier => isIdentifierStart c.head
    | whitespace => isWhitespace c.head
    | string => c.head == '"'
    | hexColor => c.head == '#'
    | lineComment => c.head == '/' && c.lookahead 2 == '/'
    | brackets => c.head == '['
    | phoneNumber => phonePrefix.zipIdx.all fun ahead => c.lookahead (ahead.2 + 1) == ahead.1
    | account => c.head == '@'
    | symbol => isSymbol c.head
    | htmlTag => c.head == '<'
    | punctuation => isPunctuation c.head
    | comment => c.head == '/' && (c.lookahead 2 == '/' || c.lookahead 2 == '*')

/-- Looking ahead for the characters of a word one by one is looking for the word, as long as `nul`
is none of them. -/
theorem all_lookahead_eq {word : Text} (hnul : nul ∉ word) (c : Cursor) (n : Nat) :
    ((word.zipIdx n).all fun ahead => c.lookahead (ahead.2 + 1) == ahead.1) =
      word.isPrefixOf (c.rest.drop n) := by
  induction word generalizing n with
  | nil => rfl
  | cons x word ih =>
    obtain ⟨hx, hword⟩ := not_or.1 (mt List.mem_cons.2 hnul)
    have hlater := ih hword (n + 1)
    rw [List.zipIdx_cons, List.all_cons, hlater, Cursor.lookahead_succ]
    cases hrest : c.rest.drop n with
    | nil =>
      -- Behind the end there is `nul`, which is not `x`.
      have hend : c.rest.getD n nul = nul := by
        rw [List.getD_eq_getElem?_getD, ← List.head?_drop, hrest]
        rfl
      rw [hend, beq_eq_false_iff_ne.2 hx]
      rfl
    | cons y later =>
      have hhead : c.rest.getD n nul = y := by
        rw [List.getD_eq_getElem?_getD, ← List.head?_drop, hrest]
        rfl
      rw [← List.drop_drop, hrest, hhead, List.isPrefixOf_cons_cons, Bool.beq_comm]
      rfl

/-- So is looking ahead for one character that is not `nul`. -/
theorem getD_zero_beq {x : Char} (hnul : nul ≠ x) (t : Text) :
    (t.getD 0 nul == x) = (t.head? == some x) := by
  cases t with
  | nil => exact beq_eq_false_iff_ne.2 hnul
  | cons y later => rfl

/-- **A rule asks for the text that is left.** -/
theorem opensAt_eq (rule : Rule) (c : Cursor) : rule.opensAt c = rule.opens c.rest := by
  have hnul : nul ∉ phonePrefix := by decide
  have hphone := all_lookahead_eq hnul c 0
  rw [List.drop_zero] at hphone
  unfold opensAt
  rw [Cursor.hasMore, Cursor.head]
  simp only [Cursor.lookahead_succ c 1, hphone]
  cases c.rest with
  | nil => rfl
  | cons x later =>
    simp only [List.isEmpty_cons, Bool.not_false, Bool.true_and, List.headD_cons,
      List.getD_cons_succ, opens]
    rw [getD_zero_beq (by decide), getD_zero_beq (by decide)]

/-- The rules that open at a cursor are those that open at the text that is left. -/
theorem opensAt_eq_opens (c : Cursor) :
    (fun rule : Rule => rule.opensAt c) = fun rule => rule.opens c.rest :=
  funext fun rule => rule.opensAt_eq c

end Rule
end SpanLexer
