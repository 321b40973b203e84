import SpanLexer.Rule.Opening
import SpanLexer.ScanError
import SpanLexer.Token

/-!
# What a rule reads

A rule reads a span from the beginning of a text and passes a verdict on it.  It may be asked to
read where it does not open; the definitions say what it reads then, too.

* `Reading`, `Verdict` — a span with what became of it.
* `Rule.read` — what each rule reads.
* `Rule.span_prefix_self` — the span is what the text begins with.
* `Rule.span_ne_nil` — where a rule opens, it reads at least one character.
-/

namespace SpanLexer

/-- What became of a span. -/
inductive Verdict where
  /-- The span is a token of this kind and value. -/
  | accepted (kind : TokenKind) (value : Text)
  /-- The span is malformed; its opening character alone is passed over. -/
  | recovered
  /-- The span is a phone number of a wrong length. -/
  | rejected (number : Text)
  deriving DecidableEq, Repr

/-- The span that a rule reads, and the verdict on it. -/
structure Reading where
  span : Text
  verdict : Verdict
  deriving DecidableEq, Repr

namespace Reading

/-- A span that is a token as it stands. -/
def whole (kind : TokenKind) (span : Text) : Reading := ⟨span, .accepted kind span⟩

/-- Passing over the opening character of a malformed span. -/
def recovery (t : Text) : Reading := ⟨t.take 1, .recovered⟩

/-- The longest run of characters that satisfy `member`. -/
def run (kind : TokenKind) (member : Char → Bool) (t : Text) : Reading :=
  whole kind (t.takeWhile member)

/-- A span from its opening character to the first `close` after it, or to the end of the text.
What does not end with `close` is malformed. -/
def delimited (kind : TokenKind) (close : Char) : Text → Reading
  | [] => recovery []
  | c :: later =>
      let span := c :: takeThrough (· == close) later
      if span.getLast? = some close then whole kind span else recovery (c :: later)

/-- The number of digits of a hex color. -/
def hexColorDigits : Nat := 6

/-- A hex color: up to six letters or digits after the opening character.  Missing digits are
filled up with zeros in the value. -/
def hexColor (t : Text) : Reading :=
  let digits := (t.tail.take hexColorDigits).takeWhile isLetterOrDigit
  let zeros := List.replicate (hexColorDigits - digits.length) '0'
  ⟨t.take 1 ++ digits, .accepted .hexColor (t.headD nul :: (digits ++ zeros))⟩

/-- A comment that takes the rest of the line and the line feed. -/
def lineComment (t : Text) : Reading :=
  if ['/', '/'].isPrefixOf t then whole .comment (takeThrough (· == '\n') t) else recovery t

/-- A phone number: everything up to a space, but no more than two characters beyond the expected
length, so that longer numbers are noticed. -/
def phoneNumber (t : Text) : Reading :=
  let later := (t.tail.take (phoneNumberLength + 1)).takeWhile (· != ' ')
  let number := t.headD nul :: later
  ⟨t.take 1 ++ later,
    if number.length = phoneNumberLength then .accepted .phoneNumber number else .rejected number⟩

/-- A phone number by its first character. -/
theorem phoneNumber_cons (c : Char) (later : Text) :
    let number := c :: (later.take (phoneNumberLength + 1)).takeWhile (· != ' ')
    phoneNumber (c :: later) =
      ⟨number, if number.length = phoneNumberLength then .accepted .phoneNumber number
        else .rejected number⟩ :=
  rfl

/-- A tag: letters, digits and the characters of `</>`, up to the first `>`. -/
def htmlTag (t : Text) : Reading :=
  whole .htmlTag
    (takeThrough (· == '>') (t.takeWhile (fun c => isLetterOrDigit c || "</>".toList.contains c)))

/-- What follows the first character of a comment: the rest of its line without the line feed, or
less if a `*` with a `/` after it comes before that. -/
def commentTail (t : Text) : Text :=
  let line := t.tail.takeWhile (· != '\n')
  line.take ((t.zip line).findIdx (· == ('*', '/')) + 1)

/-- A comment that ends before the line feed, or with the mark that closes a block comment. -/
def comment (t : Text) : Reading :=
  ⟨t.take 1 ++ commentTail t, .accepted .comment (t.headD nul :: commentTail t)⟩

end Reading

/-- What a rule reads from the beginning of a text. -/
def Rule.read : Rule → Text → Reading
  | number => Reading.run .number isDigit
  | identifier => Reading.run .identifier (fun c => isLetterOrDigit c || c == '_')
  | whitespace => Reading.run .whitespace isWhitespace
  | string => Reading.delimited .string '"'
  | hexColor => Reading.hexColor
  | lineComment => Reading.lineComment
  | brackets => Reading.delimited .squareBrackets ']'
  | phoneNumber => Reading.phoneNumber
  | account => Reading.run .account (fun c => isLetterOrDigit c || c == '@')
  | symbol => Reading.run .symbol isSymbol
  | htmlTag => Reading.htmlTag
  | punctuation => Reading.run .punctuation isPunctuation
  | comment => Reading.comment

namespace Reading

/-- The first character of a text, followed by what the text after it begins with. -/
private theorem take_one_append_prefix_self {t later : Text} (h : later <+: t.tail) :
    t.take 1 ++ later <+: t := by
  cases t with
  | nil => simpa using h
  | cons c t => simpa using h

/-- The first character and a run of limited length after it. -/
theorem bounded_prefix_self (t : Text) (limit : Nat) (member : Char → Bool) :
    t.take 1 ++ (t.tail.take limit).takeWhile member <+: t := by
  have hrun : (t.tail.take limit).takeWhile member <+: t.tail.take limit :=
    List.takeWhile_prefix _
  exact take_one_append_prefix_self (hrun.trans (List.take_prefix _ _))

/-- A run of limited length keeps within the limit. -/
theorem length_bounded_le {α : Type} (items : List α) (limit : Nat) (member : α → Bool) :
    ((items.take limit).takeWhile member).length ≤ limit :=
  Nat.le_trans (List.takeWhile_prefix member).length_le (List.length_take_le limit items)

theorem commentTail_prefix_tail (t : Text) : commentTail t <+: t.tail :=
  List.IsPrefix.trans (List.take_prefix _ _) <| List.takeWhile_prefix _

@[simp] theorem commentTail_singleton (c : Char) : commentTail [c] = [] := rfl

/-- The characters of a comment one by one: a line feed ends it, and so does a `/` behind a `*`. -/
theorem commentTail_cons_cons (c d : Char) (t : Text) :
    commentTail (c :: d :: t) =
      if d = '\n' then [] else if (c, d) = ('*', '/') then [d] else d :: commentTail (d :: t) := by
  by_cases hfeed : d = '\n'
  · simp [commentTail, hfeed]
  · have hline : (d :: t).takeWhile (· != '\n') = d :: t.takeWhile (· != '\n') := by simp [hfeed]
    rw [if_neg hfeed]
    unfold commentTail
    dsimp only [List.tail_cons]
    rw [hline, List.zip_cons_cons, List.findIdx_cons]
    by_cases hclose : (c, d) = ('*', '/')
    · rw [if_pos hclose, beq_iff_eq.2 hclose]
      rfl
    · rw [if_neg hclose, beq_eq_false_iff_ne.2 hclose]
      rfl

theorem delimited_prefix_self (kind : TokenKind) (close : Char) (t : Text) :
    (delimited kind close t).span <+: t := by
  cases t with
  | nil => simp [delimited, recovery]
  | cons c later =>
    simp only [delimited]
    split
    · simpa [whole] using takeThrough_prefix_self _ later
    · exact List.take_prefix _ _

theorem delimited_cons_ne_nil (kind : TokenKind) (close c : Char) (later : Text) :
    (delimited kind close (c :: later)).span ≠ [] := by
  simp only [delimited]
  split
  · simp [whole]
  · simp [recovery]

end Reading

namespace Rule

/-- Whatever a rule reads, it reads from the beginning of the text. -/
theorem span_prefix_self (rule : Rule) (t : Text) : (rule.read t).span <+: t := by
  cases rule with
  | number => exact List.takeWhile_prefix _
  | identifier => exact List.takeWhile_prefix _
  | whitespace => exact List.takeWhile_prefix _
  | string => exact Reading.delimited_prefix_self _ _ t
  | hexColor => exact Reading.bounded_prefix_self t _ _
  | lineComment =>
    simp only [read, Reading.lineComment]
    split
    · exact takeThrough_prefix_self _ t
    · exact List.take_prefix _ _
  | brackets => exact Reading.delimited_prefix_self _ _ t
  | phoneNumber => exact Reading.bounded_prefix_self t _ _
  | account => exact List.takeWhile_prefix _
  | symbol => exact List.takeWhile_prefix _
  | htmlTag => exact (takeThrough_prefix_self _ _).trans <| List.takeWhile_prefix _
  | punctuation => exact List.takeWhile_prefix _
  | comment => exact Reading.take_one_append_prefix_self (Reading.commentTail_prefix_tail t)

/-- A rule that opens reads at least one character. -/
theorem span_ne_nil {rule : Rule} {t : Text} (h : rule.opens t = true) :
    (rule.read t).span ≠ [] := by
  cases t with
  | nil => simp at h
  | cons c later =>
    cases rule with
    | number => simp_all [opens, read, Reading.run, Reading.whole]
    | identifier =>
      simp only [opens, isIdentifierStart] at h
      have hc : (isLetterOrDigit c || c == '_') = true := by
        simp only [isLetterOrDigit, Bool.or_eq_true] at h ⊢
        exact h.imp_left Or.inl
      simp [read, Reading.run, Reading.whole, hc]
    | whitespace => simp_all [opens, read, Reading.run, Reading.whole]
    | string => exact Reading.delimited_cons_ne_nil _ _ c later
    | hexColor => simp [read, Reading.hexColor]
    | lineComment =>
      simp only [read, Reading.lineComment]
      split
      · exact takeThrough_cons_ne_nil _ _ _
      · simp [Reading.recovery]
    | brackets => exact Reading.delimited_cons_ne_nil _ _ c later
    | phoneNumber => simp [read, Reading.phoneNumber]
    | account => simp_all [opens, read, Reading.run, Reading.whole]
    | symbol => simp_all [opens, read, Reading.run, Reading.whole]
    | htmlTag =>
      simp only [opens, beq_iff_eq] at h
      subst h
      simp [read, Reading.htmlTag, Reading.whole, takeThrough_cons]
    | punctuation => simp_all [opens, read, Reading.run, Reading.whole]
    | comment => simp [read, Reading.comment]

end Rule
end SpanLexer
