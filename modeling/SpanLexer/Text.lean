/-!
# Scanned text

Text is the list of its characters, so every index, offset and length in this library counts
characters, never bytes.

* `Text` — the text that is scanned, and the text of tokens, messages and reports.
* `nul` — the character that lookahead yields where there is none.
* `takeThrough` — a list up to and including the first element of a kind: how a closing
  character ends a span.
* `decimal` — a number as it is written in messages.
* `Text.lines` — the lines of a text, each with the line feed that ends it.
* `Text.firstLine` — the first line of a text, without what ends it.
-/

namespace SpanLexer

/-- Text as the list of its characters (Unicode scalar values). -/
abbrev Text := List Char

/-- The character that stands for "nothing here".  It may also occur in a text. -/
def nul : Char := '\x00'

/-- The elements up to and including the first one that satisfies `stop`, or all of them. -/
def takeThrough {α : Type} (stop : α → Bool) (items : List α) : List α :=
  items.take (items.findIdx stop + 1)

@[simp] theorem takeThrough_nil {α : Type} (stop : α → Bool) :
    takeThrough stop ([] : List α) = [] := rfl

theorem takeThrough_cons {α : Type} (stop : α → Bool) (item : α) (items : List α) :
    takeThrough stop (item :: items) =
      if stop item then [item] else item :: takeThrough stop items := by
  cases h : stop item with
  | true => simp [takeThrough, List.findIdx_cons, h]
  | false => simp [takeThrough, List.findIdx_cons, h]

theorem takeThrough_prefix_self {α : Type} (stop : α → Bool) (items : List α) :
    takeThrough stop items <+: items :=
  List.take_prefix _ _

/-- A nonempty list has a nonempty part up to the first stop. -/
theorem takeThrough_cons_ne_nil {α : Type} (stop : α → Bool) (item : α) (items : List α) :
    takeThrough stop (item :: items) ≠ [] := by
  simp [takeThrough]

/-- Without stops, all comes up to the first stop. -/
theorem takeThrough_never {α : Type} (items : List α) :
    takeThrough (fun _ => false) items = items := by
  induction items with
  | nil => rfl
  | cons item items ih => rw [takeThrough_cons, if_neg Bool.false_ne_true, ih]

/-- A number in decimal digits, without leading zeros. -/
def decimal (n : Nat) : Text := Nat.toDigits 10 n

/-- Different numbers are written differently. -/
theorem decimal_inj {m n : Nat} (h : decimal m = decimal n) : m = n := by
  have hvalue := congrArg (fun digits => Nat.ofDigitChars 10 digits 0) h
  simpa [decimal, Nat.ofDigitChars_toDigits] using hvalue

/-- Nothing but digits stands in a number. -/
theorem not_mem_decimal {x : Char} (h : x.isDigit = false) (n : Nat) : x ∉ decimal n := by
  intro hmem
  have hdigit := Nat.isDigit_of_mem_toDigits (by decide) (by decide) hmem
  rw [h] at hdigit
  cases hdigit

namespace Text

/-- Puts a character in front of the first of some lines, or of a new line after a line feed. -/
def consLine (c : Char) : List Text → List Text
  | [] => [[c]]
  | line :: lines => if c = '\n' then [c] :: line :: lines else (c :: line) :: lines

/-- The lines of a text, each with the line feed that ends it; the last may have none. -/
def lines (t : Text) : List Text :=
  t.foldr consLine []

@[simp] theorem lines_nil : lines [] = [] := rfl

@[simp] theorem lines_cons (c : Char) (t : Text) : lines (c :: t) = consLine c (lines t) := rfl

theorem flatten_consLine (c : Char) (ls : List Text) :
    (consLine c ls).flatten = c :: ls.flatten := by
  cases ls with
  | nil => rfl
  | cons line lines => by_cases h : c = '\n' <;> simp [consLine, h]

/-- Splitting into lines loses nothing. -/
theorem flatten_lines (t : Text) : (lines t).flatten = t := by
  induction t with
  | nil => rfl
  | cons c t ih => rw [lines_cons, flatten_consLine, ih]

/-- The first line of a text without its ending: a line feed, or a carriage return and a line
feed.  A carriage return anywhere else belongs to the line. -/
def firstLine (t : Text) : Text :=
  let line := t.takeWhile (· != '\n')
  if line.length < t.length ∧ line.getLast? = some '\r' then line.dropLast else line

/-- A text without a line feed is its own first line. -/
theorem firstLine_of_not_mem {t : Text} (h : '\n' ∉ t) : firstLine t = t := by
  have hline : t.takeWhile (· != '\n') = t := by
    induction t with
    | nil => rfl
    | cons c t ih =>
      simp only [List.mem_cons, not_or] at h
      simp [ih h.2, Ne.symm h.1]
  simp [firstLine, hline]

end Text
end SpanLexer
