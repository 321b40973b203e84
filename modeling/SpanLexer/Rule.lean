import SpanLexer.Text

/-!
# Scanning rules

A scanning rule knows one kind of span.  Rules are tried in the order of a list; the first one
that opens at the text reads the span.

* `Rule`, `Rule.name` — the rules and their names in logs.
* `Rule.all` — every rule.
* `Rule.standard`, `Rule.withBlockComments` — the two orders a scan normally uses.
-/

namespace SpanLexer

/-- The kinds of span that can be scanned.  `lineComment` knows comments that run to the end of
their line; `comment` knows those and block comments. -/
inductive Rule where
  | number
  | identifier
  | whitespace
  | string
  | hexColor
  | lineComment
  | brackets
  | phoneNumber
  | account
  | symbol
  | htmlTag
  | punctuation
  | comment
  deriving DecidableEq, Repr

namespace Rule

/-- Every rule. -/
def all : List Rule :=
  [number, identifier, whitespace, string, hexColor, lineComment, brackets, phoneNumber, account,
   symbol, htmlTag, punctuation, comment]

/-- The name of a rule. -/
def name : Rule → Text
  | number => "number".toList
  | identifier => "identifier".toList
  | whitespace => "whitespace".toList
  | string => "string".toList
  | hexColor => "hex_color".toList
  | lineComment => "line_comment".toList
  | brackets => "brackets".toList
  | phoneNumber => "phone_number".toList
  | account => "account".toList
  | symbol => "symbol".toList
  | htmlTag => "html_tag".toList
  | punctuation => "punctuation".toList
  | comment => "comment".toList

/-- The rule of a name. -/
def ofName? (word : Text) : Option Rule :=
  all.find? (fun rule => rule.name = word)

/-- Reading back the name of a rule gives the rule. -/
theorem ofName?_name (rule : Rule) : ofName? rule.name = some rule := by
  cases rule <;> decide

/-- The usual order.  Rules for longer spans come before those for the class of their opening
character. -/
def standard : List Rule :=
  [whitespace, lineComment, number, identifier, hexColor, htmlTag, string, account, brackets,
   phoneNumber, punctuation, symbol]

/-- The usual order with block comments besides line comments. -/
def withBlockComments : List Rule :=
  standard.map (fun rule => if rule = lineComment then comment else rule)

/-- Both usual orders have the rule for blanks. -/
theorem whitespace_mem_of_usual {rules : List Rule}
    (h : rules = standard ∨ rules = withBlockComments) : whitespace ∈ rules := by
  rcases h with rfl | rfl
  · decide
  · decide

end Rule
end SpanLexer
