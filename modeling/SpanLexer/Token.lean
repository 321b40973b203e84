import SpanLexer.Position

/-!
# Tokens

A token is a piece of text with the kind that a scanning rule gave it and the position where the
piece begins.

* `TokenKind`, `TokenKind.label` — the kinds and the words that reports use for them.
* `Token` — kind, value and position.
* `Token.render` — the two lines that show a token.
-/

namespace SpanLexer

/-- What a token is.  `unexpected` marks an opening character whose span is never closed. -/
inductive TokenKind where
  | number
  | identifier
  | whitespace
  | string
  | hexColor
  | comment
  | squareBrackets
  | phoneNumber
  | account
  | symbol
  | htmlTag
  | punctuation
  | unexpected
  deriving DecidableEq, Repr

namespace TokenKind

/-- All kinds. -/
def all : List TokenKind :=
  [number, identifier, whitespace, string, hexColor, comment, squareBrackets, phoneNumber, account,
   symbol, htmlTag, punctuation, unexpected]

/-- The word for a kind. -/
def label : TokenKind → Text
  | number => "Number".toList
  | identifier => "Identifier".toList
  | whitespace => "Whitespace".toList
  | string => "String".toList
  | hexColor => "Hex color".toList
  | comment => "Comment".toList
  | squareBrackets => "Square Brackets".toList
  | phoneNumber => "Phone number".toList
  | account => "Account".toList
  | symbol => "Symbol".toList
  | htmlTag => "HTMLTag".toList
  | punctuation => "Punctuation".toList
  | unexpected => "**Unexpected Token**".toList

/-- The kind that a word names. -/
def ofLabel? (word : Text) : Option TokenKind :=
  all.find? (fun kind => kind.label = word)

/-- Reading back the word for a kind gives the kind. -/
theorem ofLabel?_label (kind : TokenKind) : ofLabel? kind.label = some kind := by
  cases kind <;> decide

end TokenKind

/-- A piece of text of one kind.  The value is the text that was read, except that a short hex
color is filled up with zeros. -/
structure Token where
  kind : TokenKind
  value : Text
  position : Position
  deriving DecidableEq, Repr

namespace Token

/-- The number of characters in the value. -/
def length (token : Token) : Nat := token.value.length

/-- Whether the value holds no character. -/
def isEmpty (token : Token) : Bool := token.value.isEmpty

/-- The value as it is, then kind, index and line. -/
def render (token : Token) : Text :=
  "Token: ".toList ++ token.value ++
  " \nType: ".toList ++ token.kind.label ++
  " | Position: ".toList ++ decimal token.position.index ++
  " | Line: ".toList ++ decimal token.position.line

end Token
end SpanLexer
