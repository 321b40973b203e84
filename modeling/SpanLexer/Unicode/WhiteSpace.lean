import SpanLexer.Unicode.RangeTree

/-!
# White space

This module holds the characters with the property White_Space
in Unicode 16.0.0, as ranges of code points in ascending order and as a search tree over them.

* `whiteSpaceRanges` — the ranges.
* `whiteSpace` — the tree that answers membership.
-/

namespace SpanLexer
namespace Unicode

/-- The ranges of white space, in ascending order and with a gap between any two. -/
def whiteSpaceRanges : List CodeRange :=
  [⟨0x9, 0xD⟩, ⟨0x20, 0x20⟩, ⟨0x85, 0x85⟩, ⟨0xA0, 0xA0⟩, ⟨0x1680, 0x1680⟩, ⟨0x2000, 0x200A⟩,
   ⟨0x2028, 0x2029⟩, ⟨0x202F, 0x202F⟩, ⟨0x205F, 0x205F⟩, ⟨0x3000, 0x3000⟩]

/-- The search tree over `whiteSpaceRanges`. -/
def whiteSpace : RangeTree := RangeTree.ofRanges whiteSpaceRanges

end Unicode
end SpanLexer
