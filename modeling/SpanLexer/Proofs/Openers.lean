import Mathlib.Data.List.Pairwise
import SpanLexer.Rule.Opening

/-!
# The characters at which rules open

Digits, letters, white space, symbols and punctuation marks are five classes without a common
character.  A rule opens at the members of one of them, or at one character of its own.

* `Unicode.RangeTree.misses` — a search that finds whether a tree of ranges meets a range.
* `CharClass.eq_of_holds` — a character belongs to at most one of the five classes.
* `Rule.class?`, `Rule.mark?` — the class and the one other character at which a rule opens.
* `Rule.class_or_mark_of_opens` — a rule opens nowhere else; `Rule.exists_later_of_mark` says so of
  the rules that have no class.
-/

namespace SpanLexer

namespace Unicode.RangeTree

/-- Whether the search for a range ends without a range of the tree that meets it. -/
def misses : RangeTree → CodeRange → Bool
  | leaf, _ => true
  | node left range right, r =>
      if r.last < range.first then left.misses r
      else if max range.first range.last < r.first then right.misses r
      else false

/-- A tree that misses a range holds no code point of it: the search for the code point takes the
same way as the search for the range. -/
theorem not_contains_of_misses {tree : RangeTree} {r : CodeRange} {n : Nat}
    (hmisses : tree.misses r = true) (hn : r.contains n = true) : tree.contains n = false := by
  simp only [CodeRange.contains, Bool.and_eq_true, decide_eq_true_eq] at hn
  induction tree with
  | leaf => rfl
  | node left range right ihl ihr =>
      rw [misses] at hmisses
      rw [contains]
      split at hmisses
      · next hbelow =>
          rw [if_pos (by omega)]
          exact ihl hmisses
      · split at hmisses
        · next habove =>
            rw [if_neg (by omega), if_pos (by omega)]
            exact ihr hmisses
        · cases hmisses

end Unicode.RangeTree

namespace CharClass

open Unicode (RangeTree)

/-- The classes that are no union of others. -/
def basic : List CharClass := [whitespace, digit, punctuation, symbol, letter]

/-- Whether no range of the first class meets one of the second. -/
def apart (a b : CharClass) : Bool :=
  a.ranges.all (RangeTree.ofRanges b.ranges).misses

/-- A basic class is the set of its ranges. -/
theorem holds_eq_contains {cls : CharClass} (h : cls ∈ basic) (c : Char) :
    cls.holds c = (RangeTree.ofRanges cls.ranges).contains c.toNat := by
  cases cls with
  | letterOrDigit => exact absurd h (by decide)
  | digit | letter | whitespace | symbol | punctuation => rfl

/-- The ranges of the basic classes lie apart.  The larger class of a pair comes second, so that
it is the one that is searched. -/
theorem pairwise_apart : basic.Pairwise (fun a b => a.apart b = true) := by
  decide +kernel

theorem not_holds_of_apart {a b : CharClass} {c : Char} (ha : a ∈ basic) (hb : b ∈ basic)
    (hapart : a.apart b = true) (h : a.holds c = true) : b.holds c = false := by
  rw [holds_eq_contains ha] at h
  rw [holds_eq_contains hb]
  obtain ⟨range, hrange, hcontains⟩ := RangeTree.exists_of_contains h
  rw [RangeTree.toList_ofRanges] at hrange
  exact RangeTree.not_contains_of_misses (List.all_eq_true.1 hapart range hrange) hcontains

/-- **A character belongs to at most one basic class.** -/
theorem eq_of_holds {a b : CharClass} {c : Char} (ha : a ∈ basic) (hb : b ∈ basic)
    (hac : a.holds c = true) (hbc : b.holds c = true) : a = b := by
  have hsingle : basic.Pairwise (fun a b => a.holds c = true → b.holds c = true → a = b) := by
    refine pairwise_apart.imp_of_mem fun ha hb hapart hac hbc => ?_
    rw [not_holds_of_apart ha hb hapart hac] at hbc
    cases hbc
  have : Std.Symm (fun a b : CharClass => a.holds c = true → b.holds c = true → a = b) :=
    ⟨fun _ _ h hb ha => (h ha hb).symm⟩
  exact hsingle.forall_of_forall (fun _ _ _ _ => rfl) ha hb hac hbc

end CharClass

namespace Rule

/-- The class of characters at each of which a rule opens. -/
def class? : Rule → Option CharClass
  | number => some .digit
  | identifier => some .letter
  | whitespace => some .whitespace
  | symbol => some .symbol
  | punctuation => some .punctuation
  | string | hexColor | lineComment | brackets | phoneNumber | account | htmlTag | comment => none

/-- The one other character at which a rule opens, perhaps only if the right ones follow. -/
def mark? : Rule → Option Char
  | identifier => some '_'
  | string => some '"'
  | hexColor => some '#'
  | lineComment => some '/'
  | brackets => some '['
  | phoneNumber => some '+'
  | account => some '@'
  | htmlTag => some '<'
  | comment => some '/'
  | number | whitespace | symbol | punctuation => none

/-- The classes at which rules open are basic. -/
theorem class_mem_basic {rule : Rule} {cls : CharClass} (h : rule.class? = some cls) :
    cls ∈ CharClass.basic := by
  cases rule with
  | number | identifier | whitespace | symbol | punctuation =>
      obtain rfl := Option.some.inj h
      decide
  | string | hexColor | lineComment | brackets | phoneNumber | account | htmlTag | comment =>
      cases h

/-- **Where rules open.**  A rule opens only at a member of its class or at its mark. -/
theorem class_or_mark_of_opens {rule : Rule} {c : Char} {later : Text}
    (h : rule.opens (c :: later) = true) :
    (∃ cls, rule.class? = some cls ∧ cls.holds c = true) ∨ rule.mark? = some c := by
  cases rule with
  | number | whitespace | symbol | punctuation => exact Or.inl ⟨_, rfl, h⟩
  | identifier =>
      simp only [opens, isIdentifierStart, Bool.or_eq_true, beq_iff_eq] at h
      rcases h with hletter | rfl
      · exact Or.inl ⟨_, rfl, hletter⟩
      · exact Or.inr rfl
  | string | hexColor | brackets | account | htmlTag =>
      simp only [opens, beq_iff_eq] at h
      subst h
      exact Or.inr rfl
  | lineComment | comment =>
      simp only [opens, Bool.and_eq_true, beq_iff_eq] at h
      obtain ⟨rfl, -⟩ := h
      exact Or.inr rfl
  | phoneNumber =>
      simp only [opens, phonePrefix, String.toList, List.isPrefixOf_iff_prefix] at h
      obtain ⟨rfl, -⟩ := List.cons_prefix_cons.1 h
      exact Or.inr rfl

/-- Where a rule without a class opens, its mark stands. -/
theorem exists_later_of_mark {rule : Rule} {mark : Char} {t : Text} (hclass : rule.class? = none)
    (hmark : rule.mark? = some mark) (h : rule.opens t = true) : ∃ later, t = mark :: later := by
  cases t with
  | nil => cases h
  | cons x later =>
      rcases class_or_mark_of_opens h with ⟨cls, hcls, -⟩ | hx
      · rw [hclass] at hcls
        cases hcls
      · rw [hmark] at hx
        exact ⟨later, by rw [Option.some.inj hx]⟩

end Rule
end SpanLexer
