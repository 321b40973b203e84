/-!
# Sets of code points

A Unicode property is a set of code points, published as a list of ranges.  This module gives
such lists a search tree and the few operations on ranges that reports about a set need.

* `CodeRange` — the code points from a first to a last one.
* `RangeTree` — a binary search tree of ranges, `RangeTree.ofRanges` builds a balanced one.
* `RangeTree.contains` — membership, in as many steps as the tree is deep.
* `CodeRange.clip`, `CodeRange.join` — the part of a range inside bounds, and a sorted list of
  ranges with neighbours that touch made one.
* `RangeTree.exists_of_contains` — a member of the tree lies in one of its ranges.
-/

namespace SpanLexer
namespace Unicode

/-- The code points from `first` to `last`, both included. -/
structure CodeRange where
  first : Nat
  last : Nat
  deriving DecidableEq, Repr

namespace CodeRange

/-- Whether a code point lies in the range. -/
def contains (r : CodeRange) (n : Nat) : Bool := r.first ≤ n && n ≤ r.last

/-- The part of a range between two bounds, if there is any. -/
def clip (lower upper : Nat) (r : CodeRange) : Option CodeRange :=
  if max lower r.first ≤ min upper r.last then
    some ⟨max lower r.first, min upper r.last⟩
  else
    none

/-- Puts a range in front of later ones, as one range with the first of them if they touch. -/
def cons (r : CodeRange) : List CodeRange → List CodeRange
  | [] => [r]
  | next :: later =>
      if next.first ≤ r.last + 1 then ⟨r.first, max r.last next.last⟩ :: later
      else r :: next :: later

/-- Ranges in ascending order, with those that touch made one. -/
def join (ranges : List CodeRange) : List CodeRange :=
  ranges.foldr cons []

/-- The ranges of two ascending lists, in ascending order. -/
def union (left right : List CodeRange) : List CodeRange :=
  join (List.merge left right (fun a b => a.first ≤ b.first))

end CodeRange

/-- A binary search tree of ranges: the ranges on the left lie below the root's, those on the
right above it. -/
inductive RangeTree where
  | leaf
  | node (left : RangeTree) (range : CodeRange) (right : RangeTree)

namespace RangeTree

/-- The ranges of a tree in order. -/
def toList : RangeTree → List CodeRange
  | leaf => []
  | node left range right => left.toList ++ range :: right.toList

/-- Whether the search for a code point ends in a range that holds it. -/
def contains : RangeTree → Nat → Bool
  | leaf, _ => false
  | node left range right, n =>
      if n < range.first then left.contains n
      else if range.last < n then right.contains n
      else true

/-- The tree of a list of ranges with its middle range at the root, at most `depth` deep. -/
def build : Nat → List CodeRange → RangeTree
  | 0, _ => leaf
  | depth + 1, ranges =>
      match ranges.drop (ranges.length / 2) with
      | [] => leaf
      | range :: later =>
          node (build depth (ranges.take (ranges.length / 2))) range (build depth later)

/-- The balanced search tree of an ascending list of ranges. -/
def ofRanges (ranges : List CodeRange) : RangeTree :=
  build ranges.length ranges

theorem toList_build (depth : Nat) (ranges : List CodeRange) (h : ranges.length ≤ depth) :
    (build depth ranges).toList = ranges := by
  induction depth generalizing ranges with
  | zero => simp_all [build, toList]
  | succ depth ih =>
    rw [build]
    have hlen := congrArg List.length (List.take_append_drop (ranges.length / 2) ranges)
    split
    · next hdrop =>
      rw [hdrop] at hlen
      simp at hlen
      have : ranges.length = 0 := by omega
      simp_all [toList]
    · next range later hdrop =>
      rw [hdrop] at hlen
      simp only [List.length_append, List.length_cons] at hlen
      rw [toList, ih _ (by omega), ih _ (by omega), ← hdrop, List.take_append_drop]

/-- The tree of a list holds exactly the ranges of the list. -/
@[simp] theorem toList_ofRanges (ranges : List CodeRange) : (ofRanges ranges).toList = ranges :=
  toList_build _ ranges (Nat.le_refl _)

/-- A code point that the search finds lies in one of the tree's ranges. -/
theorem exists_of_contains {tree : RangeTree} {n : Nat} (h : tree.contains n = true) :
    ∃ range ∈ tree.toList, range.contains n = true := by
  induction tree with
  | leaf => simp [contains] at h
  | node left range right ihl ihr =>
    rw [contains] at h
    split at h
    · obtain ⟨r, hr, hn⟩ := ihl h
      exact ⟨r, by simp [toList, hr], hn⟩
    · split at h
      · obtain ⟨r, hr, hn⟩ := ihr h
        exact ⟨r, by simp [toList, hr], hn⟩
      · exact ⟨range, by simp [toList], by simp [CodeRange.contains]; omega⟩

end RangeTree
end Unicode
end SpanLexer
