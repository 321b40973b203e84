import Mathlib.Order.Bounds.Basic
import SpanLexer.Proofs.CommentRules
import SpanLexer.Proofs.Delimiters
import SpanLexer.Proofs.Openers

/-!
# Where comments end

A comment ends at the first of three places: in front of a line feed, behind a star and a slash, and
at the end of the text.  The rule for line comments ends it behind the first line feed instead, or at
the end of the text.  So the two agree but for the line feed where a comment has no closing mark in
its line.

* `Text.CommentStop` — the places where a comment may end; `Text.isLeast_commentStop` says that it
  ends at the first of them.
* `Rule.apply_comment_of_opens`, `Rule.apply_lineComment_of_feed`, `Rule.apply_lineComment_of_no_feed`
  — what either rule does to a cursor where it opens.
* `Rule.apply_comments_of_not_closed` — where the two agree.
* `Rule.apply_comments` — all of this, on every cursor.
-/

namespace SpanLexer

/-- **Where a comment may end** that goes on from the index `start`: in front of a line feed, behind
a star with a slash next to it, and at the end of the text. -/
inductive Text.CommentStop (s : Text) (start : Nat) : Nat → Prop
  | feed {e : Nat} (hle : start ≤ e) (hfeed : s[e]? = some '\n') : CommentStop s start e
  | mark {j : Nat} (hlt : start < j) (hstar : s[j - 1]? = some '*') (hslash : s[j]? = some '/') :
      CommentStop s start (j + 1)
  | finish : CommentStop s start s.length

namespace Text

variable {s t : Text} {start e : Nat} {x : Char}

/-- A comment does not end in front of a character that is no line feed. -/
theorem CommentStop.lt (h : s.CommentStop start e) (hhere : s[start]? = some x) (hx : x ≠ '\n') :
    start < e := by
  cases h with
  | feed hle hfeed =>
      refine Nat.lt_of_le_of_ne hle ?_
      rintro rfl
      exact hx (Option.some.inj (hhere.symm.trans hfeed))
  | mark hlt _ _ => exact Nat.lt_succ_of_lt hlt
  | finish => exact (List.getElem?_eq_some_iff.1 hhere).1

/-- Behind a character that is neither a line feed nor the star of a closing mark, a comment may end
at the same places. -/
theorem commentStop_succ_iff (hhere : s[start]? = some x) (hx : x ≠ '\n')
    (hmark : x = '*' → s[start + 1]? ≠ some '/') :
    s.CommentStop start e ↔ s.CommentStop (start + 1) e := by
  constructor
  · intro h
    have hlt := h.lt hhere hx
    cases h with
    | feed _ hfeed => exact .feed hlt hfeed
    | mark hle hstar hslash =>
        refine .mark (Nat.lt_of_le_of_ne hle ?_) hstar hslash
        rintro rfl
        exact hmark (Option.some.inj (hhere.symm.trans hstar)) hslash
    | finish => exact .finish
  · intro h
    cases h with
    | feed hle hfeed => exact .feed (Nat.le_of_succ_le hle) hfeed
    | mark hlt hstar hslash => exact .mark (Nat.lt_of_succ_lt hlt) hstar hslash
    | finish => exact .finish

/-- The first character behind an index, and what follows it. -/
theorem here_and_later_of_drop (h : s.drop start = x :: t) :
    s[start]? = some x ∧ s.drop (start + 1) = t := by
  rw [← List.head?_drop, ← List.drop_drop, h]
  exact ⟨rfl, rfl⟩

/-- **A comment ends at the first place where it may end.** -/
theorem isLeast_commentStop (hdrop : s.drop start = x :: t) (hx : x ≠ '\n') :
    IsLeast {e | s.CommentStop start e} (start + 1 + (Reading.commentTail (x :: t)).length) := by
  -- Induction on the text behind the character: the comment goes on, character by character, as
  -- long as the places where it may end stay the same.
  induction t generalizing start x with
  | nil =>
      obtain ⟨hhere, hlater⟩ := here_and_later_of_drop hdrop
      have hlength : start + 1 = s.length :=
        Nat.le_antisymm (List.getElem?_eq_some_iff.1 hhere).1 (List.drop_eq_nil_iff.1 hlater)
      refine ⟨?_, fun e he => he.lt hhere hx⟩
      show s.CommentStop start (start + 1)
      rw [hlength]
      exact .finish
  | cons y t ih =>
      obtain ⟨hhere, hlater⟩ := here_and_later_of_drop hdrop
      obtain ⟨hnext, -⟩ := here_and_later_of_drop hlater
      rw [Reading.commentTail_cons_cons]
      by_cases hy : y = '\n'
      · rw [if_pos hy]
        exact ⟨.feed (Nat.le_succ _) (hy ▸ hnext), fun e he => he.lt hhere hx⟩
      · rw [if_neg hy]
        by_cases hmark : (x, y) = ('*', '/')
        · obtain ⟨rfl, rfl⟩ := Prod.mk.inj hmark
          rw [if_pos rfl]
          refine ⟨.mark (Nat.lt_succ_self _) hhere hnext, fun e he => ?_⟩
          show start + 1 < e
          have hlt : start < e := he.lt hhere hx
          cases he with
          | feed _ hfeed => exact (CommentStop.feed hlt hfeed).lt hnext hy
          | mark hle _ _ => exact Nat.succ_lt_succ hle
          | finish => exact (List.getElem?_eq_some_iff.1 hnext).1
        · have hsame : {e | s.CommentStop start e} = {e | s.CommentStop (start + 1) e} := by
            ext e
            refine commentStop_succ_iff hhere hx fun hstar hslash => hmark ?_
            rw [hstar, Option.some.inj (hnext.symm.trans hslash)]
          rw [if_neg hmark, hsame, List.length_cons, Nat.add_comm (List.length _) 1, ← Nat.add_assoc]
          exact ih hlater hy

end Text

/-- Behind its first character no line feed stands in a comment. -/
theorem Reading.feed_not_mem_commentTail (t : Text) : '\n' ∉ commentTail t := by
  intro hmem
  have hother := of_mem_takeWhile (List.mem_of_mem_take hmem)
  exact absurd rfl (bne_iff_ne.1 hother)

namespace Rule

variable {rule : Rule} {c : Cursor}

/-- Where a rule for comments opens, a slash stands. -/
theorem exists_slash_of_opens (hrule : rule = .comment ∨ rule = .lineComment)
    (hopens : rule.opens c.rest = true) : ∃ later, c.rest = '/' :: later := by
  rcases hrule with rfl | rfl
  · exact exists_later_of_mark rfl rfl hopens
  · exact exists_later_of_mark rfl rfl hopens

/-- **Comments.**  Where the rule for comments opens, it makes a comment of the text up to the first
place where one may end, and moves there on the same line. -/
theorem apply_comment_of_opens (hopens : comment.opens c.rest = true) :
    ∃ stop, IsLeast {e | c.source.CommentStop (c.position.index + 1) e} stop ∧
      (comment.apply c).answer =
        .ok ⟨.comment, c.source.extract c.position.index stop, c.position⟩ ∧
      (comment.apply c).cursor.position = ⟨stop, c.position.line⟩ := by
  obtain ⟨later, hrest⟩ := exists_slash_of_opens (Or.inl rfl) hopens
  have hdrop : c.source.drop c.position.index = '/' :: later := by rw [← c.rest_eq, hrest]
  obtain ⟨hhere, -⟩ := Text.here_and_later_of_drop hdrop
  have hread : comment.read c.rest =
      Reading.whole .comment ('/' :: Reading.commentTail ('/' :: later)) := by rw [hrest]; rfl
  have hleast := Text.isLeast_commentStop hdrop (by decide)
  -- The slash at the beginning belongs to no closing mark.
  have hsame : {e | c.source.CommentStop c.position.index e} =
      {e | c.source.CommentStop (c.position.index + 1) e} :=
    Set.ext fun e => Text.commentStop_succ_iff hhere (by decide) fun hstar => absurd hstar (by decide)
  have hfeed : '\n' ∉ '/' :: Reading.commentTail ('/' :: later) :=
    List.not_mem_cons_of_ne_of_not_mem (by decide) (Reading.feed_not_mem_commentTail _)
  have hstop : c.position.index + ('/' :: Reading.commentTail ('/' :: later)).length =
      c.position.index + 1 + (Reading.commentTail ('/' :: later)).length := by
    rw [List.length_cons]
    omega
  obtain ⟨hspan, hanswer, hposition⟩ := apply_of_span hread hstop
  rw [← hspan] at hfeed
  rw [List.count_eq_zero.2 hfeed, Position.add_ofNat_zero] at hposition
  exact ⟨_, hsame ▸ hleast, hanswer, hposition⟩

/-- What the rule for line comments reads where it opens. -/
theorem read_lineComment_of_opens (hopens : lineComment.opens c.rest = true) :
    lineComment.read c.rest = Reading.whole .comment (takeThrough (· == '\n') c.rest) :=
  Reading.lineComment_eq_whole (opens_lineComment_iff.1 hopens)

/-- **Line comments with a line feed.**  Where the rule for line comments opens and a line feed
comes, it makes a comment of the text through the first one, and moves to the next line. -/
theorem apply_lineComment_of_feed (hopens : lineComment.opens c.rest = true)
    (hfeed : '\n' ∈ c.source.drop (c.position.index + 1)) :
    ∃ j, c.source.FirstFrom '\n' (c.position.index + 1) j ∧
      (lineComment.apply c).answer =
        .ok ⟨.comment, c.source.extract c.position.index (j + 1), c.position⟩ ∧
      (lineComment.apply c).cursor.position = ⟨j + 1, c.position.line + 1⟩ := by
  obtain ⟨later, hrest⟩ := exists_slash_of_opens (Or.inr rfl) hopens
  have hread := read_lineComment_of_opens hopens
  rw [Cursor.drop_index_succ hrest] at hfeed
  have hthrough : takeThrough (· == '\n') c.rest =
      ('/' :: later).take (later.idxOf '\n' + 2) := by
    rw [hrest, takeThrough_cons, if_neg (by decide)]
    rfl
  obtain ⟨j, hfirst, hanswer, hposition⟩ :=
    apply_of_reads_through hrest hfeed (hread.trans (congrArg _ hthrough))
  have hspan : c.source.extract c.position.index (j + 1) = takeThrough (· == '\n') c.rest := by
    have hextract := lineComment.extract_apply c
    rwa [hposition, hread] at hextract
  have hcount : (takeThrough (· == '\n') c.rest).count '\n' = 1 :=
    count_takeThrough_of_mem (hrest ▸ List.mem_cons_of_mem _ hfeed)
  refine ⟨j, hfirst, hanswer, ?_⟩
  rw [hposition, hspan, hcount]
  rfl

/-- **Line comments without a line feed.**  Where the rule for line comments opens and no line feed
comes, it makes a comment of all that is left, and moves to the end of the text. -/
theorem apply_lineComment_of_no_feed (hopens : lineComment.opens c.rest = true)
    (hfeed : '\n' ∉ c.source.drop (c.position.index + 1)) :
    (lineComment.apply c).answer =
        .ok ⟨.comment, c.source.drop c.position.index, c.position⟩ ∧
      (lineComment.apply c).cursor.position = ⟨c.source.length, c.position.line⟩ := by
  obtain ⟨later, hrest⟩ := exists_slash_of_opens (Or.inr rfl) hopens
  have hread := read_lineComment_of_opens hopens
  rw [Cursor.drop_index_succ hrest] at hfeed
  have hnone : '\n' ∉ c.rest := by
    rw [hrest]
    exact List.not_mem_cons_of_ne_of_not_mem (by decide) hfeed
  rw [takeThrough_of_not_mem hnone] at hread
  have hstart : c.position.index < c.source.length :=
    Cursor.index_lt_length (ne_nil_of_opens hopens)
  have hstop : c.position.index + c.rest.length = c.source.length := by
    rw [c.length_rest, Nat.add_sub_cancel' (Nat.le_of_lt hstart)]
  obtain ⟨hspan, hanswer, hposition⟩ := apply_of_span hread hstop
  rw [hspan] at hanswer hposition
  rw [List.count_eq_zero.2 hnone, Position.add_ofNat_zero] at hposition
  rw [← c.rest_eq]
  exact ⟨hanswer, hposition⟩

/-- **Where the two agree.**  In front of two slashes, if no block comment is closed in the line, the
comment is the line comment without its line feed, and one step leads from behind it to where the
line comment ends. -/
theorem apply_comments_of_not_closed (hopens : lineComment.opens c.rest = true)
    (hclosing : ¬ ['*', '/'] <:+: c.rest.takeWhile (· != '\n')) :
    ∃ text, (lineComment.apply c).answer = .ok ⟨.comment, text, c.position⟩ ∧
      (comment.apply c).answer = .ok ⟨.comment, text.dropFeed, c.position⟩ ∧
      (lineComment.apply c).cursor = (comment.apply c).cursor.next.2 ∧
      ∀ x, (comment.apply c).cursor.rest.head? = some x → x = '\n' := by
  have hline := read_lineComment_of_opens hopens
  have hblock : comment.read c.rest = Reading.whole .comment (c.rest.takeWhile (· != '\n')) :=
    Reading.comment_eq_whole (opens_lineComment_iff.1 hopens) hclosing
  obtain ⟨hlineAnswer, hlineCursor⟩ := apply_of_whole hline
  obtain ⟨hblockAnswer, hblockCursor⟩ := apply_of_whole hblock
  refine ⟨_, hlineAnswer, ?_, ?_, fun x hx => ?_⟩
  · rw [Text.dropFeed_takeThrough]
    exact hblockAnswer
  · obtain ⟨line, behind, hsplit, hupTo, hthrough, -⟩ := Text.exists_line c.rest
    rw [hlineCursor, hblockCursor, hthrough, hupTo, Cursor.next, Cursor.advance_advance]
    refine Cursor.advance_congr ?_
    rw [hsplit, List.length_append, List.length_append, List.length_take]
    omega
  · rw [hblockCursor, Cursor.rest_advance] at hx
    have hother := not_member_behind_takeWhile hx
    simpa using hother

/-- **Where comments end.**  Where the rule for comments opens, it makes a comment of the text up to
the first line feed behind the opening slash, through the first closing mark whose star stands behind
it, or up to the end of the text, whichever comes first, and stays on its line.  Where the rule for
line comments opens, it makes a comment of the text through the first line feed and moves to the
next line, which has the next number unless 32 bits end there, or makes one of all that is left and
stays on its line.  There the other rule opens, too, and if no block comment is closed in the line,
its comment is the same without the line feed, and only that line feed, if there is one, stands
between the two cursors. -/
theorem apply_comments (c : Cursor) :
    let s := c.source
    let start := c.position.index
    let block := comment.apply c
    let line := lineComment.apply c
    (comment.opens c.rest = true →
      ∃ stop, IsLeast {e | s.CommentStop (start + 1) e} stop ∧
        block.answer = .ok ⟨.comment, s.extract start stop, c.position⟩ ∧
        c.MovesOn block.cursor ∧ block.cursor.position = ⟨stop, c.position.line⟩) ∧
    (lineComment.opens c.rest = true →
      c.MovesOn line.cursor ∧
      if '\n' ∈ s.drop (start + 1) then
        ∃ j, s.FirstFrom '\n' (start + 1) j ∧
          line.answer = .ok ⟨.comment, s.extract start (j + 1), c.position⟩ ∧
          line.cursor.position = ⟨j + 1, c.position.line + 1⟩ ∧
          (c.position.line.toNat + 1 < UInt32.size →
            line.cursor.position.line.toNat = c.position.line.toNat + 1)
      else
        line.answer = .ok ⟨.comment, s.drop start, c.position⟩ ∧
          line.cursor.position = ⟨s.length, c.position.line⟩) ∧
    (lineComment.opens c.rest = true → comment.opens c.rest = true ∧
      (¬ ['*', '/'] <:+: c.rest.takeWhile (· != '\n') →
        ∃ text, line.answer = .ok ⟨.comment, text, c.position⟩ ∧
          block.answer = .ok ⟨.comment, text.dropFeed, c.position⟩ ∧
          line.cursor = block.cursor.next.2 ∧
          ∀ x, block.cursor.rest.head? = some x → x = '\n')) := by
  intro s start block line
  refine ⟨fun hopens => ?_, fun hopens => ⟨lineComment.movesOn_apply c, ?_⟩,
    fun hopens => ⟨?_, apply_comments_of_not_closed hopens⟩⟩
  · obtain ⟨stop, hleast, hanswer, hposition⟩ := apply_comment_of_opens hopens
    exact ⟨stop, hleast, hanswer, comment.movesOn_apply c, hposition⟩
  · split
    · next hfeed =>
        obtain ⟨j, hfirst, hanswer, hposition⟩ := apply_lineComment_of_feed hopens hfeed
        refine ⟨j, hfirst, hanswer, hposition, fun hfits => ?_⟩
        rw [hposition]
        exact Position.toNat_add_ofNat hfits
    · next hfeed => exact apply_lineComment_of_no_feed hopens hfeed
  · exact opens_comment_iff.2 (Or.inl (opens_lineComment_iff.1 hopens))

/-- The star behind the opening slash closes a comment, too; and a star in front of a line feed
closes none, whatever stands on the next line. -/
theorem apply_comments_overlapping :
    let c := Cursor.ofText "/*/ */".toList
    let d := (Cursor.ofText "x//*\n/".toList).moveTo ⟨1, 5⟩
    (comment.opens c.rest = true ∧
      (comment.apply c).answer = .ok ⟨.comment, "/*/".toList, ⟨0, 1⟩⟩ ∧
      (comment.apply c).cursor.position = ⟨3, 1⟩) ∧
    (lineComment.opens d.rest = true ∧
      (lineComment.apply d).answer = .ok ⟨.comment, "//*\n".toList, ⟨1, 5⟩⟩ ∧
      (lineComment.apply d).cursor.position = ⟨5, 6⟩ ∧
      (comment.apply d).answer = .ok ⟨.comment, "//*".toList, ⟨1, 5⟩⟩ ∧
      (lineComment.apply d).cursor = (comment.apply d).cursor.next.2) := by
  intro c d
  have hc : comment.opens c.rest = true := by decide
  have hd : lineComment.opens d.rest = true := by decide
  obtain ⟨hblock, -, -⟩ := apply_comments c
  obtain ⟨-, hline, hboth⟩ := apply_comments d
  obtain ⟨stop, ⟨hstop, hleast⟩, hcomment, -, hend⟩ := hblock hc
  have hle : stop ≤ 3 := hleast (.mark (j := 2) (by decide) rfl rfl)
  obtain rfl : stop = 3 := by
    have hfeed : ∀ e, e ≤ 3 → c.source[e]? ≠ some '\n' := by decide
    cases hstop with
    | feed _ hhere => exact absurd hhere (hfeed stop hle)
    | mark hlt _ _ => omega
    | finish => exact absurd hle (by decide)
  obtain ⟨-, hfed⟩ := hline hd
  rw [if_pos (by decide)] at hfed
  obtain ⟨j, hfirst, hwhole, hnext, -⟩ := hfed
  obtain rfl : j = 4 := hfirst.eq (Text.firstFrom_idxOf (by decide))
  obtain ⟨text, htext, hshort, hstep, -⟩ := (hboth hd).2 (by decide)
  obtain ⟨-, rfl, -⟩ := Token.mk.inj (Except.ok.inj (htext.symm.trans hwhole))
  exact ⟨⟨hc, hcomment, hend⟩, hd, hwhole, hnext, hshort, hstep⟩

end Rule
end SpanLexer
