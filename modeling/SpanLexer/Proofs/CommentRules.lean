import SpanLexer.Proofs.Lookahead
import SpanLexer.Proofs.Run

/-!
# The two comment rules

In a text without the marks of block comments the usual order and the one with block comments scan
the same, but for who owns the line feed behind a comment.  The line rule takes it into the comment;
the other rule leaves it, so that a token of blanks has to pass it.  The two scans are out of step
then, and they meet again where the blanks behind the comment end.

* `Text.dropFeed`, `Token.dropFeed` — without the line feed at the end.
* `TokensAgree` — the same tokens, up to blanks and the line feeds of comments.
* `Rule.find?_withBlockComments` — the two orders choose the same rule, but for the comment rule.
* `Reading.lineComment_eq_whole`, `Reading.comment_eq_whole` — what either comment rule reads.
* `Text.length_line_add_blanks` — a line and the blanks behind it end at one place either way.
* `Cursor.exists_round` — from a place where both scans stand they come to another such place.
* `Cursor.standard_agrees_withBlockComments` — so their tokens agree and they end the same.
-/

namespace SpanLexer

/-- The text without the line feed that it ends with, if it does. -/
def Text.dropFeed (t : Text) : Text := if t.getLast? = some '\n' then t.dropLast else t

namespace Token

/-- The token without the line feed that its value ends with, if it does. -/
def dropFeed (token : Token) : Token := { token with value := token.value.dropFeed }

/-- Whether the token is a comment. -/
def isComment (token : Token) : Bool := token.kind == .comment

/-- Whether the token is neither a comment nor blank. -/
def isContent (token : Token) : Bool := token.kind != .comment && token.kind != .whitespace

end Token

/-- **Agreement.**  Two lists have the same tokens besides blanks and comments, and the same
comments, but for a line feed at the end of those of the first. -/
structure TokensAgree (lines blocks : List Token) : Prop where
  content : lines.filter Token.isContent = blocks.filter Token.isContent
  comments : (lines.filter Token.isComment).map Token.dropFeed = blocks.filter Token.isComment

namespace TokensAgree

theorem append {lines blocks laterLines laterBlocks : List Token} (h : TokensAgree lines blocks)
    (hlater : TokensAgree laterLines laterBlocks) :
    TokensAgree (lines ++ laterLines) (blocks ++ laterBlocks) where
  content := by rw [List.filter_append, List.filter_append, h.content, hlater.content]
  comments := by
    rw [List.filter_append, List.filter_append, List.map_append, h.comments, hlater.comments]

/-- Blanks agree with any other blanks, and with none. -/
theorem of_blanks {lines blocks : List Token} (hlines : ∀ token ∈ lines, token.kind = .whitespace)
    (hblocks : ∀ token ∈ blocks, token.kind = .whitespace) : TokensAgree lines blocks := by
  have hnone : ∀ {blanks : List Token}, (∀ token ∈ blanks, token.kind = .whitespace) →
      blanks.filter Token.isContent = [] ∧ blanks.filter Token.isComment = [] := by
    intro blanks hblanks
    constructor
    · exact List.filter_eq_nil_iff.2 fun token hmem => by simp [Token.isContent, hblanks token hmem]
    · exact List.filter_eq_nil_iff.2 fun token hmem => by simp [Token.isComment, hblanks token hmem]
  refine ⟨?_, ?_⟩
  · rw [(hnone hlines).1, (hnone hblocks).1]
  · rw [(hnone hlines).2, (hnone hblocks).2, List.map_nil]

/-- A token that is no comment agrees with itself. -/
theorem of_not_comment {token : Token} (h : token.kind ≠ .comment) :
    TokensAgree [token] [token] := by
  refine ⟨rfl, ?_⟩
  simp [Token.isComment, h]

/-- A comment agrees with the one without the line feed at the end. -/
theorem of_comment (value : Text) (p : Position) :
    TokensAgree [⟨.comment, value, p⟩] [⟨.comment, value.dropFeed, p⟩] :=
  ⟨rfl, rfl⟩

end TokensAgree

namespace Text

/-- A text is its first line and what follows: nothing, or a line feed and more. -/
theorem exists_line (t : Text) :
    ∃ line rest, t = line ++ rest ∧ t.takeWhile (· != '\n') = line ∧
      takeThrough (· == '\n') t = line ++ rest.take 1 ∧
      (rest = [] ∨ ∃ later, rest = '\n' :: later) := by
  refine ⟨_, t.dropWhile (· != '\n'), List.takeWhile_append_dropWhile.symm, rfl,
    takeThrough_eq_append _ t, ?_⟩
  cases hrest : t.dropWhile (· != '\n') with
  | nil => exact Or.inl rfl
  | cons c later =>
      have hhead := List.head?_dropWhile_not (· != '\n') t
      rw [hrest] at hhead
      obtain rfl : c = '\n' := by simpa using hhead
      exact Or.inr ⟨later, rfl⟩

/-- A line that is passed through its end is the line with its line feed. -/
theorem dropFeed_takeThrough (t : Text) :
    dropFeed (takeThrough (· == '\n') t) = t.takeWhile (· != '\n') := by
  obtain ⟨line, rest, -, hline, hthrough, hrest⟩ := exists_line t
  rw [hthrough, hline]
  rcases hrest with rfl | ⟨later, rfl⟩
  · have hfeed : '\n' ∉ line := by
      intro hmem
      rw [← hline] at hmem
      have hother := of_mem_takeWhile hmem
      exact absurd rfl (bne_iff_ne.1 hother)
    rw [List.take_nil, List.append_nil, dropFeed, if_neg]
    exact fun hlast => hfeed (List.mem_of_getLast? hlast)
  · simp [dropFeed]

/-- Where the blanks behind a line end does not depend on whether its line feed is counted with the
line or with the blanks. -/
theorem length_line_add_blanks (t : Text) :
    let through := takeThrough (· == '\n') t
    let upTo := t.takeWhile (· != '\n')
    through.length + ((t.drop through.length).takeWhile isWhitespace).length =
      upTo.length + ((t.drop upTo.length).takeWhile isWhitespace).length := by
  intro through upTo
  obtain ⟨line, rest, rfl, hline, hthrough, hrest⟩ := exists_line t
  rw [show upTo = line from hline, show through = line ++ rest.take 1 from hthrough]
  rcases hrest with rfl | ⟨later, rfl⟩
  · rw [List.take_nil, List.append_nil]
  · have hfeed : isWhitespace '\n' = true := by decide +kernel
    have hlater : (line ++ '\n' :: later).drop (line.length + 1) = later := by
      rw [← List.drop_drop, List.drop_left]
      rfl
    rw [List.take_succ_cons, List.take_zero, List.length_append, List.length_singleton, hlater,
      List.drop_left, List.takeWhile_cons, if_pos hfeed, List.length_cons]
    omega

end Text

namespace Reading

variable {t : Text}

theorem lineComment_eq_whole (h : ['/', '/'] <+: t) :
    lineComment t = whole .comment (takeThrough (· == '\n') t) :=
  if_pos (List.isPrefixOf_iff_prefix.2 h)

/-- A comment in whose line no block comment is closed goes on to the end of the line. -/
theorem commentTail_eq_takeWhile (c : Char)
    (h : ¬ ['*', '/'] <:+: c :: t.takeWhile (· != '\n')) :
    commentTail (c :: t) = t.takeWhile (· != '\n') := by
  induction t generalizing c with
  | nil => rfl
  | cons d t ih =>
      rw [commentTail_cons_cons]
      by_cases hfeed : d = '\n'
      · simp [hfeed]
      · have hline : (d :: t).takeWhile (· != '\n') = d :: t.takeWhile (· != '\n') := by
          simp [hfeed]
        rw [hline, List.infix_cons_iff, not_or] at h
        obtain ⟨hhere, hlater⟩ := h
        have hclose : ¬ (c, d) = ('*', '/') := by
          intro hmark
          obtain ⟨rfl, rfl⟩ := Prod.mk.inj hmark
          exact hhere (List.prefix_append ['*', '/'] _)
        rw [if_neg hfeed, if_neg hclose, ih d hlater, hline]

/-- Where no block comment is closed in its line, a comment ends with the line. -/
theorem comment_eq_whole (hopens : ['/', '/'] <+: t)
    (hclosing : ¬ ['*', '/'] <:+: t.takeWhile (· != '\n')) :
    comment t = whole .comment (t.takeWhile (· != '\n')) := by
  obtain ⟨later, rfl⟩ := hopens
  have htail : commentTail ('/' :: '/' :: later) = ('/' :: later).takeWhile (· != '\n') :=
    commentTail_eq_takeWhile '/' hclosing
  change comment ('/' :: '/' :: later) = _
  rw [comment, htail]
  rfl

end Reading

namespace Rule

variable {t : Text}

/-- Where no block comment begins, the usual order and the one with block comments choose the same
rule, but for the comment rule. -/
theorem find?_withBlockComments (hopening : ¬ ['/', '*'] <+: t) :
    withBlockComments.find? (fun rule => rule.opens t) =
      (standard.find? (fun rule => rule.opens t)).map
        (fun rule => if rule = lineComment then comment else rule) := by
  have hsame : ∀ rule : Rule,
      (if rule = lineComment then comment else rule).opens t = rule.opens t := by
    intro rule
    by_cases hrule : rule = lineComment
    · rw [if_pos hrule, hrule, Bool.eq_iff_iff, opens_comment_iff, opens_lineComment_iff]
      exact or_iff_left hopening
    · rw [if_neg hrule]
  rw [withBlockComments, List.find?_map]
  simp only [Function.comp_def, hsame]

end Rule

namespace Cursor

variable {c : Cursor} {rules : List Rule} {token : Token}

/-- If blanks come first in the order, then whatever blanks are next are read, by one token or by
none. -/
theorem reads_blanks (hfirst : rules.head? = some .whitespace) (c : Cursor)
    (hhalted : c.halted = none) :
    ∃ blanks, c.Reads rules blanks (c.advance (c.rest.takeWhile isWhitespace).length) ∧
      ∀ token ∈ blanks, token.kind = .whitespace := by
  obtain ⟨others, rfl⟩ := List.head?_eq_some_iff.1 hfirst
  cases hrest : c.rest with
  | nil =>
      rw [List.takeWhile_nil, List.length_nil, advance_zero]
      exact ⟨[], Reads.nil c, List.forall_mem_nil _⟩
  | cons char later =>
      by_cases hchar : isWhitespace char = true
      · have hfind : (Rule.whitespace :: others).find? (fun rule => rule.opens c.rest) =
            some .whitespace := by
          rw [hrest]
          exact List.find?_cons_of_pos hchar
        obtain ⟨hanswer, hcursor⟩ := scan_of_whole hhalted hfind rfl
        rw [hrest] at hanswer hcursor
        exact ⟨_, Reads.cons hanswer (hcursor ▸ Reads.nil _), List.forall_mem_singleton.2 rfl⟩
      · rw [List.takeWhile_cons, if_neg hchar, List.length_nil, advance_zero]
        exact ⟨[], Reads.nil c, List.forall_mem_nil _⟩

/-- But for comments, the two orders scan the same where no block comment begins. -/
theorem scan_withBlockComments (hopening : ¬ ['/', '*'] <+: c.rest)
    (hrule : Rule.standard.find? (fun rule => rule.opens c.rest) ≠ some .lineComment) :
    c.scan Rule.withBlockComments = c.scan Rule.standard := by
  have hfind : Rule.withBlockComments.find? (fun rule => rule.opens c.rest) =
      Rule.standard.find? (fun rule => rule.opens c.rest) := by
    rw [Rule.find?_withBlockComments hopening]
    cases hstandard : Rule.standard.find? (fun rule => rule.opens c.rest) with
    | none => rfl
    | some rule =>
        have hother : rule ≠ .lineComment := fun h => hrule (by rw [hstandard, h])
        rw [Option.map_some, if_neg hother]
  exact scan_congr hfind

/-- A token, and the blanks behind it. -/
theorem reads_token_and_blanks {n : Nat} (hfirst : rules.head? = some .whitespace)
    (hhalted : c.halted = none) (hscan : (c.scan rules).answer = .token token)
    (hcursor : (c.scan rules).cursor = c.advance n) :
    ∃ blanks, c.Reads rules (token :: blanks)
        (c.advance (n + ((c.rest.drop n).takeWhile isWhitespace).length)) ∧
      ∀ token ∈ blanks, token.kind = .whitespace := by
  obtain ⟨blanks, hreads, hkinds⟩ := reads_blanks hfirst (c.advance n) hhalted
  rw [rest_advance, advance_advance] at hreads
  exact ⟨blanks, Reads.cons hscan (hcursor ▸ hreads), hkinds⟩

/-- **A round with a comment.**  The scan with the line rule passes the line feed with the comment,
the other one with the blanks behind it; both pass the blanks that follow. -/
theorem exists_round_of_comment (hhalted : c.halted = none) (hopening : ¬ ['/', '*'] <+: c.rest)
    (hclosing : ¬ ['*', '/'] <:+: c.rest)
    (hfind : Rule.standard.find? (fun rule => rule.opens c.rest) = some .lineComment) :
    ∃ lines blocks n, 0 < n ∧ c.Reads Rule.standard lines (c.advance n) ∧
      c.Reads Rule.withBlockComments blocks (c.advance n) ∧ TokensAgree lines blocks := by
  have hopens := List.find?_some hfind
  have hslashes := Rule.opens_lineComment_iff.1 hopens
  have hclosingHere : ¬ ['*', '/'] <:+: c.rest.takeWhile (· != '\n') := fun h =>
    hclosing (h.trans (List.takeWhile_prefix _).isInfix)
  have hfindBlock : Rule.withBlockComments.find? (fun rule => rule.opens c.rest) =
      some .comment := by
    rw [Rule.find?_withBlockComments hopening, hfind]
    rfl
  obtain ⟨hline, hlineCursor⟩ :=
    scan_of_whole hhalted hfind (Reading.lineComment_eq_whole hslashes)
  obtain ⟨hblock, hblockCursor⟩ :=
    scan_of_whole hhalted hfindBlock (Reading.comment_eq_whole hslashes hclosingHere)
  obtain ⟨lineBlanks, hlineReads, hlineKinds⟩ :=
    reads_token_and_blanks rfl hhalted hline hlineCursor
  obtain ⟨blockBlanks, hblockReads, hblockKinds⟩ :=
    reads_token_and_blanks rfl hhalted hblock hblockCursor
  -- The scans are out of step by the line feed until the blanks behind it end.
  rw [Text.length_line_add_blanks] at hlineReads
  have hagree := TokensAgree.of_comment (takeThrough (· == '\n') c.rest) c.position
  rw [Text.dropFeed_takeThrough] at hagree
  have hcomment : 0 < (c.rest.takeWhile (· != '\n')).length := by
    obtain ⟨later, hlater⟩ := hslashes
    rw [← hlater]
    exact Nat.succ_pos _
  exact ⟨_, _, _, Nat.add_pos_left hcomment _, hlineReads, hblockReads,
    hagree.append (TokensAgree.of_blanks hlineKinds hblockKinds)⟩

/-- **A round.**  Where the usual order reads a token, both scans come to one later place, with
tokens that agree. -/
theorem exists_round (hhalted : c.halted = none) (hopening : ¬ ['/', '*'] <+: c.rest)
    (hclosing : ¬ ['*', '/'] <:+: c.rest) (hscan : (c.scan Rule.standard).answer = .token token) :
    ∃ lines blocks n, 0 < n ∧ c.Reads Rule.standard lines (c.advance n) ∧
      c.Reads Rule.withBlockComments blocks (c.advance n) ∧ TokensAgree lines blocks := by
  by_cases hcomment : Rule.standard.find? (fun rule => rule.opens c.rest) = some .lineComment
  · exact exists_round_of_comment hhalted hopening hclosing hcomment
  · -- Any other rule reads the same token in both scans, and that is no comment.
    have hsame := scan_withBlockComments hopening hcomment
    obtain ⟨rule, -, hfind, hanswer, -⟩ := exists_rule_of_scan_token hscan
    have hkind : token.kind ≠ .comment := by
      intro hkind
      have hrule := Rule.kind_eq_of_apply_ok hanswer hkind (by decide)
      have hmem := List.mem_of_find?_eq_some hfind
      cases rule with
      | lineComment => exact hcomment hfind
      | comment => exact absurd hmem (by decide)
      | _ => cases hrule
    obtain ⟨span, later, -, hspan, -, -, hcursor⟩ := scan_token hscan
    have hagain : (c.scan Rule.withBlockComments).answer = .token token := by rw [hsame, hscan]
    refine ⟨[token], [token], span.length, List.length_pos_iff.2 hspan,
      Reads.cons hscan (hcursor ▸ Reads.nil _), Reads.cons hagain ?_,
      TokensAgree.of_not_comment hkind⟩
    rw [hsame, hcursor]
    exact Reads.nil _

/-- Both scans come to one place where neither reads another token, with tokens that agree. -/
theorem exists_reads_agree (hhalted : c.halted = none) (hopening : ¬ ['/', '*'] <:+: c.rest)
    (hclosing : ¬ ['*', '/'] <:+: c.rest) :
    ∃ lines blocks last, c.Reads Rule.standard lines last ∧
      c.Reads Rule.withBlockComments blocks last ∧ TokensAgree lines blocks ∧
      (∀ token, (last.scan Rule.standard).answer ≠ .token token) ∧
      last.scan Rule.withBlockComments = last.scan Rule.standard := by
  -- Induction on the length of the text that is left, which every round makes shorter.
  induction hlength : c.rest.length using Nat.strongRecOn generalizing c with
  | ind length ih =>
      have hhere : ¬ ['/', '*'] <+: c.rest := fun h => hopening h.isInfix
      by_cases hstop : ∀ token, (c.scan Rule.standard).answer ≠ .token token
      · refine ⟨[], [], c, Reads.nil c, Reads.nil c, ⟨rfl, rfl⟩, hstop,
          scan_withBlockComments hhere fun hcomment => ?_⟩
        have hopens := List.find?_some hcomment
        have hslashes := Rule.opens_lineComment_iff.1 hopens
        exact hstop _ (scan_of_whole hhalted hcomment (Reading.lineComment_eq_whole hslashes)).1
      · obtain ⟨token, hscan⟩ := Classical.not_forall_not.1 hstop
        obtain ⟨lines, blocks, n, hn, hlines, hblocks, hagree⟩ :=
          exists_round hhalted hhere hclosing hscan
        have hshorter : (c.advance n).rest.length < length := by
          have hlt := length_rest_scan_lt hscan
          rw [rest_advance, List.length_drop]
          omega
        have hpart : (c.advance n).rest <:+: c.rest := (List.drop_suffix n c.rest).isInfix
        obtain ⟨laterLines, laterBlocks, last, hlaterLines, hlaterBlocks, hlater, hend⟩ :=
          ih _ hshorter (c := c.advance n) hhalted (fun h => hopening (h.trans hpart))
            (fun h => hclosing (h.trans hpart)) rfl
        exact ⟨_, _, last, hlines.append hlaterLines, hblocks.append hlaterBlocks,
          hagree.append hlater, hend⟩

/-- **The two orders agree.**  In a text without the marks of block comments, the usual order and
the one with block comments read the same tokens besides blanks and comments; the same comments,
but for the line feed at the end that the usual order leaves on them; and they end the same. -/
theorem standard_agrees_withBlockComments {s : Text} (hopening : ¬ ['/', '*'] <:+: s)
    (hclosing : ¬ ['*', '/'] <:+: s) :
    let lines := (ofText s).drain Rule.standard
    let blocks := (ofText s).drain Rule.withBlockComments
    lines.answer.filter Token.isContent = blocks.answer.filter Token.isContent ∧
      (lines.answer.filter Token.isComment).map Token.dropFeed =
        blocks.answer.filter Token.isComment ∧
      (lines.cursor.scan Rule.standard).answer =
        (blocks.cursor.scan Rule.withBlockComments).answer := by
  intro lines blocks
  obtain ⟨lineTokens, blockTokens, last, hlines, hblocks, hagree, hstop, hsame⟩ :=
    exists_reads_agree (c := ofText s) rfl hopening hclosing
  have hstopBlocks : ∀ token, (last.scan Rule.withBlockComments).answer ≠ .token token := by
    rw [hsame]
    exact hstop
  obtain ⟨hlineTokens, hlineCursor⟩ : lines.answer = lineTokens ∧
      lines.cursor = (last.scan Rule.standard).cursor := hlines.drain_of_stop hstop
  obtain ⟨hblockTokens, hblockCursor⟩ : blocks.answer = blockTokens ∧
      blocks.cursor = (last.scan Rule.withBlockComments).cursor :=
    hblocks.drain_of_stop hstopBlocks
  rw [hlineTokens, hblockTokens, hlineCursor, hblockCursor, scan_scan hstop, scan_scan hstopBlocks,
    hsame]
  exact ⟨hagree.content, hagree.comments, rfl⟩

/-- The two scans are out of step behind each comment of this text, and end with the same rejected
phone number. -/
theorem standard_agrees_withBlockComments_out_of_step :
    let s : Text := "// a\n\n7 //\"b\n+9665 ".toList
    let lines := (ofText s).drain Rule.standard
    let blocks := (ofText s).drain Rule.withBlockComments
    ¬ ['/', '*'] <:+: s ∧ ¬ ['*', '/'] <:+: s ∧
      lines.answer.length = 5 ∧ blocks.answer.length = 6 ∧
      lines.answer.filter Token.isContent = blocks.answer.filter Token.isContent ∧
      (lines.answer.filter Token.isComment).map Token.dropFeed =
        blocks.answer.filter Token.isComment ∧
      (lines.cursor.scan Rule.standard).answer =
        (blocks.cursor.scan Rule.withBlockComments).answer := by
  intro s lines blocks
  have hopening : ¬ ['/', '*'] <:+: s := by decide +kernel
  have hclosing : ¬ ['*', '/'] <:+: s := by decide +kernel
  refine ⟨hopening, hclosing, ?_, ?_, standard_agrees_withBlockComments hopening hclosing⟩
  · decide +kernel
  · decide +kernel

end Cursor
end SpanLexer
