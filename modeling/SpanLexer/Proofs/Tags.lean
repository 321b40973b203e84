import Mathlib.Data.List.Basic
import SpanLexer.Proofs.Delimiters
import SpanLexer.Proofs.Openers
import SpanLexer.Proofs.Runs

/-!
# Tags

A tag goes on over letters, digits and the characters `<`, `/` and `>`, and ends at once behind the
first `>`.  Nothing has to close it: without a `>` it is the longest run of these characters, and a
`<` inside is one of them like any other.

* `isTagChar` — the characters of tags; `Reading.htmlTag_eq` says that the rule looks for them.
* `Text.IsTag` — what a tag looks like; `Text.isTag_takeThrough` makes tags.
* `Text.firstFrom_of_prefix` — the first place of a character in what follows an index.
* `Rule.tagGoesOn_eq` — the loop in which tags are read asks for their characters.
* `Rule.runsTo_of_opens_htmlTag`, `Rule.tag_stop` — how far the characters of a tag go, and where it
  stops among them.
* `Rule.isTag_of_mem_drain` — what the tags of a scan look like.
* `Rule.apply_htmlTag` — what the rule for tags does to a cursor where it opens.
-/

namespace SpanLexer

/-- What a tag is made of: letters, digits and the characters `<`, `/` and `>`. -/
def isTagChar (x : Char) : Bool := isLetterOrDigit x || x == '<' || x == '/' || x == '>'

/-- Asking for the three characters one by one or all at once is the same. -/
theorem isTagChar_eq (x : Char) : (isLetterOrDigit x || "</>".toList.contains x) = isTagChar x := by
  have hmarks : "</>".toList.contains x = (x == '<' || (x == '/' || (x == '>' || false))) := rfl
  rw [hmarks, Bool.or_false, isTagChar, Bool.or_assoc, Bool.or_assoc]

/-- **What a tag looks like**: it begins with `<`, and `>` stands at its end only. -/
structure Text.IsTag (t : Text) : Prop where
  begins : t.head? = some '<'
  count_le : t.count '>' ≤ 1
  ends : '>' ∈ t → t.getLast? = some '>'

/-- What goes through the first `>` of a text that begins with `<` is a tag. -/
theorem Text.isTag_takeThrough {t : Text} (h : t.head? = some '<') :
    Text.IsTag (takeThrough (· == '>') t) := by
  obtain ⟨later, rfl⟩ := List.head?_eq_some_iff.1 h
  by_cases hmem : '>' ∈ '<' :: later
  · refine ⟨rfl, Nat.le_of_eq (count_takeThrough_of_mem hmem), fun _ => ?_⟩
    rw [takeThrough_of_mem hmem, List.getLast?_concat]
  · rw [takeThrough_of_not_mem hmem]
    refine ⟨rfl, ?_, fun hin => absurd hin hmem⟩
    rw [List.count_eq_zero.2 hmem]
    exact Nat.zero_le 1

/-- The first place of a character from an index on, if it stands in the part of the text there. -/
theorem Text.firstFrom_of_prefix {s part : Text} {x : Char} {start : Nat}
    (hpart : part <+: s.drop start) (hmem : x ∈ part) :
    s.FirstFrom x start (start + part.idxOf x) := by
  obtain ⟨later, hsplit⟩ := hpart
  have hfirst : s.FirstFrom x start (start + (s.drop start).idxOf x) :=
    Text.firstFrom_idxOf (by rw [← hsplit]; exact List.mem_append_left later hmem)
  rwa [← hsplit, List.idxOf_append_of_mem hmem] at hfirst

/-- No line feed stands among the characters of tags. -/
theorem count_feed_of_isTagChar {t : Text} (h : ∀ x ∈ t, isTagChar x = true) :
    t.count '\n' = 0 := by
  refine List.count_eq_zero.2 fun hmem => ?_
  exact absurd (h _ hmem) (by decide +kernel)

/-- **A tag goes through the first `>`** of the longest run of its characters. -/
theorem Reading.htmlTag_eq (t : Text) :
    htmlTag t = whole .htmlTag (takeThrough (· == '>') (t.takeWhile isTagChar)) := by
  have hmember : (fun x => isLetterOrDigit x || "</>".toList.contains x) = isTagChar := by
    funext x
    exact isTagChar_eq x
  rw [htmlTag, hmember]

namespace Rule

variable {c : Cursor}

theorem tagGoesOn_eq (c : Cursor) : tagGoesOn c = c.rest.head?.any isTagChar := by
  have hasks := tagLoop_goesOn [] c
  rwa [funext isTagChar_eq] at hasks

/-- The characters of a tag reach from where the rule opens to behind the opening character, at
least. -/
theorem runsTo_of_opens_htmlTag (hopens : htmlTag.opens c.rest = true) :
    c.source.RunsTo isTagChar (c.position.index + 1)
      (c.position.index + (c.rest.takeWhile isTagChar).length) := by
  obtain ⟨later, hrest⟩ := exists_later_of_mark rfl rfl hopens
  have hstart := Cursor.index_lt_length (ne_nil_of_opens hopens)
  have hruns := Text.runsTo_takeWhile (Nat.le_of_lt hstart) isTagChar
  rw [← c.rest_eq] at hruns
  refine ⟨?_, hruns.inside, fun i x hi => hruns.members i x (Nat.le_of_succ_le hi), hruns.ends⟩
  rw [hrest, List.takeWhile_cons_of_pos (by decide +kernel), List.length_cons]
  omega

/-- A tag goes through the first `>` among its characters, or to the end of them if there is none. -/
theorem tag_stop {s run : Text} {start : Nat} (hrun : run <+: s.drop start) :
    if '>' ∈ run then
      ∃ j, s.FirstFrom '>' start j ∧ j < start + run.length ∧
        start + (takeThrough (· == '>') run).length = j + 1
    else start + (takeThrough (· == '>') run).length = start + run.length := by
  split
  · next hmem =>
      have hlt := List.idxOf_lt_length_iff.2 hmem
      refine ⟨_, Text.firstFrom_of_prefix hrun hmem, Nat.add_lt_add_left hlt _, ?_⟩
      rw [takeThrough_of_mem hmem, List.length_append, List.length_take_of_le (Nat.le_of_lt hlt),
        List.length_singleton, Nat.add_assoc]
  · next hmem => rw [takeThrough_of_not_mem hmem]

/-- No line feed stands in the span of a tag. -/
theorem count_feed_span_htmlTag (t : Text) : (htmlTag.read t).span.count '\n' = 0 := by
  have hread : htmlTag.read t = _ := Reading.htmlTag_eq t
  rw [hread]
  exact count_feed_of_isTagChar fun x hx =>
    of_mem_takeWhile ((takeThrough_prefix_self (· == '>') (t.takeWhile isTagChar)).subset hx)

/-- Where the rule for tags opens, its span looks like a tag. -/
theorem isTag_span_htmlTag {t : Text} (hopens : htmlTag.opens t = true) :
    (htmlTag.read t).span.IsTag := by
  obtain ⟨later, rfl⟩ := exists_later_of_mark rfl rfl hopens
  have hread : htmlTag.read ('<' :: later) = _ := Reading.htmlTag_eq ('<' :: later)
  rw [hread, List.takeWhile_cons_of_pos (by decide +kernel)]
  exact Text.isTag_takeThrough rfl

/-- Where a rule opens and makes a tag, the tag looks like one. -/
theorem isTag_of_apply_ok {rule : Rule} {token : Token} (hopens : rule.opens c.rest = true)
    (h : (rule.apply c).answer = .ok token) (hkind : token.kind = .htmlTag) :
    token.value.IsTag := by
  obtain rfl : rule = htmlTag := by
    have hrule := kind_eq_of_apply_ok h hkind (by decide)
    cases rule with
    | htmlTag => rfl
    | _ => cases hrule
  rw [value_of_apply_ok_of_ne (by decide) (ne_nil_of_opens hopens) h]
  exact isTag_span_htmlTag hopens

/-- **All tags of a scan** look like tags. -/
theorem isTag_of_mem_drain {rules : List Rule} {token : Token} (h : token ∈ (c.drain rules).answer)
    (hkind : token.kind = .htmlTag) : token.value.IsTag := by
  obtain ⟨last, hreads, -, -⟩ := Cursor.exists_reads_drain rules c
  obtain ⟨n, hscan⟩ := hreads.exists_scan h
  obtain ⟨rule, -, hfind, hanswer, -⟩ := Cursor.exists_rule_of_scan_token hscan
  have hopens := List.find?_some hfind
  exact isTag_of_apply_ok hopens hanswer hkind

/-- **Tags.**  Where the rule for tags opens, consider the longest run of letters, digits and
characters `<`, `/` and `>`, from the opening character on.  If a `>` stands in it, the rule makes a
tag of the text through the first of them; otherwise it makes one of the whole run.  It moves behind
the tag, on the same line, which is also where its loop ends, and what the loop passes.  So every
tag, also of a scan with whatever rules, begins with `<`, and `>` stands in it once at most, at its
end. -/
theorem apply_htmlTag (c : Cursor) :
    (htmlTag.opens c.rest = true →
      let s := c.source
      let start := c.position.index
      let applied := htmlTag.apply c
      ∃ behind stop, s.RunsTo isTagChar (start + 1) behind ∧
        (if '>' ∈ s.extract start behind then
          ∃ j, s.FirstFrom '>' start j ∧ j < behind ∧ stop = j + 1
        else stop = behind) ∧
        applied.answer = .ok ⟨.htmlTag, s.extract start stop, c.position⟩ ∧
        c.MovesOn applied.cursor ∧ applied.cursor.position = ⟨stop, c.position.line⟩ ∧
        c.PassesThrough tagGoesOn (· == '>') (s.extract start stop) applied.cursor ∧
        Text.IsTag (s.extract start stop)) ∧
    ∀ rules, ∀ token ∈ (c.drain rules).answer, token.kind = .htmlTag → token.value.IsTag := by
  refine ⟨fun hopens => ?_, fun rules token htoken hkind => isTag_of_mem_drain htoken hkind⟩
  intro s start applied
  have hread : htmlTag.read c.rest =
      Reading.whole .htmlTag (takeThrough (· == '>') (c.rest.takeWhile isTagChar)) :=
    Reading.htmlTag_eq c.rest
  have hprefix := List.takeWhile_prefix (l := c.rest) isTagChar
  have hpart : c.rest.takeWhile isTagChar <+: s.drop start := by
    rw [← c.rest_eq]
    exact hprefix
  have hcount : (takeThrough (· == '>') (c.rest.takeWhile isTagChar)).count '\n' = 0 :=
    (congrArg (fun reading => reading.span.count '\n') hread).symm.trans
      (count_feed_span_htmlTag c.rest)
  have htag := isTag_span_htmlTag hopens
  obtain ⟨hspan, hanswer, hposition⟩ := apply_of_span hread rfl
  refine ⟨_, _, runsTo_of_opens_htmlTag hopens, ?_, hanswer, htmlTag.movesOn_apply c, ?_, ?_, ?_⟩
  · rw [Cursor.extract_of_prefix hprefix]
    exact tag_stop hpart
  · rw [hposition, hspan, hcount, Position.add_ofNat_zero]
  · rw [hspan, show applied.cursor = _ from (apply_of_whole hread).2]
    exact Cursor.passesThrough_takeThrough tagGoesOn_eq _ c
  · rw [hspan]
    rwa [hread] at htag

/-- A tag with a `<` inside that is closed, with more behind it; one that a space cuts off, on a
line that was set; and one that the end of the text cuts off. -/
theorem apply_htmlTag_three_ends :
    let c := (Cursor.ofText "x<a</b>>".toList).advance 1
    let d := (Cursor.ofText "\n</é >".toList).moveTo ⟨1, 5⟩
    let e := Cursor.ofText "<<".toList
    (htmlTag.opens c.rest = true ∧
      (htmlTag.apply c).answer = .ok ⟨.htmlTag, "<a</b>".toList, ⟨1, 1⟩⟩ ∧
      (htmlTag.apply c).cursor.position = ⟨7, 1⟩) ∧
    (htmlTag.opens d.rest = true ∧
      (htmlTag.apply d).answer = .ok ⟨.htmlTag, "</é".toList, ⟨1, 5⟩⟩ ∧
      (htmlTag.apply d).cursor.position = ⟨4, 5⟩) ∧
    (htmlTag.opens e.rest = true ∧
      (htmlTag.apply e).answer = .ok ⟨.htmlTag, "<<".toList, ⟨0, 1⟩⟩ ∧
      (htmlTag.apply e).cursor.position = ⟨2, 1⟩) := by
  intro c d e
  have hc : htmlTag.opens c.rest = true := by decide
  have hd : htmlTag.opens d.rest = true := by decide
  have he : htmlTag.opens e.rest = true := by decide
  obtain ⟨i, stop, hi, hclosed, htag, -, hci, -⟩ := (apply_htmlTag c).1 hc
  obtain ⟨j, stop', hj, hspace, hcut, -, hdj, -⟩ := (apply_htmlTag d).1 hd
  obtain ⟨k, stop'', hk, hnone, hshort, -, hek, -⟩ := (apply_htmlTag e).1 he
  obtain rfl : i = 8 := (hi.eq (Text.runsTo_takeWhile (by decide) _)).trans (by decide +kernel)
  obtain rfl : j = 4 := (hj.eq (Text.runsTo_takeWhile (by decide) _)).trans (by decide +kernel)
  obtain rfl : k = 2 := (hk.eq (Text.runsTo_takeWhile (by decide) _)).trans (by decide +kernel)
  rw [if_pos (by decide)] at hclosed
  rw [if_neg (by decide)] at hspace hnone
  obtain ⟨i, hfirst, -, rfl⟩ := hclosed
  obtain rfl : i = 6 := hfirst.eq (Text.firstFrom_idxOf (by decide))
  subst hspace
  subst hnone
  exact ⟨⟨hc, htag, hci⟩, ⟨hd, hcut, hdj⟩, he, hshort, hek⟩

end Rule
end SpanLexer
