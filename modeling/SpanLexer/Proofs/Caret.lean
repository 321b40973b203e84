import Mathlib.Data.Nat.Digits.Defs
import SpanLexer.Proofs.LineLookup
import SpanLexer.Proofs.Placement
import SpanLexer.Proofs.Settling
import SpanLexer.Report

/-!
# The caret points at the culprit

A report shows the line of an error without the blanks around it, and a caret below.  The number of
the line, the bar and the caret are padded independently of each other; nevertheless the caret
stands below the character that caused the error.  That character is never trimmed: a scan with a
rule for white space does not stop at a blank.

* `Report.Trims` — what is left of a line between its blanks.
* `Report.Trims.getElem?` — a character that is not blank is left, and moves with the indent.
* `Report.PointsAt` — three lines that point at a character.
* `Report.excerpt_pointsAt` — the lines below the heading of a report do, if it is not a blank and
  there is room for the line.
* `Cursor.exists_culprit_drain` — no scan with a rule for white space ends at a blank.
* `Report.caret_points_at_culprit` — so the caret of a report on a scan points at the culprit.
-/

namespace SpanLexer
namespace Report

/-- **A line between its blanks.**  It begins with so many spaces, ends with white space, and the
body between them neither begins with a space nor ends with a blank. -/
structure Trims (line : Text) (indent : Nat) (body : Text) : Prop where
  exists_blanks : ∃ blanks, line = List.replicate indent ' ' ++ body ++ blanks ∧
    ∀ c ∈ blanks, isWhitespace c = true
  head_ne : body.head? ≠ some ' '
  last_not_blank : ∀ c, body.getLast? = some c → isWhitespace c = false

/-- What a report shows of a line. -/
theorem trims_shownPart (line : Text) :
    Trims line (line.takeWhile (· == ' ')).length (shownPart line) := by
  set shown := line.dropWhile (· == ' ') with hshown
  have hsplit : line.takeWhile (· == ' ') ++ shown = line := List.takeWhile_append_dropWhile
  have hspaces : List.replicate (line.takeWhile (· == ' ')).length ' ' =
      line.takeWhile (· == ' ') := by
    rw [eq_comm]
    refine List.eq_replicate_of_mem fun c hc => ?_
    have hspace := of_mem_takeWhile hc
    exact eq_of_beq hspace
  rw [shownPart, ← hshown]
  have hbody : trimEnd shown ++ shown.rtakeWhile isWhitespace = shown :=
    List.rdropWhile_append_rtakeWhile
  refine ⟨⟨shown.rtakeWhile isWhitespace, ?_, fun c hc => List.mem_rtakeWhile_imp hc⟩, ?_, ?_⟩
  · rw [List.append_assoc, hbody, hspaces, hsplit]
  · intro hhead
    obtain ⟨later, hlater⟩ := List.head?_eq_some_iff.1 hhead
    have hnot := List.head?_dropWhile_not (· == ' ') line
    rw [← hshown, ← hbody, hlater] at hnot
    cases hnot
  · intro c hlast
    obtain ⟨hne, hc⟩ := List.mem_getLast?_eq_getLast hlast
    rw [hc]
    exact Bool.eq_false_iff.2 (List.rdropWhile_last_not isWhitespace shown hne)

/-- A character that is not blank is in the body, and moves with the indent. -/
theorem Trims.getElem? {t body : Text} {indent i : Nat} {c : Char} (h : Trims t indent body)
    (hc : t[i]? = some c) (hblank : isWhitespace c = false) :
    indent ≤ i ∧ body[i - indent]? = some c := by
  obtain ⟨blanks, hsplit, hblanks⟩ := h.exists_blanks
  rw [hsplit, List.append_assoc] at hc
  have hindent : indent ≤ i := by
    by_contra hlt
    rw [List.getElem?_append_left (by rw [List.length_replicate]; omega),
      List.getElem?_replicate_of_lt (by omega)] at hc
    obtain rfl := Option.some.inj hc
    exact absurd hblank (by decide +kernel)
  rw [List.getElem?_append_right (by rw [List.length_replicate]; exact hindent),
    List.length_replicate] at hc
  have hbody : i - indent < body.length := by
    by_contra hge
    rw [List.getElem?_append_right (Nat.not_lt.1 hge)] at hc
    rw [hblanks c (List.mem_of_getElem? hc)] at hblank
    cases hblank
  rw [List.getElem?_append_left hbody] at hc
  exact ⟨hindent, hc⟩

/-- **Three lines that point at a place.**  The second one shows the number of the line at the place
and the line between its blanks.  The first one is empty but for a bar, and the bars of all three
are in one column.  The caret at the end of the third one is in the column in which the second one
shows the character at the place. -/
structure PointsAt (s : Text) (p : Position) (gutter shown caret : Text) : Prop where
  exists_body : ∃ indent body, Trims (s.lineAt p.index) indent body ∧
    shown = decimal p.line.toNat ++ " | ".toList ++ body
  exists_spaces : ∃ n, gutter = List.replicate n ' ' ++ ['|']
  exists_dashes : ∃ n, caret = gutter ++ ' ' :: (List.replicate n '-' ++ ['^'])
  bars : ∃ column, ∀ line ∈ [gutter, shown, caret], line.idxOf? '|' = some column
  exists_culprit : ∃ c, s[p.index]? = some c ∧ shown[caret.length - 1]? = some c

theorem idxOf?_append_bar {line : Text} (h : '|' ∉ line) (later : Text) :
    (line ++ '|' :: later).idxOf? '|' = some line.length := by
  induction line with
  | nil => rfl
  | cons c line ih =>
      obtain ⟨hc, hline⟩ := not_or.1 (mt List.mem_cons.2 h)
      rw [List.cons_append, List.idxOf?_cons, if_neg (by simpa using Ne.symm hc), ih hline]
      rfl

variable {s : Text} {p : Position} {c : Char}

/-- A body and a caret are set below each other so that the caret points at a character of the
body. -/
theorem pointsAt_of_trims {indent column : Nat} {body : Text}
    (htrims : Trims (s.lineAt p.index) indent body) (hc : s[p.index]? = some c)
    (hbody : body[column]? = some c) :
    let number := decimal p.line.toNat
    let gutter := List.replicate (number.length + 1) ' ' ++ ['|']
    PointsAt s p gutter (number ++ " | ".toList ++ body)
      (gutter ++ ' ' :: (List.replicate column '-' ++ ['^'])) := by
  intro number gutter
  have hgutter : gutter = List.replicate (number.length + 1) ' ' ++ ['|'] := rfl
  have hshown : number ++ " | ".toList ++ body = number ++ [' '] ++ '|' :: ' ' :: body := by simp
  have hspaces : '|' ∉ List.replicate (number.length + 1) ' ' := by simp
  have hnumber : '|' ∉ number ++ [' '] := by
    simpa using not_mem_decimal (by decide) p.line.toNat
  rw [hshown]
  refine ⟨⟨indent, body, htrims, hshown.symm⟩, ⟨_, hgutter⟩, ⟨_, rfl⟩, ⟨number.length + 1, ?_⟩,
    ⟨c, hc, ?_⟩⟩
  · intro line hline
    simp only [List.mem_cons, List.not_mem_nil, or_false] at hline
    rcases hline with rfl | rfl | rfl
    · rw [hgutter, idxOf?_append_bar hspaces, List.length_replicate]
    · rw [idxOf?_append_bar hnumber, List.length_append, List.length_singleton]
    · rw [hgutter, List.append_assoc, List.singleton_append, idxOf?_append_bar hspaces,
        List.length_replicate]
  · -- Before the caret and before the character there is the number, a space, the bar and a space.
    have hbefore : (gutter ++ ' ' :: (List.replicate column '-' ++ ['^'])).length - 1 =
        (number ++ [' ', '|', ' ']).length + column := by
      simp only [hgutter, List.length_append, List.length_replicate, List.length_cons,
        List.length_nil]
      omega
    have hlead : number ++ [' '] ++ '|' :: ' ' :: body = number ++ [' ', '|', ' '] ++ body := by
      simp
    rw [hbefore, hlead, List.getElem?_append_right (Nat.le_add_right _ _), Nat.add_sub_cancel_left]
    exact hbody

/-- There is room for the number of a line of 32 bits in the gutter. -/
theorem length_decimal_toNat_le (line : UInt32) : (decimal line.toNat).length ≤ 10 :=
  Nat.toDigits_length 10 line.toNat 10 (by decide) (Nat.lt_trans line.toNat_lt (by decide))

/-- **The lines below the heading point at the place**, if the character there is not a blank, and
neither the number of the line nor what is shown of it is too wide. -/
theorem excerpt_pointsAt (hp : p.InText s) (hfew : s.count '\n' < UInt32.size - 1)
    (hshort : (shownPart (s.lineAt p.index)).length ≤ widthLimit) (hc : s[p.index]? = some c)
    (hblank : isWhitespace c = false) :
    ∃ location gutter shown caret, s.locate p.index = some location ∧
      excerpt location = [some gutter, some shown, some caret] ∧ PointsAt s p gutter shown caret := by
  obtain ⟨hindex, -⟩ := List.getElem?_eq_some_iff.1 hc
  have htrims := trims_shownPart (s.lineAt p.index)
  obtain ⟨-, hbody⟩ := htrims.getElem? ((s.getElem?_lineAt p.index).trans hc) hblank
  have hpoints := pointsAt_of_trims htrims hc hbody
  -- The caret stands below a character that is shown.
  have hcaret := Nat.lt_of_lt_of_le (List.getElem?_eq_some_iff.1 hbody).1 hshort
  have hnumber : (decimal p.line.toNat).length + 1 < widthLimit :=
    Nat.lt_of_le_of_lt (Nat.succ_le_succ (length_decimal_toNat_le p.line)) (by decide)
  rw [hp.toNat_line hfew] at hpoints hnumber
  refine ⟨_, _, _, _, Text.locate_eq hindex, ?_, hpoints⟩
  rw [excerpt, gutter, gutterWidth, caretWidth, alignRight_singleton hnumber, alignRight_singleton hcaret]
  rfl

end Report

namespace Cursor

variable {rules : List Rule} {error : ScanError}

/-- A scan with a rule for white space does not end at a blank. -/
theorem exists_culprit_drain {s : Text} (hblanks : Rule.whitespace ∈ rules)
    (h : (((ofText s).drain rules).cursor.scan rules).answer = .failed error) :
    ∃ culprit, s[error.position.index]? = some culprit ∧ isWhitespace culprit = false := by
  obtain ⟨boundary, hreads, hstops⟩ := exists_boundary rules s
  rw [h] at hstops
  obtain ⟨hposition, hculprit⟩ := hstops.exists_culprit hblanks
  rw [boundary.head?_rest, hreads.source_eq] at hculprit
  rw [hposition]
  exact hculprit

end Cursor

/-- **The caret points at the culprit.**  If a scan of a text with one of the usual orders ends in
an error, the report on it is the heading, the name, and three lines that point at the place of the
error, as long as 32 bits hold the lines of the text, and fields are wide enough for what is shown
of the line. -/
theorem Report.caret_points_at_culprit {rules : List Rule} {s : Text} {error : ScanError}
    (hrules : rules = Rule.standard ∨ rules = Rule.withBlockComments)
    (h : (((Cursor.ofText s).drain rules).cursor.scan rules).answer = .failed error)
    (hfew : s.count '\n' < UInt32.size - 1)
    (hshort : (shownPart (s.lineAt error.position.index)).length ≤ widthLimit)
    (name : Text) :
    ∃ gutter shown caret,
      render error s name =
        [heading error.failure, "-> ".toList ++ name, gutter, shown, caret].flatMap (· ++ ['\n']) ∧
      breaksOff error s name = false ∧
      PointsAt s error.position gutter shown caret ∧
      error.position.line.toNat = 1 + (s.take error.position.index).count '\n' := by
  have hblanks := Rule.whitespace_mem_of_usual hrules
  have hplaced := ((Cursor.Placed.ofText s).drain rules).1.scan rules
  rw [h] at hplaced
  have hp : error.position.InText s := List.forall_mem_singleton.1 hplaced.2
  obtain ⟨culprit, hculprit, hblank⟩ := Cursor.exists_culprit_drain hblanks h
  obtain ⟨location, gutter, shown, caret, hlocate, hexcerpt, hpoints⟩ :=
    excerpt_pointsAt hp hfew hshort hculprit hblank
  have hlines : lines error s name =
      [heading error.failure, "-> ".toList ++ name, gutter, shown, caret].map some := by
    simp only [lines, hlocate, hexcerpt]
    rfl
  refine ⟨gutter, shown, caret, ?_, ?_, hpoints, hp.toNat_line hfew⟩
  · rw [render, hlines, printed_map_some]
  · rw [breaksOff, hlines]
    rfl

/-- One half is not a digit, and no rule opens there. -/
theorem Report.caret_points_at_culprit_one_half :
    let s : Text := "// one half\n    let a = ½;  \n".toList
    let error : ScanError := ⟨.unrecognised ['½'], ⟨24, 2⟩⟩
    let scanned := ((Cursor.ofText s).drain Rule.standard).cursor.scan Rule.standard
    (Rule.standard = Rule.standard ∨ Rule.standard = Rule.withBlockComments) ∧
      scanned.answer = .failed error ∧
      s.count '\n' < UInt32.size - 1 ∧
      (shownPart (s.lineAt error.position.index)).length ≤ widthLimit ∧
      render error s "half.txt".toList =
        ("Error: UnrecognisedToken\n-> half.txt\n" ++
          "  |\n2 | let a = ½;\n  | --------^\n").toList ∧
      ∃ gutter shown caret, PointsAt s error.position gutter shown caret := by
  intro s error scanned
  have hrules : Rule.standard = Rule.standard ∨ Rule.standard = Rule.withBlockComments := Or.inl rfl
  have hfailed : scanned.answer = .failed error := by decide +kernel
  have hfew : s.count '\n' < UInt32.size - 1 := by decide
  have hshort : (shownPart (s.lineAt error.position.index)).length ≤ widthLimit := by decide +kernel
  obtain ⟨gutter, shown, caret, -, -, hpoints, -⟩ :=
    caret_points_at_culprit hrules hfailed hfew hshort "half.txt".toList
  exact ⟨hrules, hfailed, hfew, hshort, by decide +kernel, gutter, shown, caret, hpoints⟩

end SpanLexer
