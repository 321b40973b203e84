import SpanLexer.Proofs.Delimiters
import SpanLexer.Proofs.Halting
import SpanLexer.Proofs.LineLookup
import SpanLexer.Proofs.Placement

/-!
# The lookup and the cursors agree on lines

The lookup of a line splits the text and adds up lengths; a cursor counts line feeds one by one, and
goes back to numbers that it wrote down.  They agree: the lookup finds the line around an index, and
whatever position a scan hands out, the lookup finds it on the line that the position records.

* `Text.LineAround` — from where to where the line around an index goes.
* `Text.exists_lineAround` — the lookup finds that line; `Text.locate_eq_none_iff` says when it finds
  none.
* `Text.Locates` — the lookup finds a position on the line that it records.
* `Position.InText.locates` — it does so for every place in the text but the end.
* `Cursor.Placed.locates_scan`, `Cursor.Placed.locates_drain` — and for all that scans hand out.
* `Session.lookup_agrees` — so it does wherever the commands of a session lead.
-/

namespace SpanLexer

/-- **The line around an index** goes from `start` to `stop`: it begins with the text or behind a
line feed, and no other line feed comes before the index; it ends behind the first line feed from the
index on, or with the text if there is none. -/
structure Text.LineAround (s : Text) (index start stop : Nat) : Prop where
  start_le : start ≤ index
  begins : start = 0 ∨ ∃ i, start = i + 1 ∧ s[i]? = some '\n'
  before : ∀ i, start ≤ i → i < index → s[i]? ≠ some '\n'
  ends : (∃ j, s.FirstFrom '\n' index j ∧ stop = j + 1) ∨ '\n' ∉ s.drop index ∧ stop = s.length

/-- The lookup finds a position on the line that the position records.  A position records it in 32
bits, which hold the number if the text has fewer than `UInt32.size - 1` line feeds. -/
def Text.Locates (s : Text) (p : Position) : Prop :=
  ∃ location, s.locate p.index = some location ∧ UInt32.ofNat location.number = p.line ∧
    (s.count '\n' < UInt32.size - 1 → location.number = p.line.toNat)

namespace Text

variable {s : Text} {index : Nat}

/-- The lookup passes all lines if the index is behind them. -/
theorem locateIn_eq_none_iff {number : Nat} {ls : List Text} {index : Nat} :
    locateIn number ls index = none ↔ ls.flatten.length ≤ index := by
  induction ls generalizing number index with
  | nil => simp [locateIn]
  | cons line later ih =>
      rw [locateIn, List.flatten_cons, List.length_append]
      split
      · next hhere =>
          refine iff_of_false (Option.some_ne_none _) (Nat.not_le.2 ?_)
          omega
      · next hbehind =>
          rw [ih]
          omega

/-- **The lookup finds nothing** exactly behind the text. -/
theorem locate_eq_none_iff : s.locate index = none ↔ s.length ≤ index := by
  rw [locate, locateIn_eq_none_iff, flatten_lines]

/-- What comes before an index is earlier lines and the part of its line before it. -/
theorem exists_earlier_lines (s : Text) (index : Nat) :
    ∃ earlier, s.take index = earlier ++ lineBefore s index ∧
      (earlier = [] ∨ ∃ t, earlier = t ++ ['\n']) ∧ '\n' ∉ lineBefore s index := by
  refine ⟨(s.take index).rdropWhile (· != '\n'), List.rdropWhile_append_rtakeWhile.symm, ?_, ?_⟩
  · rcases List.eq_nil_or_concat ((s.take index).rdropWhile (· != '\n')) with hnil | ⟨t, x, hx⟩
    · exact Or.inl hnil
    · have hlast := List.rdropWhile_last_not (· != '\n') (s.take index) (by simp [hx])
      simp only [hx, List.concat_eq_append, List.getLast_append_singleton] at hlast
      obtain rfl : x = '\n' := by simpa using hlast
      exact Or.inr ⟨t, by rw [hx, List.concat_eq_append]⟩
  · intro hmem
    have hother := List.mem_rtakeWhile_imp hmem
    exact absurd rfl (bne_iff_ne.1 hother)

/-- The rest of a line goes through its line feed, or to the end of the text if it has none. -/
theorem exists_line_end (h : index ≤ s.length) :
    ∃ stop, index ≤ stop ∧
      takeThrough (· == '\n') (s.drop index) = (s.drop index).take (stop - index) ∧
      ((∃ j, s.FirstFrom '\n' index j ∧ stop = j + 1) ∨ '\n' ∉ s.drop index ∧ stop = s.length) := by
  by_cases hmem : '\n' ∈ s.drop index
  · have hfirst := firstFrom_idxOf hmem
    have hlength : index + (s.drop index).idxOf '\n' + 1 - index =
        (s.drop index).idxOf '\n' + 1 := by omega
    refine ⟨_, Nat.le_succ_of_le hfirst.le, ?_, Or.inl ⟨_, hfirst, rfl⟩⟩
    rw [hlength]
    rfl
  · refine ⟨s.length, h, ?_, Or.inr ⟨hmem, rfl⟩⟩
    rw [← List.length_drop, List.take_length, takeThrough_of_not_mem hmem]

/-- **The lookup finds the line around an index**: its number, its text, and the column of the index
in it, which is where that text has the character at the index. -/
theorem exists_lineAround (h : index < s.length) :
    ∃ start stop, s.LineAround index start stop ∧
      s.locate index =
        some ⟨1 + (s.take index).count '\n', s.extract start stop, index - start⟩ ∧
      (s.extract start stop)[index - start]? = s[index]? := by
  obtain ⟨earlier, hsplit, hbegins, hline⟩ := exists_earlier_lines s index
  obtain ⟨stop, hstop, hthrough, hends⟩ := exists_line_end (Nat.le_of_lt h)
  have hlength : earlier.length + (lineBefore s index).length = index := by
    rw [← List.length_append, ← hsplit, List.length_take_of_le (Nat.le_of_lt h)]
  have hcolumn : index - earlier.length = (lineBefore s index).length := by omega
  have hextract : s.extract earlier.length stop = lineAt s index := by
    have hwhole : s = earlier ++ (lineBefore s index ++ s.drop index) := by
      rw [← List.append_assoc, ← hsplit, List.take_append_drop]
    have hdrop : s.drop earlier.length = lineBefore s index ++ s.drop index :=
      (congrArg (List.drop earlier.length) hwhole).trans List.drop_left
    have hlater : stop - earlier.length = (lineBefore s index).length + (stop - index) := by omega
    rw [List.extract, hdrop, hlater, List.take_length_add_append, ← hthrough, lineAt]
  -- A character before the index stands in an earlier line or before the index in its line.
  have hbefore : ∀ i, i < index → s[i]? = (earlier ++ lineBefore s index)[i]? := by
    intro i hi
    rw [← hsplit, List.getElem?_take_of_lt hi]
  refine ⟨earlier.length, stop, ⟨by omega, ?_, ?_, hends⟩, ?_, ?_⟩
  · rcases hbegins with rfl | ⟨t, rfl⟩
    · exact Or.inl rfl
    · rw [List.length_append, List.length_singleton] at hlength ⊢
      refine Or.inr ⟨t.length, rfl, ?_⟩
      rw [hbefore t.length (by omega), List.append_assoc, List.getElem?_append_right (Nat.le_refl _),
        Nat.sub_self]
      rfl
  · intro i hstart hi hfeed
    rw [hbefore i hi, List.getElem?_append_right hstart] at hfeed
    exact hline (List.mem_of_getElem? hfeed)
  · rw [hcolumn, hextract, locate_eq h]
  · rw [hcolumn, hextract, getElem?_lineAt]

/-- A number that is rejected stands in the text. -/
theorem Rejects.index_lt {error : ScanError} (h : s.Rejects error) :
    error.position.index < s.length := by
  obtain ⟨number, -, -, hnumber, hmin, -⟩ := h
  have hlength := congrArg List.length hnumber
  rw [List.extract, List.length_take, List.length_drop] at hlength
  omega

end Text

/-- **The lookup finds a place in the text on the line that it records**, unless it is the end. -/
theorem Position.InText.locates {s : Text} {p : Position} (hp : p.InText s)
    (h : p.index < s.length) : s.Locates p :=
  ⟨_, Text.locate_eq h, (UInt32.ofNat_add _ _).trans hp.2.symm, fun hfew =>
    (hp.toNat_line hfew).symm⟩

namespace Cursor.Placed

variable {s : Text} {c : Cursor}

/-- What a scan hands out does not stand at the end of the text. -/
theorem index_lt_of_mem_scan (h : c.Placed s) (hstored : c.StoresRejected) (rules : List Rule) :
    ∀ p ∈ (c.scan rules).answer.positions, p.index < s.length := by
  have hscans := scans_scan rules c
  generalize (c.scan rules).answer = answer at hscans ⊢
  generalize (c.scan rules).cursor = next at hscans
  rw [← h.source_eq]
  cases hscans with
  | halted hhalted => exact List.forall_mem_singleton.2 (hstored _ hhalted).index_lt
  | read _ hfind hanswer =>
      have hopens := List.find?_some hfind
      refine List.forall_mem_singleton.2 ?_
      rw [(Rule.verdict_of_apply_ok hanswer).1]
      exact index_lt_length (Rule.ne_nil_of_opens hopens)
  | rejected _ hfind hanswer =>
      have hopens := List.find?_some hfind
      exact List.forall_mem_singleton.2 (rejects_of_apply_error hopens hanswer).index_lt
  | stalled _ _ hrest =>
      refine List.forall_mem_singleton.2 (index_lt_length (c := c) ?_)
      rw [hrest]
      exact List.cons_ne_nil _ _
  | finished _ _ => exact nofun

/-- **Scans hand out positions on the lines that the lookup finds them on**, whether with a token or
with an error. -/
theorem locates_scan (h : c.Placed s) (hstored : c.StoresRejected) (rules : List Rule) :
    ∀ p ∈ (c.scan rules).answer.positions, s.Locates p := fun p hp =>
  ((h.scan rules).2 p hp).locates (h.index_lt_of_mem_scan hstored rules p hp)

/-- So does draining, with each of its tokens. -/
theorem locates_drain (h : c.Placed s) (hstored : c.StoresRejected) (rules : List Rule) :
    ∀ token ∈ (c.drain rules).answer, s.Locates token.position := by
  intro token htoken
  obtain ⟨last, hreads, -, -⟩ := exists_reads_drain rules c
  obtain ⟨n, hscan⟩ := hreads.exists_scan htoken
  have hlocates := (h.advance n).locates_scan hstored rules
  rw [hscan] at hlocates
  exact List.forall_mem_singleton.1 hlocates

end Cursor.Placed

namespace Session

/-- **The lookup is exact, and agrees with the cursors.**  It finds nothing exactly behind the text;
before that it finds the line around the index, with the number of line feeds before the index as its
number, counted from 1, and with the column at which the line has the character at the index.  And
wherever commands lead in a session over one text, with steps, rules, scans and returns to marks in
whatever order, the lookup finds a cursor that is not at the end on the line that the cursor
records; and it finds all tokens and errors of scans on the lines that they record. -/
theorem lookup_agrees (s : Text) :
    (∀ index, s.locate index = none ↔ s.length ≤ index) ∧
    (∀ index, index < s.length →
      ∃ start stop, s.LineAround index start stop ∧
        s.locate index =
          some ⟨1 + (s.take index).count '\n', s.extract start stop, index - start⟩ ∧
        (s.extract start stop)[index - start]? = s[index]?) ∧
    ∀ commands session, (∀ t, Command.openText t ∈ commands → t = s) →
      (ofText s).Reaches commands session → ∀ c ∈ session.cursors,
        (c.position.index < s.length → s.Locates c.position) ∧
        (∀ rules, (∀ p ∈ (c.scan rules).answer.positions, s.Locates p) ∧
          ∀ token ∈ (c.drain rules).answer, s.Locates token.position) ∧
        (s.count '\n' < UInt32.size - 1 →
          c.position.line.toNat = 1 + (s.take c.position.index).count '\n') := by
  refine ⟨fun _ => Text.locate_eq_none_iff, fun _ => Text.exists_lineAround, ?_⟩
  intro commands session hopen hreach c hc
  have hkept : session.Placed s ∧ ∀ c ∈ session.cursors, c.StoresRejected := by
    refine hreach.keeps_of_mem
      (fun session => session.Placed s ∧ ∀ c ∈ session.cursors, c.StoresRejected) ?_ ?_
    · rintro session command reply next hmem ⟨hplaced, hstored⟩ hperform
      exact ⟨(hplaced.perform (fun t ht => hopen t (ht ▸ hmem)) hperform).1,
        storesRejected_perform hperform hstored⟩
    · refine ⟨Placed.ofText s, fun c hc => ?_⟩
      rw [List.mem_singleton.1 hc]
      exact nofun
  obtain ⟨hsession, hstored⟩ := hkept
  have hplaced := hsession.cursors c hc
  exact ⟨hplaced.position.locates,
    fun rules => ⟨hplaced.locates_scan (hstored c hc) rules,
      hplaced.locates_drain (hstored c hc) rules⟩,
    hplaced.position.toNat_line⟩

/-- A quote that nothing closes, a number that stops the cursor, and a return to the line feed that
ends the first line: the lookup finds that line feed on its line, and the number on the third one. -/
theorem lookup_agrees_after_return :
    let s : Text := "é\n\"b\n+9665".toList
    let commands := [.next, .mark, .next, .apply .string, .drain Rule.standard, .moveTo 0]
    (∀ t, Command.openText t ∈ commands → t = s) ∧
      ∃ session, (ofText s).Reaches commands session ∧ session.current.position = ⟨1, 1⟩ ∧
        s.Locates ⟨1, 1⟩ ∧ s.Locates ⟨5, 3⟩ ∧ s.locate 1 = some ⟨1, "é\n".toList, 1⟩ := by
  intro s commands
  have hopen : ∀ t, Command.openText t ∈ commands → t = s := by simp [commands]
  have hlead : ∃ session, (ofText s).Reaches commands session ∧
      session.current.position = ⟨1, 1⟩ ∧
      (session.current.scan []).answer.positions = [⟨5, 3⟩] := by
    refine ⟨_, ⟨_, rfl, rfl⟩, ?_⟩
    decide +kernel
  obtain ⟨session, hreach, hposition, hscan⟩ := hlead
  obtain ⟨-, -, hcursors⟩ := lookup_agrees s
  have hcurrent : session.current ∈ session.cursors := List.get_mem _ _
  obtain ⟨hhere, hscans, -⟩ := hcursors commands session hopen hreach _ hcurrent
  have herror := (hscans []).1 ⟨5, 3⟩
  rw [hscan] at herror
  refine ⟨hopen, session, hreach, hposition, ?_, herror List.mem_cons_self, by decide⟩
  have hindex : session.current.position.index < s.length := by
    rw [hposition]
    decide
  exact hposition ▸ hhere hindex

end Session
end SpanLexer
