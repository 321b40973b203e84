import SpanLexer.Proofs.Applying

/-!
# A scan tiles its text

The tokens of a scan lie side by side from the beginning of the text: each shows the part between
two cut points, and the scan ends at the last one.

* `Tiling` — cut points that divide the beginning of a text among tokens.
* `Outcome.EndsAt` — how the scan that reads no more token ends at the last cut point.
* `Cursor.Reads.exists_tiling` — the tokens of a run tile the text it passes.
* `Cursor.exists_tiling_drain`, `Cursor.drain_tiles_text` — draining a text from its beginning
  tiles it.
-/

namespace SpanLexer

/-- **Cut points.**  The tokens of a scan that begins at the position `p`, with the text `t` left
there, divide the beginning of `t`: the `i`-th token begins at `cut i`, counts the line feeds
before it in 32 bits, and shows the text from `cut i` up to `cut (i + 1)`. -/
structure Tiling (p : Position) (t : Text) (tokens : List Token) (cut : Nat → Nat) : Prop where
  zero : cut 0 = 0
  lt_succ : ∀ i, i < tokens.length → cut i < cut (i + 1)
  le_length : cut tokens.length ≤ t.length
  index_eq : ∀ i (h : i < tokens.length), tokens[i].position.index = p.index + cut i
  line_eq : ∀ i (h : i < tokens.length),
    tokens[i].position.line = p.line + UInt32.ofNat ((t.take (cut i)).count '\n')
  shows : ∀ i (h : i < tokens.length), tokens[i].Shows (t.extract (cut i) (cut (i + 1)))

/-- The cut points of a longer tiling: one more at the beginning, the others moved. -/
def Tiling.prepend (n : Nat) (cut : Nat → Nat) : Nat → Nat
  | 0 => 0
  | i + 1 => n + cut i

/-- How a scan of the text `s` ends at the index `n`, and where it leaves the cursor `c`: the text
is finished; or the character at `n` is one where no rule opens; or a phone number that begins at
`n` is rejected, and the cursor stands behind it. -/
def Outcome.EndsAt (s : Text) (n : Nat) (c : Cursor) : Outcome → Prop
  | .token _ => False
  | .finished => n = s.length ∧ c.position.index = n
  | .failed ⟨.unrecognised text, p⟩ =>
      (∃ h : n < s.length, text = [s[n]]) ∧ p.index = n ∧ c.position.index = n
  | .failed ⟨.phoneLength number length, p⟩ =>
      n + length ≤ s.length ∧ number = s.extract n (n + length) ∧ p.index = n ∧
        c.position.index = n + length

namespace Tiling

variable {p : Position} {t : Text} {tokens : List Token} {cut : Nat → Nat}

theorem nil (p : Position) (t : Text) : Tiling p t [] (fun _ => 0) where
  zero := rfl
  lt_succ := by simp
  le_length := Nat.zero_le _
  index_eq := by simp
  line_eq := by simp
  shows := by simp

/-- A token in front of a tiling of the text behind its span. -/
theorem cons {token : Token} {span later : Text} (hspan : span ≠ [])
    (hposition : token.position = p) (hshows : token.Shows span)
    (h : Tiling (p.after span) later tokens cut) :
    Tiling p (span ++ later) (token :: tokens) (prepend span.length cut) where
  zero := rfl
  lt_succ := by
    intro i hi
    cases i with
    | zero =>
        have hpos := List.length_pos_iff.2 hspan
        simp only [prepend]
        omega
    | succ i =>
        have hlt := h.lt_succ i (by simpa using hi)
        simp only [prepend]
        omega
  le_length := by
    have hle := h.le_length
    simp only [List.length_cons, prepend, List.length_append]
    omega
  index_eq := by
    intro i hi
    cases i with
    | zero => simp [prepend, hposition]
    | succ i =>
        have hindex := h.index_eq i (by simpa using hi)
        simp only [List.getElem_cons_succ, hindex, prepend, Position.index_after]
        omega
  line_eq := by
    intro i hi
    cases i with
    | zero => simp [prepend, hposition]
    | succ i =>
        have hline := h.line_eq i (by simpa using hi)
        rw [List.getElem_cons_succ, hline, prepend, List.take_length_add_append, List.count_append,
          Position.line_after, UInt32.ofNat_add, UInt32.add_assoc]
  shows := by
    intro i hi
    cases i with
    | zero => simpa [prepend, h.zero, List.extract] using hshows
    | succ i =>
        have hshow := h.shows i (by simpa using hi)
        have hwidth : span.length + cut (i + 1) - (span.length + cut i) = cut (i + 1) - cut i := by
          omega
        simpa [prepend, List.extract, hwidth] using hshow

/-- The spans between the cut points and the text behind the last one are the whole text: nothing
is lost, and nothing comes twice or out of order. -/
theorem flatMap_extract_append_drop (h : Tiling p t tokens cut) :
    (List.range tokens.length).flatMap (fun i => t.extract (cut i) (cut (i + 1))) ++
      t.drop (cut tokens.length) = t := by
  -- Induction on the number of spans put together; the rest of the text follows them.
  have hpart : ∀ k, k ≤ tokens.length →
      (List.range k).flatMap (fun i => t.extract (cut i) (cut (i + 1))) ++ t.drop (cut k) = t := by
    intro k hk
    induction k with
    | zero => simp [h.zero]
    | succ k ih =>
        have hlt := h.lt_succ k hk
        have hsplit : t.extract (cut k) (cut (k + 1)) ++ t.drop (cut (k + 1)) = t.drop (cut k) := by
          have hmove : t.drop (cut (k + 1)) = (t.drop (cut k)).drop (cut (k + 1) - cut k) := by
            rw [List.drop_drop, Nat.add_sub_cancel' (Nat.le_of_lt hlt)]
          rw [hmove, List.extract, List.take_append_drop]
        rw [List.range_succ, List.flatMap_append, List.append_assoc, List.flatMap_singleton, hsplit]
        exact ih (by omega)
  exact hpart _ (Nat.le_refl _)

end Tiling

namespace Cursor

/-- **The tokens of a run tile the text it passes.** -/
theorem Reads.exists_tiling {rules : List Rule} {c last : Cursor} {tokens : List Token}
    (h : c.Reads rules tokens last) :
    ∃ cut, Tiling c.position c.rest tokens cut ∧ last = c.advance (cut tokens.length) := by
  induction h with
  | nil c => exact ⟨fun _ => 0, Tiling.nil _ _, by simp⟩
  | @cons c last token tokens hscan _ ih =>
      obtain ⟨cut, htiling, hlast⟩ := ih
      obtain ⟨span, later, hrest, hspan, hposition, hshows, hcursor⟩ := scan_token hscan
      rw [hcursor] at htiling hlast
      have hpast : (c.advance span.length).rest = later := by simp [hrest]
      have hat : (c.advance span.length).position = c.position.after span := by simp [hrest]
      rw [hpast, hat] at htiling
      refine ⟨Tiling.prepend span.length cut, ?_, ?_⟩
      · rw [hrest]
        exact Tiling.cons hspan hposition hshows htiling
      · rw [hlast, advance_advance]
        rfl

/-- A scan that reads no token ends where it began, but for a rejected phone number. -/
theorem Scans.endsAt {rules : List Rule} {c next : Cursor} {answer : Outcome}
    (h : c.Scans rules answer next) (hstop : ∀ token, answer ≠ .token token)
    (hhalted : c.halted = none) (hinside : c.position.index ≤ c.source.length) :
    answer.EndsAt c.source c.position.index next := by
  cases h with
  | halted herror => rw [hhalted] at herror; cases herror
  | read _ _ _ => exact absurd rfl (hstop _)
  | @rejected rule error _ hfind hanswer =>
      have hopens := List.find?_some hfind
      obtain ⟨-, -, rfl⟩ := Rule.error_of_apply_error (Rule.ne_nil_of_opens hopens) hanswer
      have hspan := extract_of_prefix (rule.span_prefix_self c.rest)
      have hnext := rule.index_cursor_apply c
      have hend := rule.index_cursor_apply_le hinside
      exact ⟨hnext ▸ hend, hspan.symm, rfl, hnext⟩
  | @stalled char later _ _ hrest =>
      have hdrop : c.source.drop c.position.index = char :: later := by rw [← c.rest_eq, hrest]
      have hlt : c.position.index < c.source.length := by
        have hlength := congrArg List.length hdrop
        simp only [List.length_drop, List.length_cons] at hlength
        omega
      have hchar : c.source[c.position.index] = char := by
        rw [List.drop_eq_getElem_cons hlt] at hdrop
        exact (List.cons.inj hdrop).1
      exact ⟨⟨hlt, by rw [hchar]⟩, rfl, rfl⟩
  | finished _ hrest =>
      have hle := c.rest_eq_nil_iff.1 hrest
      exact ⟨by omega, rfl⟩

/-- Draining a text from its beginning tiles the part that it reads, and the next scan ends at the
last cut point. -/
theorem exists_tiling_drain (rules : List Rule) (s : Text) :
    ∃ cut, Tiling Position.start s ((ofText s).drain rules).answer cut ∧
      (((ofText s).drain rules).cursor.scan rules).answer.EndsAt s
        (cut ((ofText s).drain rules).answer.length)
        (((ofText s).drain rules).cursor.scan rules).cursor := by
  obtain ⟨boundary, hreads, hstop, hcursor⟩ := exists_reads_drain rules (ofText s)
  obtain ⟨cut, htiling, hboundary⟩ := hreads.exists_tiling
  refine ⟨cut, htiling, ?_⟩
  have hle : cut ((ofText s).drain rules).answer.length ≤ s.length := htiling.le_length
  have hsource : boundary.source = s := by rw [hboundary]; rfl
  have hhalted : boundary.halted = none := by rw [hboundary]; rfl
  have hindex : boundary.position.index = cut ((ofText s).drain rules).answer.length := by
    rw [hboundary, position_advance, Position.index_after, List.length_take]
    exact (Nat.zero_add _).trans (Nat.min_eq_left hle)
  have hinside : boundary.position.index ≤ boundary.source.length := by
    rw [hindex, hsource]
    exact hle
  have hends := (scans_scan rules boundary).endsAt hstop hhalted hinside
  rw [hsource, hindex] at hends
  -- The scan after draining repeats the one at the boundary, which ended the run.
  rw [hcursor, scan_scan hstop]
  exact hends

/-- **A scan tiles its text.**  The tokens of a text drained from its beginning have cut points,
the scan after them ends at the last cut point, and the spans between the cut points with the text
behind the last one are the whole text.  If the text has fewer than `UInt32.size - 1` line feeds,
32 bits hold every line, which then is the number of the line feeds before it and one more. -/
theorem drain_tiles_text (rules : List Rule) (s : Text) :
    let drained := (ofText s).drain rules
    let last := drained.cursor.scan rules
    ∃ cut : Nat → Nat,
      Tiling Position.start s drained.answer cut ∧
      last.answer.EndsAt s (cut drained.answer.length) last.cursor ∧
      (List.range drained.answer.length).flatMap (fun i => s.extract (cut i) (cut (i + 1))) ++
        s.drop (cut drained.answer.length) = s ∧
      (s.count '\n' < UInt32.size - 1 → ∀ i (h : i < drained.answer.length),
        drained.answer[i].position.line.toNat = 1 + (s.take (cut i)).count '\n') := by
  intro drained last
  obtain ⟨cut, htiling, hends⟩ := exists_tiling_drain rules s
  refine ⟨cut, htiling, hends, htiling.flatMap_extract_append_drop, ?_⟩
  intro hfew i hi
  have hcount := (List.take_sublist (cut i) s).count_le '\n'
  rw [htiling.line_eq i hi]
  refine Position.toNat_add_ofNat ?_
  have hstart : Position.start.line.toNat = 1 := rfl
  have hsize : UInt32.size = 4294967296 := rfl
  omega

end Cursor
end SpanLexer
