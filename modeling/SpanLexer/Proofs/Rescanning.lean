import SpanLexer.Proofs.Lookahead
import SpanLexer.Proofs.Run

/-!
# Scanning the values again

The values of the tokens of a finished scan, joined, are the text with its short hex colors filled
up.  Scanning them gives the same kinds and values on the same lines: no rule decides differently
because of the zeros, for they stand behind the number sign of their color, where only the rule for
hex colors goes on, and that rule reads exactly as many digits as there are now.

* `Padded` — a text with zeros put in behind number signs; `Padded.opens_eq` says that the same
  rules open.
* `Token.Shows.padded` — what the value of a token adds to its span.
* `Cursor.scan_value` — a token is read again where its value stands in the place of its span.
* `Cursor.drain_values` — so scanning the values of a finished scan gives them again.
-/

namespace SpanLexer

/-- **Padding.**  The second text is the first one with zeros put in, each at some place behind a
number sign. -/
inductive Padded : Text → Text → Prop
  | nil : Padded [] []
  | cons (c : Char) {u v : Text} (h : Padded u v) : Padded (c :: u) (c :: v)
  | zeros (digits : Text) (n : Nat) {u v : Text} (h : Padded u v) :
      Padded ('#' :: (digits ++ u)) ('#' :: (digits ++ (List.replicate n '0' ++ v)))

namespace Padded

variable {u v : Text}

theorem append_left (h : Padded u v) (t : Text) : Padded (t ++ u) (t ++ v) := by
  induction t with
  | nil => exact h
  | cons c t ih => exact Padded.cons c ih

theorem head?_eq (h : Padded u v) : u.head? = v.head? := by
  cases h <;> rfl

theorem eq_nil (h : Padded u v) (hv : v = []) : u = [] := by
  subst hv
  cases h
  rfl

/-- Padding brings in no character but zeros. -/
theorem mem_of_mem (h : Padded u v) {x : Char} (hx : x ≠ '0') (hmem : x ∈ v) : x ∈ u := by
  induction h with
  | nil => exact hmem
  | cons c _ ih =>
      rcases List.mem_cons.1 hmem with rfl | hlater
      · exact List.mem_cons_self
      · exact List.mem_cons_of_mem _ (ih hlater)
  | zeros digits n _ ih =>
      simp only [List.mem_cons, List.mem_append, List.mem_replicate] at hmem ⊢
      rcases hmem with hsign | hdigit | ⟨-, hzero⟩ | hlater
      · exact Or.inl hsign
      · exact Or.inr (Or.inl hdigit)
      · exact absurd hzero hx
      · exact Or.inr (Or.inr (ih hlater))

/-- Padding changes nothing up to the first number sign. -/
theorem prefix_iff (h : Padded u v) {t : Text} (ht : '#' ∉ t) : t <+: u ↔ t <+: v := by
  induction h generalizing t with
  | nil => exact Iff.rfl
  | cons c _ ih =>
      cases t with
      | nil => simp
      | cons x t =>
          have htail : '#' ∉ t := fun hmem => ht (List.mem_cons_of_mem x hmem)
          rw [List.cons_prefix_cons, List.cons_prefix_cons, ih htail]
  | zeros digits n _ _ =>
      cases t with
      | nil => simp
      | cons x t =>
          have hx : x ≠ '#' := fun hsign => ht (hsign ▸ List.mem_cons_self)
          simp [List.cons_prefix_cons, hx]

/-- **The same rules open**: what they look for holds no number sign but as its first character. -/
theorem opens_eq (h : Padded u v) (rule : Rule) : rule.opens u = rule.opens v := by
  have hsign : ∀ mark ∈ Rule.marks, '#' ∉ mark := by decide
  exact Rule.opens_congr h.head?_eq fun mark hmark => h.prefix_iff (hsign mark hmark)

end Padded

namespace Reading

/-- The value of a hex color is its opening character with six letters or digits. -/
theorem exists_value_hexColor (c : Char) (later : Text) :
    ∃ digits, (hexColor (c :: later)).verdict = .accepted .hexColor (c :: digits) ∧
      digits.length = hexColorDigits ∧ ∀ x ∈ digits, isLetterOrDigit x = true := by
  refine ⟨_, rfl, ?_, ?_⟩
  · have hlength := length_bounded_le later hexColorDigits isLetterOrDigit
    simp only [List.tail_cons, List.length_append, List.length_replicate]
    omega
  · have hzero : isLetterOrDigit '0' = true := by decide +kernel
    intro x hx
    rcases List.mem_append.1 hx with hdigit | hfill
    · exact of_mem_takeWhile hdigit
    · rw [(List.mem_replicate.1 hfill).2]
      exact hzero

/-- A hex color with all its digits is read as it stands, whatever follows. -/
theorem hexColor_of_full {digits : Text} (hlength : digits.length = hexColorDigits)
    (hall : ∀ x ∈ digits, isLetterOrDigit x = true) (c : Char) (later : Text) :
    hexColor (c :: (digits ++ later)) = ⟨c :: digits, .accepted .hexColor (c :: digits)⟩ := by
  have hdigits : ((digits ++ later).take hexColorDigits).takeWhile isLetterOrDigit = digits := by
    rw [List.take_left' hlength]
    have hrun : (digits ++ []).takeWhile isLetterOrDigit = digits :=
      takeWhile_append_eq_left_iff.2 ⟨hall, nofun⟩
    rwa [List.append_nil] at hrun
  simp only [hexColor, List.tail_cons, List.headD_cons, List.take_succ_cons, List.take_zero,
    hdigits, hlength, Nat.sub_self, List.replicate_zero, List.append_nil, List.singleton_append]

end Reading

namespace Token.Shows

variable {token : Token} {span : Text}

/-- Values in the place of spans are padding. -/
theorem padded (h : token.Shows span) {u v : Text} (hpadded : Padded u v) :
    Padded (span ++ u) (token.value ++ v) := by
  obtain ⟨n, hvalue, hsame⟩ := h.exists_zeros
  by_cases hkind : token.kind = .hexColor
  · obtain ⟨digits, rfl, -, -⟩ := h.hexColor hkind
    rw [hvalue, List.append_assoc]
    exact Padded.zeros digits n hpadded
  · rw [hsame hkind]
    exact hpadded.append_left span

/-- The value of a token has as many line feeds as its span. -/
theorem count_feed (h : token.Shows span) : token.value.count '\n' = span.count '\n' := by
  obtain ⟨n, hvalue, -⟩ := h.exists_zeros
  rw [hvalue, List.count_append, List.count_replicate]
  simp

end Token.Shows

namespace Rule

variable {rule : Rule} {c d : Cursor} {token : Token} {later v : Text}

/-- A hex color is read again from its value, for that has all its digits. -/
theorem apply_value_of_hexColor (hopens : rule.opens c.rest = true)
    (hanswer : (rule.apply c).answer = .ok token) (hkind : token.kind = .hexColor)
    (hrest : d.rest = token.value ++ v) :
    (rule.read d.rest).span = token.value ∧
      (rule.apply d).answer = .ok { token with position := d.position } := by
  have hne := ne_nil_of_opens hopens
  obtain rfl := eq_hexColor_of_apply_ok hanswer hkind
  obtain ⟨char, tail, hcons⟩ := List.exists_cons_of_ne_nil hne
  obtain ⟨digits, hcolor, hlength, hall⟩ := Reading.exists_value_hexColor char tail
  obtain ⟨-, hverdict⟩ := verdict_of_apply_ok hanswer
  rw [hcons, read, hcolor] at hverdict
  rcases hverdict with haccepted | ⟨hrecovered, -⟩
  · obtain ⟨-, hvalue⟩ := Verdict.accepted.inj haccepted
    have hread : hexColor.read d.rest = ⟨token.value, .accepted token.kind token.value⟩ := by
      rw [hrest, ← hvalue, hkind]
      exact Reading.hexColor_of_full hlength hall char v
    rw [answer_apply_of_accepted (congrArg Reading.verdict hread), hread]
    exact ⟨rfl, rfl⟩
  · cases hrecovered

/-- Any other token is read again from its value, for that is its span. -/
theorem apply_value_of_ne (hopens : rule.opens c.rest = true)
    (hanswer : (rule.apply c).answer = .ok token) (hkind : token.kind ≠ .hexColor)
    (hlater : c.rest = (rule.read c.rest).span ++ later) (hpadded : Padded later v)
    (hrest : d.rest = token.value ++ v) :
    (rule.read d.rest).span = token.value ∧
      (rule.apply d).answer = .ok { token with position := d.position } := by
  obtain ⟨-, -, hsame⟩ := (shows_of_apply_ok hopens hanswer).exists_zeros
  have hvalue := hsame hkind
  suffices hread : rule.read d.rest = rule.read c.rest by
    rw [hread]
    exact ⟨hvalue.symm, answer_apply_congr hread hanswer⟩
  obtain ⟨-, hverdict⟩ := verdict_of_apply_ok hanswer
  have hne := span_ne_nil hopens
  rw [hrest, hvalue]
  generalize hspan : (rule.read c.rest).span = span at hlater hne
  rw [hlater] at hspan hverdict hopens ⊢
  rcases hverdict with haccepted | ⟨hrecovered, -, -⟩
  · refine read_append_congr hne hpadded.head?_eq hspan ?_
    rw [haccepted]
    exact nofun
  · -- A rule that backs out passed one character, and zeros close nothing.
    obtain ⟨char, tail, rfl⟩ := List.exists_cons_of_ne_nil hne
    rw [List.cons_append] at hspan hrecovered hopens
    rw [(read_eq_recovery hrecovered).1] at hspan
    obtain rfl : [] = tail := (List.cons.inj hspan).2
    exact read_cons_congr_of_recovered hopens (hpadded.mem_of_mem (by decide))
      (hpadded.mem_of_mem (by decide)) hpadded.eq_nil hrecovered

end Rule

namespace Cursor

variable {rules : List Rule} {c d : Cursor} {token : Token} {tokens : List Token}

/-- **A token is read again** from a text that begins with its value and goes on with the padded
rest of the text. -/
theorem scan_value {v : Text} (hscan : (c.scan rules).answer = .token token)
    (hpadded : Padded (c.scan rules).cursor.rest v) (hrest : d.rest = token.value ++ v)
    (hhalted : d.halted = none) :
    (d.scan rules).answer = .token { token with position := d.position } ∧
      (d.scan rules).cursor = d.advance token.value.length := by
  obtain ⟨rule, -, hfind, hanswer, hcursor⟩ := exists_rule_of_scan_token hscan
  have hopens := List.find?_some hfind
  have hlater : (rule.read c.rest).span ++ (c.scan rules).cursor.rest = c.rest := by
    rw [hcursor, Rule.cursor_apply, rest_advance]
    exact List.prefix_iff_eq_append.1 (rule.span_prefix_self c.rest)
  -- The same rule opens, for the text at `d` is the padded text at `c`.
  have hfindAgain : rules.find? (fun rule => rule.opens d.rest) = some rule := by
    have hwhole := (Rule.shows_of_apply_ok hopens hanswer).padded hpadded
    rw [hlater, ← hrest] at hwhole
    simpa only [hwhole.opens_eq] using hfind
  have hagain : (rule.read d.rest).span = token.value ∧
      (rule.apply d).answer = .ok { token with position := d.position } := by
    by_cases hkind : token.kind = .hexColor
    · exact Rule.apply_value_of_hexColor hopens hanswer hkind hrest
    · exact Rule.apply_value_of_ne hopens hanswer hkind hlater.symm hpadded hrest
  obtain ⟨hspan, hanswerAgain⟩ := hagain
  obtain ⟨hdone, hnext⟩ := (Scans.read hhalted hfindAgain hanswerAgain).scan_eq
  rw [Rule.cursor_apply, hspan] at hnext
  exact ⟨hdone, hnext⟩

/-- The values of a run to the end of the text are that text with padding. -/
theorem Reads.padded {last : Cursor} (h : c.Reads rules tokens last) (hlast : last.rest = []) :
    Padded c.rest (tokens.flatMap Token.value) := by
  induction h with
  | nil c =>
      rw [hlast]
      exact Padded.nil
  | @cons c last token tokens hscan _ ih =>
      obtain ⟨span, later, hrest, -, -, hshows, hcursor⟩ := scan_token hscan
      have hpadded := ih hlast
      rw [hcursor, rest_advance, hrest, List.drop_left] at hpadded
      rw [hrest, List.flatMap_cons]
      exact hshows.padded hpadded

/-- A run to the end of the text is repeated from the joined values of its tokens, with the same
kinds, values and lines. -/
theorem Reads.again {last : Cursor} (h : c.Reads rules tokens last) (hlast : last.rest = [])
    (hrest : d.rest = tokens.flatMap Token.value) (hhalted : d.halted = none)
    (hline : d.position.line = c.position.line) :
    ∃ repeated lastAgain, d.Reads rules repeated lastAgain ∧ lastAgain.rest = [] ∧
      lastAgain.halted = none ∧
      repeated.map (fun token => (token.kind, token.value, token.position.line)) =
        tokens.map (fun token => (token.kind, token.value, token.position.line)) := by
  induction h generalizing d with
  | nil c => exact ⟨[], d, Reads.nil d, hrest, hhalted, rfl⟩
  | @cons c last token tokens hscan hlater ih =>
      rw [List.flatMap_cons] at hrest
      obtain ⟨span, later, hspan, -, hposition, hshows, hcursor⟩ := scan_token hscan
      obtain ⟨hagain, hnext⟩ := scan_value hscan (hlater.padded hlast) hrest hhalted
      have hrestNext : (d.scan rules).cursor.rest = tokens.flatMap Token.value := by
        rw [hnext, rest_advance, hrest, List.drop_left]
      have hlineNext :
          (d.scan rules).cursor.position.line = (c.scan rules).cursor.position.line := by
        rw [hnext, hcursor, position_advance, position_advance, hrest, hspan, List.take_left,
          List.take_left, Position.line_after, Position.line_after, hshows.count_feed, hline]
      have hhaltedNext : (d.scan rules).cursor.halted = none := by
        rw [hnext]
        exact hhalted
      obtain ⟨repeated, lastAgain, hreads, hend, hrunning, hshape⟩ :=
        ih hlast hrestNext hhaltedNext hlineNext
      refine ⟨_, lastAgain, Reads.cons hagain hreads, hend, hrunning, ?_⟩
      rw [List.map_cons, List.map_cons, hshape, hline, hposition]

/-- **Scanning the values again.**  If the scan of a text comes to its end, then so does the scan
of the joined values of its tokens, with the same kinds and values on the same lines; so the values
of that scan, joined, are the text that it scanned. -/
theorem drain_values {s : Text}
    (h : (((ofText s).drain rules).cursor.scan rules).answer = .finished) :
    let tokens := ((ofText s).drain rules).answer
    let repeated := (ofText (tokens.flatMap Token.value)).drain rules
    (repeated.cursor.scan rules).answer = .finished ∧
      repeated.answer.map (fun token => (token.kind, token.value, token.position.line)) =
        tokens.map (fun token => (token.kind, token.value, token.position.line)) ∧
      repeated.answer.flatMap Token.value = tokens.flatMap Token.value := by
  intro tokens repeated
  obtain ⟨last, hreads, hstop, hcursor⟩ := exists_reads_drain rules (ofText s)
  rw [hcursor, scan_scan hstop] at h
  have hlast : last.rest = [] := (scan_eq_finished_iff.1 h).2
  obtain ⟨again, lastAgain, hagain, hend, hhalted, hshape⟩ :=
    hreads.again (d := ofText (tokens.flatMap Token.value)) hlast rfl rfl rfl
  have hfinished : lastAgain.scan rules = ⟨.finished, lastAgain, []⟩ :=
    scan_of_rest_nil hhalted hend
  have hstopAgain : ∀ token, (lastAgain.scan rules).answer ≠ .token token := by
    rw [hfinished]
    exact nofun
  obtain ⟨hanswer, hdrained⟩ : repeated.answer = again ∧
      repeated.cursor = (lastAgain.scan rules).cursor := hagain.drain_of_stop hstopAgain
  have hvalues := congrArg (fun shapes => shapes.flatMap fun shape => shape.2.1) hshape
  simp only [List.flatMap_map] at hvalues
  rw [hanswer, hdrained, hfinished, hfinished]
  exact ⟨rfl, hshape, hvalues⟩

/-- Two short colors, the second one behind a quote that never closes: the search for the closing
quote now passes the zeros of that color, too. -/
theorem drain_values_short_colors :
    let s : Text := "#ab\n\"#1".toList
    let padded : Text := "#ab0000\n\"#100000".toList
    (((ofText s).drain Rule.standard).cursor.scan Rule.standard).answer = .finished ∧
      ((ofText s).drain Rule.standard).answer.flatMap Token.value = padded ∧
      (((ofText padded).drain Rule.standard).cursor.scan Rule.standard).answer = .finished ∧
      ((ofText padded).drain Rule.standard).answer.map
          (fun token => (token.kind, token.value, token.position.line)) =
        ((ofText s).drain Rule.standard).answer.map
          (fun token => (token.kind, token.value, token.position.line)) ∧
      ((ofText padded).drain Rule.standard).answer.flatMap Token.value = padded := by
  intro s padded
  have hfinished :
      (((ofText s).drain Rule.standard).cursor.scan Rule.standard).answer = .finished := by
    decide +kernel
  have hpadded : ((ofText s).drain Rule.standard).answer.flatMap Token.value = padded := by
    decide +kernel
  obtain ⟨hend, hshape, hvalues⟩ := drain_values hfinished
  rw [hpadded] at hend hshape hvalues
  exact ⟨hfinished, hpadded, hend, hshape, hvalues⟩

end Cursor
end SpanLexer
