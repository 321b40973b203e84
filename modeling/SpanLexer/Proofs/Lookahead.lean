import SpanLexer.Proofs.Span

/-!
# How far a rule looks

Whether a rule opens is decided by the first character and by three openings of more characters, of
which the longest has five.  What it reads is decided by its span and the one character behind the
span, unless it backs out: then the whole rest of the text was searched for a closing character.

* `takeWhile_append_eq_left_iff`, `takeThrough_append_congr` — where a run ends, and where the first
  stop is.
* `Reading.delimited_of_mem`, `Reading.delimited_singleton`, `Reading.delimited_of_not_mem` — the
  three ways in which a delimited span comes out.
* `Rule.marks`, `Rule.opens_congr` — what an opening depends on.
* `Rule.read_append_congr` — what a span depends on.
* `Rule.opens_append`, `Rule.read_append` — when appending text changes nothing.
* `Rule.unclosed_of_recovered`, `Rule.read_cons_congr_of_recovered` — where rules back out, and
  what backing out depends on.
-/

namespace SpanLexer

section Runs

variable {α : Type} {member stop : α → Bool} {span u v : List α}

theorem of_mem_takeWhile {x : α} (h : x ∈ u.takeWhile member) : member x = true :=
  List.all_eq_true.1 List.all_takeWhile x h

/-- A run ends where its last member stands and no member follows. -/
theorem takeWhile_append_eq_left_iff :
    (span ++ u).takeWhile member = span ↔
      (∀ x ∈ span, member x = true) ∧ ∀ x, u.head? = some x → member x = false := by
  constructor
  · intro h
    have hall : ∀ x ∈ span, member x = true := by
      intro x hx
      rw [← h] at hx
      exact of_mem_takeWhile hx
    rw [List.takeWhile_append_of_pos hall, List.append_right_eq_self] at h
    refine ⟨hall, fun x hx => ?_⟩
    obtain ⟨later, rfl⟩ := List.head?_eq_some_iff.1 hx
    rw [List.takeWhile_cons] at h
    split at h
    · cases h
    · next hmember => exact Bool.eq_false_iff.2 hmember
  · rintro ⟨hall, hnext⟩
    rw [List.takeWhile_append_of_pos hall, List.append_right_eq_self]
    cases u with
    | nil => rfl
    | cons x u => rw [List.takeWhile_cons, hnext x rfl, if_neg Bool.false_ne_true]

/-- No member follows a run. -/
theorem not_member_behind_takeWhile {x : α}
    (h : (u.drop (u.takeWhile member).length).head? = some x) : member x = false := by
  have hsplit := List.prefix_iff_eq_append.1 (List.takeWhile_prefix (l := u) member)
  have hrun : (u.takeWhile member ++ u.drop (u.takeWhile member).length).takeWhile member =
      u.takeWhile member := by rw [hsplit]
  exact (takeWhile_append_eq_left_iff.1 hrun).2 x h

/-- A run that stays below the limit of its length is a whole run. -/
theorem takeWhile_take_of_length_lt {limit : Nat}
    (h : ((u.take limit).takeWhile member).length < limit) :
    (u.take limit).takeWhile member = u.takeWhile member := by
  rw [← List.take_takeWhile, List.length_take] at h
  rw [← List.take_takeWhile]
  exact List.take_of_length_le (by omega)

/-- A run depends on itself and the element behind it. -/
theorem takeWhile_append_congr (hhead : u.head? = v.head?)
    (h : (span ++ u).takeWhile member = span) : (span ++ v).takeWhile member = span := by
  rw [takeWhile_append_eq_left_iff] at h ⊢
  rwa [hhead] at h

/-- So does a run of limited length. -/
theorem takeWhile_take_append_congr {limit : Nat} (hhead : u.head? = v.head?)
    (h : ((span ++ u).take limit).takeWhile member = span) :
    ((span ++ v).take limit).takeWhile member = span := by
  have hlength : span.length ≤ limit := by
    have hle := Reading.length_bounded_le (span ++ u) limit member
    rwa [h] at hle
  rw [List.take_append, List.take_of_length_le hlength] at h ⊢
  refine takeWhile_append_congr ?_ h
  rw [List.head?_take, List.head?_take, hhead]

/-- What comes up to the first stop depends on itself, and at the end of the text on that. -/
theorem takeThrough_append_congr (hhead : u.head? = v.head?)
    (h : takeThrough stop (span ++ u) = span) : takeThrough stop (span ++ v) = span := by
  induction span with
  | nil =>
      cases u with
      | nil =>
          obtain rfl := List.head?_eq_none_iff.1 hhead.symm
          rfl
      | cons x u => exact absurd h (takeThrough_cons_ne_nil stop x u)
  | cons x span ih =>
      rw [List.cons_append, takeThrough_cons] at h ⊢
      split at h
      · next hstop =>
          rw [if_pos hstop]
          exact h
      · next hstop =>
          rw [if_neg hstop, ih (List.cons.inj h).2]

/-- Where there is no stop, what comes up to the first stop goes on behind. -/
theorem takeThrough_append_of_not_mem [DecidableEq α] {x : α} (h : x ∉ span) (later : List α) :
    takeThrough (· == x) (span ++ later) = span ++ takeThrough (· == x) later := by
  induction span with
  | nil => rfl
  | cons y span ih =>
      obtain ⟨hy, hspan⟩ := not_or.1 (mt List.mem_cons.2 h)
      rw [List.cons_append, takeThrough_cons, beq_eq_false_iff_ne.2 (Ne.symm hy),
        if_neg Bool.false_ne_true, ih hspan, List.cons_append]

/-- Without a stop, all comes up to the first stop. -/
theorem takeThrough_of_not_mem [DecidableEq α] {x : α} (h : x ∉ u) :
    takeThrough (· == x) u = u := by
  have hall := takeThrough_append_of_not_mem h []
  rwa [takeThrough_nil, List.append_nil] at hall

/-- Up to the first stop comes what stands before it, and the stop. -/
theorem takeThrough_of_mem [DecidableEq α] {x : α} (h : x ∈ u) :
    takeThrough (· == x) u = u.take (u.idxOf x) ++ [x] := by
  have hlt := List.idxOf_lt_length_iff.2 h
  have hnext := List.take_append_getElem hlt
  rw [List.getElem_idxOf hlt] at hnext
  exact hnext.symm

/-- What comes up to the first stop is what comes before it, and the stop if there is one. -/
theorem takeThrough_eq_append (stop : α → Bool) (items : List α) :
    takeThrough stop items =
      items.takeWhile (fun item => !stop item) ++
        (items.dropWhile (fun item => !stop item)).take 1 := by
  induction items with
  | nil => rfl
  | cons item items ih =>
      rw [takeThrough_cons]
      cases hstop : stop item with
      | true => simp [hstop]
      | false => simp [hstop, ih]

/-- A part up to the first stop that does not end in a stop is the whole list. -/
theorem takeThrough_eq_self {items : List α}
    (h : ∀ x, (takeThrough stop items).getLast? = some x → stop x = false) :
    takeThrough stop items = items := by
  have hsplit := List.takeWhile_append_dropWhile (p := fun item => !stop item) (l := items)
  rw [takeThrough_eq_append] at h ⊢
  cases hrest : items.dropWhile (fun item => !stop item) with
  | nil =>
      rw [hrest] at hsplit
      exact hsplit
  | cons x later =>
      have hhead := List.head?_dropWhile_not (fun item => !stop item) items
      rw [hrest] at h hhead
      have hlast := h x (by simp)
      simp [hlast] at hhead

/-- The part up to the first stop holds one stop if the list holds any. -/
theorem count_takeThrough_of_mem [DecidableEq α] {x : α} (h : x ∈ u) :
    (takeThrough (· == x) u).count x = 1 := by
  induction u with
  | nil => cases h
  | cons y u ih =>
      rw [takeThrough_cons]
      split
      · next hstop =>
          obtain rfl := eq_of_beq hstop
          exact List.count_singleton_self
      · next hstop =>
          have hne : y ≠ x := fun heq => hstop (beq_iff_eq.2 heq)
          rw [List.count_cons_of_ne hne, ih ((List.mem_cons.1 h).resolve_left (Ne.symm hne))]

theorem mem_takeThrough_of_mem [DecidableEq α] {x : α} (h : x ∈ u) :
    x ∈ takeThrough (· == x) u := by
  refine List.count_pos_iff.1 ?_
  rw [count_takeThrough_of_mem h]
  exact Nat.one_pos

end Runs

namespace Rule

variable {rule : Rule} {t u v : Text}

/-- The openings of more than one character that rules look for. -/
def marks : List Text := [['/', '/'], ['/', '*'], phonePrefix]

theorem pair_prefix_cons_iff {x y c : Char} {later : Text} :
    [x, y] <+: c :: later ↔ c = x ∧ later.head? = some y := by
  rw [List.cons_prefix_cons, eq_comm (a := c)]
  cases later with
  | nil => simp
  | cons d later => simp [List.cons_prefix_cons, eq_comm (a := d)]

theorem opens_lineComment_iff : lineComment.opens t = true ↔ ['/', '/'] <+: t := by
  cases t with
  | nil => simp
  | cons c later =>
      rw [pair_prefix_cons_iff]
      simp [opens]

theorem opens_comment_iff :
    comment.opens t = true ↔ ['/', '/'] <+: t ∨ ['/', '*'] <+: t := by
  cases t with
  | nil => simp
  | cons c later =>
      rw [pair_prefix_cons_iff, pair_prefix_cons_iff]
      simp [opens, and_or_left]

theorem opens_phoneNumber_iff : phoneNumber.opens t = true ↔ phonePrefix <+: t := by
  cases t with
  | nil => simp [phonePrefix]
  | cons c later => rw [opens, List.isPrefixOf_iff_prefix]

theorem head?_of_opens_phoneNumber (h : phoneNumber.opens t = true) : t.head? = some '+' := by
  obtain ⟨later, rfl⟩ := opens_phoneNumber_iff.1 h
  rfl

/-- A rule that opens and rejects is the one for phone numbers, at the beginning of a number. -/
theorem phonePrefix_of_apply_error {c : Cursor} {error : ScanError}
    (hopens : rule.opens c.rest = true) (h : (rule.apply c).answer = .error error) :
    rule = .phoneNumber ∧ phonePrefix <+: c.rest := by
  obtain ⟨rfl, -, -⟩ := error_of_apply_error (ne_nil_of_opens hopens) h
  exact ⟨rfl, opens_phoneNumber_iff.1 hopens⟩

/-- **Whether a rule opens** depends on the first character and on the marks that the text begins
with. -/
theorem opens_congr (hhead : u.head? = v.head?)
    (hmarks : ∀ mark ∈ marks, (mark <+: u ↔ mark <+: v)) : rule.opens u = rule.opens v := by
  have hline : ['/', '/'] <+: u ↔ ['/', '/'] <+: v := hmarks _ (by simp [marks])
  have hblock : ['/', '*'] <+: u ↔ ['/', '*'] <+: v := hmarks _ (by simp [marks])
  have hphone : phonePrefix <+: u ↔ phonePrefix <+: v := hmarks _ (by simp [marks])
  cases rule with
  | lineComment => rw [Bool.eq_iff_iff, opens_lineComment_iff, opens_lineComment_iff, hline]
  | comment => rw [Bool.eq_iff_iff, opens_comment_iff, opens_comment_iff, hline, hblock]
  | phoneNumber => rw [Bool.eq_iff_iff, opens_phoneNumber_iff, opens_phoneNumber_iff, hphone]
  | number | identifier | whitespace | string | hexColor | brackets | account | symbol | htmlTag
  | punctuation =>
      -- These look at the first character only.
      cases u with
      | nil =>
          obtain rfl := List.head?_eq_none_iff.1 hhead.symm
          rfl
      | cons c u =>
          obtain ⟨later, rfl⟩ := List.head?_eq_some_iff.1 hhead.symm
          rfl

/-- Five characters decide whether a rule opens, whatever comes behind them. -/
theorem opens_append (h : 5 ≤ u.length) (v : Text) : rule.opens (u ++ v) = rule.opens u := by
  have hshort : ∀ mark ∈ marks, mark.length ≤ 5 := by decide
  have hhead : (u ++ v).head? = u.head? := by
    cases u with
    | nil => cases h
    | cons c u => rfl
  refine opens_congr hhead fun mark hmark => ⟨fun hmarked => ?_, List.prefix_append_of_prefix⟩
  have hle : mark.length ≤ u.length := Nat.le_trans (hshort mark hmark) h
  exact List.prefix_of_prefix_length_le hmarked (List.prefix_append u v) hle

end Rule

namespace Reading

variable {kind : TokenKind} {member : Char → Bool} {close c d : Char} {span t u v : Text}

theorem run_append_congr (hhead : u.head? = v.head?)
    (h : (run kind member (span ++ u)).span = span) :
    run kind member (span ++ v) = run kind member (span ++ u) := by
  simp only [run, whole] at h ⊢
  rw [h, takeWhile_append_congr hhead h]

/-- The loop of a delimited span sees how the text ends that it has passed.  It ends with a closing
character if one came, and if the opening character is one itself and nothing came. -/
theorem getLast?_cons_takeThrough :
    (c :: takeThrough (· == close) t).getLast? = some close ↔
      close ∈ t ∨ (t = [] ∧ c = close) := by
  by_cases hmem : close ∈ t
  · rw [takeThrough_of_mem hmem, ← List.cons_append, List.getLast?_concat]
    exact ⟨fun _ => Or.inl hmem, fun _ => rfl⟩
  · rw [takeThrough_of_not_mem hmem]
    refine ⟨fun hlast => Or.inr ?_, fun h => ?_⟩
    · -- What comes last is the opening character, since no closing one came behind it.
      rcases List.mem_cons.1 (List.mem_of_getLast? hlast) with rfl | hlater
      · refine ⟨?_, rfl⟩
        cases t with
        | nil => rfl
        | cons d t =>
            rw [List.getLast?_cons_cons] at hlast
            exact absurd (List.mem_of_getLast? hlast) hmem
      · exact absurd hlater hmem
    · obtain ⟨rfl, rfl⟩ := h.resolve_left hmem
      rfl

/-- With a closing character behind the opening one, the span ends with the first of them. -/
theorem delimited_of_mem (h : close ∈ t) :
    delimited kind close (c :: t) = whole kind (c :: takeThrough (· == close) t) := by
  rw [delimited, if_pos (getLast?_cons_takeThrough.2 (Or.inl h))]

/-- A closing character that is all that is left closes itself. -/
theorem delimited_singleton : delimited kind close [close] = whole kind [close] :=
  if_pos rfl

/-- Without a closing character all else backs out. -/
theorem delimited_of_not_mem (h : close ∉ t) (hlone : ¬ (t = [] ∧ c = close)) :
    delimited kind close (c :: t) = recovery (c :: t) := by
  rw [delimited, if_neg fun hlast => (getLast?_cons_takeThrough.1 hlast).elim h hlone]

/-- A delimited span is malformed if its closing character never comes and does not stand alone. -/
theorem verdict_delimited_eq_recovered_iff :
    (delimited kind close (c :: t)).verdict = .recovered ↔
      close ∉ t ∧ ¬ (t = [] ∧ c = close) := by
  rw [← not_or, ← getLast?_cons_takeThrough, delimited]
  split
  · next hlast => exact ⟨fun h => (by cases h), fun h => absurd hlast h⟩
  · next hlast => exact ⟨fun _ => hlast, fun _ => rfl⟩

/-- A span with a closing character depends on itself.  A lone closing character depends on the
end of the text. -/
theorem delimited_append_congr (hhead : u.head? = v.head?)
    (h : (delimited kind close (c :: (span ++ u))).span = c :: span)
    (hverdict : (delimited kind close (c :: (span ++ u))).verdict ≠ .recovered) :
    delimited kind close (c :: (span ++ v)) = delimited kind close (c :: (span ++ u)) := by
  by_cases hclose : close ∈ span ++ u
  · rw [delimited_of_mem hclose] at h ⊢
    have hspan : takeThrough (· == close) (span ++ u) = span := (List.cons.inj h).2
    have hmem : close ∈ span := hspan ▸ mem_takeThrough_of_mem hclose
    rw [delimited_of_mem (List.mem_append_left v hmem), hspan,
      takeThrough_append_congr hhead hspan]
  · have hlone : span ++ u = [] ∧ c = close :=
      Decidable.byContradiction fun hlone =>
        hverdict (verdict_delimited_eq_recovered_iff.2 ⟨hclose, hlone⟩)
    obtain ⟨rfl, rfl⟩ := List.append_eq_nil_iff.1 hlone.1
    obtain rfl := List.head?_eq_none_iff.1 hhead.symm
    rfl

/-- A malformed span is one for any text behind its opening character in which the closing
character does not come, either, unless nothing is left. -/
theorem delimited_cons_congr (hclose : close ∈ v → close ∈ u) (hnil : v = [] → u = [])
    (h : (delimited kind close (c :: u)).verdict = .recovered) :
    delimited kind close (c :: v) = delimited kind close (c :: u) := by
  obtain ⟨hu, hlone⟩ := verdict_delimited_eq_recovered_iff.1 h
  rw [delimited_of_not_mem hu hlone, delimited_of_not_mem (mt hclose hu) fun hv =>
    hlone ⟨hnil hv.1, hv.2⟩]
  rfl

theorem hexColor_append_congr (hhead : u.head? = v.head?)
    (h : (hexColor (c :: (span ++ u))).span = c :: span) :
    hexColor (c :: (span ++ v)) = hexColor (c :: (span ++ u)) := by
  have hdigits : ((span ++ u).take hexColorDigits).takeWhile isLetterOrDigit = span :=
    (List.cons.inj h).2
  simp only [hexColor, List.tail_cons, List.headD_cons, List.take_succ_cons, List.take_zero,
    hdigits, takeWhile_take_append_congr hhead hdigits]

theorem phoneNumber_append_congr (hhead : u.head? = v.head?)
    (h : (phoneNumber (c :: (span ++ u))).span = c :: span) :
    phoneNumber (c :: (span ++ v)) = phoneNumber (c :: (span ++ u)) := by
  have hdigits : ((span ++ u).take (phoneNumberLength + 1)).takeWhile (· != ' ') = span :=
    (List.cons.inj h).2
  simp only [phoneNumber, List.tail_cons, List.headD_cons, List.take_succ_cons, List.take_zero,
    hdigits, takeWhile_take_append_congr hhead hdigits]

theorem lineComment_append_congr (hhead : u.head? = v.head?)
    (h : (lineComment (span ++ u)).span = span)
    (hverdict : (lineComment (span ++ u)).verdict ≠ .recovered) :
    lineComment (span ++ v) = lineComment (span ++ u) := by
  unfold lineComment at h hverdict ⊢
  split at h
  · next hopens =>
      have hspan : takeThrough (· == '\n') (span ++ u) = span := h
      -- The span begins with the two slashes, for neither of them ends a line.
      have hslashes : ['/', '/'].isPrefixOf (span ++ v) = true := by
        rw [List.isPrefixOf_iff_prefix] at hopens ⊢
        obtain ⟨later, hlater⟩ := hopens
        rw [← hlater] at hspan
        refine List.IsPrefix.trans ?_ (List.prefix_append span v)
        rw [← hspan]
        simp [takeThrough_cons]
      rw [if_pos hslashes, if_pos hopens, hspan, takeThrough_append_congr hhead hspan]
  · next hopens =>
      rw [if_neg hopens] at hverdict
      exact absurd rfl hverdict

theorem htmlTag_append_congr (hhead : u.head? = v.head?)
    (h : (htmlTag (span ++ u)).span = span) : htmlTag (span ++ v) = htmlTag (span ++ u) := by
  simp only [htmlTag, whole] at h ⊢
  generalize (fun c => isLetterOrDigit c || "</>".toList.contains c) = member at h ⊢
  have hall : ∀ c ∈ span, member c = true := by
    intro c hc
    rw [← h] at hc
    exact of_mem_takeWhile ((takeThrough_prefix_self _ _).subset hc)
  rw [h]
  rw [List.takeWhile_append_of_pos hall] at h ⊢
  -- What follows the span in the run of tag characters begins the same.
  have hnext : (u.takeWhile member).head? = (v.takeWhile member).head? := by
    rw [List.head?_takeWhile, List.head?_takeWhile, hhead]
  rw [takeThrough_append_congr hnext h]

theorem commentTail_append_congr (hhead : u.head? = v.head?)
    (h : commentTail (c :: (span ++ u)) = span) : commentTail (c :: (span ++ v)) = span := by
  induction span generalizing c with
  | nil =>
      cases u with
      | nil =>
          obtain rfl := List.head?_eq_none_iff.1 hhead.symm
          rfl
      | cons d u =>
          obtain ⟨later, rfl⟩ := List.head?_eq_some_iff.1 hhead.symm
          -- A comment that ends in front of a character ends there because it is a line feed.
          rw [List.nil_append, commentTail_cons_cons] at h ⊢
          split at h
          · next hfeed => rw [if_pos hfeed]
          · split at h <;> cases h
  | cons d span ih =>
      rw [List.cons_append, commentTail_cons_cons] at h ⊢
      split at h
      · cases h
      · next hfeed =>
          rw [if_neg hfeed]
          split at h
          · next hclose =>
              rw [if_pos hclose]
              exact h
          · next hclose => rw [if_neg hclose, ih (List.cons.inj h).2]

theorem comment_append_congr (hhead : u.head? = v.head?)
    (h : (comment (c :: (span ++ u))).span = c :: span) :
    comment (c :: (span ++ v)) = comment (c :: (span ++ u)) := by
  have htail : commentTail (c :: (span ++ u)) = span := (List.cons.inj h).2
  simp only [comment, List.headD_cons, List.take_succ_cons, List.take_zero, htail,
    commentTail_append_congr hhead htail]

end Reading

namespace Rule

variable {rule : Rule} {span u v : Text}

/-- **What a rule reads** depends on its span and the character behind it, unless it backs out. -/
theorem read_append_congr (hne : span ≠ []) (hhead : u.head? = v.head?)
    (hspan : (rule.read (span ++ u)).span = span)
    (hverdict : (rule.read (span ++ u)).verdict ≠ .recovered) :
    rule.read (span ++ v) = rule.read (span ++ u) := by
  obtain ⟨c, later, rfl⟩ := List.exists_cons_of_ne_nil hne
  cases rule with
  | number | identifier | whitespace | account | symbol | punctuation =>
      exact Reading.run_append_congr hhead hspan
  | string | brackets => exact Reading.delimited_append_congr hhead hspan hverdict
  | hexColor => exact Reading.hexColor_append_congr hhead hspan
  | lineComment => exact Reading.lineComment_append_congr hhead hspan hverdict
  | phoneNumber => exact Reading.phoneNumber_append_congr hhead hspan
  | htmlTag => exact Reading.htmlTag_append_congr hhead hspan
  | comment => exact Reading.comment_append_congr hhead hspan

/-- What a rule reads in front of the end of the text stays what it is when text is appended. -/
theorem read_append (hopens : rule.opens u = true) (hlength : (rule.read u).span.length < u.length)
    (hverdict : (rule.read u).verdict ≠ .recovered) (v : Text) :
    rule.read (u ++ v) = rule.read u := by
  have hne := span_ne_nil hopens
  obtain ⟨later, hlater⟩ := rule.span_prefix_self u
  generalize hspan : (rule.read u).span = span at hlater hne hlength
  subst hlater
  have hhead : later.head? = (later ++ v).head? := by
    cases later with
    | nil =>
        rw [List.append_nil] at hlength
        exact absurd hlength (Nat.lt_irrefl _)
    | cons c later => rfl
  rw [List.append_assoc]
  exact read_append_congr hne hhead hspan hverdict

/-- Where it opens, the rule for line comments never backs out. -/
theorem verdict_lineComment_ne_recovered (hopens : lineComment.opens u = true) :
    (lineComment.read u).verdict ≠ .recovered := by
  rw [opens_lineComment_iff, ← List.isPrefixOf_iff_prefix] at hopens
  rw [read, Reading.lineComment, if_pos hopens]
  intro hrecovered
  cases hrecovered

/-- **Where a rule backs out**, it is the one for strings or the one for brackets, and its closing
character does not come.  A quote at the very end closes itself. -/
theorem unclosed_of_recovered {c : Char} (hopens : rule.opens (c :: u) = true)
    (hverdict : (rule.read (c :: u)).verdict = .recovered) :
    rule = .string ∧ c = '"' ∧ '"' ∉ u ∧ u ≠ [] ∨ rule = .brackets ∧ c = '[' ∧ ']' ∉ u := by
  obtain ⟨-, rfl | rfl | rfl⟩ := read_eq_recovery hverdict
  · obtain rfl : c = '"' := by simpa [opens] using hopens
    obtain ⟨hclose, hlone⟩ := Reading.verdict_delimited_eq_recovered_iff.1 hverdict
    exact Or.inl ⟨rfl, rfl, hclose, fun hnil => hlone ⟨hnil, rfl⟩⟩
  · obtain rfl : c = '[' := by simpa [opens] using hopens
    obtain ⟨hclose, -⟩ := Reading.verdict_delimited_eq_recovered_iff.1 hverdict
    exact Or.inr ⟨rfl, rfl, hclose⟩
  · exact absurd hverdict (verdict_lineComment_ne_recovered hopens)

/-- **Backing out** depends on whether anything follows the opening character, and on whether the
closing character of the rule does. -/
theorem read_cons_congr_of_recovered {c : Char} (hopens : rule.opens (c :: u) = true)
    (hquote : '"' ∈ v → '"' ∈ u) (hbracket : ']' ∈ v → ']' ∈ u) (hnil : v = [] → u = [])
    (hverdict : (rule.read (c :: u)).verdict = .recovered) :
    rule.read (c :: v) = rule.read (c :: u) := by
  obtain ⟨rfl, -⟩ | ⟨rfl, -⟩ := unclosed_of_recovered hopens hverdict
  · exact Reading.delimited_cons_congr hquote hnil hverdict
  · exact Reading.delimited_cons_congr hbracket hnil hverdict

end Rule
end SpanLexer
