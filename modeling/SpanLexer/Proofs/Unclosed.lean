import SpanLexer.Proofs.Neighbours

/-!
# Where unexpected tokens come from

An unexpected token is an opening character whose closing character does not come any more.  So
behind it no token can stand that ends with the closing character, and a quote can be unexpected
only once in a scan.

* `Text.Unclosed` — an opening character that is never closed; `Token.IsUnclosed` — a token that is
  such a character.
* `Cursor.isUnclosed_of_scan` — an unexpected token is.
* `Cursor.mem_rest_of_scan` — strings and brackets contain their closing characters.
* `Cursor.Reads.isUnclosed`, `Cursor.Reads.mem_drop` — the same along a run.
* `Cursor.unexpected_is_unclosed` — in a whole scan, and what it excludes behind such a token.
-/

namespace SpanLexer

/-- **An opening character that is never closed** stands at the index. -/
structure Text.Unclosed (s : Text) (opening closing : Char) (index : Nat) : Prop where
  opens : s[index]? = some opening
  never_closes : closing ∉ s.drop (index + 1)

/-- What is never closed after an index is never closed after a later one. -/
theorem Text.Unclosed.not_mem_drop {s : Text} {opening closing : Char} {i j : Nat}
    (h : s.Unclosed opening closing i) (hlt : i < j) : closing ∉ s.drop j := by
  intro hmem
  refine h.never_closes (List.mem_of_mem_drop (i := j - (i + 1)) ?_)
  rwa [List.drop_drop, Nat.add_sub_cancel' hlt]

/-- **A token that is never closed**: a quote, which is not the last character of the text, for that
one closes itself; or an opening bracket. -/
inductive Token.IsUnclosed (s : Text) (token : Token) : Prop
  | quote (hvalue : token.value = ['"']) (hlast : token.position.index + 1 < s.length)
      (hunclosed : s.Unclosed '"' '"' token.position.index)
  | bracket (hvalue : token.value = ['['])
      (hunclosed : s.Unclosed '[' ']' token.position.index)

namespace Token.IsUnclosed

variable {s : Text} {token : Token}

theorem of_quote (h : token.IsUnclosed s) (hquote : token.value = ['"']) :
    s.Unclosed '"' '"' token.position.index := by
  cases h with
  | quote _ _ hunclosed => exact hunclosed
  | bracket hvalue _ => exact absurd (hquote.symm.trans hvalue) (by decide)

theorem of_bracket (h : token.IsUnclosed s) (hbracket : token.value = ['[']) :
    s.Unclosed '[' ']' token.position.index := by
  cases h with
  | quote hvalue _ _ => exact absurd (hbracket.symm.trans hvalue) (by decide)
  | bracket _ hunclosed => exact hunclosed

end Token.IsUnclosed

/-- If no two elements of a list both satisfy `p`, at most one does. -/
theorem countP_le_one_of_pairwise {α : Type} {p : α → Bool} {items : List α}
    (h : items.Pairwise fun a b => p a = true → p b = false) : items.countP p ≤ 1 := by
  induction items with
  | nil => exact Nat.zero_le _
  | cons item items ih =>
      obtain ⟨hitem, hitems⟩ := List.pairwise_cons.1 h
      by_cases hp : p item = true
      · have hnone : items.countP p = 0 := by
          rw [List.countP_eq_zero]
          exact fun other hmem => Bool.eq_false_iff.1 (hitem other hmem hp)
        rw [List.countP_cons_of_pos hp, hnone]
      · rw [List.countP_cons_of_neg hp]
        exact ih hitems

namespace Cursor

variable {rules : List Rule} {c last : Cursor} {token : Token} {tokens : List Token}

/-- **An unexpected token** is never closed. -/
theorem isUnclosed_of_scan (h : (c.scan rules).answer = .token token)
    (hkind : token.kind = .unexpected) : token.IsUnclosed c.source := by
  obtain ⟨rule, -, hfind, hanswer, -⟩ := exists_rule_of_scan_token h
  have hopens := List.find?_some hfind
  obtain ⟨x, later, hrest⟩ := List.exists_cons_of_ne_nil (Rule.ne_nil_of_opens hopens)
  obtain ⟨hposition, haccepted | ⟨hrecovered, -, hvalue⟩⟩ := Rule.verdict_of_apply_ok hanswer
  · exact absurd ((Rule.kind_of_accepted haccepted).symm.trans hkind) rule.kind_ne_unexpected
  · have hhead : c.source[token.position.index]? = some x := by
      rw [hposition, ← c.head?_rest, hrest]
      rfl
    have hdrop : c.source.drop (token.position.index + 1) = later := by
      rw [hposition]
      exact drop_index_succ hrest
    rw [(Rule.read_eq_recovery hrecovered).1, hrest] at hvalue
    rw [hrest] at hopens hrecovered
    obtain ⟨-, rfl, hclose, hne⟩ | ⟨-, rfl, hclose⟩ := Rule.unclosed_of_recovered hopens hrecovered
    · have hlast : token.position.index + 1 < c.source.length := by
        rw [← hdrop, Ne, List.drop_eq_nil_iff] at hne
        omega
      exact .quote hvalue hlast ⟨hhead, hdrop ▸ hclose⟩
    · exact .bracket hvalue ⟨hhead, hdrop ▸ hclose⟩

/-- A string begins with a closing character, and brackets end with one. -/
theorem mem_rest_of_scan (h : (c.scan rules).answer = .token token) :
    (token.kind = .string → '"' ∈ c.rest) ∧ (token.kind = .squareBrackets → ']' ∈ c.rest) := by
  constructor
  · intro hkind
    obtain ⟨x, hx, -, hbegins⟩ := beginsWith_of_scan h
    rw [hkind] at hbegins
    obtain rfl : x = '"' := eq_of_beq hbegins
    exact List.mem_of_head? hx
  · intro hkind
    obtain ⟨rule, -, hfind, hanswer, -⟩ := exists_rule_of_scan_token h
    have hopens := List.find?_some hfind
    obtain ⟨x, later, hrest⟩ := List.exists_cons_of_ne_nil (Rule.ne_nil_of_opens hopens)
    obtain ⟨-, haccepted | ⟨-, hunexpected, -⟩⟩ := Rule.verdict_of_apply_ok hanswer
    · have hrule : rule = .brackets := by
        have hsame := (Rule.kind_of_accepted haccepted).symm.trans hkind
        cases rule with
        | brackets => rfl
        | _ => cases hsame
      subst hrule
      rw [hrest] at hopens haccepted ⊢
      obtain rfl : x = '[' := by simpa [Rule.opens] using hopens
      -- Brackets without a closing one would have been passed over.
      have hclosed : (Rule.brackets.read ('[' :: later)).verdict ≠ .recovered := by
        rw [haccepted]
        intro hrecovered
        cases hrecovered
      by_contra hmem
      refine hclosed (Reading.verdict_delimited_eq_recovered_iff.2 ⟨?_, ?_⟩)
      · exact fun hlater => hmem (List.mem_cons_of_mem _ hlater)
      · exact fun hlone => absurd hlone.2 (by decide)
    · rw [hkind] at hunexpected
      cases hunexpected

namespace Reads

/-- **The unexpected tokens of a run** are never closed in its text. -/
theorem isUnclosed (h : c.Reads rules tokens last) (hmem : token ∈ tokens)
    (hkind : token.kind = .unexpected) : token.IsUnclosed c.source := by
  obtain ⟨n, hscan⟩ := h.exists_scan hmem
  have hunclosed := isUnclosed_of_scan hscan hkind
  rwa [source_advance] at hunclosed

/-- From where a string of a run begins its text contains a quote, and from where brackets begin a
closing one. -/
theorem mem_drop (h : c.Reads rules tokens last) (hmem : token ∈ tokens) :
    (token.kind = .string → '"' ∈ c.source.drop token.position.index) ∧
      (token.kind = .squareBrackets → ']' ∈ c.source.drop token.position.index) := by
  obtain ⟨n, hscan⟩ := h.exists_scan hmem
  obtain ⟨-, -, -, -, hposition, -, -⟩ := scan_token hscan
  have hrest : (c.advance n).rest = c.source.drop token.position.index := by
    rw [(c.advance n).rest_eq, source_advance, hposition]
  rw [← hrest]
  exact mem_rest_of_scan hscan

end Reads

/-- **Where unexpected tokens come from.**  In a scan of a text with whatever rules, an unexpected
token is a quote that is not the last character, or an opening bracket, and it is never closed.  So
at most one quote is unexpected, no string begins behind it, and no brackets begin behind an
unexpected bracket.  The rule for line comments never backs out of a span for which a scan has
chosen it. -/
theorem unexpected_is_unclosed (rules : List Rule) (s : Text) :
    let tokens := ((ofText s).drain rules).answer
    (∀ token ∈ tokens, token.kind = .unexpected → token.IsUnclosed s) ∧
    tokens.countP (fun token => token.kind = .unexpected ∧ token.value = ['"']) ≤ 1 ∧
    (∀ a ∈ tokens, a.kind = .unexpected →
      ∀ b ∈ tokens, a.position.index < b.position.index →
        (a.value = ['"'] → b.kind ≠ .string) ∧ (a.value = ['['] → b.kind ≠ .squareBrackets)) ∧
    ∀ c : Cursor, rules.find? (fun rule => rule.opens c.rest) = some .lineComment →
      (Rule.lineComment.read c.rest).verdict ≠ .recovered := by
  intro tokens
  obtain ⟨boundary, hreads, -, -⟩ := exists_reads_drain rules (ofText s)
  have hunclosed : ∀ token ∈ tokens, token.kind = .unexpected → token.IsUnclosed s :=
    fun token hmem hkind => hreads.isUnclosed hmem hkind
  refine ⟨hunclosed, ?_, fun a ha hkind b hb hlt => ⟨fun hquote hstring => ?_,
    fun hbracket hbrackets => ?_⟩, fun c hfind => ?_⟩
  · refine countP_le_one_of_pairwise (hreads.pairwise_index_lt.imp_of_mem ?_)
    intro a b ha hb hlt hfirst
    obtain ⟨hkind, hquote⟩ := of_decide_eq_true hfirst
    refine decide_eq_false fun hsecond => ?_
    -- The second quote would close the first one.
    have hclosing := ((hunclosed b hb hsecond.1).of_quote hsecond.2).opens
    rw [← List.head?_drop] at hclosing
    exact ((hunclosed a ha hkind).of_quote hquote).not_mem_drop hlt (List.mem_of_head? hclosing)
  · exact ((hunclosed a ha hkind).of_quote hquote).not_mem_drop hlt ((hreads.mem_drop hb).1 hstring)
  · exact ((hunclosed a ha hkind).of_bracket hbracket).not_mem_drop hlt
      ((hreads.mem_drop hb).2 hbrackets)
  · have hopens := List.find?_some hfind
    exact Rule.verdict_lineComment_ne_recovered hopens

/-- The first quote is closed by the second, the third is unexpected, and so are both brackets. -/
example :
    let tokens := ((ofText "\"a\" [b \"c [d".toList).drain Rule.standard).answer
    (tokens.filter fun token => token.kind = .unexpected).map (fun token => token.position.index) =
      [4, 7, 10] := by
  decide +kernel

end Cursor
end SpanLexer
