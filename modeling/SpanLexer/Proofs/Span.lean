import SpanLexer.Scan

/-!
# Spans and the tokens made of them

A rule reads a span and makes a token or an error of it.  This module says what the token or the
error keeps of the span, so that later modules need not open the rules one by one.

* `TokenKind.valueOf` — the value that a token of a kind has for a span: the span, which a hex
  color fills up with zeros.
* `Token.Shows` — the token has this value, and a hex color begins with a number sign.
* `Rule.verdict_of_apply_ok`, `Rule.verdict_of_apply_error` — what an answer of a rule says about
  its verdict, also where the rule does not open.
* `Rule.kind`, `Rule.read_cases` — the one kind of token that a rule accepts, and what else may
  become of a span.
* `Rule.shows_of_apply_ok` — a rule that opens makes a token that shows the span it passes.
* `Rule.error_of_apply_error` — only a phone number is rejected, and the error keeps all of it.
-/

namespace SpanLexer

/-- The value of a token of the kind for a span.  A short hex color is filled up with zeros. -/
def TokenKind.valueOf (kind : TokenKind) (span : Text) : Text :=
  if kind = .hexColor then span.rightpad (Reading.hexColorDigits + 1) '0' else span

@[simp] theorem TokenKind.valueOf_of_ne {kind : TokenKind} (h : kind ≠ .hexColor) (span : Text) :
    kind.valueOf span = span := if_neg h

/-- A token shows a span: it has the value of its kind for the span.  The span of a hex color is a
number sign with at most six characters after it, and its value has seven characters. -/
structure Token.Shows (token : Token) (span : Text) : Prop where
  value_eq : token.value = token.kind.valueOf span
  hexColor : token.kind = .hexColor →
    ∃ digits, span = '#' :: digits ∧ digits.length ≤ 6 ∧ token.value.length = 7

/-- The value of a token is its span with zeros behind it, and only that of a hex color has any. -/
theorem Token.Shows.exists_zeros {token : Token} {span : Text} (h : token.Shows span) :
    ∃ n, token.value = span ++ List.replicate n '0' ∧
      (token.kind ≠ .hexColor → token.value = span) := by
  have hvalue := h.value_eq
  unfold TokenKind.valueOf at hvalue
  split at hvalue
  · next hkind => exact ⟨_, hvalue, fun hne => absurd hkind hne⟩
  · exact ⟨0, by simpa using hvalue, fun _ => hvalue⟩

namespace Reading

/-- A reading keeps its span: an accepted value is the span as it stands, and a rejected number is
all of the span. -/
def KeepsSpan (reading : Reading) : Prop :=
  match reading.verdict with
  | .accepted kind value => kind ≠ .hexColor ∧ value = reading.span
  | .recovered => True
  | .rejected number => number = reading.span

theorem keepsSpan_whole {kind : TokenKind} (h : kind ≠ .hexColor) (span : Text) :
    (whole kind span).KeepsSpan :=
  ⟨h, rfl⟩

theorem keepsSpan_delimited {kind : TokenKind} (h : kind ≠ .hexColor) (close : Char) (t : Text) :
    (delimited kind close t).KeepsSpan := by
  cases t with
  | nil => trivial
  | cons c later =>
      simp only [delimited]
      split
      · exact keepsSpan_whole h _
      · trivial

theorem keepsSpan_lineComment (t : Text) : (lineComment t).KeepsSpan := by
  unfold lineComment
  split
  · exact keepsSpan_whole (by decide) _
  · trivial

theorem keepsSpan_phoneNumber (c : Char) (later : Text) :
    (phoneNumber (c :: later)).KeepsSpan := by
  unfold phoneNumber KeepsSpan
  dsimp only
  split
  · next kind value hverdict =>
      split at hverdict
      · obtain ⟨rfl, rfl⟩ := Verdict.accepted.inj hverdict
        exact ⟨by decide, rfl⟩
      · cases hverdict
  · trivial
  · next number hverdict =>
      split at hverdict
      · cases hverdict
      · exact (Verdict.rejected.inj hverdict).symm

/-- The span of a hex color is its opening character and at most six characters after it. -/
theorem exists_span_hexColor (c : Char) (later : Text) :
    ∃ digits, (hexColor (c :: later)).span = c :: digits ∧ digits.length ≤ hexColorDigits :=
  ⟨_, rfl, length_bounded_le later hexColorDigits isLetterOrDigit⟩

/-- A delimited span is accepted, or its opening character is passed over. -/
theorem delimited_cases (kind : TokenKind) (close : Char) (t : Text) :
    (∃ value, (delimited kind close t).verdict = .accepted kind value) ∨
      delimited kind close t = recovery t := by
  cases t with
  | nil => exact Or.inr rfl
  | cons c later =>
      simp only [delimited]
      split
      · exact Or.inl ⟨_, rfl⟩
      · exact Or.inr rfl

theorem verdict_hexColor (c : Char) (later : Text) :
    (hexColor (c :: later)).verdict =
      .accepted .hexColor (TokenKind.hexColor.valueOf (hexColor (c :: later)).span) := by
  simp [hexColor, TokenKind.valueOf, List.rightpad]

/-- Filled up, a hex color has seven characters. -/
theorem length_valueOf_hexColor (c : Char) (later : Text) :
    (TokenKind.hexColor.valueOf (hexColor (c :: later)).span).length = 7 := by
  obtain ⟨digits, hspan, hlength⟩ := exists_span_hexColor c later
  have hdigits : hexColorDigits = 6 := rfl
  rw [hspan, TokenKind.valueOf, if_pos rfl, List.length_rightpad, List.length_cons]
  omega

end Reading

namespace Rule

/-- Where text is left, every rule but the one for hex colors keeps its span. -/
theorem keepsSpan_read {rule : Rule} (hrule : rule ≠ .hexColor) (c : Char) (later : Text) :
    (rule.read (c :: later)).KeepsSpan := by
  cases rule with
  | hexColor => exact absurd rfl hrule
  | string | brackets => exact Reading.keepsSpan_delimited (by decide) _ _
  | lineComment => exact Reading.keepsSpan_lineComment _
  | phoneNumber => exact Reading.keepsSpan_phoneNumber c later
  | number | identifier | whitespace | account | symbol | htmlTag | punctuation | comment =>
      exact Reading.keepsSpan_whole (by decide) _

/-- The kind of the tokens that a rule accepts. -/
def kind : Rule → TokenKind
  | number => .number
  | identifier => .identifier
  | whitespace => .whitespace
  | string => .string
  | hexColor => .hexColor
  | lineComment => .comment
  | brackets => .squareBrackets
  | phoneNumber => .phoneNumber
  | account => .account
  | symbol => .symbol
  | htmlTag => .htmlTag
  | punctuation => .punctuation
  | comment => .comment

/-- No rule accepts an unexpected token. -/
theorem kind_ne_unexpected (rule : Rule) : rule.kind ≠ .unexpected := by
  cases rule <;> decide

/-- **What may become of a span**, also where the rule does not open: it is a token of the rule's
kind; the rule backs out, which only three of them do; or it is a phone number of a wrong length. -/
theorem read_cases (rule : Rule) (t : Text) :
    (∃ value, (rule.read t).verdict = .accepted rule.kind value) ∨
      rule.read t = Reading.recovery t ∧
        (rule = .string ∨ rule = .brackets ∨ rule = .lineComment) ∨
      ∃ number, (rule.read t).verdict = .rejected number ∧ rule = .phoneNumber ∧
        number.length ≠ phoneNumberLength := by
  cases rule with
  | string | brackets =>
      rcases Reading.delimited_cases _ _ t with haccepted | hrecovery
      · exact Or.inl haccepted
      · exact Or.inr (Or.inl ⟨hrecovery, by simp⟩)
  | lineComment =>
      by_cases hopens : ['/', '/'].isPrefixOf t = true
      · exact Or.inl ⟨_, congrArg Reading.verdict (if_pos hopens)⟩
      · exact Or.inr (Or.inl ⟨if_neg hopens, by simp⟩)
  | phoneNumber =>
      simp only [read, Reading.phoneNumber]
      split
      · exact Or.inl ⟨_, rfl⟩
      · next hlength => exact Or.inr (Or.inr ⟨_, rfl, trivial, hlength⟩)
  | number | identifier | whitespace | account | symbol | htmlTag | punctuation | comment
  | hexColor => exact Or.inl ⟨_, rfl⟩

section Verdicts

variable {rule : Rule} {t : Text}

/-- A rule accepts tokens of one kind only. -/
theorem kind_of_accepted {value : Text} {kind : TokenKind}
    (h : (rule.read t).verdict = .accepted kind value) : kind = rule.kind := by
  rcases rule.read_cases t with ⟨found, haccepted⟩ | ⟨hrecovery, -⟩ | ⟨number, hrejected, -⟩
  · rw [h] at haccepted
    exact (Verdict.accepted.inj haccepted).1
  · rw [hrecovery] at h
    cases h
  · rw [hrejected] at h
    cases h

/-- A rule that backs out passes over one character. -/
theorem read_eq_recovery (h : (rule.read t).verdict = .recovered) :
    rule.read t = Reading.recovery t ∧
      (rule = .string ∨ rule = .brackets ∨ rule = .lineComment) := by
  rcases rule.read_cases t with ⟨value, haccepted⟩ | hrecovery | ⟨number, hrejected, -⟩
  · rw [haccepted] at h
    cases h
  · exact hrecovery
  · rw [hrejected] at h
    cases h

/-- Only the rule for phone numbers rejects, and never a number of the expected length. -/
theorem phoneNumber_of_rejected {number : Text} (h : (rule.read t).verdict = .rejected number) :
    rule = .phoneNumber ∧ number.length ≠ phoneNumberLength := by
  rcases rule.read_cases t with ⟨value, haccepted⟩ | ⟨hrecovery, -⟩ | ⟨found, hrejected, hphone⟩
  · rw [haccepted] at h
    cases h
  · rw [hrecovery] at h
    cases h
  · rw [h] at hrejected
    obtain rfl := Verdict.rejected.inj hrejected
    exact hphone

end Verdicts

/-- At the end of a text no rule opens. -/
theorem ne_nil_of_opens {rule : Rule} {t : Text} (h : rule.opens t = true) : t ≠ [] := by
  rintro rfl
  cases h

section Apply

variable {rule : Rule} {c : Cursor} {token : Token} {error : ScanError}

/-- The token of a rule is what the verdict says, at the position where the rule began. -/
theorem verdict_of_apply_ok (h : (rule.apply c).answer = .ok token) :
    token.position = c.position ∧
      ((rule.read c.rest).verdict = .accepted token.kind token.value ∨
        (rule.read c.rest).verdict = .recovered ∧ token.kind = .unexpected ∧
          token.value = (rule.read c.rest).span) := by
  rw [apply_eq, Reading.stepAt] at h
  split at h
  · next kind value hverdict =>
      obtain rfl := Except.ok.inj h
      exact ⟨rfl, Or.inl hverdict⟩
  · next hverdict =>
      obtain rfl := Except.ok.inj h
      exact ⟨rfl, Or.inr ⟨hverdict, rfl, rfl⟩⟩
  · cases h

/-- A verdict that accepts makes a token, at the position where the rule began. -/
theorem answer_apply_of_accepted {kind : TokenKind} {value : Text}
    (h : (rule.read c.rest).verdict = .accepted kind value) :
    (rule.apply c).answer = .ok ⟨kind, value, c.position⟩ := by
  rw [apply_eq, Reading.stepAt, h]

/-- A verdict that rejects makes an error, at the position where the rule began. -/
theorem answer_apply_of_rejected {number : Text}
    (h : (rule.read c.rest).verdict = .rejected number) :
    (rule.apply c).answer = .error ⟨.phoneLength number number.length, c.position⟩ := by
  rw [apply_eq, Reading.stepAt, h]

/-- Where a rule reads the same, it makes the same token, but for the position. -/
theorem answer_apply_congr {d : Cursor} (hread : rule.read d.rest = rule.read c.rest)
    (h : (rule.apply c).answer = .ok token) :
    (rule.apply d).answer = .ok { token with position := d.position } := by
  rw [apply_eq, Reading.stepAt] at h ⊢
  rw [hread]
  split at h
  · obtain rfl := Except.ok.inj h
    rfl
  · obtain rfl := Except.ok.inj h
    rfl
  · cases h

/-- The error of a rule is about the number that the verdict rejects. -/
theorem verdict_of_apply_error (h : (rule.apply c).answer = .error error) :
    ∃ number, (rule.read c.rest).verdict = .rejected number ∧
      error = ⟨.phoneLength number number.length, c.position⟩ := by
  rw [apply_eq, Reading.stepAt] at h
  split at h
  · cases h
  · cases h
  · next number hverdict => exact ⟨number, hverdict, (Except.error.inj h).symm⟩

/-- A token has the kind of its rule, unless the rule backed out. -/
theorem kind_of_apply_ok (h : (rule.apply c).answer = .ok token) :
    token.kind = rule.kind ∨ token.kind = .unexpected := by
  obtain ⟨-, hverdict | ⟨-, hunexpected, -⟩⟩ := verdict_of_apply_ok h
  · exact Or.inl (kind_of_accepted hverdict)
  · exact Or.inr hunexpected

/-- A token of a kind other than the unexpected one comes from a rule of that kind. -/
theorem kind_eq_of_apply_ok (h : (rule.apply c).answer = .ok token) {kind : TokenKind}
    (hkind : token.kind = kind) (hne : kind ≠ .unexpected) : rule.kind = kind := by
  subst hkind
  exact ((kind_of_apply_ok h).resolve_right hne).symm

/-- Only the rule for hex colors makes hex colors. -/
theorem eq_hexColor_of_apply_ok (h : (rule.apply c).answer = .ok token)
    (hkind : token.kind = .hexColor) : rule = .hexColor := by
  have hrule := kind_eq_of_apply_ok h hkind (by decide)
  cases rule with
  | hexColor => rfl
  | _ => cases hrule

/-- Where text is left, the value of a token is the one its kind has for the span. -/
theorem value_of_apply_ok (hrest : c.rest ≠ []) (h : (rule.apply c).answer = .ok token) :
    token.value = token.kind.valueOf (rule.read c.rest).span := by
  obtain ⟨char, later, hcons⟩ := List.exists_cons_of_ne_nil hrest
  obtain ⟨-, hverdict | ⟨-, hkind, hvalue⟩⟩ := verdict_of_apply_ok h
  · rw [hcons] at hverdict ⊢
    by_cases hrule : rule = .hexColor
    · subst hrule
      have hcolor := hverdict.symm.trans (Reading.verdict_hexColor char later)
      obtain ⟨hkind, hvalue⟩ := Verdict.accepted.inj hcolor
      rw [hvalue, hkind]
      rfl
    · have hkeeps := keepsSpan_read hrule char later
      rw [Reading.KeepsSpan, hverdict] at hkeeps
      rw [TokenKind.valueOf_of_ne hkeeps.1, hkeeps.2]
  · rw [hvalue, hkind]
    rfl

/-- A rule that opens makes a token that shows the span it passes. -/
theorem shows_of_apply_ok (hopens : rule.opens c.rest = true)
    (h : (rule.apply c).answer = .ok token) : token.Shows (rule.read c.rest).span := by
  have hrest := ne_nil_of_opens hopens
  have hvalue := value_of_apply_ok hrest h
  refine ⟨hvalue, fun hkind => ?_⟩
  obtain rfl := eq_hexColor_of_apply_ok h hkind
  obtain ⟨char, later, hcons⟩ := List.exists_cons_of_ne_nil hrest
  obtain ⟨digits, hspan, hlength⟩ := Reading.exists_span_hexColor char later
  have hchar : char = '#' := by simpa [hcons, opens] using hopens
  rw [hcons] at hvalue ⊢
  refine ⟨digits, hchar ▸ hspan, hlength, ?_⟩
  -- The filling makes up what the span leaves short of seven characters.
  rw [hvalue, hkind]
  exact Reading.length_valueOf_hexColor char later

/-- What is rejected is a phone number of a wrong length, with all of its span. -/
theorem error_of_apply_error (hrest : c.rest ≠ []) (h : (rule.apply c).answer = .error error) :
    rule = .phoneNumber ∧ (rule.read c.rest).span.length ≠ phoneNumberLength ∧
      error =
        ⟨.phoneLength (rule.read c.rest).span (rule.read c.rest).span.length, c.position⟩ := by
  obtain ⟨char, later, hcons⟩ := List.exists_cons_of_ne_nil hrest
  obtain ⟨number, hverdict, rfl⟩ := verdict_of_apply_error h
  obtain ⟨rfl, hlength⟩ := phoneNumber_of_rejected hverdict
  have hkeeps := Reading.keepsSpan_phoneNumber char later
  rw [← hcons] at hkeeps
  change (read phoneNumber c.rest).KeepsSpan at hkeeps
  rw [Reading.KeepsSpan, hverdict] at hkeeps
  obtain rfl := hkeeps
  exact ⟨rfl, hlength, rfl⟩

end Apply

end Rule
end SpanLexer
