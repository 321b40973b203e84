import Mathlib.Data.List.Chain
import SpanLexer.Proofs.Settling

/-!
# Which tokens stand side by side

A token that is a run of characters ends where no character of the run follows.  So the character
behind it cannot be the first one of certain tokens, which the run would have taken in.

* `Token.goesOn` — the characters that a token would have taken in.
* `TokenKind.beginsWith` — the characters with which a token of a kind begins.
* `Cursor.goesOn_eq_false_of_scan` — no such character stands behind a token.
* `Cursor.beginsWith_of_scan` — a token begins with the next character, and that suits its kind.
* `Token.MayPrecede` — what may follow a token; `Cursor.mayPrecede_of_scan` says that it does.
* `Cursor.Reads.neighbours` — so it is all along a run.
* `Cursor.drain_neighbours` — and in a whole scan, whose end depends on its last token, too.
-/

namespace SpanLexer

/-- Whether a token would have taken in a character, had it stood behind the token.  A tag that is
closed takes in nothing more. -/
def Token.goesOn (token : Token) (c : Char) : Bool :=
  match token.kind with
  | .number => isDigit c
  | .identifier => isLetterOrDigit c || c == '_'
  | .whitespace => isWhitespace c
  | .account => isLetterOrDigit c || c == '@'
  | .symbol => isSymbol c
  | .punctuation => isPunctuation c
  | .htmlTag =>
      token.value.getLast? != some '>' && (isLetterOrDigit c || "</>".toList.contains c)
  | .phoneNumber => c != ' '
  | .string | .hexColor | .comment | .squareBrackets | .unexpected => false

/-- Whether a token of the kind may begin with a character. -/
def TokenKind.beginsWith : TokenKind → Char → Bool
  | .number, c => isDigit c
  | .identifier, c => isIdentifierStart c
  | .whitespace, c => isWhitespace c
  | .string, c => c == '"'
  | .hexColor, c => c == '#'
  | .comment, c => c == '/'
  | .squareBrackets, c => c == '['
  | .phoneNumber, c => c == '+'
  | .account, c => c == '@'
  | .symbol, c => isSymbol c
  | .htmlTag, c => c == '<'
  | .punctuation, c => isPunctuation c
  | .unexpected, c => c == '"' || c == '['

/-- Whether the value of a token begins with a letter. -/
def Token.beginsWithLetter (token : Token) : Prop :=
  ∃ c, token.value.head? = some c ∧ isLetter c = true

/-- **What may stand behind a token**: not what the token would have taken in. -/
structure Token.MayPrecede (a b : Token) : Prop where
  number : a.kind = .number → b.kind ≠ .number
  identifier : a.kind = .identifier → b.kind ∉ [TokenKind.identifier, .number]
  whitespace : a.kind = .whitespace → b.kind ≠ .whitespace
  symbol : a.kind = .symbol → b.kind ∉ [TokenKind.symbol, .htmlTag, .phoneNumber]
  punctuation : a.kind = .punctuation →
    b.kind ∉ [TokenKind.punctuation, .string, .hexColor, .account, .squareBrackets, .comment,
      .unexpected] ∧
    ¬ (b.kind = .identifier ∧ b.value.head? = some '_')
  account : a.kind = .account →
    b.kind ∉ [TokenKind.account, .number] ∧ ¬ (b.kind = .identifier ∧ b.beginsWithLetter)
  htmlTag : a.kind = .htmlTag → a.value.getLast? ≠ some '>' →
    b.kind ∉ [TokenKind.htmlTag, .number, .comment] ∧
    ¬ (b.kind = .identifier ∧ b.beginsWithLetter)
  phoneNumber : a.kind = .phoneNumber → b.kind = .whitespace ∧ b.value.head? = some ' '

namespace Reading

variable {t : Text} {x : Char}

theorem not_member_behind_run {kind : TokenKind} {member : Char → Bool}
    (hx : (t.drop (run kind member t).span.length).head? = some x) : member x = false :=
  not_member_behind_takeWhile hx

/-- Behind a tag that is not closed, no character of tags stands. -/
theorem not_tagChar_behind_htmlTag
    (hopen : (htmlTag t).span.getLast? ≠ some '>')
    (hx : (t.drop (htmlTag t).span.length).head? = some x) :
    (isLetterOrDigit x || "</>".toList.contains x) = false := by
  simp only [htmlTag, whole] at hopen hx
  rw [takeThrough_eq_self] at hx
  · have hnot := not_member_behind_takeWhile hx
    exact hnot
  · intro last hlast
    refine beq_eq_false_iff_ne.2 fun heq => hopen ?_
    rw [hlast, heq]

/-- Behind a phone number of the expected length stands a space. -/
theorem eq_space_behind_phoneNumber {kind : TokenKind} {value : Text}
    (haccepted : (phoneNumber t).verdict = .accepted kind value)
    (hx : (t.drop (phoneNumber t).span.length).head? = some x) : x = ' ' := by
  cases t with
  | nil => simp at hx
  | cons c later =>
      unfold phoneNumber at haccepted hx
      dsimp only [List.tail_cons, List.headD_cons, List.take_succ_cons, List.take_zero]
        at haccepted hx
      split at haccepted
      · next hlength =>
          -- The number is shorter than what would have been read, so a space ends it.
          rw [List.length_cons] at hlength
          have hlimit : phoneNumberLength = 13 := rfl
          rw [takeWhile_take_of_length_lt (by omega), List.singleton_append, List.length_cons,
            List.drop_succ_cons] at hx
          simpa using not_member_behind_takeWhile hx
      · cases haccepted

end Reading

namespace Rule

variable {rule : Rule} {c : Cursor} {token : Token} {x : Char}

/-- **A rule reads as far as it can**: behind its token stands no character that the token would
have taken in. -/
theorem goesOn_eq_false_of_apply_ok (h : (rule.apply c).answer = .ok token)
    (hx : (rule.apply c).cursor.rest.head? = some x) : token.goesOn x = false := by
  rw [cursor_apply, Cursor.rest_advance] at hx
  obtain ⟨-, haccepted | ⟨-, hkind, -⟩⟩ := verdict_of_apply_ok h
  · have hkind := kind_of_accepted haccepted
    unfold Token.goesOn
    rw [hkind]
    cases rule with
    | number | identifier | whitespace | account | symbol | punctuation =>
        have hnot := Reading.not_member_behind_run hx
        exact hnot
    | string | hexColor | lineComment | brackets | comment => rfl
    | phoneNumber =>
        obtain rfl := Reading.eq_space_behind_phoneNumber haccepted hx
        rfl
    | htmlTag =>
        obtain ⟨-, hvalue⟩ := Verdict.accepted.inj haccepted
        by_cases hclosed : token.value.getLast? = some '>'
        · simp only [kind, hclosed, bne_self_eq_false, Bool.false_and]
        · rw [← hvalue] at hclosed
          have hnot := Reading.not_tagChar_behind_htmlTag hclosed hx
          simp only [kind, hnot, Bool.and_false]
  · unfold Token.goesOn
    rw [hkind]

/-- Where a rule opens, its tokens may begin. -/
theorem beginsWith_of_opens {later : Text} (h : rule.opens (x :: later) = true) :
    rule.kind.beginsWith x = true := by
  cases rule with
  | number | identifier | whitespace | symbol | punctuation | string | hexColor | brackets
  | account | htmlTag => exact h
  | lineComment | comment => exact (Bool.and_eq_true_iff.1 h).1
  | phoneNumber =>
      obtain ⟨rfl, -⟩ := List.cons_prefix_cons.1 (opens_phoneNumber_iff.1 h)
      rfl

/-- Where a rule opens and backs out, it stands at the opening character of a string or of
brackets. -/
theorem beginsWith_of_recovered {later : Text} (hopens : rule.opens (x :: later) = true)
    (hrecovered : (rule.read (x :: later)).verdict = .recovered) :
    TokenKind.unexpected.beginsWith x = true := by
  obtain ⟨-, rfl, -⟩ | ⟨-, rfl, -⟩ := unclosed_of_recovered hopens hrecovered
  · rfl
  · rfl

/-- **A token begins where its rule opened.** -/
theorem beginsWith_of_apply_ok (hopens : rule.opens c.rest = true)
    (h : (rule.apply c).answer = .ok token) :
    ∃ x, c.rest.head? = some x ∧ token.value.head? = some x ∧ token.kind.beginsWith x = true := by
  obtain ⟨n, hvalue, -⟩ := (shows_of_apply_ok hopens h).exists_zeros
  have hprefix := rule.span_prefix_self c.rest
  obtain ⟨x, tail, hspan⟩ := List.exists_cons_of_ne_nil (span_ne_nil hopens)
  obtain ⟨later, hlater⟩ := hprefix
  rw [hspan, List.cons_append] at hlater
  rw [hspan] at hvalue
  refine ⟨x, by rw [← hlater]; rfl, by rw [hvalue]; rfl, ?_⟩
  obtain ⟨-, haccepted | ⟨hrecovered, hkind, -⟩⟩ := verdict_of_apply_ok h
  · rw [kind_of_accepted haccepted]
    rw [← hlater] at hopens
    exact beginsWith_of_opens hopens
  · rw [hkind]
    rw [← hlater] at hopens hrecovered
    exact beginsWith_of_recovered hopens hrecovered

end Rule

namespace TokenKind

variable {kind : TokenKind} {x : Char}

/-- The marks with which these tokens begin are punctuation. -/
theorem isPunctuation_of_beginsWith (hkind : kind ∈ [TokenKind.punctuation, .string, .hexColor,
      .account, .squareBrackets, .comment, .unexpected])
    (h : kind.beginsWith x = true) : isPunctuation x = true := by
  have hall : "\"#@[/".toList.all isPunctuation = true := by decide +kernel
  have hmarks := List.all_eq_true.1 hall
  cases kind with
  | punctuation => exact h
  | string | hexColor | account | squareBrackets | comment =>
      obtain rfl := eq_of_beq h
      exact hmarks _ (by decide)
  | unexpected =>
      simp only [beginsWith, Bool.or_eq_true, beq_iff_eq] at h
      rcases h with rfl | rfl
      · exact hmarks _ (by decide)
      · exact hmarks _ (by decide)
  | _ => simp at hkind

/-- The marks with which tags and phone numbers begin are symbols. -/
theorem isSymbol_of_beginsWith (hkind : kind ∈ [TokenKind.symbol, .htmlTag, .phoneNumber])
    (h : kind.beginsWith x = true) : isSymbol x = true := by
  have hall : "<+".toList.all isSymbol = true := by decide +kernel
  have hmarks := List.all_eq_true.1 hall
  cases kind with
  | symbol => exact h
  | htmlTag | phoneNumber =>
      obtain rfl := eq_of_beq h
      exact hmarks _ (by decide)
  | _ => simp at hkind

/-- Only blanks begin with a space. -/
theorem eq_whitespace_of_beginsWith_space (h : kind.beginsWith ' ' = true) :
    kind = .whitespace := by
  cases kind with
  | whitespace => rfl
  | string | hexColor | comment | squareBrackets | phoneNumber | account | htmlTag | unexpected =>
      exact absurd h (by decide)
  | number | identifier | symbol | punctuation => exact absurd h (by decide +kernel)

end TokenKind

namespace Token

/-- A value whose first character is no letter does not begin with one. -/
theorem not_beginsWithLetter {b : Token} {x : Char} (hvalue : b.value.head? = some x)
    (hletter : isLetter x = false) : ¬ b.beginsWithLetter := by
  rintro ⟨y, hy, hyLetter⟩
  obtain rfl := Option.some.inj (hvalue.symm.trans hy)
  rw [hletter] at hyLetter
  cases hyLetter

/-- A token may precede another if it would not have taken in the character with which the other
begins. -/
theorem mayPrecede_of_goesOn_eq_false {a b : Token} {x : Char} (hends : a.goesOn x = false)
    (hvalue : b.value.head? = some x) (hbegins : b.kind.beginsWith x = true) :
    a.MayPrecede b where
  number := by
    intro ha hb
    simp only [goesOn, ha] at hends
    simp only [hb, TokenKind.beginsWith, hends] at hbegins
    cases hbegins
  identifier := by
    intro ha hb
    simp only [goesOn, ha, isLetterOrDigit, Bool.or_eq_false_iff] at hends
    obtain ⟨⟨hletter, hdigit⟩, hlow⟩ := hends
    simp only [List.mem_cons, List.not_mem_nil, or_false] at hb
    rcases hb with hb | hb
    · simp [hb, TokenKind.beginsWith, isIdentifierStart, hletter, hlow] at hbegins
    · simp [hb, TokenKind.beginsWith, hdigit] at hbegins
  whitespace := by
    intro ha hb
    simp only [goesOn, ha] at hends
    simp [hb, TokenKind.beginsWith, hends] at hbegins
  symbol := by
    intro ha hb
    simp only [goesOn, ha] at hends
    rw [TokenKind.isSymbol_of_beginsWith hb hbegins] at hends
    cases hends
  punctuation := by
    intro ha
    simp only [goesOn, ha] at hends
    refine ⟨fun hb => ?_, ?_⟩
    · rw [TokenKind.isPunctuation_of_beginsWith hb hbegins] at hends
      cases hends
    · rintro ⟨-, hlow⟩
      obtain rfl := Option.some.inj (hvalue.symm.trans hlow)
      have hpunctuation : isPunctuation '_' = true := by decide +kernel
      rw [hpunctuation] at hends
      cases hends
  account := by
    intro ha
    simp only [goesOn, ha, isLetterOrDigit, Bool.or_eq_false_iff] at hends
    obtain ⟨⟨hletter, hdigit⟩, hat⟩ := hends
    refine ⟨fun hb => ?_, fun hb => not_beginsWithLetter hvalue hletter hb.2⟩
    simp only [List.mem_cons, List.not_mem_nil, or_false] at hb
    rcases hb with hb | hb
    · simp [hb, TokenKind.beginsWith, hat] at hbegins
    · simp [hb, TokenKind.beginsWith, hdigit] at hbegins
  htmlTag := by
    intro ha hopen
    have hclosed : (a.value.getLast? != some '>') = true := bne_iff_ne.2 hopen
    simp only [goesOn, ha, hclosed, Bool.true_and, isLetterOrDigit, Bool.or_eq_false_iff] at hends
    obtain ⟨⟨hletter, hdigit⟩, hmarks⟩ := hends
    refine ⟨fun hb => ?_, fun hb => not_beginsWithLetter hvalue hletter hb.2⟩
    simp only [List.mem_cons, List.not_mem_nil, or_false] at hb
    rcases hb with hb | hb | hb
    · obtain rfl : x = '<' := by simpa [hb, TokenKind.beginsWith] using hbegins
      exact absurd hmarks (by decide)
    · simp [hb, TokenKind.beginsWith, hdigit] at hbegins
    · obtain rfl : x = '/' := by simpa [hb, TokenKind.beginsWith] using hbegins
      exact absurd hmarks (by decide)
  phoneNumber := by
    intro ha
    obtain rfl : x = ' ' := by simpa [goesOn, ha] using hends
    exact ⟨TokenKind.eq_whitespace_of_beginsWith_space hbegins, hvalue⟩

end Token

namespace Cursor

variable {rules : List Rule} {c : Cursor} {a b token : Token} {x : Char}

/-- **Where a token ends**: no character stands behind it that it would have taken in. -/
theorem goesOn_eq_false_of_scan (h : (c.scan rules).answer = .token token)
    (hx : (c.scan rules).cursor.rest.head? = some x) : token.goesOn x = false := by
  obtain ⟨rule, -, -, hanswer, hcursor⟩ := exists_rule_of_scan_token h
  rw [hcursor] at hx
  exact Rule.goesOn_eq_false_of_apply_ok hanswer hx

/-- **Where a token begins**: with the next character, which suits its kind. -/
theorem beginsWith_of_scan (h : (c.scan rules).answer = .token token) :
    ∃ x, c.rest.head? = some x ∧ token.value.head? = some x ∧ token.kind.beginsWith x = true := by
  obtain ⟨rule, -, hfind, hanswer, -⟩ := exists_rule_of_scan_token h
  have hopens := List.find?_some hfind
  exact Rule.beginsWith_of_apply_ok hopens hanswer

/-- A token may precede the one that is read behind it. -/
theorem mayPrecede_of_scan (ha : (c.scan rules).answer = .token a)
    (hb : ((c.scan rules).cursor.scan rules).answer = .token b) : a.MayPrecede b := by
  obtain ⟨x, hx, hvalue, hbegins⟩ := beginsWith_of_scan hb
  exact Token.mayPrecede_of_goesOn_eq_false (goesOn_eq_false_of_scan ha hx) hvalue hbegins

/-- **All along a run** every token may precede the next one, and no character stands behind the
last one that it would have taken in. -/
theorem Reads.neighbours {tokens : List Token} {last : Cursor} (h : c.Reads rules tokens last) :
    tokens.IsChain Token.MayPrecede ∧
      ∀ token, tokens.getLast? = some token → ∀ x, last.rest.head? = some x →
        token.goesOn x = false := by
  induction h with
  | nil c => exact ⟨List.isChain_nil, nofun⟩
  | @cons c last token tokens hscan hlater ih =>
      obtain ⟨hchain, hend⟩ := ih
      cases hlater with
      | nil _ =>
          refine ⟨List.isChain_singleton _, fun other hother x hx => ?_⟩
          obtain rfl := Option.some.inj hother
          exact goesOn_eq_false_of_scan hscan hx
      | cons hnext _ =>
          refine ⟨List.isChain_cons_cons.2 ⟨mayPrecede_of_scan hscan hnext, hchain⟩, ?_⟩
          intro other hother
          rw [List.getLast?_cons_cons] at hother
          exact hend other hother

/-- Where a symbol ends, no phone number is rejected. -/
theorem scan_ne_rejected_of_not_symbol (hhalted : c.halted = none)
    (hsymbol : ∀ x, c.rest.head? = some x → isSymbol x = false) (number : Text) (length : Nat)
    (p : Position) : (c.scan rules).answer ≠ .failed ⟨.phoneLength number length, p⟩ := by
  intro hfailed
  have hstops := stops_scan hhalted fun token htoken => by rw [hfailed] at htoken; cases htoken
  rw [hfailed] at hstops
  generalize (c.scan rules).cursor = next at hstops
  cases hstops with
  | rejected hfind _ =>
      have hopens := List.find?_some hfind
      have hplus := Rule.head?_of_opens_phoneNumber hopens
      exact absurd (hsymbol '+' hplus) (by decide +kernel)

/-- Where at most a space follows, a scan that reads no token is finished, if blanks are known. -/
theorem scan_finished_of_space (hblanks : Rule.whitespace ∈ rules) (hhalted : c.halted = none)
    (hspace : ∀ x, c.rest.head? = some x → x = ' ')
    (hstop : ∀ token, (c.scan rules).answer ≠ .token token) :
    (c.scan rules).answer = .finished := by
  cases hanswer : (c.scan rules).answer with
  | token token => exact absurd hanswer (hstop token)
  | finished => rfl
  | failed error =>
      have hstops := stops_scan hhalted hstop
      rw [hanswer] at hstops
      obtain ⟨-, culprit, hculprit, hblank⟩ := hstops.exists_culprit hblanks
      obtain rfl := hspace culprit hculprit
      exact absurd hblank (by decide +kernel)

/-- **Which tokens stand side by side.**  In a scan of a text with one of the two usual orders,
every token may precede the next one; if the last token is a symbol, the scan does not end with a
rejected phone number; and if it is a phone number, the scan comes to the end of the text. -/
theorem drain_neighbours (hrules : rules = Rule.standard ∨ rules = Rule.withBlockComments)
    (s : Text) :
    let tokens := ((ofText s).drain rules).answer
    let answer := (((ofText s).drain rules).cursor.scan rules).answer
    tokens.IsChain Token.MayPrecede ∧
      ∀ token, tokens.getLast? = some token →
        (token.kind = .symbol →
          ∀ number length p, answer ≠ .failed ⟨.phoneLength number length, p⟩) ∧
        (token.kind = .phoneNumber → answer = .finished) := by
  intro tokens answer
  have hblanks := Rule.whitespace_mem_of_usual hrules
  obtain ⟨last, hreads, hstop, hcursor⟩ := exists_reads_drain rules (ofText s)
  obtain ⟨hchain, hend⟩ := hreads.neighbours
  have hhalted : last.halted = none := hreads.halted_eq
  have hanswer : answer = (last.scan rules).answer := by
    show (((ofText s).drain rules).cursor.scan rules).answer = _
    rw [hcursor, scan_scan hstop]
  rw [hanswer]
  refine ⟨hchain, fun token htoken => ⟨fun hkind => ?_, fun hkind => ?_⟩⟩
  · refine scan_ne_rejected_of_not_symbol hhalted fun x hx => ?_
    simpa only [Token.goesOn, hkind] using hend token htoken x hx
  · refine scan_finished_of_space hblanks hhalted (fun x hx => ?_) hstop
    simpa [Token.goesOn, hkind] using hend token htoken x hx

/-- The openers of a tag, a string, a color, an account and brackets, each taken in by the run
before it, and a phone number at the end of the text. -/
theorem drain_neighbours_openers_taken_in :
    let s : Text := "$<a,\"#@[ +966512345678".toList
    let tokens := ((ofText s).drain Rule.withBlockComments).answer
    (Rule.withBlockComments = Rule.standard ∨ Rule.withBlockComments = Rule.withBlockComments) ∧
      tokens.map Token.kind = [.symbol, .identifier, .punctuation, .whitespace, .phoneNumber] ∧
      tokens.IsChain Token.MayPrecede ∧
      (((ofText s).drain Rule.withBlockComments).cursor.scan Rule.withBlockComments).answer =
        .finished := by
  intro s tokens
  have hrules : Rule.withBlockComments = Rule.standard ∨
      Rule.withBlockComments = Rule.withBlockComments := Or.inr rfl
  have hlast : tokens.getLast? = some ⟨.phoneNumber, "+966512345678".toList, ⟨9, 1⟩⟩ := by
    decide +kernel
  obtain ⟨hchain, hend⟩ := drain_neighbours hrules s
  exact ⟨hrules, by decide +kernel, hchain, (hend _ hlast).2 rfl⟩

end Cursor
end SpanLexer
