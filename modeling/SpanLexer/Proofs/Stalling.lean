import SpanLexer.Proofs.Openers
import SpanLexer.Proofs.Placement
import SpanLexer.Proofs.Settling

/-!
# Where scanning stalls

A scan stalls at a character where no rule opens.  The marks at which rules open are symbols and
punctuation marks; so with rules for all five classes a scan stalls just at the characters that
belong to none of them.

* `CharClass.Classified` — a character belongs to one of the five classes.
* `Rule.Covers` — there is a rule for each of them; both usual orders have one.
* `Rule.exists_opens_iff` — such rules open just at the characters that are classified.
* `Cursor.unrecognised_iff` — a scan stalls just where no rule opens.
* `Cursor.stalls_iff_unclassified` — so with the usual orders a scan stalls just at the characters
  that are not classified, and never in a text without them.
-/

namespace SpanLexer

/-- A character that belongs to one of the basic classes. -/
def CharClass.Classified (c : Char) : Prop := ∃ cls ∈ CharClass.basic, cls.holds c = true

instance : DecidablePred CharClass.Classified := fun c =>
  decidable_of_iff (CharClass.basic.any (·.holds c) = true) List.any_eq_true

/-- A character is not classified if it belongs to no basic class. -/
theorem CharClass.not_classified_iff {c : Char} :
    ¬ CharClass.Classified c ↔ ∀ cls ∈ CharClass.basic, cls.holds c = false := by
  simp only [Classified, not_exists, not_and, Bool.not_eq_true]

namespace Rule

variable {rule : Rule} {rules : List Rule} {x : Char} {later : Text}

/-- Rules that open at the members of every basic class. -/
def Covers (rules : List Rule) : Prop :=
  ∀ cls ∈ CharClass.basic, ∃ rule ∈ rules, rule.class? = some cls

theorem covers_of_usual (h : rules = standard ∨ rules = withBlockComments) : Covers rules := by
  unfold Covers
  rcases h with rfl | rfl
  · decide +kernel
  · decide +kernel

/-- A rule opens at every member of its class. -/
theorem opens_of_class {cls : CharClass} (hcls : rule.class? = some cls)
    (hx : cls.holds x = true) : rule.opens (x :: later) = true := by
  cases rule with
  | number | whitespace | symbol | punctuation =>
      obtain rfl := Option.some.inj hcls
      exact hx
  | identifier =>
      obtain rfl := Option.some.inj hcls
      have hletter : isLetter x = true := hx
      show (isLetter x || x == '_') = true
      rw [hletter, Bool.true_or]
  | string | hexColor | lineComment | brackets | phoneNumber | account | htmlTag | comment =>
      cases hcls

/-- The marks of rules are classified: they are symbols and punctuation marks. -/
theorem classified_of_mark (h : rule.mark? = some x) : CharClass.Classified x := by
  have hmarks : (all.filterMap mark?).all (CharClass.Classified ·) = true := by decide +kernel
  have hmem : rule ∈ all := by cases rule <;> decide
  have hx : x ∈ all.filterMap mark? := List.mem_filterMap.2 ⟨rule, hmem, h⟩
  exact of_decide_eq_true (List.all_eq_true.1 hmarks x hx)

/-- A rule opens at classified characters only. -/
theorem classified_of_opens (h : rule.opens (x :: later) = true) : CharClass.Classified x := by
  rcases class_or_mark_of_opens h with ⟨cls, hcls, hx⟩ | hmark
  · exact ⟨cls, class_mem_basic hcls, hx⟩
  · exact classified_of_mark hmark

/-- **Where rules open** that cover the classes: at the classified characters, whatever follows. -/
theorem exists_opens_iff (hcovers : Covers rules) :
    (∃ rule ∈ rules, rule.opens (x :: later) = true) ↔ CharClass.Classified x := by
  constructor
  · rintro ⟨rule, -, hopens⟩
    exact classified_of_opens hopens
  · rintro ⟨cls, hbasic, hx⟩
    obtain ⟨rule, hrule, hcls⟩ := hcovers cls hbasic
    exact ⟨rule, hrule, opens_of_class hcls hx⟩

end Rule

namespace Cursor

variable {rules : List Rule} {c : Cursor} {x : Char} {later : Text}

/-- **A scan stalls just where no rule opens**, on a cursor that was not stopped. -/
theorem unrecognised_iff (hhalted : c.halted = none) (hrest : c.rest = x :: later) :
    (∃ text p, (c.scan rules).answer = .failed ⟨.unrecognised text, p⟩) ↔
      ¬ ∃ rule ∈ rules, rule.opens (x :: later) = true := by
  constructor
  · rintro ⟨text, p, hanswer⟩ ⟨rule, hrule, hopens⟩
    have hstops := stops_scan hhalted fun token htoken => by rw [hanswer] at htoken; cases htoken
    rw [hanswer] at hstops
    generalize (c.scan rules).cursor = next at hstops
    cases hstops with
    | stalled hstalled hrules =>
        obtain ⟨rfl, rfl⟩ := List.cons.inj (hrest.symm.trans hstalled)
        rw [hrules rule hrule] at hopens
        cases hopens
  · intro hnone
    have hrules : ∀ rule ∈ rules, rule.opens c.rest = false := by
      intro rule hrule
      rw [hrest]
      exact Bool.eq_false_iff.2 fun hopens => hnone ⟨rule, hrule, hopens⟩
    rw [scan_of_no_rule hhalted hrest hrules]
    exact ⟨_, _, rfl⟩

/-- In a text of classified characters, rules that cover the classes come to its end, or to a number
that is rejected. -/
theorem drain_of_classified {s : Text} (hcovers : Rule.Covers rules)
    (hs : ∀ x ∈ s, CharClass.Classified x) :
    let drained := (ofText s).drain rules
    let last := drained.cursor.scan rules
    (last.answer = .finished ∧ drained.cursor.position.index = s.length) ∨
      ∃ number length p, last.answer = .failed ⟨.phoneLength number length, p⟩ := by
  intro drained last
  obtain ⟨boundary, hreads, hends⟩ := exists_boundary rules s
  have hstops : boundary.Stops rules last.answer drained.cursor := hends
  have hsource : boundary.source = s := hreads.source_eq
  have hplaced : drained.cursor.position.index ≤ s.length :=
    ((Placed.ofText s).drain rules).1.position.1
  generalize last.answer = answer at hstops ⊢
  generalize drained.cursor = next at hstops hplaced ⊢
  cases hstops with
  | rejected _ _ => exact Or.inr ⟨_, _, _, rfl⟩
  | @stalled x later hrest hrules =>
      -- The character is one of the text, so some rule opens at it.
      have hmem : x ∈ s := by
        rw [← hsource]
        refine List.mem_of_mem_drop (i := boundary.position.index) ?_
        rw [← boundary.rest_eq, hrest]
        exact List.mem_cons_self
      obtain ⟨rule, hrule, hopens⟩ := (Rule.exists_opens_iff hcovers).2 (hs x hmem)
      rw [hrules rule hrule] at hopens
      cases hopens
  | finished hrest =>
      have hend := boundary.rest_eq_nil_iff.1 hrest
      rw [hsource] at hend
      exact Or.inl ⟨rfl, Nat.le_antisymm hplaced hend⟩

/-- **Scanning stalls just at the characters that are not classified.**  With one of the two usual
orders, a scan of a cursor that was not stopped and has text left fails to recognise the next
character exactly if it belongs to none of the five classes.  So a text without such characters is
scanned up to its end or up to a number that is rejected. -/
theorem stalls_iff_unclassified (hrules : rules = Rule.standard ∨ rules = Rule.withBlockComments) :
    (∀ c : Cursor, c.halted = none → ∀ h : c.position.index < c.source.length,
      ((∃ text p, (c.scan rules).answer = .failed ⟨.unrecognised text, p⟩) ↔
        ∀ cls ∈ CharClass.basic, cls.holds c.source[c.position.index] = false)) ∧
    ∀ s : Text, (∀ x ∈ s, ∃ cls ∈ CharClass.basic, cls.holds x = true) →
      let drained := (ofText s).drain rules
      let last := drained.cursor.scan rules
      (last.answer = .finished ∧ drained.cursor.position.index = s.length) ∨
        ∃ number length p, last.answer = .failed ⟨.phoneLength number length, p⟩ := by
  have hcovers := Rule.covers_of_usual hrules
  refine ⟨fun c hhalted h => ?_, fun s hs => drain_of_classified hcovers hs⟩
  have hrest : c.rest = c.source[c.position.index] :: c.source.drop (c.position.index + 1) := by
    rw [c.rest_eq, List.drop_eq_getElem_cons h]
  rw [unrecognised_iff hhalted hrest, Rule.exists_opens_iff hcovers, CharClass.not_classified_iff]

/-- The character `nul` stalls a scan although lookahead yields it at the end of a text, too; and a
text of classified characters ends in a number that is rejected. -/
theorem stalls_iff_unclassified_at_nul :
    let c := (ofText ['a', nul]).advance 1
    let s : Text := "½".toList
    let t : Text := "a_1 +9665".toList
    (Rule.withBlockComments = Rule.standard ∨ Rule.withBlockComments = Rule.withBlockComments) ∧
      (∃ text p, (c.scan Rule.withBlockComments).answer = .failed ⟨.unrecognised text, p⟩) ∧
      (∃ text p, ((ofText s).scan Rule.withBlockComments).answer =
        .failed ⟨.unrecognised text, p⟩) ∧
      (∀ x ∈ t, ∃ cls ∈ CharClass.basic, cls.holds x = true) ∧
      ∃ number length p,
        (((ofText t).drain Rule.withBlockComments).cursor.scan Rule.withBlockComments).answer =
          .failed ⟨.phoneLength number length, p⟩ := by
  intro c s t
  have hrules : Rule.withBlockComments = Rule.standard ∨
      Rule.withBlockComments = Rule.withBlockComments := Or.inr rfl
  obtain ⟨hstalls, hends⟩ := stalls_iff_unclassified hrules
  have hall : t.all (CharClass.Classified ·) = true := by decide +kernel
  have hclassified : ∀ x ∈ t, CharClass.Classified x := fun x hx =>
    of_decide_eq_true (List.all_eq_true.1 hall x hx)
  have hunfinished :
      (((ofText t).drain Rule.withBlockComments).cursor.scan Rule.withBlockComments).answer ≠
        .finished := by decide +kernel
  refine ⟨hrules, ?_, ?_, hclassified, ?_⟩
  · exact (hstalls c rfl (by decide)).2 (by decide +kernel)
  · exact (hstalls (ofText s) rfl (by decide)).2 (by decide +kernel)
  · exact (hends t hclassified).resolve_left fun hfinished => hunfinished hfinished.1

end Cursor
end SpanLexer
