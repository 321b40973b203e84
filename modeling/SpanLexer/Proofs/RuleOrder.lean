import Mathlib.Data.List.Basic
import SpanLexer.Proofs.Openers
import SpanLexer.Proofs.Run

/-!
# The order of the rules

At most two rules of the usual order open at a text: one at the class of the first character, and
one at the character itself.  So an order scans like the usual one if it tries the rule for the
character before the rule for its class, and if it does not, then some text tells the two apart.

* `Rule.Before` — one rule is tried before another.
* `Rule.clashes` — the pairs of rules that open at one text, the one for the character first.
* `Rule.eq_or_clash_of_opens` — there are no other such pairs in the usual order.
* `Rule.find?_eq_of_keeps` — an order that keeps these pairs chooses the same rule everywhere.
* `Rule.before_of_scan_eq` — an order that scans the same keeps these pairs.
* `Cursor.scan_perm_standard_iff` — the orders that scan like the usual one.
-/

namespace SpanLexer

/-- What is found first stands first among all that could be found. -/
theorem idxOf_le_of_find? {α : Type} [DecidableEq α] {p : α → Bool} {items : List α} {a b : α}
    (h : items.find? p = some a) (hb : p b = true) : items.idxOf a ≤ items.idxOf b := by
  induction items with
  | nil => cases h
  | cons item items ih =>
      by_cases hitem : p item = true
      · rw [List.find?_cons_of_pos hitem] at h
        obtain rfl := Option.some.inj h
        simp
      · rw [List.find?_cons_of_neg hitem] at h
        have ha := List.find?_some h
        have hitemA : item ≠ a := fun heq => hitem (heq ▸ ha)
        have hitemB : item ≠ b := fun heq => hitem (heq ▸ hb)
        rw [List.idxOf_cons_ne _ hitemA, List.idxOf_cons_ne _ hitemB]
        exact Nat.succ_le_succ (ih h)

namespace Rule

/-- One rule is tried before another. -/
def Before (rules : List Rule) (first second : Rule) : Prop :=
  rules.idxOf first < rules.idxOf second

instance (rules : List Rule) (first second : Rule) : Decidable (Before rules first second) :=
  inferInstanceAs (Decidable (_ < _))

/-- The pairs of rules of the usual order that open at one text: a rule for a certain character,
and the rule for the class of that character. -/
def clashes : List (Rule × Rule) :=
  [identifier, lineComment, hexColor, string, account, brackets].map (·, punctuation) ++
    [htmlTag, phoneNumber].map (·, symbol)

/-- An order keeps the clashes if it tries the rule for the character first. -/
def KeepsClashes (rules : List Rule) : Prop :=
  ∀ clash ∈ clashes, Before rules clash.1 clash.2

/-- The shortest text at which a rule opens because of its mark. -/
def shortest : Rule → Text
  | lineComment => "//".toList
  | phoneNumber => phonePrefix
  | rule => rule.mark?.toList

theorem keepsClashes_standard : KeepsClashes standard := by
  unfold KeepsClashes
  decide

/-- In the usual order, no two rules have one class. -/
theorem eq_of_class_eq : ∀ first ∈ standard, ∀ second ∈ standard, first.class?.isSome = true →
    first.class? = second.class? → first = second := by
  decide

/-- In the usual order, no two rules have one mark. -/
theorem eq_of_mark_eq : ∀ first ∈ standard, ∀ second ∈ standard, first.mark?.isSome = true →
    first.mark? = second.mark? → first = second := by
  decide

/-- The mark of a rule belongs to the class of another only if the two rules clash. -/
theorem clash_of_mark_holds : ∀ first ∈ standard, ∀ second ∈ standard,
    (first.mark?.any fun mark => second.class?.any fun cls => cls.holds mark) = true →
      (first, second) ∈ clashes := by
  decide +kernel

/-- **Two rules of the usual order that open at one text clash.** -/
theorem eq_or_clash_of_opens {first second : Rule} {t : Text} (hfirst : first ∈ standard)
    (hsecond : second ∈ standard) (hopensFirst : first.opens t = true)
    (hopensSecond : second.opens t = true) :
    first = second ∨ (first, second) ∈ clashes ∨ (second, first) ∈ clashes := by
  cases t with
  | nil => cases hopensFirst
  | cons c later =>
      rcases class_or_mark_of_opens hopensFirst with ⟨cls, hcls, hmember⟩ | hmark
      · rcases class_or_mark_of_opens hopensSecond with ⟨other, hother, hmemberOther⟩ | hmark
        · -- Both open at the class of the character, and it has only one.
          obtain rfl := CharClass.eq_of_holds (class_mem_basic hcls) (class_mem_basic hother)
            hmember hmemberOther
          exact Or.inl (eq_of_class_eq _ hfirst _ hsecond (hcls ▸ rfl) (hcls.trans hother.symm))
        · refine Or.inr (Or.inr (clash_of_mark_holds _ hsecond _ hfirst ?_))
          simpa [hmark, hcls] using hmember
      · rcases class_or_mark_of_opens hopensSecond with ⟨cls, hcls, hmember⟩ | hmarkSecond
        · refine Or.inr (Or.inl (clash_of_mark_holds _ hfirst _ hsecond ?_))
          simpa [hmark, hcls] using hmember
        · exact Or.inl (eq_of_mark_eq _ hfirst _ hsecond (hmark ▸ rfl)
            (hmark.trans hmarkSecond.symm))

section Orders

variable {rules : List Rule}

/-- **An order that keeps the clashes chooses the same rule everywhere** as the usual one. -/
theorem find?_eq_of_keeps (hperm : rules.Perm standard) (hkeeps : KeepsClashes rules) (t : Text) :
    rules.find? (fun rule => rule.opens t) = standard.find? (fun rule => rule.opens t) := by
  cases hstandard : standard.find? (fun rule => rule.opens t) with
  | none =>
      rw [List.find?_eq_none] at hstandard ⊢
      exact fun rule hrule => hstandard rule (hperm.mem_iff.1 hrule)
  | some usual =>
      have husual := List.find?_some hstandard
      have husualMem := List.mem_of_find?_eq_some hstandard
      obtain ⟨chosen, hchosen⟩ : ∃ chosen, rules.find? (fun rule => rule.opens t) = some chosen :=
        Option.isSome_iff_exists.1
          (List.find?_isSome.2 ⟨usual, hperm.mem_iff.2 husualMem, husual⟩)
      have hopens := List.find?_some hchosen
      have hmem := hperm.mem_iff.1 (List.mem_of_find?_eq_some hchosen)
      -- Each of the two rules is tried no later than the other in its own order.
      have hlateUsual := idxOf_le_of_find? hstandard hopens
      have hlateChosen := idxOf_le_of_find? hchosen husual
      rcases eq_or_clash_of_opens hmem husualMem hopens husual with rfl | hclash | hclash
      · exact hchosen
      · exact absurd hlateUsual (Nat.not_le.2 (keepsClashes_standard _ hclash))
      · exact absurd hlateChosen (Nat.not_le.2 (hkeeps _ hclash))

/-- At its shortest text the rule for a character opens, the rule for its class does, and no other
rule of the usual order. -/
theorem filter_opens_shortest : ∀ clash ∈ clashes,
    standard.filter (fun rule => rule.opens clash.1.shortest) = [clash.1, clash.2] := by
  decide +kernel

/-- The rule for the class reads a span as it stands, of a kind that the other rule never makes. -/
theorem clash_kinds : ∀ clash ∈ clashes,
    clash.2.kind ≠ clash.1.kind ∧ clash.2.kind ≠ .unexpected ∧ clash.1 ≠ clash.2 := by
  decide

theorem exists_read_eq_whole {clash : Rule × Rule} (h : clash ∈ clashes) (t : Text) :
    ∃ span, clash.2.read t = Reading.whole clash.2.kind span := by
  have hclass : clash.2 = punctuation ∨ clash.2 = symbol := by
    revert clash
    decide
  rcases hclass with hrule | hrule
  · rw [hrule]
    exact ⟨_, rfl⟩
  · rw [hrule]
    exact ⟨_, rfl⟩

/-- **An order that scans the same keeps the clashes**: where it does not, the shortest text of the
rule for the character is read by the rule for its class. -/
theorem before_of_scan_eq (hperm : rules.Perm standard)
    (hsame : ∀ c : Cursor, (c.scan rules).answer = (c.scan standard).answer) :
    KeepsClashes rules := by
  intro clash hclash
  obtain ⟨hkind, hexpected, hne⟩ := clash_kinds clash hclash
  have hfilter := filter_opens_shortest clash hclash
  have hmem : ∀ rule, rule ∈ rules ∧ rule.opens clash.1.shortest = true ↔
      rule = clash.1 ∨ rule = clash.2 := by
    intro rule
    have hpair : rule ∈ standard.filter (fun rule => rule.opens clash.1.shortest) ↔
        rule = clash.1 ∨ rule = clash.2 := by
      rw [hfilter]
      simp
    rwa [List.mem_filter, ← hperm.mem_iff] at hpair
  obtain ⟨hnarrow, hopensNarrow⟩ := (hmem clash.1).2 (Or.inl rfl)
  obtain ⟨-, hopensWide⟩ := (hmem clash.2).2 (Or.inr rfl)
  have hstandard : standard.find? (fun rule => rule.opens clash.1.shortest) = some clash.1 := by
    rw [← List.head?_filter, hfilter]
    rfl
  obtain ⟨chosen, hchosen⟩ :
      ∃ chosen, rules.find? (fun rule => rule.opens clash.1.shortest) = some chosen :=
    Option.isSome_iff_exists.1 (List.find?_isSome.2 ⟨_, hnarrow, hopensNarrow⟩)
  have hopens := List.find?_some hchosen
  rcases (hmem chosen).1 ⟨List.mem_of_find?_eq_some hchosen, hopens⟩ with rfl | rfl
  · -- The rule for the character is tried first, and the two have different places.
    refine Nat.lt_of_le_of_ne (idxOf_le_of_find? hchosen hopensWide) fun heq => ?_
    exact hne ((List.idxOf_inj hnarrow).1 heq)
  · -- The rule for the class is tried first; then the two orders read different tokens.
    obtain ⟨span, hread⟩ := exists_read_eq_whole hclash clash.1.shortest
    have hwide := (Cursor.scan_of_whole (c := Cursor.ofText clash.1.shortest) rfl hchosen hread).1
    rw [hsame] at hwide
    obtain ⟨rule, -, hfind, hanswer, -⟩ := Cursor.exists_rule_of_scan_token hwide
    obtain rfl := Option.some.inj (hstandard.symm.trans hfind)
    rcases kind_of_apply_ok hanswer with hsameKind | hunexpected
    · exact absurd hsameKind hkind
    · exact absurd hunexpected hexpected

end Orders
end Rule

/-- **The orders that scan like the usual one.**  An order of the same rules gives the same outcome
and leaves the same cursor, whatever the cursor is, exactly if it tries the rules for identifiers,
line comments, hex colors, strings, accounts and brackets before the one for punctuation, and those
for tags and phone numbers before the one for symbols. -/
theorem Cursor.scan_perm_standard_iff {rules : List Rule} (hperm : rules.Perm Rule.standard) :
    (∀ c : Cursor, (c.scan rules).answer = (c.scan Rule.standard).answer ∧
        (c.scan rules).cursor = (c.scan Rule.standard).cursor) ↔
      (∀ rule ∈ [Rule.identifier, .lineComment, .hexColor, .string, .account, .brackets],
        Rule.Before rules rule .punctuation) ∧
      ∀ rule ∈ [Rule.htmlTag, .phoneNumber], Rule.Before rules rule .symbol := by
  have hkeeps : Rule.KeepsClashes rules ↔
      (∀ rule ∈ [Rule.identifier, .lineComment, .hexColor, .string, .account, .brackets],
        Rule.Before rules rule .punctuation) ∧
      ∀ rule ∈ [Rule.htmlTag, .phoneNumber], Rule.Before rules rule .symbol := by
    rw [Rule.KeepsClashes, Rule.clashes, List.forall_mem_append, List.forall_mem_map,
      List.forall_mem_map]
  rw [← hkeeps]
  constructor
  · intro hsame
    exact Rule.before_of_scan_eq hperm fun c => (hsame c).1
  · intro h c
    rw [Cursor.scan_congr (Rule.find?_eq_of_keeps hperm h c.rest)]
    exact ⟨rfl, rfl⟩

/-- An order that is the usual one almost backwards and scans the same, and the usual one backwards,
which does not. -/
theorem Cursor.scan_perm_standard_iff_backwards :
    let almost : List Rule := [.phoneNumber, .brackets, .account, .string, .htmlTag, .symbol,
      .hexColor, .identifier, .number, .lineComment, .punctuation, .whitespace]
    almost.Perm Rule.standard ∧ Rule.standard.reverse.Perm Rule.standard ∧
      (∀ c : Cursor, (c.scan almost).answer = (c.scan Rule.standard).answer ∧
        (c.scan almost).cursor = (c.scan Rule.standard).cursor) ∧
      ¬ ∀ c : Cursor, (c.scan Rule.standard.reverse).answer = (c.scan Rule.standard).answer ∧
        (c.scan Rule.standard.reverse).cursor = (c.scan Rule.standard).cursor := by
  intro almost
  have hperm : almost.Perm Rule.standard := by decide
  have hreverse : Rule.standard.reverse.Perm Rule.standard := List.reverse_perm _
  refine ⟨hperm, hreverse, (Cursor.scan_perm_standard_iff hperm).2 ?_,
    fun hsame => absurd ((Cursor.scan_perm_standard_iff hreverse).1 hsame) ?_⟩
  · decide
  · decide

end SpanLexer
