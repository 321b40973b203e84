import SpanLexer.ScanError
import SpanLexer.Token

/-!
# What messages and renderings tell

A message puts the text it is about in quotes, a rendering shows it as it is; both go on with
numbers behind fixed labels.  Either way all can be read back, whatever the text holds.  Quoted text
says by itself where it ends, as every character in it does.  A rendering is read from its end: no
number has a blank in it, so the last blank stands in front of the last number, and no word for a
kind has a line feed in it, so the last line feed stands behind the value.

* `append_cons_inj_of_not_mem`, `append_cons_inj_of_not_mem_right` — the first place of an element,
  and the last, split a list in one way.
* `toDigits_inj` — digits up to base 16 tell the number; `mem_toDigits` says what they are.
* `labelled_inj` — a number at the end of a text, behind a label.
* `Written` — how a character is written in quotes; `Written.append_inj` says that this tells the
  character and where it ends.
* `quoted_append_inj` — so does quoted text.
* `Failure.eq_of_message_eq`, `ScanError.message_inj` — a message tells the error.
* `Token.render_inj` — a rendering tells the token.
-/

namespace SpanLexer

section Lists

variable {α : Type} {s t u v : List α} {x : α}

/-- What comes before the first place of an element, and what behind it. -/
theorem append_cons_inj_of_not_mem (hs : x ∉ s) (ht : x ∉ t) :
    s ++ x :: u = t ++ x :: v ↔ s = t ∧ u = v := by
  constructor
  · intro h
    induction s generalizing t with
    | nil =>
        cases t with
        | nil => exact ⟨rfl, (List.cons.inj h).2⟩
        | cons y t => exact absurd ((List.cons.inj h).1 ▸ List.mem_cons_self) ht
    | cons y s ih =>
        cases t with
        | nil => exact absurd ((List.cons.inj h).1 ▸ List.mem_cons_self) hs
        | cons z t =>
            obtain ⟨rfl, hlater⟩ := List.cons.inj h
            obtain ⟨rfl, rfl⟩ := ih (fun hmem => hs (List.mem_cons_of_mem _ hmem))
              (fun hmem => ht (List.mem_cons_of_mem _ hmem)) hlater
            exact ⟨rfl, rfl⟩
  · rintro ⟨rfl, rfl⟩
    rfl

/-- What comes before the last place of an element, and what behind it. -/
theorem append_cons_inj_of_not_mem_right (hs : x ∉ s) (ht : x ∉ t) :
    u ++ x :: s = v ++ x :: t ↔ u = v ∧ s = t := by
  have hreverse : ∀ u s : List α, (u ++ x :: s).reverse = s.reverse ++ x :: u.reverse := by simp
  rw [← List.reverse_inj, hreverse, hreverse, append_cons_inj_of_not_mem (by simpa using hs)
    (by simpa using ht), List.reverse_inj, List.reverse_inj, and_comm]

end Lists

section Digits

variable {base m n : Nat}

/-- Every digit stands for a number below the base. -/
theorem mem_toDigits (hbase : 1 < base) {x : Char} (h : x ∈ Nat.toDigits base n) :
    ∃ d < base, x = Nat.digitChar d := by
  induction n using Nat.strongRecOn with
  | ind n ih =>
      rw [Nat.toDigits_eq_if hbase] at h
      split at h
      · next hlt => exact ⟨n, hlt, List.mem_singleton.1 h⟩
      · next hle =>
          rcases List.mem_append.1 h with hfront | hlast
          · exact ih _ (Nat.div_lt_self (by omega) hbase) hfront
          · exact ⟨_, Nat.mod_lt _ (by omega), List.mem_singleton.1 hlast⟩

/-- No closing brace stands in a number in hexadecimal digits. -/
theorem brace_not_mem_toDigits (n : Nat) : '\x7d' ∉ Nat.toDigits 16 n := by
  intro hmem
  obtain ⟨d, hd, heq⟩ := mem_toDigits (by decide) hmem
  have hdigit : ∀ d < 16, '\x7d' ≠ Nat.digitChar d := by decide
  exact hdigit d hd heq

/-- The last digit, and the digits before it, if there are any. -/
theorem toDigits_eq_concat (hbase : 1 < base) (n : Nat) :
    Nat.toDigits base n =
      (if n < base then [] else Nat.toDigits base (n / base)) ++ [Nat.digitChar (n % base)] := by
  rw [Nat.toDigits_eq_if hbase]
  split
  · next hlt => rw [Nat.mod_eq_of_lt hlt, List.nil_append]
  · rfl

/-- **Digits tell the number**, as long as there are characters for all of them. -/
theorem toDigits_inj (hbase : 1 < base) (hchars : base ≤ 16)
    (h : Nat.toDigits base m = Nat.toDigits base n) : m = n := by
  have hdigit : ∀ i < 16, ∀ j < 16, Nat.digitChar i = Nat.digitChar j → i = j := by decide
  have hbelow : ∀ k, k % base < 16 := fun k =>
    Nat.lt_of_lt_of_le (Nat.mod_lt k (Nat.lt_trans Nat.one_pos hbase)) hchars
  -- Induction on the number, by its last digit and the ones before it.
  induction m using Nat.strongRecOn generalizing n with
  | ind m ih =>
      rw [toDigits_eq_concat hbase, toDigits_eq_concat hbase n] at h
      obtain ⟨hfront, hlast⟩ := List.append_inj' h rfl
      have hmod : m % base = n % base :=
        hdigit _ (hbelow m) _ (hbelow n) (List.singleton_inj.1 hlast)
      split at hfront
      · next hm =>
          split at hfront
          · next hn => rwa [Nat.mod_eq_of_lt hm, Nat.mod_eq_of_lt hn] at hmod
          · exact absurd hfront.symm Nat.toDigits_ne_nil
      · next hm =>
          split at hfront
          · exact absurd hfront Nat.toDigits_ne_nil
          · have hdiv := ih _ (Nat.div_lt_self (by omega) hbase) hfront
            rw [← Nat.div_add_mod m base, ← Nat.div_add_mod n base, hdiv, hmod]

end Digits

/-- A number at the end of a text, behind a label with a blank at its end. -/
theorem labelled_inj {s t label : Text} {m n : Nat} (front : Text) (hlabel : label = front ++ [' '])
    (h : s ++ label ++ decimal m = t ++ label ++ decimal n) : s = t ∧ m = n := by
  have hblank : ∀ n, ' ' ∉ decimal n := not_mem_decimal (by decide)
  have hlast : ∀ (s : Text) n, s ++ label ++ decimal n = s ++ front ++ ' ' :: decimal n := by
    intro s n
    simp [hlabel]
  rw [hlast, hlast, append_cons_inj_of_not_mem_right (hblank m) (hblank n)] at h
  exact ⟨List.append_cancel_right h.1, decimal_inj h.2⟩

/-- The characters that have a letter or a sign of their own in quotes. -/
def shortNames : List (Char × Char) :=
  [(nul, '0'), ('\t', 't'), ('\n', 'n'), ('\r', 'r'), ('"', '"'), ('\\', '\\')]

/-- **How a character is written in quotes**: by a short name behind a backslash, by its code point
in braces, or as it is, which neither the quote nor the backslash is. -/
inductive Written (c : Char) : Text → Prop
  | named {name : Char} (hname : (c, name) ∈ shortNames) : Written c ['\\', name]
  | coded : Written c ('\\' :: 'u' :: '\x7b' :: (Nat.toDigits 16 c.toNat ++ ['\x7d']))
  | plain (hquote : c ≠ '"') (hbackslash : c ≠ '\\') : Written c [c]

/-- Every character is written in one of these ways. -/
theorem written_escape (c : Char) : Written c (escape c) := by
  have hescape : ∀ p ∈ shortNames, escape p.1 = ['\\', p.2] := by decide
  by_cases hshort : ∃ name, (c, name) ∈ shortNames
  · obtain ⟨name, hname⟩ := hshort
    rw [hescape _ hname]
    exact .named hname
  · have hother : ∀ p ∈ shortNames, c ≠ p.1 := by
      rintro ⟨_, name⟩ hname rfl
      exact hshort ⟨name, hname⟩
    simp only [shortNames, List.forall_mem_cons] at hother
    obtain ⟨hnul, htab, hfeed, hreturn, hquote, hbackslash, -⟩ := hother
    rw [escape, if_neg hnul, if_neg htab, if_neg hfeed, if_neg hreturn, if_neg hquote,
      if_neg hbackslash]
    split
    · exact .coded
    · exact .plain hquote hbackslash

namespace Written

variable {c d : Char} {s t u v : Text}

/-- No character is written with a quote in front. -/
theorem ne_quote_cons (h : Written c s) : s ++ u ≠ '"' :: v := by
  intro heq
  cases h with
  | named hname => exact absurd (List.cons.inj heq).1 (by decide)
  | coded => exact absurd (List.cons.inj heq).1 (by decide)
  | plain hquote hbackslash => exact hquote (List.cons.inj heq).1

/-- **What is written tells the character**, and where it ends. -/
theorem append_inj (hc : Written c s) (hd : Written d t) (h : s ++ u = t ++ v) :
    c = d ∧ u = v := by
  have hnames : ∀ p ∈ shortNames, p.2 ≠ 'u' ∧ ∀ q ∈ shortNames, p.2 = q.2 → p.1 = q.1 := by decide
  cases hc with
  | named hname =>
      cases hd with
      | named hname' =>
          obtain ⟨-, hlater⟩ := List.cons.inj h
          obtain ⟨heq, rfl⟩ := List.cons.inj hlater
          exact ⟨(hnames _ hname).2 _ hname' heq, rfl⟩
      | coded => exact absurd (List.cons.inj (List.cons.inj h).2).1 (hnames _ hname).1
      | plain hquote hbackslash => exact absurd (List.cons.inj h).1.symm hbackslash
  | coded =>
      cases hd with
      | named hname => exact absurd (List.cons.inj (List.cons.inj h).2).1.symm (hnames _ hname).1
      | coded =>
          have hcodes : Nat.toDigits 16 c.toNat ++ '\x7d' :: u =
              Nat.toDigits 16 d.toNat ++ '\x7d' :: v := by simpa using h
          obtain ⟨hdigits, rfl⟩ := (append_cons_inj_of_not_mem (brace_not_mem_toDigits _)
            (brace_not_mem_toDigits _)).1 hcodes
          exact ⟨Char.toNat_inj.1 (toDigits_inj (by decide) (by decide) hdigits), rfl⟩
      | plain hquote hbackslash => exact absurd (List.cons.inj h).1.symm hbackslash
  | plain hquote hbackslash =>
      cases hd with
      | named hname => exact absurd (List.cons.inj h).1 hbackslash
      | coded => exact absurd (List.cons.inj h).1 hbackslash
      | plain => exact List.cons.inj h

end Written

/-- **Quoted text tells the text**, and where it ends. -/
theorem quoted_append_inj {s t u v : Text} (h : quoted s ++ u = quoted t ++ v) : s = t ∧ u = v := by
  have hquoted : ∀ s u : Text, quoted s ++ u = '"' :: (s.flatMap escape ++ '"' :: u) := by
    simp [quoted]
  rw [hquoted, hquoted] at h
  replace h := (List.cons.inj h).2
  induction s generalizing t with
  | nil =>
      cases t with
      | nil => exact ⟨rfl, (List.cons.inj h).2⟩
      | cons d t =>
          rw [List.flatMap_cons, List.append_assoc] at h
          exact absurd h.symm (written_escape d).ne_quote_cons
  | cons c s ih =>
      cases t with
      | nil =>
          rw [List.flatMap_cons, List.append_assoc] at h
          exact absurd h (written_escape c).ne_quote_cons
      | cons d t =>
          rw [List.flatMap_cons, List.append_assoc, List.flatMap_cons, List.append_assoc] at h
          obtain ⟨rfl, hlater⟩ := (written_escape c).append_inj (written_escape d) h
          obtain ⟨rfl, rfl⟩ := ih hlater
          exact ⟨rfl, rfl⟩

/-- The words about a phone number, from the quoted number on. -/
theorem Failure.message_phoneLength (number : Text) (length : Nat) :
    (phoneLength number length).message = "invalid phone number ".toList ++ (quoted number ++
      (": expected ".toList ++ decimal phoneNumberLength ++ " characters, received ".toList ++
        decimal length)) := by
  have hmessage : (phoneLength number length).message =
      "invalid phone number ".toList ++ quoted number ++ ": expected ".toList ++
        decimal phoneNumberLength ++ " characters, received ".toList ++ decimal length := rfl
  rw [hmessage, List.append_assoc, List.append_assoc, List.append_assoc, List.append_assoc,
    List.append_assoc, List.append_assoc]

/-- The words for a failure tell what it is, and all that it holds. -/
theorem Failure.eq_of_message_eq {f g : Failure} (h : f.message = g.message) : f = g := by
  cases f with
  | unrecognised token =>
      cases g with
      | unrecognised token' =>
          have hquoted : quoted token = quoted token' := List.append_cancel_left h
          rw [(quoted_append_inj (congrArg (· ++ []) hquoted)).1]
      | phoneLength number length =>
          have hhead : some 'u' = some 'i' := congrArg List.head? h
          exact absurd hhead (by decide)
  | phoneLength number length =>
      cases g with
      | unrecognised token =>
          have hhead : some 'i' = some 'u' := congrArg List.head? h
          exact absurd hhead (by decide)
      | phoneLength number' length' =>
          rw [message_phoneLength, message_phoneLength] at h
          obtain ⟨rfl, hlater⟩ := quoted_append_inj (List.append_cancel_left h)
          rw [decimal_inj (List.append_cancel_left hlater)]

/-- **A message tells the error**: two errors have the same message only if they are the same,
however much the text that they quote looks like the end of a quote, an escape or the words behind
it. -/
theorem ScanError.message_inj (e e' : ScanError) : e.message = e'.message ↔ e = e' := by
  constructor
  · intro h
    obtain ⟨hfront, hline⟩ := labelled_inj ", line".toList rfl h
    obtain ⟨hmessage, hindex⟩ := labelled_inj " at index".toList rfl hfront
    have hfailure := Failure.eq_of_message_eq hmessage
    obtain ⟨failure, index, line⟩ := e
    obtain ⟨failure', index', line'⟩ := e'
    obtain rfl : failure = failure' := hfailure
    obtain rfl : index = index' := hindex
    obtain rfl : line = line' := UInt32.toNat_inj.1 hline
    rfl
  · rintro rfl
    rfl

/-- The word for a kind tells the kind. -/
theorem TokenKind.label_inj {k l : TokenKind} (h : k.label = l.label) : k = l := by
  have hread := congrArg TokenKind.ofLabel? h
  rw [TokenKind.ofLabel?_label, TokenKind.ofLabel?_label] at hread
  exact Option.some.inj hread

/-- A value and a kind behind it: the last line feed stands between the two. -/
theorem Token.value_and_kind_inj {value value' : Text} {kind kind' : TokenKind}
    (h : "Token: ".toList ++ value ++ " \nType: ".toList ++ kind.label =
      "Token: ".toList ++ value' ++ " \nType: ".toList ++ kind'.label) :
    value = value' ∧ kind = kind' := by
  have hfeed : ∀ kind : TokenKind, '\n' ∉ "Type: ".toList ++ kind.label := by
    intro kind
    cases kind <;> decide
  have hlast : ∀ (value : Text) (kind : TokenKind),
      "Token: ".toList ++ value ++ " \nType: ".toList ++ kind.label =
        "Token: ".toList ++ (value ++ [' ']) ++ '\n' :: ("Type: ".toList ++ kind.label) := by
    intro value kind
    simp
  rw [hlast, hlast, append_cons_inj_of_not_mem_right (hfeed _) (hfeed _)] at h
  obtain ⟨hvalue, hkind⟩ := h
  exact ⟨List.append_cancel_right (List.append_cancel_left hvalue),
    TokenKind.label_inj (List.append_cancel_left hkind)⟩

/-- **A rendering tells the token**: two tokens are rendered in the same way only if they are the
same, although the value is shown as it is and may itself look like what comes behind it. -/
theorem Token.render_inj (a b : Token) : a.render = b.render ↔ a = b := by
  constructor
  · obtain ⟨kind, value, index, line⟩ := a
    obtain ⟨kind', value', index', line'⟩ := b
    intro h
    obtain ⟨hfront, hline⟩ := labelled_inj " | Line:".toList rfl h
    obtain rfl : line = line' := UInt32.toNat_inj.1 hline
    obtain ⟨hvalue, rfl⟩ := labelled_inj " | Position:".toList rfl hfront
    obtain ⟨rfl, rfl⟩ := Token.value_and_kind_inj hvalue
    rfl
  · rintro rfl
    rfl

end SpanLexer
