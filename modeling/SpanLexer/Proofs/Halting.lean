import SpanLexer.Proofs.Applying
import SpanLexer.Proofs.Settling

/-!
# What stops a cursor

Only a scan stops a cursor, and only where the first rule that opens is the one for phone numbers
and the number has a wrong length.  The cursor stores the error and answers with it from then on,
whatever is done with it.

* `Text.Rejects` — what an error says that stopped a cursor over a text.
* `Cursor.HaltsWith` — where a scan stops a cursor.
* `Cursor.halted_scan` — a scan keeps the stored error of a cursor, or stops it in this way.
* `Session.Alters` — what a command does to the cursors of a session.
* `Session.haltedAt` — the error that a cursor of a session stores.
* `Session.haltedAt_perform` — a command keeps it, or stops the cursor, or copies it.
* `Session.halting_is_permanent` — so stopped cursors stay stopped, all along a session.
-/

namespace SpanLexer

/-- **A rejected number.**  The error is about a number of a wrong length that stands in the text at
the index of the error. -/
def Text.Rejects (s : Text) (error : ScanError) : Prop :=
  ∃ number, error.failure = .phoneLength number number.length ∧
    phonePrefix <+: number ∧
    number = s.extract error.position.index (error.position.index + number.length) ∧
    5 ≤ number.length ∧ number.length ≤ 15 ∧ number.length ≠ 13

namespace Reading

/-- A phone number is its opening and at most ten characters more, up to a space. -/
theorem span_phoneNumber_append (later : Text) :
    (phoneNumber (phonePrefix ++ later)).span =
      phonePrefix ++ (later.take 10).takeWhile (· != ' ') := by
  simp [phoneNumber, phonePrefix, phoneNumberLength]

/-- What is read as a phone number is judged by its length. -/
theorem phoneNumber_of_span {t span : Text} (hne : t ≠ []) (hspan : (phoneNumber t).span = span) :
    phoneNumber t = ⟨span, if span.length = phoneNumberLength then .accepted .phoneNumber span
      else .rejected span⟩ := by
  subst hspan
  cases t with
  | nil => exact absurd rfl hne
  | cons x later => rfl

/-- Where a phone number opens, its span has from 5 to 15 characters. -/
theorem bounds_of_phonePrefix {t : Text} (h : phonePrefix <+: t) :
    phonePrefix <+: (phoneNumber t).span ∧
      5 ≤ (phoneNumber t).span.length ∧ (phoneNumber t).span.length ≤ 15 := by
  obtain ⟨later, rfl⟩ := h
  have hlimit := length_bounded_le later 10 (· != ' ')
  have hprefix : phonePrefix.length = 5 := rfl
  rw [span_phoneNumber_append, List.length_append, hprefix]
  exact ⟨List.prefix_append _ _, by omega, by omega⟩

end Reading

namespace Cursor

variable {rules : List Rule} {c : Cursor} {error : ScanError}

/-- **Where a scan stops a cursor**: the cursor was not stopped, the first rule that opens is the
one for phone numbers, and the error is about a rejected number that begins there. -/
structure HaltsWith (rules : List Rule) (c : Cursor) (error : ScanError) : Prop where
  running : c.halted = none
  rule : rules.find? (fun rule => rule.opens c.rest) = some .phoneNumber
  position : error.position = c.position
  rejects : c.source.Rejects error

/-- A number that a rule rejects where it opens is a rejected number of the text. -/
theorem rejects_of_apply_error {rule : Rule} (hopens : rule.opens c.rest = true)
    (h : (rule.apply c).answer = .error error) : c.source.Rejects error := by
  obtain ⟨rfl, hprefix⟩ := Rule.phonePrefix_of_apply_error hopens h
  obtain ⟨-, hlength, rfl⟩ := Rule.error_of_apply_error (Rule.ne_nil_of_opens hopens) h
  obtain ⟨hnumber, hmin, hmax⟩ := Reading.bounds_of_phonePrefix hprefix
  have hspan := extract_of_prefix (Rule.phoneNumber.span_prefix_self c.rest)
  exact ⟨_, rfl, hnumber, hspan.symm, hmin, hmax, hlength⟩

/-- **A scan keeps the stored error, or stops the cursor** and answers with the error it stores. -/
theorem halted_scan (rules : List Rule) (c : Cursor) :
    (c.scan rules).cursor.halted = c.halted ∨
      ∃ error, c.HaltsWith rules error ∧ (c.scan rules).cursor.halted = some error ∧
        (c.scan rules).answer = .failed error := by
  have hscans := scans_scan rules c
  generalize (c.scan rules).answer = answer at hscans ⊢
  generalize (c.scan rules).cursor = next at hscans ⊢
  cases hscans with
  | halted _ | stalled _ _ _ | finished _ _ => exact Or.inl rfl
  | read _ _ _ =>
      rw [Rule.cursor_apply]
      exact Or.inl rfl
  | @rejected rule error hhalted hfind hanswer =>
      have hopens := List.find?_some hfind
      have hrejects := rejects_of_apply_error hopens hanswer
      obtain ⟨rfl, -⟩ := Rule.phonePrefix_of_apply_error hopens hanswer
      obtain ⟨number, -, rfl⟩ := Rule.verdict_of_apply_error hanswer
      exact Or.inr ⟨_, ⟨hhalted, hfind, rfl, hrejects⟩, rfl, rfl⟩

/-- The cursor stores no error, or one about a rejected number of its text. -/
def StoresRejected (c : Cursor) : Prop :=
  ∀ error, c.halted = some error → c.source.Rejects error

theorem StoresRejected.scan (h : c.StoresRejected) : (c.scan rules).cursor.StoresRejected := by
  intro error herror
  rw [source_scan]
  rcases halted_scan rules c with hkept | ⟨stored, hhalts, hstored, -⟩
  · exact h error (hkept ▸ herror)
  · obtain rfl := Option.some.inj (hstored.symm.trans herror)
    exact hhalts.rejects

end Cursor

/-- The commands that scan with the given rules. -/
def Command.ScansWith (rules : List Rule) (command : Command) : Prop :=
  command = .scan rules ∨ command = .scanToken rules ∨ command = .drain rules

namespace Session

/-- **What a command does to the cursors of a session.** -/
inductive Alters (session : Session) : Command → List Cursor → Prop
  /-- It leaves them as they are. -/
  | nothing {command : Command} : Alters session command session.cursors
  /-- It adds a new cursor. -/
  | opened (t : Text) : Alters session (.openText t) (session.cursors ++ [Cursor.ofText t])
  /-- It adds a copy of the cursor in use. -/
  | copied : Alters session .duplicate (session.cursors ++ [session.current])
  /-- It moves the cursor in use. -/
  | moved {command : Command} (c : Cursor) (hsource : c.source = session.current.source)
      (hhalted : c.halted = session.current.halted) :
      Alters session command (session.cursors.set session.active c)
  /-- It scans with the cursor in use: once, or over and over if it drains. -/
  | scanned {command : Command} {rules : List Rule} {tokens : List Token} {boundary : Cursor}
      (hcommand : command.ScansWith rules) (hreads : session.current.Reads rules tokens boundary)
      (honce : command = .drain rules ∨ tokens = []) :
      Alters session command (session.cursors.set session.active (boundary.scan rules).cursor)

variable {session next : Session} {command : Command} {reply : Reply} {k : Nat}
  {error : ScanError}

/-- Every command alters the cursors in one of these ways. -/
theorem alters_of_perform (h : session.perform command = .ok (reply, next)) :
    session.Alters command next.cursors := by
  cases command with
  | openText t =>
      obtain ⟨-, rfl⟩ := Prod.mk.inj (Except.ok.inj h)
      exact .opened t
  | duplicate =>
      obtain ⟨-, rfl⟩ := Prod.mk.inj (Except.ok.inj h)
      exact .copied
  | select number =>
      simp only [perform] at h
      split at h
      · obtain ⟨-, rfl⟩ := Prod.mk.inj (Except.ok.inj h)
        exact .nothing
      · cases h
  | next | take n =>
      obtain ⟨-, rfl⟩ := Prod.mk.inj (Except.ok.inj h)
      exact .moved _ rfl rfl
  | moveTo number =>
      obtain ⟨p, -, hdone⟩ := bind_eq_ok h
      obtain ⟨-, rfl⟩ := Prod.mk.inj (Except.ok.inj hdone)
      exact .moved _ rfl rfl
  | sameMark left right =>
      obtain ⟨p, -, hlater⟩ := bind_eq_ok h
      obtain ⟨q, -, hdone⟩ := bind_eq_ok hlater
      obtain ⟨-, rfl⟩ := Prod.mk.inj (Except.ok.inj hdone)
      exact .nothing
  | head | lookahead n | position | mark | opens rule | openRules =>
      obtain ⟨-, rfl⟩ := Prod.mk.inj (Except.ok.inj h)
      exact .nothing
  | apply rule =>
      -- A rule that is let read by itself moves the cursor and never stops it.
      obtain ⟨-, rfl⟩ := Prod.mk.inj (Except.ok.inj h)
      refine .moved _ ?_ ?_
      · rw [Rule.cursor_apply, Cursor.source_advance]
      · rw [Rule.cursor_apply, Cursor.halted_advance]
  | scan rules =>
      obtain ⟨-, rfl⟩ := Prod.mk.inj (Except.ok.inj h)
      exact .scanned (Or.inl rfl) (Cursor.Reads.nil _) (Or.inr rfl)
  | scanToken rules =>
      obtain ⟨-, rfl⟩ := Prod.mk.inj (Except.ok.inj h)
      show session.Alters _
        (session.cursors.set session.active (session.current.scan? rules).cursor)
      rw [Cursor.scan?_cursor]
      exact .scanned (Or.inr (Or.inl rfl)) (Cursor.Reads.nil _) (Or.inr rfl)
  | drain rules =>
      obtain ⟨-, rfl⟩ := Prod.mk.inj (Except.ok.inj h)
      obtain ⟨boundary, hreads, -, hcursor⟩ := Cursor.exists_reads_drain rules session.current
      show session.Alters _
        (session.cursors.set session.active (session.current.drain rules).cursor)
      rw [hcursor]
      exact .scanned (Or.inr (Or.inr rfl)) hreads (Or.inl rfl)

/-- The error that the cursor of a number stores, if there is such a cursor and it was stopped. -/
def haltedAt (session : Session) (k : Nat) : Option ScanError :=
  session.cursors[k]?.bind Cursor.halted

theorem haltedAt_active (session : Session) :
    session.haltedAt session.active = session.current.halted := by
  rw [haltedAt, List.getElem?_eq_getElem session.active_lt]
  rfl

/-- A cursor that is replaced stores what the new one stores; the others keep what they store. -/
theorem haltedAt_of_set {c : Cursor} (h : next.cursors = session.cursors.set session.active c) :
    next.haltedAt k = if k = session.active then c.halted else session.haltedAt k := by
  rw [haltedAt, h, List.getElem?_set]
  split
  · next heq =>
      rw [if_pos heq.symm, if_pos session.active_lt]
      rfl
  · next hne =>
      rw [if_neg (Ne.symm hne)]
      rfl

theorem haltedAt_of_append {c : Cursor} (h : next.cursors = session.cursors ++ [c]) :
    next.haltedAt k = if k = session.cursors.length then c.halted else session.haltedAt k := by
  rw [haltedAt, h]
  split
  · next heq =>
      rw [heq, List.getElem?_append_right (Nat.le_refl _), Nat.sub_self]
      rfl
  · next hne =>
      by_cases hlt : k < session.cursors.length
      · rw [List.getElem?_append_left hlt]
        rfl
      · rw [List.getElem?_eq_none (by simp; omega), haltedAt, List.getElem?_eq_none (by omega)]

/-- **What a command does to stored errors.**  A cursor stores the same as before; or it is a copy
of the one in use; or it is the one in use, and the command scans with it and stops it. -/
theorem haltedAt_perform (h : session.perform command = .ok (reply, next)) (k : Nat) :
    next.haltedAt k = session.haltedAt k ∨
      session.haltedAt k = none ∧
        (command = .duplicate ∧ k = session.cursors.length ∧
            next.haltedAt k = session.current.halted ∨
          k = session.active ∧ ∃ rules tokens boundary error, command.ScansWith rules ∧
            session.current.Reads rules tokens boundary ∧
            (command = .drain rules ∨ tokens = []) ∧ boundary.HaltsWith rules error ∧
            next.haltedAt k = some error) := by
  have hnone : session.haltedAt session.cursors.length = none := by
    rw [haltedAt, List.getElem?_eq_none (Nat.le_refl _)]
    rfl
  have halters := alters_of_perform h
  generalize hcursors : next.cursors = cursors at halters
  cases halters with
  | nothing =>
      left
      rw [haltedAt, haltedAt, hcursors]
  | opened t =>
      left
      rw [haltedAt_of_append hcursors]
      split
      · next heq =>
          rw [heq, hnone]
          rfl
      · rfl
  | copied =>
      rw [haltedAt_of_append hcursors]
      split
      · next heq =>
          rw [heq]
          exact Or.inr ⟨hnone, Or.inl ⟨rfl, rfl, rfl⟩⟩
      · exact Or.inl rfl
  | moved c _ hhalted =>
      left
      rw [haltedAt_of_set hcursors]
      split
      · next heq => rw [heq, hhalted, haltedAt_active]
      · rfl
  | @scanned _ rules tokens boundary hcommand hreads honce =>
      rw [haltedAt_of_set hcursors]
      split
      · next heq =>
          rw [heq, haltedAt_active]
          rcases Cursor.halted_scan rules boundary with hkept | ⟨error, hhalts, hstored, -⟩
          · exact Or.inl (hkept.trans hreads.halted_eq)
          · refine Or.inr ⟨hreads.halted_eq.symm.trans hhalts.running, Or.inr ⟨rfl, ?_⟩⟩
            exact ⟨rules, tokens, boundary, error, hcommand, hreads, honce, hhalts, hstored⟩
      · exact Or.inl rfl

/-- A command never clears or replaces a stored error. -/
theorem haltedAt_perform_of_some (h : session.perform command = .ok (reply, next))
    (hk : session.haltedAt k = some error) : next.haltedAt k = some error := by
  rcases haltedAt_perform h k with hsame | ⟨hnone, -⟩
  · rw [hsame, hk]
  · rw [hk] at hnone
    cases hnone

/-- Every command keeps that cursors store errors about rejected numbers of their texts only. -/
theorem storesRejected_perform (h : session.perform command = .ok (reply, next))
    (hstored : ∀ c ∈ session.cursors, c.StoresRejected) : ∀ c ∈ next.cursors, c.StoresRejected := by
  have hcurrent : session.current.StoresRejected := hstored _ (List.get_mem _ _)
  have hset : ∀ c : Cursor, c.StoresRejected →
      ∀ d ∈ session.cursors.set session.active c, d.StoresRejected := by
    intro c hc d hd
    rcases List.mem_or_eq_of_mem_set hd with hold | rfl
    · exact hstored d hold
    · exact hc
  have hadd : ∀ c : Cursor, c.StoresRejected →
      ∀ d ∈ session.cursors ++ [c], d.StoresRejected := by
    intro c hc d hd
    rcases List.mem_append.1 hd with hold | hnew
    · exact hstored d hold
    · rw [List.mem_singleton.1 hnew]
      exact hc
  have halters := alters_of_perform h
  generalize next.cursors = cursors at halters ⊢
  cases halters with
  | nothing => exact hstored
  | opened t => exact hadd _ nofun
  | copied => exact hadd _ hcurrent
  | moved c hsource hhalted =>
      refine hset c fun error herror => ?_
      rw [hsource]
      exact hcurrent error (hhalted ▸ herror)
  | @scanned _ rules tokens boundary _ hreads _ =>
      refine hset _ (Cursor.StoresRejected.scan fun error herror => ?_)
      rw [hreads.source_eq]
      exact hcurrent error (hreads.halted_eq ▸ herror)

/-- A stopped cursor in use answers every scan with the error it stores, and stays as it is. -/
theorem perform_of_halted (h : session.current.halted = some error) (rules : List Rule) :
    session.perform (.scan rules) = .ok (.outcome (.failed error), session) ∧
      session.perform (.scanToken rules) = .ok (.token none, session) ∧
      session.perform (.drain rules) = .ok (.tokens [], session) := by
  have hsettled : session.current.Settled rules := Cursor.settled_of_halted h
  refine ⟨?_, perform_of_settled hsettled (Or.inr (Or.inl rfl)),
    perform_of_settled hsettled (Or.inr (Or.inr rfl))⟩
  rw [perform_of_settled hsettled (Or.inl rfl), Cursor.settledReply, Cursor.scan_of_halted h]

/-- **Halting is permanent, and only phone numbers cause it.**  In a session that any commands lead
to, every error that a cursor stores is about a rejected number of its text.  Once a cursor stores
an error, it stores it wherever later commands lead; when it is in use, every scan answers with the
error, every scan for tokens with none, and all of that leaves the session as it is; a copy of it
stores the error, too.  And a command after which a cursor stores an error either finds it there, or
copies a cursor that stores it, or scans with the cursor in use up to a place where the first rule
that opens is the one for phone numbers and rejects. -/
theorem halting_is_permanent {s : Text} {earlier : List Command}
    (hreach : (ofText s).Reaches earlier session) :
    (∀ c ∈ session.cursors, ∀ error, c.halted = some error → c.source.Rejects error) ∧
    (∀ k error, session.haltedAt k = some error →
      ∀ later last, session.Reaches later last →
        last.haltedAt k = some error ∧
        (last.active = k →
          (∀ rules,
            last.perform (.scan rules) = .ok (.outcome (.failed error), last) ∧
            last.perform (.scanToken rules) = .ok (.token none, last) ∧
            last.perform (.drain rules) = .ok (.tokens [], last)) ∧
          ∃ copied, last.perform .duplicate = .ok (.number last.cursors.length, copied) ∧
            copied.haltedAt last.cursors.length = some error)) ∧
    (∀ command reply next, session.perform command = .ok (reply, next) →
      ∀ k error, next.haltedAt k = some error →
        session.haltedAt k = some error ∨
        (command = .duplicate ∧ k = session.cursors.length ∧
          session.current.halted = some error) ∨
        (k = session.active ∧ session.haltedAt k = none ∧
          ∃ rules tokens boundary, command.ScansWith rules ∧
            session.current.Reads rules tokens boundary ∧
            (command = .drain rules ∨ tokens = []) ∧ boundary.HaltsWith rules error)) := by
  refine ⟨?_, fun k error hk later last hlater => ?_, fun command reply next h k error hk => ?_⟩
  · refine hreach.keeps (fun session => ∀ c ∈ session.cursors, c.StoresRejected)
      (fun _ _ _ _ hstored h => storesRejected_perform h hstored) fun c hc => ?_
    rw [List.mem_singleton.1 hc]
    exact nofun
  · have hlast : last.haltedAt k = some error :=
      hlater.keeps (fun session => session.haltedAt k = some error)
        (fun _ _ _ _ hk h => haltedAt_perform_of_some h hk) hk
    refine ⟨hlast, ?_⟩
    rintro rfl
    rw [haltedAt_active] at hlast
    refine ⟨perform_of_halted hlast, _, rfl, ?_⟩
    rw [haltedAt_of_append rfl, if_pos rfl]
    exact hlast
  · rcases haltedAt_perform h k with hsame | ⟨hnone, ⟨hcommand, hnew, hcopy⟩ | ⟨hactive, hscan⟩⟩
    · exact Or.inl (hsame ▸ hk)
    · exact Or.inr (Or.inl ⟨hcommand, hnew, hcopy ▸ hk⟩)
    · obtain ⟨rules, tokens, boundary, stored, hcommand, hreads, honce, hhalts, hstored⟩ := hscan
      obtain rfl := Option.some.inj (hstored.symm.trans hk)
      exact Or.inr (Or.inr ⟨hactive, hnone, rules, tokens, boundary, hcommand, hreads, honce,
        hhalts⟩)

/-- A number is rejected twice: by the rule alone, which stops nothing, and by a scan.  Going back
to a mark that was set in another text does not set the cursor going again. -/
theorem halting_is_permanent_after_return :
    let s : Text := "7 +9665 ".toList
    let error : ScanError := ⟨.phoneLength "+9665".toList 5, ⟨2, 1⟩⟩
    let commands := [.take 2, .apply .phoneNumber, .openText "\n\n\n".toList, .take 3, .mark,
      .select 0, .openText s, .drain Rule.standard, .moveTo 0, .duplicate]
    ∃ session, (ofText s).Reaches commands session ∧
      session.haltedAt 0 = none ∧ session.haltedAt 2 = some error ∧
      session.haltedAt 3 = some error ∧ s.Rejects error ∧
      ∀ later last, session.Reaches later last →
        last.haltedAt 2 = some error ∧ last.haltedAt 3 = some error := by
  intro s error commands
  have hlead : ∃ session, (ofText s).Reaches commands session ∧ session.haltedAt 0 = none ∧
      session.haltedAt 2 = some error ∧ session.haltedAt 3 = some error ∧
      session.current.halted = some error ∧ session.current.source = s := by
    refine ⟨_, ⟨_, rfl, rfl⟩, ?_⟩
    decide +kernel
  obtain ⟨session, hreach, hfirst, hscanned, hcopied, hcurrent, hsource⟩ := hlead
  obtain ⟨hstored, hpermanent, -⟩ := halting_is_permanent hreach
  refine ⟨session, hreach, hfirst, hscanned, hcopied, ?_, fun later last hlater => ⟨?_, ?_⟩⟩
  · rw [← hsource]
    exact hstored _ (List.get_mem _ _) error hcurrent
  · exact (hpermanent 2 error hscanned later last hlater).1
  · exact (hpermanent 3 error hcopied later last hlater).1

end Session
end SpanLexer
