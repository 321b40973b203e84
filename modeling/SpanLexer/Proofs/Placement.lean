import SpanLexer.Proofs.Run
import SpanLexer.Proofs.Trace

/-!
# Positions stay in the text

Whatever is done in a session over one text, in whatever order, every position is a place in that
text: its index is not beyond the end, and its line counts the line feeds before the index in 32
bits.

* `Position.InText` — a place in a text; `Position.InText.after` moves on in it, and
  `Position.InText.toNat_line` says which number its line has.
* `Cursor.Placed`, `Session.Placed` — all positions of a cursor, or of a session, are such places.
* `Cursor.Placed.scan`, `Cursor.Placed.drain` — scanning keeps that and hands out such places.
* `Session.Placed.perform` — so does every command.
* `Session.trace_keeps_places` — so does every session over one text.
-/

namespace SpanLexer

/-- **A place in a text.**  The index may be that of the end; the line is 1 and one more for every
line feed before the index, counted in 32 bits. -/
def Position.InText (s : Text) (p : Position) : Prop :=
  p.index ≤ s.length ∧ p.line = 1 + UInt32.ofNat ((s.take p.index).count '\n')

/-- The positions that the outcome of a scan hands out. -/
def Outcome.positions : Outcome → List Position
  | .token read => [read.position]
  | .finished => []
  | .failed error => [error.position]

/-- The positions that a reply hands out. -/
def Reply.positions : Reply → List Position
  | .position p => [p]
  | .outcome scanned => scanned.positions
  | .token read => read.toList.map Token.position
  | .tokens drained => drained.map Token.position
  | .done | .number _ | .text _ | .truth _ | .rules _ => []

/-- A cursor over the text `s` whose position, and that of the error that stopped it, are places in
the text. -/
structure Cursor.Placed (s : Text) (c : Cursor) : Prop where
  source_eq : c.source = s
  position : c.position.InText s
  halted : ∀ error, c.halted = some error → error.position.InText s

/-- A session over the text `s`: all its cursors are, and its marks are places in the text. -/
structure Session.Placed (s : Text) (session : Session) : Prop where
  cursors : ∀ c ∈ session.cursors, c.Placed s
  marks : ∀ p ∈ session.marks, p.InText s

variable {s : Text}

namespace Position.InText

variable {p : Position}

theorem start (s : Text) : Position.start.InText s :=
  ⟨Nat.zero_le _, rfl⟩

/-- Passing what comes next in the text leads to a place in the text. -/
theorem after (h : p.InText s) {span : Text} (hspan : span <+: s.drop p.index) :
    (p.after span).InText s := by
  obtain ⟨hindex, hline⟩ := h
  -- Up to the new index the text is what came before the old one, and the span.
  have hwhole : s.take p.index ++ span <+: s := by
    obtain ⟨later, hlater⟩ := hspan
    exact ⟨later, by rw [List.append_assoc, hlater, List.take_append_drop]⟩
  have hlength : (s.take p.index ++ span).length = p.index + span.length := by
    rw [List.length_append, List.length_take_of_le hindex]
  refine ⟨?_, ?_⟩
  · have hle := hwhole.length_le
    rw [hlength] at hle
    exact hle
  · have htake := List.prefix_iff_eq_take.1 hwhole
    rw [hlength] at htake
    rw [Position.line_after, Position.index_after, ← htake, List.count_append, hline,
      UInt32.ofNat_add, UInt32.add_assoc]

/-- If the text has fewer than `UInt32.size - 1` line feeds, 32 bits hold its lines. -/
theorem toNat_line (h : p.InText s) (hfew : s.count '\n' < UInt32.size - 1) :
    p.line.toNat = 1 + (s.take p.index).count '\n' := by
  rw [h.2]
  refine Position.toNat_add_ofNat ?_
  have hcount := (List.take_sublist p.index s).count_le '\n'
  have hfirst : (1 : UInt32).toNat = 1 := rfl
  have hsize : UInt32.size = 4294967296 := rfl
  omega

end Position.InText

namespace Cursor

variable {c : Cursor}

namespace Placed

theorem ofText (s : Text) : (Cursor.ofText s).Placed s :=
  ⟨rfl, Position.InText.start s, fun _ h => by cases h⟩

theorem advance (h : c.Placed s) (n : Nat) : (c.advance n).Placed s where
  source_eq := h.source_eq
  position := by
    refine h.position.after ?_
    rw [← h.source_eq, ← c.rest_eq]
    exact List.take_prefix n c.rest
  halted := h.halted

theorem moveTo (h : c.Placed s) {p : Position} (hp : p.InText s) : (c.moveTo p).Placed s :=
  ⟨h.source_eq, hp, h.halted⟩

theorem halt (h : c.Placed s) {error : ScanError} (herror : error.position.InText s) :
    (c.halt error).Placed s := by
  refine ⟨h.source_eq, h.position, fun stored hstored => ?_⟩
  obtain rfl := Option.some.inj hstored
  exact herror

/-- A rule may be applied anywhere: what it answers stands where it began. -/
theorem apply (h : c.Placed s) (rule : Rule) :
    (rule.apply c).cursor.Placed s ∧
      ∀ p ∈ (Outcome.ofResult (rule.apply c).answer).positions, p.InText s := by
  refine ⟨?_, ?_⟩
  · rw [Rule.cursor_apply]
    exact h.advance _
  · cases hanswer : (rule.apply c).answer with
    | ok token =>
        have hposition := (Rule.verdict_of_apply_ok hanswer).1
        exact List.forall_mem_singleton.2 (hposition ▸ h.position)
    | error error =>
        obtain ⟨number, -, rfl⟩ := Rule.verdict_of_apply_error hanswer
        exact List.forall_mem_singleton.2 h.position

theorem scan (h : c.Placed s) (rules : List Rule) :
    (c.scan rules).cursor.Placed s ∧ ∀ p ∈ (c.scan rules).answer.positions, p.InText s := by
  have hscans := scans_scan rules c
  generalize (c.scan rules).answer = answer at hscans ⊢
  generalize (c.scan rules).cursor = next at hscans ⊢
  cases hscans with
  | halted hhalted =>
      exact ⟨h, List.forall_mem_singleton.2 (h.halted _ hhalted)⟩
  | @read rule token _ _ hanswer =>
      have happly := h.apply rule
      rw [hanswer] at happly
      exact happly
  | @rejected rule error _ _ hanswer =>
      -- The error that is stored is the one that is answered.
      have happly := h.apply rule
      rw [hanswer] at happly
      exact ⟨happly.1.halt (List.forall_mem_singleton.1 happly.2), happly.2⟩
  | stalled _ _ _ => exact ⟨h, List.forall_mem_singleton.2 h.position⟩
  | finished _ _ => exact ⟨h, fun p hp => by cases hp⟩

theorem scan? (h : c.Placed s) (rules : List Rule) :
    (c.scan? rules).cursor.Placed s ∧
      ∀ p ∈ (Reply.token (c.scan? rules).answer).positions, p.InText s := by
  obtain ⟨hcursor, hpositions⟩ := h.scan rules
  refine ⟨by rwa [scan?_cursor], ?_⟩
  cases hanswer : (c.scan? rules).answer with
  | none => exact fun p hp => by cases hp
  | some token =>
      rw [scan?_answer_eq_some_iff.1 hanswer] at hpositions
      exact hpositions

/-- A run keeps places, and all its tokens stand at places. -/
theorem reads {rules : List Rule} {tokens : List Token} {last : Cursor} (h : c.Placed s)
    (hreads : c.Reads rules tokens last) :
    last.Placed s ∧ ∀ token ∈ tokens, token.position.InText s := by
  induction hreads with
  | nil c => exact ⟨h, fun token htoken => by cases htoken⟩
  | cons hscan _ ih =>
      obtain ⟨hcursor, hpositions⟩ := h.scan rules
      rw [hscan] at hpositions
      obtain ⟨hlast, hlater⟩ := ih hcursor
      refine ⟨hlast, fun token htoken => ?_⟩
      rcases List.mem_cons.1 htoken with rfl | hmem
      · exact List.forall_mem_singleton.1 hpositions
      · exact hlater token hmem

theorem drain (h : c.Placed s) (rules : List Rule) :
    (c.drain rules).cursor.Placed s ∧
      ∀ p ∈ (Reply.tokens (c.drain rules).answer).positions, p.InText s := by
  obtain ⟨last, hreads, -, hcursor⟩ := exists_reads_drain rules c
  obtain ⟨hlast, htokens⟩ := h.reads hreads
  exact ⟨hcursor ▸ (hlast.scan rules).1, List.forall_mem_map.2 htokens⟩

end Placed
end Cursor

namespace Session

namespace Placed

variable {session : Session} {c : Cursor}

theorem ofText (s : Text) : (Session.ofText s).Placed s where
  cursors := fun c hc => by
    rw [List.mem_singleton.1 hc]
    exact Cursor.Placed.ofText s
  marks := fun p hp => by cases hp

theorem current (h : session.Placed s) : session.current.Placed s :=
  h.cursors _ (List.get_mem _ _)

theorem update (h : session.Placed s) (hc : c.Placed s) : (session.update c).Placed s where
  cursors := fun d hd => by
    rcases List.mem_or_eq_of_mem_set hd with hold | rfl
    · exact h.cursors d hold
    · exact hc
  marks := h.marks

theorem add (h : session.Placed s) (hc : c.Placed s) : (session.add c).Placed s where
  cursors := fun d hd => by
    rcases List.mem_append.1 hd with hold | hnew
    · exact h.cursors d hold
    · rw [List.mem_singleton.1 hnew]
      exact hc
  marks := h.marks

theorem addMark (h : session.Placed s) {p : Position} (hp : p.InText s) :
    (session.addMark p).Placed s where
  cursors := h.cursors
  marks := fun q hq => by
    rcases List.mem_append.1 hq with hold | hnew
    · exact h.marks q hold
    · rw [List.mem_singleton.1 hnew]
      exact hp

theorem findMark (h : session.Placed s) {number : Nat} {p : Position}
    (hfind : session.findMark number = .ok p) : p.InText s := by
  unfold Session.findMark at hfind
  split at hfind
  · next q hmark =>
      obtain rfl := Except.ok.inj hfind
      exact h.marks q (List.mem_of_getElem? hmark)
  · cases hfind

/-- **Every command keeps places**, and its reply hands out places only. -/
theorem perform {command : Command} {reply : Reply} {next : Session} (h : session.Placed s)
    (hopen : ∀ t, command = .openText t → t = s)
    (hperform : session.perform command = .ok (reply, next)) :
    next.Placed s ∧ ∀ p ∈ reply.positions, p.InText s := by
  have hcurrent := h.current
  cases command with
  | openText t =>
      obtain rfl := hopen t rfl
      obtain ⟨rfl, rfl⟩ := Prod.mk.inj (Except.ok.inj hperform)
      exact ⟨h.add (Cursor.Placed.ofText t), List.forall_mem_nil _⟩
  | duplicate =>
      obtain ⟨rfl, rfl⟩ := Prod.mk.inj (Except.ok.inj hperform)
      exact ⟨h.add hcurrent, List.forall_mem_nil _⟩
  | select number =>
      simp only [Session.perform] at hperform
      split at hperform
      · obtain ⟨rfl, rfl⟩ := Prod.mk.inj (Except.ok.inj hperform)
        exact ⟨⟨h.cursors, h.marks⟩, List.forall_mem_nil _⟩
      · cases hperform
  | next | take n =>
      obtain ⟨rfl, rfl⟩ := Prod.mk.inj (Except.ok.inj hperform)
      exact ⟨h.update (hcurrent.advance _), List.forall_mem_nil _⟩
  | position =>
      obtain ⟨rfl, rfl⟩ := Prod.mk.inj (Except.ok.inj hperform)
      exact ⟨h, List.forall_mem_singleton.2 hcurrent.position⟩
  | mark =>
      obtain ⟨rfl, rfl⟩ := Prod.mk.inj (Except.ok.inj hperform)
      exact ⟨h.addMark hcurrent.position, List.forall_mem_nil _⟩
  | moveTo number =>
      -- A mark that was set over the same text is a place in it, whichever cursor set it.
      obtain ⟨p, hfind, hdone⟩ := bind_eq_ok hperform
      obtain ⟨rfl, rfl⟩ := Prod.mk.inj (Except.ok.inj hdone)
      exact ⟨h.update (hcurrent.moveTo (h.findMark hfind)), List.forall_mem_nil _⟩
  | sameMark left right =>
      obtain ⟨p, -, hlater⟩ := bind_eq_ok hperform
      obtain ⟨q, -, hdone⟩ := bind_eq_ok hlater
      obtain ⟨rfl, rfl⟩ := Prod.mk.inj (Except.ok.inj hdone)
      exact ⟨h, List.forall_mem_nil _⟩
  | head | lookahead n | opens rule | openRules =>
      obtain ⟨rfl, rfl⟩ := Prod.mk.inj (Except.ok.inj hperform)
      exact ⟨h, List.forall_mem_nil _⟩
  | apply rule =>
      obtain ⟨rfl, rfl⟩ := Prod.mk.inj (Except.ok.inj hperform)
      obtain ⟨hcursor, hpositions⟩ := hcurrent.apply rule
      exact ⟨h.update hcursor, hpositions⟩
  | scan rules =>
      obtain ⟨rfl, rfl⟩ := Prod.mk.inj (Except.ok.inj hperform)
      obtain ⟨hcursor, hpositions⟩ := hcurrent.scan rules
      exact ⟨h.update hcursor, hpositions⟩
  | scanToken rules =>
      obtain ⟨rfl, rfl⟩ := Prod.mk.inj (Except.ok.inj hperform)
      obtain ⟨hcursor, hpositions⟩ := hcurrent.scan? rules
      exact ⟨h.update hcursor, hpositions⟩
  | drain rules =>
      obtain ⟨rfl, rfl⟩ := Prod.mk.inj (Except.ok.inj hperform)
      obtain ⟨hcursor, hpositions⟩ := hcurrent.drain rules
      exact ⟨h.update hcursor, hpositions⟩

end Placed

/-- **Positions stay in the text.**  In a session over one text, whatever its commands are and in
whatever order they come, every cursor stands at a place in the text after each of them, with the
line that belongs to its index; so do the marks, the errors that stopped cursors, and all positions
that replies hand out.  If the text has fewer than `UInt32.size - 1` line feeds, that line is one more
than the number of the line feeds before the index. -/
theorem trace_keeps_places {s : Text} {commands : List Command}
    {replies : List (Reply × Session)} (hopen : ∀ t, Command.openText t ∈ commands → t = s)
    (htrace : (Session.ofText s).trace commands = .ok replies) :
    ∀ entry ∈ replies,
      (∀ c ∈ entry.2.cursors,
        c.source = s ∧
        c.position.index ≤ s.length ∧
        c.lastIndex = (c.position.index : Int) - 1 ∧
        c.position.line = 1 + UInt32.ofNat ((s.take c.position.index).count '\n') ∧
        ∀ error, c.halted = some error → error.position.InText s) ∧
      (∀ p ∈ entry.2.marks, p.InText s) ∧
      (∀ p ∈ entry.1.positions, p.InText s) ∧
      (s.count '\n' < UInt32.size - 1 →
        (∀ c ∈ entry.2.cursors,
          c.position.line.toNat = 1 + (s.take c.position.index).count '\n' ∧
          ∀ error, c.halted = some error →
            error.position.line.toNat = 1 + (s.take error.position.index).count '\n') ∧
        (∀ p ∈ entry.2.marks, p.line.toNat = 1 + (s.take p.index).count '\n') ∧
        ∀ p ∈ entry.1.positions, p.line.toNat = 1 + (s.take p.index).count '\n') := by
  have hkept := forall_mem_trace (Session.Placed s) (fun reply => ∀ p ∈ reply.positions, p.InText s)
    (fun session command reply next hmem hplaced hperform =>
      hplaced.perform (fun t ht => hopen t (ht ▸ hmem)) hperform)
    (Session.Placed.ofText s) htrace
  intro entry hentry
  obtain ⟨hplaced, hpositions⟩ := hkept entry hentry
  refine ⟨fun c hc => ?_, hplaced.marks, hpositions, fun hfew => ⟨fun c hc => ⟨?_, ?_⟩, ?_, ?_⟩⟩
  · have hcursor := hplaced.cursors c hc
    exact ⟨hcursor.source_eq, hcursor.position.1, rfl, hcursor.position.2, hcursor.halted⟩
  · exact (hplaced.cursors c hc).position.toNat_line hfew
  · exact fun error herror => ((hplaced.cursors c hc).halted error herror).toNat_line hfew
  · exact fun p hp => (hplaced.marks p hp).toNat_line hfew
  · exact fun p hp => (hpositions p hp).toNat_line hfew

/-- A session that reads on, goes back to a mark, copies its cursor and scans on to the end. -/
theorem trace_keeps_places_after_return :
    let s := "a\n\"b\n+9665".toList
    let commands := [.next, .mark, .apply .string, .next, .moveTo 0, .duplicate,
      .drain Rule.standard, .openText s, .moveTo 0, .scan [.comment], .position]
    (∀ t, Command.openText t ∈ commands → t = s) ∧
      ∃ replies, (ofText s).trace commands = .ok replies ∧
        ∀ entry ∈ replies, ∀ c ∈ entry.2.cursors,
          c.position.index ≤ s.length ∧
            c.position.line.toNat = 1 + (s.take c.position.index).count '\n' := by
  intro s commands
  have hopen : ∀ t, Command.openText t ∈ commands → t = s := by simp [commands]
  refine ⟨hopen, _, rfl, fun entry hentry c hc => ?_⟩
  obtain ⟨hcursors, -, -, hexact⟩ := trace_keeps_places hopen rfl entry hentry
  obtain ⟨-, hindex, -⟩ := hcursors c hc
  exact ⟨hindex, ((hexact (by decide)).1 c hc).1⟩

end Session
end SpanLexer
