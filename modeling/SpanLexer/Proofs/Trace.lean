import SpanLexer.Session

/-!
# Traces of sessions

What holds of a trace is shown one command at a time.

* `Session.trace_cons_eq_ok_iff` — a trace is its first command and the trace after it.
* `Session.forall_mem_trace` — what every command keeps and establishes holds all along a trace.
* `Session.Reaches` — commands lead from one session to another; `Session.Reaches.keeps` and
  `Session.Reaches.keeps_of_mem` say that what they keep holds where they lead.
-/

namespace SpanLexer
namespace Session

variable {session : Session} {command : Command} {commands later : List Command}
  {replies : List (Reply × Session)}

/-- What succeeds in two steps succeeds in each. -/
theorem bind_eq_ok {α β : Type} {x : Except SessionFault α} {f : α → Except SessionFault β} {b : β}
    (h : (x >>= f) = .ok b) : ∃ a, x = .ok a ∧ f a = .ok b := by
  cases x with
  | error fault => cases h
  | ok a => exact ⟨a, rfl, h⟩

/-- A trace is its first command and the trace of the session after it. -/
theorem trace_cons_eq_ok_iff :
    session.trace (command :: later) = .ok replies ↔
      ∃ reply next rest, session.perform command = .ok (reply, next) ∧
        next.trace later = .ok rest ∧ replies = (reply, next) :: rest := by
  constructor
  · intro h
    obtain ⟨⟨reply, next⟩, hperform, hlater⟩ := bind_eq_ok h
    obtain ⟨rest, hrest, hdone⟩ := bind_eq_ok hlater
    exact ⟨reply, next, rest, hperform, hrest, (Except.ok.inj hdone).symm⟩
  · rintro ⟨reply, next, rest, hperform, hrest, rfl⟩
    rw [trace, hperform]
    show (next.trace later >>= fun rest => .ok ((reply, next) :: rest)) = _
    rw [hrest]
    rfl

/-- **Induction along a trace.**  If every command of a list leads from a session that satisfies
`inv` to one that does, with a reply that is `good`, then all sessions of the trace satisfy `inv`
and all replies are `good`. -/
theorem forall_mem_trace (inv : Session → Prop) (good : Reply → Prop)
    (hstep : ∀ session command reply next, command ∈ commands → inv session →
      session.perform command = .ok (reply, next) → inv next ∧ good reply)
    (hinv : inv session) (htrace : session.trace commands = .ok replies) :
    ∀ entry ∈ replies, inv entry.2 ∧ good entry.1 := by
  induction commands generalizing session replies with
  | nil =>
      obtain rfl := Except.ok.inj htrace
      simp
  | cons command later ih =>
      obtain ⟨reply, next, rest, hperform, hrest, rfl⟩ := trace_cons_eq_ok_iff.1 htrace
      have hnext := hstep session command reply next List.mem_cons_self hinv hperform
      have hlater := ih (fun session command reply next hmem =>
        hstep session command reply next (List.mem_cons_of_mem _ hmem)) hnext.1 hrest
      intro entry hentry
      rcases List.mem_cons.1 hentry with rfl | hmem
      · exact hnext
      · exact hlater entry hmem

/-- The commands can all be performed, one after the other, and lead from one session to another. -/
def Reaches (session : Session) (commands : List Command) (last : Session) : Prop :=
  ∃ replies, session.trace commands = .ok replies ∧
    (session :: replies.map Prod.snd).getLast? = some last

/-- What each of the commands keeps holds where they lead. -/
theorem Reaches.keeps_of_mem {last : Session} (h : session.Reaches commands last)
    (inv : Session → Prop)
    (hstep : ∀ session command reply next, command ∈ commands → inv session →
      session.perform command = .ok (reply, next) → inv next) (hinv : inv session) : inv last := by
  obtain ⟨replies, htrace, hlast⟩ := h
  have hkept := forall_mem_trace inv (fun _ => True)
    (fun session command reply next hmem hinv hperform =>
      ⟨hstep session command reply next hmem hinv hperform, trivial⟩) hinv htrace
  rcases List.mem_cons.1 (List.mem_of_getLast? hlast) with rfl | hmem
  · exact hinv
  · obtain ⟨entry, hentry, rfl⟩ := List.mem_map.1 hmem
    exact (hkept entry hentry).1

/-- What every command keeps holds wherever commands lead. -/
theorem Reaches.keeps {last : Session} (h : session.Reaches commands last) (inv : Session → Prop)
    (hstep : ∀ session command reply next, inv session →
      session.perform command = .ok (reply, next) → inv next) (hinv : inv session) : inv last :=
  h.keeps_of_mem inv (fun session command reply next _ => hstep session command reply next) hinv

end Session
end SpanLexer
