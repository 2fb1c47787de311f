import Mathlib.Data.List.Basic
import Guarded.Proofs.Script.Cases
import Guarded.Proofs.Script.Invariant

set_option autoImplicit false

/-! # The protocol of the events

The events of a script come from expressions and from blocks at any depth, and yet they follow one
protocol. A zero divisor and an error that no clause takes leave an error on its way, and the next
event, if there is one, is that a block met this error; a block that met an error says at once
whether it has a clause for it.

`Phase` is that protocol as a machine that reads the trace. The invariant is that a run is read to
the end, and that an error is on its way at the end only if the run ended with it. -/

namespace Guarded

/-- Whether an event says what a block does with the error that it met: `handlerFound` or
    `noHandler`. -/
def Event.isDecision : Event → Bool
  | .handlerFound _ => true
  | .noHandler => true
  | _ => false

end Guarded

namespace Guarded.Script

/-! ## Phases -/

/-- What the trace up to some entry says about errors. -/
inductive Phase where
  /-- No error is on its way. -/
  | quiet
  /-- An error was reported and is on its way to the next block. -/
  | pending (error : ArithError)
  /-- A block met an error and has to say whether it handles it. -/
  | announced (error : ArithError)

/-- The phase after one more entry, if the protocol allows the entry. Notes change nothing, but none
    may follow `announced`. -/
def Phase.next? : Phase → Entry Note → Option Phase
  | .quiet, .event (.zeroDivisor op _) => some (.pending (.divisionByZero op))
  | .quiet, .event (.exceptionThrown error) => some (.announced error)
  | .pending expected, .event (.exceptionThrown error) =>
    if error = expected then some (.announced error) else none
  | .announced _, .event (.handlerFound _) => some .quiet
  | .announced error, .event .noHandler => some (.pending error)
  | .quiet, .note _ => some .quiet
  | .pending error, .note _ => some (.pending error)
  | _, _ => none

/-- The phase after more entries, if `next?` allows all of them. -/
def Phase.after? (phase : Phase) (log : List (Entry Note)) : Option Phase :=
  log.foldlM next? phase

namespace Phase

theorem after?_append (phase : Phase) (log more : List (Entry Note)) :
    phase.after? (log ++ more) = (phase.after? log).bind fun phase => phase.after? more :=
  List.foldlM_append

theorem after?_cons (phase : Phase) (entry : Entry Note) (log : List (Entry Note)) :
    phase.after? (entry :: log) = (phase.next? entry).bind fun phase => phase.after? log :=
  List.foldlM_cons

/-- A trace that the protocol allows, at one of its entries: the phases `here` before it and `there`
    after it. -/
theorem after?_split {phase final : Phase} {before after : List (Entry Note)} {entry : Entry Note}
    (h : phase.after? (before ++ entry :: after) = some final) :
    ∃ here there, phase.after? before = some here ∧ here.next? entry = some there ∧
      there.after? after = some final := by
  rw [after?_append] at h
  obtain ⟨here, hb, h⟩ := Option.bind_eq_some_iff.mp h
  rw [after?_cons] at h
  obtain ⟨there, he, ha⟩ := Option.bind_eq_some_iff.mp h
  exact ⟨here, there, hb, he, ha⟩

/-! ## What goes before and what follows -/

/-- An error is `announced` by the entry that was read last. -/
theorem eq_exceptionThrown_of_next? {here : Phase} {entry : Entry Note} {error : ArithError}
    (h : here.next? entry = some (.announced error)) :
    entry = .event (.exceptionThrown error) := by
  unfold next? at h
  split at h <;> simp_all

theorem eq_concat_of_announced {log : List (Entry Note)} {error : ArithError}
    (h : Phase.quiet.after? log = some (.announced error)) :
    ∃ earlier, log = earlier ++ [.event (.exceptionThrown error)] := by
  rcases List.eq_nil_or_concat' log with rfl | ⟨earlier, last, rfl⟩
  · cases h
  · obtain ⟨here, there, _, hlast, hend⟩ := after?_split h
    obtain rfl : there = .announced error := Option.some.inj hend
    exact ⟨earlier, by rw [eq_exceptionThrown_of_next? hlast]⟩

/-- A `zeroDivisor` puts its error on the way. -/
theorem pending_of_zeroDivisor {here there : Phase} {op : ArithOp} {dividend : Int32}
    (h : here.next? (.event (.zeroDivisor op dividend)) = some there) :
    there = .pending (.divisionByZero op) := by
  cases here with
  | quiet => exact (Option.some.inj h).symm
  | pending error => cases h
  | announced error => cases h

/-- An error that a block meets, by `exceptionThrown`, is announced. -/
theorem announced_of_exceptionThrown {here there : Phase} {error : ArithError}
    (h : here.next? (.event (.exceptionThrown error)) = some there) : there = .announced error := by
  cases here with
  | quiet => exact (Option.some.inj h).symm
  | pending expected =>
    simp only [next?, Option.ite_none_right_eq_some] at h
    exact (Option.some.inj h.2).symm
  | announced expected => cases h

/-- An error that a block lets pass, by `noHandler`, was announced, and is on its way again. -/
theorem pending_of_noHandler {here there : Phase}
    (h : here.next? (.event .noHandler) = some there) :
    ∃ error, here = .announced error ∧ there = .pending error := by
  cases here with
  | announced error => exact ⟨error, rfl, (Option.some.inj h).symm⟩
  | quiet => cases h
  | pending error => cases h

/-- Only an `announced` error is decided on. -/
theorem announced_of_isDecision {here there : Phase} {event : Event} (hd : event.isDecision = true)
    (h : here.next? (.event event) = some there) : ∃ error, here = .announced error := by
  cases event with
  | noHandler =>
    obtain ⟨error, rfl, _⟩ := pending_of_noHandler h
    exact ⟨error, rfl⟩
  | handlerFound position =>
    cases here with
    | announced error => exact ⟨error, rfl⟩
    | quiet => cases h
    | pending error => cases h
  | _ => cases hd

/-- An `announced` error is decided on at once. -/
theorem isDecision_of_next? {error : ArithError} {entry : Entry Note} {there : Phase}
    (h : (Phase.announced error).next? entry = some there) :
    ∃ event, entry = .event event ∧ event.isDecision = true := by
  cases entry with
  | note note => cases h
  | event event =>
    refine ⟨event, rfl, ?_⟩
    cases event with
    | handlerFound position => rfl
    | noHandler => rfl
    | _ => cases h

/-- The next event after an error became `pending` is that a block met it. -/
theorem events_of_pending {error : ArithError} {final : Phase} {log : List (Entry Note)}
    (h : (Phase.pending error).after? log = some final) :
    log.filterMap Entry.event? = [] ∧ final = .pending error ∨
      ∃ rest, log.filterMap Entry.event? = .exceptionThrown error :: rest := by
  induction log with
  | nil => exact .inl ⟨rfl, (Option.some.inj h).symm⟩
  | cons entry log ih =>
    rw [after?_cons] at h
    obtain ⟨there, hnext, hrest⟩ := Option.bind_eq_some_iff.mp h
    cases entry with
    | note note =>
      obtain rfl : there = .pending error := (Option.some.inj hnext).symm
      exact ih hrest
    | event event =>
      cases event with
      | exceptionThrown met =>
        simp only [next?, Option.ite_none_right_eq_some] at hnext
        obtain ⟨rfl, _⟩ := hnext
        exact .inr ⟨_, rfl⟩
      | _ => cases hnext

end Phase

/-! ## The invariant -/

/-- An error that is `pending` when a run ends is the one that the run threw. -/
def Settled {α : Type} (result : Except Fault α) : Phase → Prop
  | .quiet => True
  | .pending error => result = .error (.thrown error)
  | .announced _ => False

/-- A run that follows the protocol from `quiet` on, and ends as its last phase says. -/
def Orderly {α : Type} (run : Run Note (Machine Memory) α) : Prop :=
  ∃ final, Phase.quiet.after? run.log = some final ∧ Settled run.result final

namespace Orderly

variable {α β : Type}

theorem of_silent {run : Run Note (Machine Memory) α} (h : run.log = []) : Orderly run :=
  ⟨.quiet, by rw [h]; rfl, trivial⟩

/-- Where a run did not throw, its log leads from `quiet` to `quiet`. -/
theorem quiet {run : Run Note (Machine Memory) α} (h : Orderly run)
    (hr : ∀ error, run.result ≠ .error (.thrown error)) :
    Phase.quiet.after? run.log = some .quiet := by
  obtain ⟨final, hlog, hsettled⟩ := h
  cases final with
  | quiet => exact hlog
  | pending error => exact absurd hsettled (hr error)
  | announced error => exact absurd hsettled not_false

/-- Where a run threw, a block may meet the error. -/
theorem announced {run : Run Note (Machine Memory) α} {error : ArithError} (h : Orderly run)
    (hr : run.result = .error (.thrown error)) :
    Phase.quiet.after? (run.log ++ [.event (.exceptionThrown error)]) =
      some (.announced error) := by
  obtain ⟨final, hlog, hsettled⟩ := h
  rw [Phase.after?_append, hlog]
  cases final with
  | quiet => rfl
  | pending expected =>
    -- the error that is on its way is the one that was thrown
    have hsame : error = expected := by
      have hthrown : run.result = .error (.thrown expected) := hsettled
      simpa [hr] using hthrown
    simp [Phase.after?, Phase.next?, hsame]
  | announced error => exact absurd hsettled not_false

/-- A log that leads from `quiet` to `quiet` may go before a run, and the run may have another value
    where it has one. -/
theorem prepend {run : Run Note (Machine Memory) α} {longer : Run Note (Machine Memory) β}
    {log : List (Entry Note)} (h : Orderly run) (hl : Phase.quiet.after? log = some .quiet)
    (hlog : longer.log = log ++ run.log)
    (hr : ∀ fault, run.result = .error fault → longer.result = .error fault) : Orderly longer := by
  obtain ⟨final, hrun, hsettled⟩ := h
  refine ⟨final, ?_, ?_⟩
  · rw [hlog, Phase.after?_append, hl]
    exact hrun
  · cases final with
    | quiet => trivial
    | pending error => exact hr _ hsettled
    | announced error => exact hsettled

/-- Another context, and another value where there is one, change nothing. -/
theorem congr {run : Run Note (Machine Memory) α} {other : Run Note (Machine Memory) β}
    (h : Orderly run) (hlog : other.log = run.log)
    (hr : ∀ fault, run.result = .error fault → other.result = .error fault) : Orderly other :=
  h.prepend (show Phase.quiet.after? [] = some .quiet from rfl) hlog hr

end Orderly

theorem orderly_bind {α β : Type} {first : Step α} {next : α → Step β}
    (hf : ∀ machine, Orderly (first machine)) (hn : ∀ value machine, Orderly (next value machine))
    (machine : Machine Memory) : Orderly ((first >>= next) machine) := by
  cases h : (first machine).result with
  | ok value =>
    rw [Action.bind_of_ok h]
    exact (hn value _).prepend ((hf machine).quiet (by simp [h])) rfl fun _ hr => hr
  | error fault =>
    rw [Action.bind_of_error h]
    exact (hf machine).congr rfl fun other hr => by simpa [h] using hr

theorem orderly_eval (expr : Expr) (machine : Machine Memory) :
    Orderly (Step.eval expr machine) := by
  rw [Step.eval_run]
  rcases expr_cases machine.memory expr with ⟨value, same⟩ | ⟨op, dividend, same⟩ |
    ⟨index, length, same⟩
  · exact .of_silent (by rw [same]; rfl)
  · rw [same]
    exact ⟨.pending (.divisionByZero op), rfl, rfl⟩
  · exact .of_silent (by rw [same]; rfl)

/-- The end of a statement is noted whether or not an error is `pending`. -/
theorem orderly_noting {path : Path} {step : Step Flow} (h : ∀ machine, Orderly (step machine))
    (machine : Machine Memory) : Orderly (Step.noting path step machine) := by
  obtain ⟨final, hlog, hsettled⟩ := h machine
  rw [Step.noting_run]
  refine ⟨final, ?_, hsettled⟩
  rw [Phase.after?_append, hlog]
  cases final with
  | quiet => rfl
  | pending error => rfl
  | announced error => exact absurd hsettled not_false

theorem orderly_guarded {α : Type} {block : Block Note (Machine Memory) α}
    (hb : ∀ machine, Orderly (block.body machine))
    (hc : ∀ clause ∈ block.clauses, ∀ error machine, Orderly (clause.handler error machine))
    (machine : Machine Memory) : Orderly (block.run machine) := by
  have hbody := hb machine
  rcases block.run_cases machine with ⟨value, h, hr⟩ | ⟨error, h, hr⟩ |
    ⟨error, position, clause, h, found, hr⟩ | ⟨error, h, _, hr⟩
  · rw [hr]
    exact hbody.congr rfl (by simp [h])
  · rw [hr]
    exact hbody.congr rfl (by simp [h])
  · have hmet : Phase.quiet.after? ((block.body machine).log ++
        [.event (.exceptionThrown error), .event (.handlerFound position)]) = some .quiet := by
      rw [List.append_cons, Phase.after?_append, hbody.announced h]
      rfl
    rw [hr]
    have hhandler := hc clause (Clause.first?_mem found) error (block.body machine).context
    exact hhandler.prepend hmet (by simp) fun fault => Fault.map_eq_error_iff.mpr
  · -- the error was announced, and is on its way to the next block
    rw [hr]
    refine ⟨.pending error, ?_, rfl⟩
    rw [List.append_cons, Phase.after?_append, hbody.announced h]
    rfl

theorem invariant_orderly : Invariant fun _ {_} step => ∀ machine, Orderly (step machine) where
  pure _ _ _ _ := .of_silent rfl
  bind hf hn := orderly_bind hf hn
  fail _ _ _ _ _ := .of_silent rfl
  eval _ _ expr := orderly_eval expr
  setVar _ _ _ _ _ := .of_silent rfl
  printLine _ _ _ _ := .of_silent rfl
  noting _ _ h := orderly_noting h
  guarded hb hc := orderly_guarded hb hc

/-! ## The theorem -/

/-- Where the events split at `event`, so does the log. -/
theorem log_of_events {log : List (Entry Note)} {before after : List Event} {event : Event}
    (h : log.filterMap Entry.event? = before ++ event :: after) :
    ∃ earlier later, log = earlier ++ .event event :: later ∧
      earlier.filterMap Entry.event? = before ∧ later.filterMap Entry.event? = after := by
  obtain ⟨front, back, rfl, hfront, hback⟩ := List.filterMap_eq_append_iff.mp h
  obtain ⟨notes, entry, later, rfl, hnotes, hentry, hlater⟩ := List.filterMap_eq_cons_iff.mp hback
  have hsilent : notes.filterMap Entry.event? = [] := List.filterMap_eq_nil_iff.mpr hnotes
  cases entry with
  | note note => cases hentry
  | event found =>
    obtain rfl : found = event := Option.some.inj hentry
    exact ⟨front ++ notes, later, by simp, by simp [hfront, hsilent], hlater⟩

/-- An `Orderly` run at one entry of its log. -/
theorem Orderly.split {α : Type} {run : Run Note (Machine Memory) α}
    {before after : List (Entry Note)} {entry : Entry Note} (h : Orderly run)
    (hlog : run.log = before ++ entry :: after) :
    ∃ here there final, Phase.quiet.after? before = some here ∧ here.next? entry = some there ∧
      there.after? after = some final ∧ Settled run.result final := by
  obtain ⟨final, hrun, hsettled⟩ := h
  rw [hlog] at hrun
  obtain ⟨here, there, hbefore, hentry, hafter⟩ := Phase.after?_split hrun
  exact ⟨here, there, final, hbefore, hentry, hafter, hsettled⟩

/-- No run ends while an error is `announced`. -/
theorem decision_of_announced {α : Type} {result : Except Fault α} {error : ArithError}
    {final : Phase} {log : List (Entry Note)}
    (h : (Phase.announced error).after? log = some final) (hsettled : Settled result final) :
    ∃ event rest, log = .event event :: rest ∧ event.isDecision = true := by
  cases log with
  | nil =>
    obtain rfl := Option.some.inj h
    exact absurd hsettled not_false
  | cons entry rest =>
    rw [Phase.after?_cons] at h
    obtain ⟨there, hnext, _⟩ := Option.bind_eq_some_iff.mp h
    obtain ⟨event, rfl, hdecision⟩ := Phase.isDecision_of_next? hnext
    exact ⟨event, rest, rfl, hdecision⟩

/-- An error that is `pending` is the result of the run, or a block meets it next. -/
theorem settled_of_pending {α : Type} {result : Except Fault α} {error : ArithError}
    {final : Phase} {log : List (Entry Note)}
    (h : (Phase.pending error).after? log = some final) (hsettled : Settled result final) :
    log.filterMap Entry.event? = [] ∧ result = .error (.thrown error) ∨
      ∃ rest, log.filterMap Entry.event? = .exceptionThrown error :: rest := by
  rcases Phase.events_of_pending h with ⟨hnone, rfl⟩ | hnext
  · exact .inl ⟨hnone, hsettled⟩
  · exact .inr hnext

/-- **The events follow one protocol.** Whenever a block meets an error, the entry after its
    `exceptionThrown` is the decision of the block, and blocks decide at no other place. A
    `zeroDivisor` is the last event, and then its error is the result, or a block meets this error
    next. The same is true of the error of a `noHandler`. -/
theorem events_follow_protocol (script : Script) (memory : Memory) (sink : Sink) :
    let answer := script.answer memory sink
    (∀ before error after, answer.trace = before ++ .event (.exceptionThrown error) :: after →
        ∃ event rest, after = .event event :: rest ∧ event.isDecision = true) ∧
      (∀ before event after, answer.trace = before ++ .event event :: after →
        event.isDecision = true →
        ∃ earlier error, before = earlier ++ [.event (.exceptionThrown error)]) ∧
      (∀ before op dividend after, answer.events = before ++ .zeroDivisor op dividend :: after →
        after = [] ∧ answer.result = .error (.thrown (.divisionByZero op)) ∨
          ∃ rest, after = .exceptionThrown (.divisionByZero op) :: rest) ∧
      ∀ before after, answer.events = before ++ .noHandler :: after →
        ∃ earlier error, before = earlier ++ [.exceptionThrown error] ∧
          (after = [] ∧ answer.result = .error (.thrown error) ∨
            ∃ rest, after = .exceptionThrown error :: rest) := by
  intro answer
  have hrun : Orderly (script.run memory sink) :=
    invariant_orderly.script script ⟨memory, sink⟩
  refine ⟨?_, ?_, ?_, ?_⟩
  · intro before error after htrace
    obtain ⟨here, there, final, _, hmet, hafter, hsettled⟩ := hrun.split htrace
    obtain rfl := Phase.announced_of_exceptionThrown hmet
    exact decision_of_announced hafter hsettled
  · intro before event after htrace hdecision
    obtain ⟨here, there, final, hbefore, hnext, _⟩ := hrun.split htrace
    obtain ⟨error, rfl⟩ := Phase.announced_of_isDecision hdecision hnext
    obtain ⟨earlier, hearlier⟩ := Phase.eq_concat_of_announced hbefore
    exact ⟨earlier, error, hearlier⟩
  · intro before op dividend after hevents
    obtain ⟨earlier, later, htrace, _, rfl⟩ := log_of_events hevents
    obtain ⟨here, there, final, _, hnext, hafter, hsettled⟩ := hrun.split htrace
    obtain rfl := Phase.pending_of_zeroDivisor hnext
    exact settled_of_pending hafter hsettled
  · intro before after hevents
    obtain ⟨front, later, htrace, rfl, rfl⟩ := log_of_events hevents
    obtain ⟨here, there, final, hbefore, hnext, hafter, hsettled⟩ := hrun.split htrace
    obtain ⟨error, rfl, rfl⟩ := Phase.pending_of_noHandler hnext
    obtain ⟨earlier, rfl⟩ := Phase.eq_concat_of_announced hbefore
    exact ⟨earlier.filterMap Entry.event?, error, by simp [Entry.event?],
      settled_of_pending hafter hsettled⟩

end Guarded.Script
