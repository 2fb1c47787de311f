import Guarded.Demo
import Guarded.Sink.Room

set_option autoImplicit false

/-! # Runs of the demonstration

Seen from outside the demonstration is a list of acts, `acts`: it reports events and prints lines,
in an order that nothing changes. A sink may refuse it at any byte of any line, and the run ends
there; so the room in the sink, `Sink.room`, decides how much is printed, how the run ends and which
events it reports. Runs one after another on one sink print their text again and again until there
is no room left.

Main statement: `runs_fill_sink`. -/

namespace Guarded.Demo

open Sink (Wrote)

/-! ## Acts -/

/-- What the demonstration lets others see of it: it reports an event or prints a line. -/
inductive Act where
  | report (event : Event)
  | print (line : String)

/-- The step that an act stands for. -/
def Act.perform : Act → Step Unit
  | .report event => Action.report event
  | .print line => Machine.printLine line

/-- The bytes that an act writes; a `report` writes none. -/
def Act.bytes : Act → List UInt8
  | .report _ => []
  | .print line => Sink.bytesOf (line ++ "\n")

/-- One act after another, up to the first whose `perform` fails. -/
def performAll : List Act → Step Unit
  | [] => pure ()
  | act :: rest => do
    act.perform
    performAll rest

def bytesOf (acts : List Act) : List UInt8 := acts.flatMap Act.bytes

/-- The events that acts report where there is `room` for so many bytes: those that stand before the
    first line that does not fit. -/
def eventsWithin (room : Nat) : List Act → List Event
  | [] => []
  | .report event :: rest => event :: eventsWithin room rest
  | .print line :: rest =>
    let size := (Act.print line).bytes.length
    if size ≤ room then eventsWithin (room - size) rest else []

theorem performAll_append (first second : List Act) :
    performAll (first ++ second) = performAll first >>= fun _ => performAll second := by
  induction first with
  | nil => rw [List.nil_append, performAll, pure_bind]
  | cons act rest ih => rw [List.cons_append, performAll, ih, performAll, bind_assoc]

theorem performAll_report (event : Event) (rest : List Act) (machine : Machine Int32) :
    performAll (.report event :: rest) machine =
      (performAll rest machine).prepend [.event event] := rfl

/-- What acts leave behind on a machine: the variable as it was, as much of `bytesOf acts` as there
    is room for, and `eventsWithin` that room. -/
structure Performed (acts : List Act) (machine : Machine Int32)
    (run : Run Empty (Machine Int32) Unit) (result : Except IoError Unit) : Prop where
  memory : run.context.memory = machine.memory
  wrote : machine.sink.Wrote (bytesOf acts) run.context.sink result
  result : run.result = result.mapError .io
  events : run.events = eventsWithin (machine.sink.room (bytesOf acts).length) acts

theorem performed_report {event : Event} {rest : List Act} {machine : Machine Int32}
    {result : Except IoError Unit}
    (performed : Performed rest machine (performAll rest machine) result) :
    Performed (.report event :: rest) machine (performAll (.report event :: rest) machine)
      result := by
  rw [performAll_report]
  refine ⟨performed.memory, performed.wrote, performed.result, ?_⟩
  rw [eventsWithin]
  exact congrArg (event :: ·) performed.events

theorem perform_print (line : String) (machine : Machine Int32) :
    (Act.print line).perform machine =
      ⟨[], { machine with sink := (machine.sink.writeAll (Act.print line).bytes).1 },
        (machine.sink.writeAll (Act.print line).bytes).2.mapError .io⟩ := rfl

/-- A line that fits is followed by the acts in `rest`, which have as much less room. -/
theorem performed_print {line : String} {rest : List Act} {machine : Machine Int32}
    {result : Except IoError Unit}
    (fits : machine.sink.room (Act.print line).bytes.length = (Act.print line).bytes.length)
    (performed :
      let machine := { machine with sink := (machine.sink.writeAll (Act.print line).bytes).1 }
      Performed rest machine (performAll rest machine) result) :
    Performed (.print line :: rest) machine (performAll (.print line :: rest) machine) result := by
  have wrote := machine.sink.wrote_writeAll (Act.print line).bytes
  have room := wrote.room (bytesOf rest).length
  have bytes : bytesOf (.print line :: rest) = (Act.print line).bytes ++ bytesOf rest := rfl
  have written : (machine.sink.writeAll (Act.print line).bytes).2 = .ok () := by
    rw [wrote.result, if_pos fits]
  have printed : ((Act.print line).perform machine).result = .ok () := by
    rw [perform_print, written]
    rfl
  rw [performAll, Action.bind_of_ok printed, perform_print]
  refine ⟨performed.memory, ?_, performed.result, ?_⟩
  · have both := wrote.append performed.wrote
    rw [written] at both
    exact both
  · rw [eventsWithin, bytes, List.length_append, room, fits, if_pos (Nat.le_add_right _ _),
      Nat.add_sub_cancel_left]
    exact performed.events

theorem performed_print_of_refused {line : String} (rest : List Act) {machine : Machine Int32}
    (refused : machine.sink.room (Act.print line).bytes.length ≠ (Act.print line).bytes.length) :
    Performed (.print line :: rest) machine (performAll (.print line :: rest) machine)
      (.error machine.sink.refusal) := by
  have wrote := machine.sink.wrote_writeAll (Act.print line).bytes
  have room := wrote.room (bytesOf rest).length
  have full := wrote.full refused (bytesOf rest).length
  have bound := machine.sink.room_le (Act.print line).bytes.length
  have bytes : bytesOf (.print line :: rest) = (Act.print line).bytes ++ bytesOf rest := rfl
  have unwritten : (machine.sink.writeAll (Act.print line).bytes).2 =
      .error machine.sink.refusal := by
    rw [wrote.result, if_neg refused]
  have failed : ((Act.print line).perform machine).result =
      .error (.io machine.sink.refusal) := by
    rw [perform_print, unwritten]
    rfl
  rw [performAll, Action.bind_of_error failed, perform_print]
  refine ⟨rfl, ?_, rfl, ?_⟩
  · rw [unwritten] at wrote
    exact wrote.stop (bytesOf rest)
  · rw [eventsWithin, bytes, List.length_append, room, full, if_neg (by omega)]
    rfl

theorem performed_all (acts : List Act) (machine : Machine Int32) :
    ∃ result, Performed acts machine (performAll acts machine) result := by
  induction acts generalizing machine with
  | nil => exact ⟨.ok (), rfl, machine.sink.wrote_nil, rfl, rfl⟩
  | cons act rest ih =>
    cases act with
    | report event =>
      obtain ⟨result, performed⟩ := ih machine
      exact ⟨result, performed_report performed⟩
    | print line =>
      by_cases fits :
          machine.sink.room (Act.print line).bytes.length = (Act.print line).bytes.length
      · obtain ⟨result, performed⟩ :=
          ih { machine with sink := (machine.sink.writeAll (Act.print line).bytes).1 }
        exact ⟨result, performed_print fits performed⟩
      · exact ⟨_, performed_print_of_refused rest fits⟩

/-! ## The acts of the demonstration -/

/-- A step that, as long as the variable has its `initialValue`, does nothing but `acts` and then
    answers with `value`. -/
def Performs {α : Type} (step : Step α) (acts : List Act) (value : α) : Prop :=
  ∀ sink, step ⟨initialValue, sink⟩ = (performAll acts ⟨initialValue, sink⟩).map fun _ => value

theorem performs_pure {α : Type} (value : α) : Performs (pure value) [] value := fun _ => rfl

theorem performs_remember : Performs (Machine.remember fun _ => initialValue) [] () := fun _ => rfl

theorem performs_value : Performs value [] initialValue := fun _ => rfl

theorem performs_report (event : Event) : Performs (Action.report event) [.report event] () :=
  fun _ => rfl

theorem performs_printLine (line : String) :
    Performs (Machine.printLine line) [.print line] () := by
  intro sink
  rw [performAll, performAll, bind_pure_unit, Act.perform, Machine.printLine_run, Run.map]
  cases (sink.writeAll (Sink.bytesOf (line ++ "\n"))).2 <;> rfl

theorem performs_bind {α β : Type} {step : Step α} {next : α → Step β} {acts acts' : List Act}
    {value : α} {value' : β} (h : Performs step acts value)
    (h' : Performs (next value) acts' value') :
    Performs (step >>= next) (acts ++ acts') value' := by
  intro sink
  have hstep := h sink
  -- acts leave the variable alone, so the second step finds it with its first value too
  obtain ⟨_, performed⟩ := performed_all acts ⟨initialValue, sink⟩
  have memory : (performAll acts ⟨initialValue, sink⟩).context.memory = initialValue :=
    performed.memory
  rw [performAll_append]
  generalize hrun : performAll acts ⟨initialValue, sink⟩ = run at hstep memory
  obtain ⟨log, ⟨_, after⟩, result⟩ := run
  obtain rfl : _ = initialValue := memory
  cases result with
  | ok done =>
    have completed : (step ⟨initialValue, sink⟩).result = .ok value := by rw [hstep]; rfl
    have completed' : (performAll acts ⟨initialValue, sink⟩).result = .ok done := by rw [hrun]
    rw [Action.bind_of_ok completed, Action.bind_of_ok completed', hstep, hrun]
    show (next value ⟨initialValue, after⟩).prepend log = _
    rw [h' after]
    rfl
  | error fault =>
    have failed : (step ⟨initialValue, sink⟩).result = .error fault := by rw [hstep]; rfl
    have failed' : (performAll acts ⟨initialValue, sink⟩).result = .error fault := by rw [hrun]
    rw [Action.bind_of_error failed, Action.bind_of_error failed', hstep, hrun]
    rfl

/-- A guarded block whose body meets a zero divisor: the way to the clause is reported, and what it
    `Performs` then are the acts of the clause. -/
theorem performs_caught {α : Type} {block : Block Empty (Machine Int32) α} {op : ArithOp}
    {position : Nat} {clause : Clause Empty (Machine Int32)} {acts : List Act}
    (body : ∀ sink, block.body ⟨initialValue, sink⟩ =
      ⟨[.event (.zeroDivisor op initialValue)], ⟨initialValue, sink⟩,
        .error (.thrown (.divisionByZero op))⟩)
    (found : Clause.first? .arithmetic block.clauses = some (position, clause))
    (handler : Performs (clause.handler (.divisionByZero op)) acts ()) :
    Performs block.run (.report (.zeroDivisor op initialValue) ::
      .report (.exceptionThrown (.divisionByZero op)) :: .report (.handlerFound position) :: acts)
      .caught := by
  intro sink
  have thrown : (block.body ⟨initialValue, sink⟩).result =
      .error (.thrown (.divisionByZero op)) := by
    rw [body sink]
  have handled : block.run ⟨initialValue, sink⟩ =
      ((clause.handler (.divisionByZero op) ⟨initialValue, sink⟩).map fun _ => .caught).prepend
        [.event (.zeroDivisor op initialValue), .event (.exceptionThrown (.divisionByZero op)),
          .event (.handlerFound position)] := by
    rw [Block.run_of_caught thrown found, body sink]
    rfl
  rw [handled, handler sink, Run.map_map]
  rfl

/-- The acts of a guarded attempt: `zeroDivisor` and the way to the clause are reported, and the
    clause prints its `marker` and the error. -/
def attempt (op : ArithOp) (marker : String) : List Act :=
  [.report (.zeroDivisor op initialValue), .report (.exceptionThrown (.divisionByZero op)),
    .report (.handlerFound 0), .print marker, .print (ArithError.divisionByZero op).message]

/-- The acts of the demonstration: two attempts, the line `10`, and `finished`. -/
def acts : List Act :=
  attempt .div "Caught exception ;)" ++
    (attempt .rem "err" ++ [.print "10", .report (.finished initialValue)])

/-- What a handler of the demonstration does: it prints its `marker` and the message of the
    error. -/
theorem performs_handler (marker : String) (error : ArithError) :
    Performs
      (do
        Machine.printLine marker
        Machine.printLine error.message)
      [.print marker, .print error.message] () :=
  performs_bind (performs_printLine marker) (performs_printLine error.message)

theorem performs_division : Performs division.run (attempt .div "Caught exception ;)") .caught :=
  performs_caught (fun _ => rfl) rfl (performs_handler _ _)

theorem performs_remainder : Performs remainder.run (attempt .rem "err") .caught :=
  performs_caught (fun _ => rfl) rfl (performs_handler _ _)

theorem performs_program : Performs program acts initialValue := by
  -- the acts of each step of the program, in the order of the steps
  show Performs program ([] ++ (attempt .div "Caught exception ;)" ++ (attempt .rem "err" ++
    ([] ++ ([.print (toString initialValue.toInt)] ++
      ([.report (.finished initialValue)] ++ [])))))) initialValue
  exact performs_bind performs_remember <|
    performs_bind performs_division <|
    performs_bind performs_remainder <|
    performs_bind performs_value <|
    performs_bind (performs_printLine _) <|
    performs_bind (performs_report _) <|
    performs_pure initialValue

/-! ## One run -/

/-- The text of a whole run, which is `bytesOf acts`. -/
def text : List UInt8 :=
  Sink.bytesOf ("Caught exception ;)\nArithmeticException: / by zero\n" ++
    "err\nArithmeticException: / by zero\n10\n")

/-- The part of `text` that the first attempt prints. -/
def opening : List UInt8 := Sink.bytesOf "Caught exception ;)\nArithmeticException: / by zero\n"

def story : List Event :=
  [.zeroDivisor .div 10, .exceptionThrown (.divisionByZero .div), .handlerFound 0,
    .zeroDivisor .rem 10, .exceptionThrown (.divisionByZero .rem), .handlerFound 0, .finished 10]

/-- The events of a run that can write `room` bytes: those of an attempt come before its lines, and
    `finished` comes after the whole text. -/
def storyWithin (room : Nat) : List Event :=
  if room < opening.length then story.take 3
  else if room < text.length then story.take 6
  else story

theorem bytesOf_acts : bytesOf acts = text := by decide

theorem length_text : text.length = 89 := by decide

theorem length_opening : opening.length = 51 := by decide

/-- The text is in ASCII: each byte is the code `c.toNat` of a character. -/
theorem text_eq_codes : text = ("Caught exception ;)\nArithmeticException: / by zero\n" ++
    "err\nArithmeticException: / by zero\n10\n").toList.map fun c => UInt8.ofNat c.toNat := by
  decide

theorem opening_prefix_text : opening <+: text := by decide

theorem storyWithin_of_le {room : Nat} (h : text.length ≤ room) : storyWithin room = story := by
  rw [length_text] at h
  rw [storyWithin, length_text, length_opening, if_neg (by omega), if_neg (by omega)]

/-- Room beyond `text.length` makes no difference. -/
theorem storyWithin_min (room : Nat) : storyWithin (min room text.length) = storyWithin room := by
  by_cases h : text.length ≤ room
  · rw [Nat.min_eq_right h, storyWithin_of_le (Nat.le_refl _), storyWithin_of_le h]
  · rw [Nat.min_eq_left (by omega)]

/-- Only the events of a whole run tell of the end, by `finished`. -/
theorem finished_mem_storyWithin {room : Nat} :
    .finished 10 ∈ storyWithin room ↔ text.length ≤ room := by
  by_cases h : text.length ≤ room
  · rw [storyWithin_of_le h]
    simp [story, h]
  · rw [storyWithin]
    by_cases opened : room < opening.length
    · rw [if_pos opened]
      simp [story, h]
    · rw [if_neg opened, if_pos (by omega)]
      simp [story, h]

/-- An attempt reports its three events in any case; what follows it, `rest`, needs room beyond its
    lines. -/
theorem eventsWithin_attempt (room : Nat) (op : ArithOp) (marker : String) (rest : List Act) :
    eventsWithin room (attempt op marker ++ rest) =
      .zeroDivisor op initialValue :: .exceptionThrown (.divisionByZero op) :: .handlerFound 0 ::
        if room < (bytesOf (attempt op marker)).length then []
        else eventsWithin (room - (bytesOf (attempt op marker)).length) rest := by
  have size : (bytesOf (attempt op marker)).length = (Act.print marker).bytes.length +
      (Act.print (ArithError.divisionByZero op).message).bytes.length := by
    simp [bytesOf, attempt, Act.bytes]
  rw [size]
  simp only [attempt, List.cons_append, List.nil_append, eventsWithin]
  by_cases first : (Act.print marker).bytes.length ≤ room
  · rw [if_pos first]
    by_cases second : (Act.print (ArithError.divisionByZero op).message).bytes.length ≤
        room - (Act.print marker).bytes.length
    · rw [if_pos second, if_neg (by omega), Nat.sub_sub]
    · rw [if_neg second, if_pos (by omega)]
  · rw [if_neg first, if_pos (by omega)]

theorem eventsWithin_acts (room : Nat) : eventsWithin room acts = storyWithin room := by
  have division : (bytesOf (attempt .div "Caught exception ;)")).length = 51 := by decide
  have remainder : (bytesOf (attempt .rem "err")).length = 35 := by decide
  have value : (Act.print "10").bytes.length = 3 := by decide
  rw [acts, eventsWithin_attempt, eventsWithin_attempt, division, remainder, storyWithin,
    length_opening, length_text]
  simp only [eventsWithin, value]
  by_cases first : room < 51
  · rw [if_pos first, if_pos first]
    rfl
  rw [if_neg first, if_neg first]
  by_cases second : room < 89
  · -- the second attempt is cut in its own lines, or else the value is cut
    rw [if_pos second]
    by_cases printed : room - 51 < 35
    · rw [if_pos printed]
      rfl
    · rw [if_neg printed, if_neg (by omega)]
      rfl
  · rw [if_neg second, if_neg (by omega), if_pos (by omega)]
    rfl

/-- What a run makes of a sink, and what it answers. All of it is a function of
    `sink.room text.length` and `sink.refusal`; `chunk` and `interrupts` do not occur. -/
structure Ran (sink : Sink) (report : Report) (after : Sink) : Prop where
  wrote : ∃ result, sink.Wrote text after result
  output : report.output = text.take (sink.room text.length)
  result : report.result =
    if sink.room text.length = text.length then .ok initialValue else .error (.io sink.refusal)
  events : report.events = storyWithin (sink.room text.length)

theorem ran_run (sink : Sink) : Ran sink (run sink).1 (run sink).2 := by
  obtain ⟨result, performed⟩ := performed_all acts ⟨initialValue, sink⟩
  have same := performs_program sink
  have wrote : sink.Wrote text (run sink).2 result := by
    rw [run, same, ← bytesOf_acts]
    exact performed.wrote
  refine ⟨⟨result, wrote⟩, ?_, ?_, ?_⟩
  · show (run sink).2.held.toList.drop sink.held.size = _
    rw [wrote.held, ← Array.length_toList, List.drop_left]
  · rw [run, same]
    show (performAll acts ⟨initialValue, sink⟩).result.map _ = _
    rw [performed.result, wrote.result]
    split <;> rfl
  · rw [run, same, ← eventsWithin_acts, ← bytesOf_acts]
    exact performed.events

/-! ## Runs one after another -/

/-- The sink after `count` runs on it. -/
def sinkAfter (sink : Sink) : Nat → Sink
  | 0 => sink
  | count + 1 => sinkAfter (run sink).2 count

/-- The text of `count` whole runs. -/
def texts (count : Nat) : List UInt8 := (List.replicate count text).flatten

theorem length_texts (count : Nat) : (texts count).length = count * text.length := by
  simp [texts]

theorem texts_add (first second : Nat) : texts (first + second) = texts first ++ texts second := by
  rw [texts, ← List.replicate_append_replicate, List.flatten_append]
  rfl

theorem length_runAll (sink : Sink) (count : Nat) : (runAll sink count).length = count := by
  induction count generalizing sink with
  | zero => rfl
  | succ count ih => rw [runAll, List.length_cons, ih]

/-- The run at `index` finds the sink as the runs before it left it, `sinkAfter sink index`. -/
theorem getElem?_runAll (sink : Sink) {index count : Nat} (h : index < count) :
    (runAll sink count)[index]? = some (run (sinkAfter sink index)).1 := by
  induction count generalizing sink index with
  | zero => exact absurd h (Nat.not_lt_zero index)
  | succ count ih =>
    cases index with
    | zero => rfl
    | succ index =>
      rw [runAll, List.getElem?_cons_succ, ih _ (Nat.lt_of_succ_lt_succ h)]
      rfl

/-- Whole runs one after another write `texts count`, as far as there is room. -/
theorem wrote_sinkAfter (sink : Sink) (count : Nat) :
    ∃ result, sink.Wrote (texts count) (sinkAfter sink count) result := by
  induction count generalizing sink with
  | zero => exact ⟨.ok (), sink.wrote_nil⟩
  | succ count ih =>
    obtain ⟨_, first⟩ := (ran_run sink).wrote
    obtain ⟨_, others⟩ := ih (run sink).2
    exact ⟨_, first.append others⟩

/-- The room that a run finds is what the runs before it left of the room for all of them. -/
theorem room_sinkAfter (sink : Sink) (index : Nat) :
    (sinkAfter sink index).room text.length =
      sink.room ((index + 1) * text.length) - sink.room (index * text.length) := by
  obtain ⟨_, wrote⟩ := wrote_sinkAfter sink index
  have room := wrote.room text.length
  rw [length_texts, ← Nat.succ_mul] at room
  rw [room, Nat.add_sub_cancel_left]

/-- The part of the first `taken` bytes of `texts count` that the run at `index` wrote. -/
theorem slice_texts {index count : Nat} (h : index < count) (taken : Nat) :
    (((texts count).take taken).drop (index * text.length)).take text.length =
      text.take (taken - index * text.length) := by
  obtain ⟨later, rfl⟩ : ∃ later, count = index + (1 + later) := ⟨count - index - 1, by omega⟩
  have one : texts 1 = text := List.append_nil text
  rw [List.drop_take, texts_add, ← length_texts, List.drop_left, texts_add, one, List.take_take,
    Nat.min_comm, ← List.take_take, List.take_left]

/-! ## Runs on a sink that was empty -/

theorem room_of_empty {sink : Sink} (empty : sink.held = #[]) (offered : Nat) :
    sink.room offered = match sink.limit with
      | some limit => min limit offered
      | none => offered := by
  rw [Sink.room, empty]
  cases sink.limit with
  | none => rfl
  | some limit => exact Nat.min_comm _ _

theorem room_sinkAfter_of_empty {sink : Sink} (empty : sink.held = #[]) (index : Nat) :
    (sinkAfter sink index).room text.length = match sink.limit with
      | some limit => min (limit - index * text.length) text.length
      | none => text.length := by
  rw [room_sinkAfter, room_of_empty empty, room_of_empty empty, length_text]
  cases sink.limit with
  | none => simp only; omega
  | some limit => simp only; omega

/-- The run at `index`, of several on a sink that was empty before all of them and holds the bytes
    `held` after them. -/
structure RunOf (sink : Sink) (held : List UInt8) (index : Nat) (report : Report) : Prop where
  /-- It wrote its slice of the bytes. -/
  output : report.output = (held.drop (index * text.length)).take text.length
  /-- It succeeds if its text and those before it fit, and fails as the sink does if not. -/
  result : report.result =
    if ∀ limit ∈ sink.limit, (index + 1) * text.length ≤ limit then .ok 10
    else .error (.io sink.refusal)
  /-- It reports what it can with the room that is left. -/
  events : report.events = match sink.limit with
    | some limit => storyWithin (limit - index * text.length)
    | none => story

theorem runOf_run {sink : Sink} (empty : sink.held = #[]) {index count : Nat} (h : index < count) :
    RunOf sink (sinkAfter sink count).held.toList index (run (sinkAfter sink index)).1 := by
  obtain ⟨_, before⟩ := wrote_sinkAfter sink index
  obtain ⟨_, all⟩ := wrote_sinkAfter sink count
  have ran := ran_run (sinkAfter sink index)
  have room := room_sinkAfter_of_empty empty index
  have held : (sinkAfter sink count).held.toList =
      (texts count).take (sink.room (count * text.length)) := by
    rw [all.held, empty, length_texts]
    rfl
  refine ⟨?_, ?_, ?_⟩
  · rw [ran.output, held, slice_texts h, List.take_eq_take_iff, room, room_of_empty empty,
      length_text]
    cases sink.limit with
    | none => simp only; omega
    | some limit => simp only; omega
  · rw [ran.result, Sink.refusal_congr before.failure, room, length_text]
    congr 1
    cases sink.limit with
    | none => simp
    | some limit => simp; omega
  · rw [ran.events, room]
    cases sink.limit with
    | none => exact storyWithin_of_le (Nat.le_refl _)
    | some limit => exact storyWithin_min _

namespace RunOf

variable {sink : Sink} {held : List UInt8}

/-- The event of the end and the answer agree: `finished 10` is there exactly where the run
    succeeds. -/
theorem finished_iff {index : Nat} {report : Report} (run : RunOf sink held index report) :
    .finished 10 ∈ report.events ↔ report.result = .ok 10 := by
  have positive : 0 < text.length := by decide
  rw [run.events, run.result]
  cases sink.limit with
  | none => simp [story]
  | some limit =>
    simp only [finished_mem_storyWithin, Option.mem_def, Option.some.injEq, forall_eq',
      Nat.succ_mul]
    by_cases fits : index * text.length + text.length ≤ limit
    · simp only [if_pos fits, iff_true]
      omega
    · simp only [if_neg fits, reduceCtorEq, iff_false]
      omega

/-- A run that fails is one whose text, after those of the `index` runs before it, exceeds a
    limit. -/
theorem exceeded_of_failed {index : Nat} {report : Report} (run : RunOf sink held index report)
    (failed : report.result ≠ .ok 10) :
    ∃ limit, sink.limit = some limit ∧ limit < (index + 1) * text.length := by
  cases h : sink.limit with
  | none =>
    refine absurd ?_ failed
    rw [run.result, h, if_pos (by simp)]
  | some limit =>
    refine ⟨limit, rfl, Nat.lt_of_not_le fun fits => failed ?_⟩
    rw [run.result, h, if_pos (by simpa using fits)]

theorem result_of_exceeded {index limit : Nat} {report : Report}
    (run : RunOf sink held index report) (h : sink.limit = some limit)
    (exceeded : limit < (index + 1) * text.length) : report.result = .error (.io sink.refusal) := by
  rw [run.result, h, if_neg (by simpa using exceeded)]

/-- What follows a run that failed: the sink is full, so every `later` run fails with the same error
    and writes nothing. -/
theorem after_failed (within : ∀ limit ∈ sink.limit, held.length ≤ limit) {earlier later : Nat}
    (order : earlier < later) {first second : Report} (run : RunOf sink held earlier first)
    (run' : RunOf sink held later second) (failed : first.result ≠ .ok 10) :
    second.result = first.result ∧ second.output = [] ∧ second.events = story.take 3 := by
  obtain ⟨limit, hlimit, exceeded⟩ := run.exceeded_of_failed failed
  have size := within limit hlimit
  have beyond : (earlier + 1) * text.length ≤ later * text.length := Nat.mul_le_mul_right _ order
  have exceeded' : limit < (later + 1) * text.length := by
    rw [Nat.succ_mul]
    omega
  refine ⟨?_, ?_, ?_⟩
  · rw [run.result_of_exceeded hlimit exceeded, run'.result_of_exceeded hlimit exceeded']
  · rw [run'.output, List.drop_of_length_le (by omega), List.take_nil]
  · have none : limit - later * text.length = 0 := by omega
    rw [run'.events, hlimit]
    simp only [none]
    rfl

end RunOf

/-- Any number of runs on a sink that is empty at first, whatever its limit, its chunks, its
    interruptions and its way of failing. They print `text`, which has `89` bytes, again and again
    until the sink is full, so that it then holds `min limit (count * 89)` of them; each run's
    answer and events are those of its share of the limit (`RunOf`); and once a run has failed, all
    that follow fail in the same way and print nothing. -/
theorem runs_fill_sink (limit : Option Nat) (chunk : Option { count : Nat // 0 < count })
    (interrupts : Nat) (failure : Sink.Failure) (count : Nat) :
    let sink : Sink := { limit, chunk, interrupts, failure }
    let held := (sinkAfter sink count).held.toList
    let reports := runAll sink count
    (text = ("Caught exception ;)\nArithmeticException: / by zero\n" ++
          "err\nArithmeticException: / by zero\n10\n").toList.map (fun c => UInt8.ofNat c.toNat) ∧
        text.length = 89 ∧ opening <+: text ∧ opening.length = 51) ∧
      reports.length = count ∧
      held = (texts count).take (match limit with
        | some limit => min limit (count * text.length)
        | none => count * text.length) ∧
      (∀ index report, reports[index]? = some report → RunOf sink held index report) ∧
      (∀ report ∈ reports, .finished 10 ∈ report.events ↔ report.result = .ok 10) ∧
      ∀ (earlier later : Nat) (first second : Report), earlier < later →
        reports[earlier]? = some first → reports[later]? = some second → first.result ≠ .ok 10 →
        second.result = first.result ∧ second.output = [] ∧ second.events = story.take 3 := by
  intro sink held reports
  have empty : sink.held = #[] := rfl
  have whole : held = (texts count).take (match limit with
      | some limit => min limit (count * text.length)
      | none => count * text.length) := by
    obtain ⟨_, wrote⟩ := wrote_sinkAfter sink count
    have room := room_of_empty empty (count * text.length)
    rw [← length_texts] at room ⊢
    rw [← room]
    exact wrote.held
  have within : ∀ limit ∈ sink.limit, held.length ≤ limit := by
    intro bound h
    rw [whole, show limit = some bound from h, List.length_take]
    show min (min bound _) _ ≤ bound
    omega
  have each : ∀ index report, reports[index]? = some report → RunOf sink held index report := by
    intro index report h
    obtain ⟨inside, _⟩ := List.getElem?_eq_some_iff.mp h
    rw [length_runAll] at inside
    rw [getElem?_runAll sink inside] at h
    cases h
    exact runOf_run empty inside
  refine ⟨⟨text_eq_codes, length_text, opening_prefix_text, length_opening⟩,
    length_runAll sink count, whole, each, ?_, ?_⟩
  · intro report h
    obtain ⟨index, h⟩ := List.mem_iff_getElem?.mp h
    exact (each index report h).finished_iff
  · intro earlier later first second order h h' failed
    exact (each earlier first h).after_failed within order (each later second h') failed

end Guarded.Demo
