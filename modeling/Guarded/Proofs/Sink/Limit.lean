import Guarded.Block
import Guarded.Sink.Room

set_option autoImplicit false

/-! # The limit of a sink

The same program on two sinks, `wide` and `narrow`, of which the second may have a limit where the
first has none. As long as what is written fits, nothing tells the two runs apart: `Run.Agrees`. The
write that does not fit is an I/O fault, and since no block catches one, the second run ends there:
it is `Run.Cut`, holds the bytes of the first up to the limit, and its events are the first ones of
the other run.

The two sinks may take their bytes in chunks of any size and be interrupted any number of times;
where they have one limit, nothing at all tells the runs apart. -/

namespace Guarded

namespace Sink

/-! ## One sink over time -/

/-- What becomes of a sink in the course of a run: `limit` and `failure` stay, nothing that it holds
    is taken back, and a sink that is within its limit remains so. -/
structure Grown (sink after : Sink) : Prop where
  limit : after.limit = sink.limit
  failure : after.failure = sink.failure
  held : sink.held.toList <+: after.held.toList
  fits : ∀ limit, sink.limit = some limit → sink.held.size ≤ limit → after.held.size ≤ limit

theorem Grown.refl (sink : Sink) : sink.Grown sink :=
  ⟨rfl, rfl, List.prefix_rfl, fun _ _ h => h⟩

theorem Grown.trans {first second third : Sink} (h : first.Grown second) (h' : second.Grown third) :
    first.Grown third where
  limit := h'.limit.trans h.limit
  failure := h'.failure.trans h.failure
  held := h.held.trans h'.held
  fits := fun limit hl hf => h'.fits limit (h.limit.trans hl) (h.fits limit hl hf)

theorem size_writeAll (sink : Sink) (bytes : List UInt8) :
    (sink.writeAll bytes).1.held.size = sink.held.size + sink.room bytes.length :=
  (sink.wrote_writeAll bytes).size

theorem grown_writeAll (sink : Sink) (bytes : List UInt8) :
    sink.Grown (sink.writeAll bytes).1 where
  limit := (sink.wrote_writeAll bytes).limit
  failure := (sink.wrote_writeAll bytes).failure
  held := by
    rw [(sink.wrote_writeAll bytes).held]
    exact List.prefix_append _ _
  fits := by
    intro limit hl hf
    have room : sink.room bytes.length = min bytes.length (limit - sink.held.size) := by
      unfold Sink.room
      rw [hl]
    rw [size_writeAll, room]
    omega

/-! ## Two sinks side by side -/

/-- Two sinks that hold the same bytes and fail in the same way. They have one limit, or `wide` has
    none; and `narrow` is within its own. -/
structure Narrows (wide narrow : Sink) : Prop where
  held : narrow.held = wide.held
  failure : narrow.failure = wide.failure
  limit : wide.limit = none ∨ wide.limit = narrow.limit
  fits : ∀ limit, narrow.limit = some limit → narrow.held.size ≤ limit

/-- Either both sinks have room for the same part of a text, or the text crosses the limit of
    `narrow` and `wide` has room for all of it. -/
theorem Narrows.room_cases {wide narrow : Sink} (h : wide.Narrows narrow) (offered : Nat) :
    narrow.room offered = wide.room offered ∨
      ∃ limit, narrow.limit = some limit ∧ limit < narrow.held.size + offered ∧
        narrow.room offered = limit - narrow.held.size ∧ wide.room offered = offered := by
  rcases h.limit with hn | hs
  · have free : wide.room offered = offered := by
      unfold room
      rw [hn]
    cases hl : narrow.limit with
    | none =>
      left
      rw [free]
      unfold room
      rw [hl]
    | some limit =>
      have tight : narrow.room offered = min offered (limit - narrow.held.size) := by
        unfold room
        rw [hl]
      by_cases hfit : narrow.held.size + offered ≤ limit
      · left
        omega
      · right
        exact ⟨limit, rfl, by omega, by omega, free⟩
  · left
    unfold room
    rw [hs, h.held]

/-- A text that crosses the limit of `narrow`: `wide` takes all of it, `narrow` the part up to
    `bound`, and its writer fails. -/
structure Crossed (wide narrow : Sink) (bound : Nat) : Prop where
  limit : narrow.limit = some bound
  exceeded : bound < wide.held.size
  held : narrow.held.toList = wide.held.toList.take bound

/-- A text written to both sinks leaves them as `Narrows` or as `Crossed`. -/
theorem Narrows.writeAll {wide narrow : Sink} (h : wide.Narrows narrow) (bytes : List UInt8) :
    ((wide.writeAll bytes).1.Narrows (narrow.writeAll bytes).1 ∧
        (narrow.writeAll bytes).2 = (wide.writeAll bytes).2) ∨
      ((∃ limit, (wide.writeAll bytes).1.Crossed (narrow.writeAll bytes).1 limit) ∧
        (narrow.writeAll bytes).2 = .error narrow.refusal) := by
  have hw := wide.wrote_writeAll bytes
  have hn := narrow.wrote_writeAll bytes
  have same : narrow.held.toList = wide.held.toList := congrArg Array.toList h.held
  rcases h.room_cases bytes.length with hroom | ⟨limit, hl, hover, hnarrow, hwide⟩
  · left
    refine ⟨⟨?_, ?_, ?_, ?_⟩, ?_⟩
    · apply Array.toList_inj.mp
      rw [hn.held, hw.held, hroom, same]
    · rw [hn.failure, hw.failure, h.failure]
    · rw [hn.limit, hw.limit]
      exact h.limit
    · intro limit hl
      rw [hn.limit] at hl
      exact (narrow.grown_writeAll bytes).fits limit hl (h.fits limit hl)
    · rw [hn.result, hw.result, hroom, refusal_congr h.failure]
  · right
    have hfit := h.fits limit hl
    refine ⟨⟨limit, ?_, ?_, ?_⟩, ?_⟩
    · rw [hn.limit, hl]
    · rw [size_writeAll, hwide, ← h.held]
      exact hover
    · have hsize : wide.held.toList.length = narrow.held.size := by rw [← same, Array.length_toList]
      rw [hn.held, hw.held, hwide, hnarrow, same, List.take_length, List.take_append, hsize,
        List.take_of_length_le (Nat.le_trans (Nat.le_of_eq hsize) hfit)]
    · rw [hn.result, hnarrow, if_neg (by omega)]

end Sink

/-! ## Two runs side by side -/

variable {N M α β : Type}

/-- Two runs that cannot be told apart, on sinks of which the second `Narrows` the first. -/
structure Run.Agrees (wide narrow : Run N (Machine M) α) : Prop where
  log : narrow.log = wide.log
  result : narrow.result = wide.result
  memory : narrow.context.memory = wide.context.memory
  sink : wide.context.sink.Narrows narrow.context.sink

theorem Run.Agrees.context {wide narrow : Run N (Machine M) α} (h : wide.Agrees narrow) :
    narrow.context = ⟨wide.context.memory, narrow.context.sink⟩ := by
  rw [← h.memory]

/-- Two runs of which the second came to the limit of its sink: `Crossed` says what the sinks
    hold. -/
structure Run.Cut (wide narrow : Run N (Machine M) α) : Prop where
  crossed : ∃ limit, wide.context.sink.Crossed narrow.context.sink limit
  result : narrow.result = .error (.io narrow.context.sink.refusal)
  events : narrow.events <+: wide.events

/-- Once the second run is `Cut`, whatever the first one goes on to do leaves it so. -/
theorem Run.Cut.extend {wide narrow : Run N (Machine M) α} {wide' narrow' : Run N (Machine M) β}
    (h : wide.Cut narrow) (grown : wide.context.sink.Grown wide'.context.sink)
    (events : wide.events <+: wide'.events) (sink : narrow'.context.sink = narrow.context.sink)
    (result : narrow'.result = .error (.io narrow.context.sink.refusal))
    (same : narrow'.events = narrow.events) : wide'.Cut narrow' := by
  obtain ⟨limit, hc⟩ := h.crossed
  obtain ⟨more, hmore⟩ := grown.held
  have hsize := congrArg List.length hmore
  simp only [List.length_append, Array.length_toList] at hsize
  refine ⟨⟨limit, ?_, ?_, ?_⟩, ?_, ?_⟩
  · rw [sink, hc.limit]
  · have := hc.exceeded
    omega
  · rw [sink, hc.held, ← hmore, List.take_append_of_le_length]
    have := hc.exceeded
    simp only [Array.length_toList]
    omega
  · rw [result, sink]
  · rw [same]
    exact h.events.trans events

theorem Run.Agrees.prepend {wide narrow : Run N (Machine M) α} (h : wide.Agrees narrow)
    (log : List (Entry N)) :
    Run.Agrees ⟨log ++ wide.log, wide.context, wide.result⟩
      ⟨log ++ narrow.log, narrow.context, narrow.result⟩ :=
  ⟨congrArg (log ++ ·) h.log, h.result, h.memory, h.sink⟩

theorem Run.Cut.prepend {wide narrow : Run N (Machine M) α} (h : wide.Cut narrow)
    (log : List (Entry N)) :
    Run.Cut ⟨log ++ wide.log, wide.context, wide.result⟩
      ⟨log ++ narrow.log, narrow.context, narrow.result⟩ where
  crossed := h.crossed
  result := h.result
  events := by
    simp only [Run.events, List.filterMap_append]
    exact (List.prefix_append_right_inj _).mpr h.events

/-- An action that writes to its sink through whole texts only, and looks at it in no other way. Two
    sinks with `Narrows` tell this: the runs on them agree, or the second is cut off. -/
structure Action.Confined (action : Action N (Machine M) α) : Prop where
  grown : ∀ machine : Machine M, machine.sink.Grown (action machine).context.sink
  beside : ∀ (memory : M) {wide narrow : Sink}, wide.Narrows narrow →
    (action ⟨memory, wide⟩).Agrees (action ⟨memory, narrow⟩) ∨
      (action ⟨memory, wide⟩).Cut (action ⟨memory, narrow⟩)

namespace Action

/-- An action that does not touch the sink: what it does is settled by `machine.memory`. -/
theorem confined_of_memory {action : Action N (Machine M) α} (log : M → List (Entry N))
    (after : M → M) (result : M → Except Fault α)
    (h : ∀ machine, action machine =
      ⟨log machine.memory, ⟨after machine.memory, machine.sink⟩, result machine.memory⟩) :
    action.Confined where
  grown := by
    intro machine
    rw [h]
    exact .refl _
  beside := by
    intro memory wide narrow hs
    rw [h, h]
    exact .inl ⟨rfl, rfl, rfl, hs⟩

theorem confined_pure (value : α) : (pure value : Action N (Machine M) α).Confined :=
  confined_of_memory (fun _ => []) id (fun _ => .ok value) fun _ => rfl

theorem confined_fail (fault : Fault) : (fail fault : Action N (Machine M) α).Confined :=
  confined_of_memory (fun _ => []) id (fun _ => .error fault) fun _ => rfl

theorem confined_report (event : Event) :
    (report event : Action N (Machine M) Unit).Confined :=
  confined_of_memory (fun _ => [.event event]) id (fun _ => .ok ()) fun _ => rfl

theorem confined_remember (f : M → M) : (Machine.remember f : Action N (Machine M) Unit).Confined :=
  confined_of_memory (fun _ => []) f (fun _ => .ok ()) fun _ => rfl

theorem confined_printLine (line : String) :
    (Machine.printLine line : Action N (Machine M) Unit).Confined where
  grown := fun machine => machine.sink.grown_writeAll _
  beside := by
    intro memory wide narrow hs
    rcases hs.writeAll (Sink.bytesOf (line ++ "\n")) with ⟨hafter, hresult⟩ | ⟨hcrossed, hresult⟩
    · exact .inl ⟨rfl, congrArg (Except.mapError Fault.io) hresult, rfl, hafter⟩
    · refine .inr ⟨hcrossed, ?_, List.prefix_rfl⟩
      have kept := Sink.refusal_congr (narrow.grown_writeAll (Sink.bytesOf (line ++ "\n"))).failure
      show Except.mapError Fault.io _ = Except.error (Fault.io (Sink.refusal _))
      rw [hresult]
      exact congrArg (fun error => Except.error (Fault.io error)) kept.symm

theorem confined_bind {first : Action N (Machine M) α} {next : α → Action N (Machine M) β}
    (hf : first.Confined) (hn : ∀ value, (next value).Confined) : (first >>= next).Confined where
  grown := by
    intro machine
    cases h : (first machine).result with
    | ok value =>
      rw [bind_of_ok h]
      exact (hf.grown machine).trans ((hn value).grown _)
    | error fault =>
      rw [bind_of_error h]
      exact hf.grown machine
  beside := by
    intro memory wide narrow hs
    rcases hf.beside memory hs with agrees | cut
    · cases h : (first ⟨memory, wide⟩).result with
      | ok value =>
        rw [bind_of_ok h, bind_of_ok (agrees.result.trans h), agrees.log, agrees.context]
        rcases (hn value).beside _ agrees.sink with h' | h'
        · exact .inl (h'.prepend _)
        · exact .inr (h'.prepend _)
      | error fault =>
        rw [bind_of_error h, bind_of_error (agrees.result.trans h)]
        exact .inl ⟨agrees.log, rfl, agrees.memory, agrees.sink⟩
    · right
      rw [bind_of_error cut.result]
      cases h : (first ⟨memory, wide⟩).result with
      | ok value =>
        rw [bind_of_ok h]
        exact cut.extend ((hn value).grown _) (Run.events_prefix (List.prefix_append _ _)) rfl rfl
          rfl
      | error fault =>
        rw [bind_of_error h]
        exact cut.extend (.refl _) List.prefix_rfl rfl rfl rfl

/-- After the first action, `recover` adds to the log and to the sink, if it does anything. -/
theorem recover_extends (first : Action N (Machine M) α)
    {handle : ArithError → Action N (Machine M) α} (hh : ∀ error, (handle error).Confined)
    (machine : Machine M) :
    (first machine).log <+: (first.recover handle machine).log ∧
      (first machine).context.sink.Grown (first.recover handle machine).context.sink := by
  cases h : (first machine).result with
  | ok value =>
    rw [recover_of_ok h]
    exact ⟨List.prefix_rfl, .refl _⟩
  | error fault =>
    cases fault with
    | io error =>
      rw [recover_of_io h]
      exact ⟨List.prefix_rfl, .refl _⟩
    | thrown error =>
      rw [recover_of_thrown h]
      exact ⟨List.prefix_append _ _, (hh error).grown _⟩

/-- A note may speak of `machine.memory`, not of the sink. -/
theorem confined_noting {action : Action N (Machine M) α} (h : action.Confined)
    (note : Except Fault α → M → N) :
    (action.noting fun outcome machine => note outcome machine.memory).Confined where
  grown := h.grown
  beside := by
    intro memory wide narrow hs
    rcases h.beside memory hs with agrees | cut
    · refine .inl ⟨?_, agrees.result, agrees.memory, agrees.sink⟩
      simp only [noting_run, agrees.log, agrees.result, agrees.memory]
    · refine .inr (cut.extend (.refl _) ?_ rfl cut.result ?_)
      · exact Run.events_prefix (List.prefix_append _ _)
      · simp [Run.events, noting_run, Entry.event?]

/-- Only thrown errors are seen by `recover`, so a first action that was cut off is not recovered
    from. -/
theorem confined_recover {first : Action N (Machine M) α}
    {handle : ArithError → Action N (Machine M) α} (hf : first.Confined)
    (hh : ∀ error, (handle error).Confined) : (first.recover handle).Confined where
  grown := by
    intro machine
    exact (hf.grown machine).trans (recover_extends first hh machine).2
  beside := by
    intro memory wide narrow hs
    rcases hf.beside memory hs with agrees | cut
    · cases h : (first ⟨memory, wide⟩).result with
      | ok value =>
        rw [recover_of_ok h, recover_of_ok (agrees.result.trans h)]
        exact .inl agrees
      | error fault =>
        cases fault with
        | io error =>
          rw [recover_of_io h, recover_of_io (agrees.result.trans h)]
          exact .inl agrees
        | thrown error =>
          rw [recover_of_thrown h, recover_of_thrown (agrees.result.trans h), agrees.log,
            agrees.context]
          rcases (hh error).beside _ agrees.sink with h' | h'
          · exact .inl (h'.prepend _)
          · exact .inr (h'.prepend _)
    · right
      rw [recover_of_io cut.result]
      have extended := recover_extends first hh ⟨memory, wide⟩
      exact cut.extend extended.2 (Run.events_prefix extended.1) rfl cut.result rfl

end Action

/-! ## Guarded blocks -/

namespace Block

theorem confined_dispatch {clauses : List (Clause N (Machine M))}
    (hc : ∀ clause ∈ clauses, ∀ error, (clause.handler error).Confined) (error : ArithError) :
    (dispatch clauses error : Action N (Machine M) (Ending α)).Confined := by
  unfold dispatch
  refine Action.confined_bind (Action.confined_report _) fun _ => ?_
  cases found : Clause.first? error.kind clauses with
  | none => exact Action.confined_bind (Action.confined_report _) fun _ => Action.confined_fail _
  | some pair =>
    obtain ⟨position, clause⟩ := pair
    refine Action.confined_bind (Action.confined_report _) fun _ => ?_
    refine Action.confined_bind (hc clause (Clause.first?_mem found) error) fun _ => ?_
    exact Action.confined_pure _

/-- A block is `Confined` if its body and its handlers are. -/
theorem confined_run {block : Block N (Machine M) α} (hb : block.body.Confined)
    (hc : ∀ clause ∈ block.clauses, ∀ error, (clause.handler error).Confined) :
    block.run.Confined := by
  refine Action.confined_recover ?_ (confined_dispatch hc)
  exact Action.confined_bind hb fun _ => Action.confined_pure _

end Block

end Guarded
