import Guarded.Proofs.Script.Invariant
import Guarded.Proofs.Sink.Limit

set_option autoImplicit false

/-! # Scripts on a sink with a limit

Every script is `Confined` to whole texts in its use of the sink, at any depth of blocks and loops.
So a script on a sink with a limit either does exactly what it does without one, or it ends with the
fault of the sink, in the middle of the text that crossed the limit.

Main statement: `answer_of_limit`. -/

namespace Guarded.Script

/-- Nothing that a script is made of uses the sink in any other way than by printing: every step is
    `Confined`. -/
theorem invariant_confined : Invariant fun _ {_} step => Action.Confined step where
  pure _ _ value := Action.confined_pure value
  bind hf hn := Action.confined_bind hf hn
  fail _ _ _ fault := Action.confined_fail fault
  eval _ _ expr := Action.confined_of_memory (fun memory => (expr.eval memory).events.map .event) id
    (fun memory => (expr.eval memory).result.mapError .thrown) (Step.eval_run expr)
  setVar _ _ name value := Action.confined_remember fun memory : Memory => memory.setVar name value
  printLine _ _ line := Action.confined_printLine line
  noting position _ h := Action.confined_noting h fun outcome memory =>
    ⟨_ ++ [position], outcome, memory.vars⟩
  guarded hb hc := Block.confined_run hb hc

/-- A script on two sinks that hold nothing, of which the first has the `limit` of the second or
    none. -/
theorem run_beside (script : Script) (memory : Memory) (limit bound : Option Nat)
    (h : limit = none ∨ limit = bound) (failure : Sink.Failure)
    (chunk chunk' : Option { count : Nat // 0 < count }) (interrupts interrupts' : Nat) :
    (script.run memory { limit, chunk, interrupts, failure }).Agrees
        (script.run memory
          { limit := bound, chunk := chunk', interrupts := interrupts', failure }) ∨
      (script.run memory { limit, chunk, interrupts, failure }).Cut
        (script.run memory
          { limit := bound, chunk := chunk', interrupts := interrupts', failure }) :=
  (invariant_confined.script script).beside memory ⟨rfl, rfl, h, fun _ _ => Nat.zero_le _⟩

/-- A sink keeps its limit and its failure, and never holds more than its limit allows: it has
    `Grown`. -/
theorem run_grown (script : Script) (memory : Memory) (sink : Sink) :
    sink.Grown (script.run memory sink).context.sink :=
  (invariant_confined.script script).grown ⟨memory, sink⟩

theorem answer_of_agrees {script : Script} {memory : Memory} {wide narrow : Sink}
    (h : (script.run memory wide).Agrees (script.run memory narrow)) :
    script.answer memory narrow = script.answer memory wide := by
  simp only [answer, h.result, h.memory, h.log, h.sink.held]

/-- Of a sink, only `limit` and `failure` show in the answer. -/
theorem answer_of_same_limit (script : Script) (memory : Memory) (limit : Option Nat)
    (failure : Sink.Failure) (chunk chunk' : Option { count : Nat // 0 < count })
    (interrupts interrupts' : Nat) :
    script.answer memory { limit, chunk := chunk', interrupts := interrupts', failure } =
      script.answer memory { limit, chunk, interrupts, failure } := by
  rcases script.run_beside memory limit limit (.inr rfl) failure chunk chunk' interrupts
    interrupts' with agrees | cut
  · exact answer_of_agrees agrees
  · -- the first sink would hold more than the limit that it has itself
    obtain ⟨bound, hc⟩ := cut.crossed
    have hwide := script.run_grown memory { limit, chunk, interrupts, failure }
    have hnarrow := script.run_grown memory
      { limit, chunk := chunk', interrupts := interrupts', failure }
    have hle := hwide.fits bound (hnarrow.limit.symm.trans hc.limit) (Nat.zero_le _)
    exact absurd hc.exceeded (Nat.not_lt.mpr hle)

/-- **The law of the limit.** A script on a sink with a `limit` writes what it writes on a sink
    without one, as far as the limit. If that is all of it, the answers are the same; if not, the
    script ends with the `refusal` of the sink, after events that are the first ones of the other
    run. The size of the `chunk` and the `interrupts` never show. -/
theorem answer_of_limit (script : Script) (memory : Memory) (limit : Nat) (failure : Sink.Failure)
    (chunk chunk' : Option { count : Nat // 0 < count }) (interrupts interrupts' : Nat) :
    let free := script.answer memory { chunk, interrupts, failure }
    let bounded := script.answer memory
      { limit := some limit, chunk := chunk', interrupts := interrupts', failure }
    bounded.output = free.output.take (min limit free.output.length) ∧
      (free.output.length ≤ limit → bounded = free) ∧
      (limit < free.output.length →
        bounded.result = .error (.io ({ failure } : Sink).refusal) ∧
          bounded.events <+: free.events) ∧
      ∀ bound : Option Nat,
        script.answer memory
            { limit := bound, chunk := chunk', interrupts := interrupts', failure } =
          script.answer memory { limit := bound, chunk, interrupts, failure } := by
  intro free bounded
  have hsame := fun bound =>
    script.answer_of_same_limit memory bound failure chunk chunk' interrupts interrupts'
  have hgrown := script.run_grown memory
    { limit := some limit, chunk := chunk', interrupts := interrupts', failure }
  have hfits : bounded.output.length ≤ limit := hgrown.fits limit rfl (Nat.zero_le _)
  rcases script.run_beside memory none (some limit) (.inl rfl) failure chunk chunk' interrupts
    interrupts' with agrees | cut
  · have heq : bounded = free := answer_of_agrees agrees
    rw [heq] at hfits ⊢
    refine ⟨?_, fun _ => rfl, fun hover => absurd hover (Nat.not_lt.mpr hfits), hsame⟩
    rw [Nat.min_eq_right hfits, List.take_length]
  · obtain ⟨bound, hc⟩ := cut.crossed
    have hbound : bound = limit := Option.some.inj (hc.limit.symm.trans hgrown.limit)
    have hover : limit < free.output.length := hbound ▸ hc.exceeded
    refine ⟨?_, fun hle => absurd hover (Nat.not_lt.mpr hle), fun _ => ⟨?_, cut.events⟩, hsame⟩
    · rw [Nat.min_eq_left (Nat.le_of_lt hover), ← hbound]
      exact hc.held
    · exact cut.result.trans (by rw [Sink.refusal_congr hgrown.failure]; rfl)

end Guarded.Script
