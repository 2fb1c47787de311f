import Guarded.Action

set_option autoImplicit false

/-! # Sinks

A sink takes bytes until it is full. How many bytes it takes in one call of `Sink.write`, and how
many calls are interrupted before it begins to take any, are its own affair: whoever writes a whole
text, by `Sink.writeAll`, repeats the call until everything is taken, and then neither can be told
from what the sink holds. -/

namespace Guarded

/-! ## One call -/

/-- What a full sink does with bytes that are offered to it. -/
inductive Sink.Failure where
  /-- It answers with an error. -/
  | error (error : IoError)
  /-- It takes none of them. -/
  | takesNothing
  deriving DecidableEq, Repr, Inhabited

/-- The failure of a sink of which nothing more is known. -/
def Sink.Failure.closed : Sink.Failure := .error ⟨.brokenPipe, "closed"⟩

/-- A sink and what it holds. It is full when `held` has reached `limit`; `none` is no limit. -/
structure Sink where
  /-- How many bytes it holds when it is full. -/
  limit : Option Nat := none
  /-- How many bytes it takes in one call, at least one. -/
  chunk : Option { count : Nat // 0 < count } := none
  /-- How many more calls are interrupted. -/
  interrupts : Nat := 0
  failure : Sink.Failure := .closed
  /-- The bytes that it took so far. -/
  held : Array UInt8 := #[]
  deriving DecidableEq

namespace Sink

/-- The answer to one call. -/
inductive Reply where
  | interrupted
  | accepted (count : Nat)
  | failed (error : IoError)
  deriving DecidableEq, Repr, Inhabited

/-- A sink is full when `held` has as many bytes as `limit` allows. -/
def isFull (sink : Sink) : Bool :=
  match sink.limit with
  | some limit => limit ≤ sink.held.size
  | none => false

/-- How many of the offered bytes one call takes, of a sink that is not full: what is left of
    `limit`, and at most `chunk`. -/
def share (sink : Sink) (offered : Nat) : Nat :=
  let inChunk := match sink.chunk with
    | some chunk => min offered chunk.val
    | none => offered
  match sink.limit with
  | some limit => min inChunk (limit - sink.held.size)
  | none => inChunk

/-- Offer bytes to the sink, once. An interrupted call takes nothing and leaves one interruption
    less. -/
def write (sink : Sink) (bytes : List UInt8) : Sink × Reply :=
  match sink.interrupts with
  | left + 1 => ({ sink with interrupts := left }, .interrupted)
  | 0 =>
    if sink.isFull then
      match sink.failure with
      | .error error => (sink, .failed error)
      | .takesNothing => (sink, .accepted 0)
    else
      let count := sink.share bytes.length
      ({ sink with held := sink.held ++ bytes.take count }, .accepted count)

theorem interrupts_lt_of_interrupted {sink after : Sink} {bytes : List UInt8}
    (h : sink.write bytes = (after, .interrupted)) : after.interrupts < sink.interrupts := by
  unfold write at h
  split at h
  · rename_i left hleft
    simp only [Prod.mk.injEq, and_true] at h
    subst h
    simp [hleft]
  · split at h
    · split at h <;> simp at h
    · simp at h

theorem interrupts_eq_of_accepted {sink after : Sink} {bytes : List UInt8} {count : Nat}
    (h : sink.write bytes = (after, .accepted count)) : after.interrupts = sink.interrupts := by
  unfold write at h
  split at h
  · simp at h
  · split at h
    · split at h
      · simp at h
      · simp only [Prod.mk.injEq] at h
        rw [← h.1]
    · simp only [Prod.mk.injEq] at h
      rw [← h.1]

/-! ## Whole texts -/

/-- The error of a writer whose sink answers `accepted 0`. -/
def stalled : IoError := ⟨.writeZero, "failed to write whole buffer"⟩

/-- Offer bytes until the sink has taken all of them. An `interrupted` call is repeated, a call that
    takes a part is followed by one with the rest, and `accepted 0` is the error `stalled`. -/
def writeAll (sink : Sink) : List UInt8 → Sink × Except IoError Unit
  | [] => (sink, .ok ())
  | byte :: rest =>
    match call : sink.write (byte :: rest) with
    | (after, .interrupted) => writeAll after (byte :: rest)
    | (after, .failed error) => (after, .error error)
    | (after, .accepted 0) => (after, .error stalled)
    | (after, .accepted (count + 1)) => writeAll after ((byte :: rest).drop (count + 1))
  termination_by bytes => (sink.interrupts, bytes.length)
  decreasing_by
    · exact Prod.Lex.left _ _ (interrupts_lt_of_interrupted call)
    · rw [interrupts_eq_of_accepted call]
      exact Prod.Lex.right _ (by simp only [List.length_drop, List.length_cons]; omega)

/-- The bytes of a text in UTF-8. -/
def bytesOf (text : String) : List UInt8 := text.toUTF8.data.toList

end Sink

/-! ## Programs that print -/

/-- The context of a program that prints: what it remembers, of type `M`, and the sink that it
    prints to. -/
structure Machine (M : Type) where
  memory : M
  sink : Sink

/-- Print `line` and the `\n` that ends it. What the sink refuses is a `Fault.io`, and the part that
    it took stays. -/
def Machine.printLine {N M : Type} (line : String) : Action N (Machine M) Unit := fun machine =>
  let (sink, result) := machine.sink.writeAll (Sink.bytesOf (line ++ "\n"))
  ⟨[], { machine with sink }, result.mapError .io⟩

theorem Machine.printLine_run {N M : Type} (line : String) (machine : Machine M) :
    (Machine.printLine line : Action N (Machine M) Unit) machine =
      ⟨[], { machine with sink := (machine.sink.writeAll (Sink.bytesOf (line ++ "\n"))).1 },
        (machine.sink.writeAll (Sink.bytesOf (line ++ "\n"))).2.mapError .io⟩ := rfl

/-- Change what the program remembers by `f`; the sink stays. -/
def Machine.remember {N M : Type} (f : M → M) : Action N (Machine M) Unit :=
  Action.change fun machine => { machine with memory := f machine.memory }

end Guarded
