import Guarded.Sink

set_option autoImplicit false

/-! # Room in a sink

How much of a text a sink takes, its `room`, depends on `limit` and on what it holds, and on nothing
else: `chunk` and `interrupts` change how many calls are needed, and no more. `Wrote` is all that is
said of `writeAll` elsewhere. -/

namespace Guarded.Sink

/-- The error that a full sink gives to a writer: its own, or `stalled`. -/
def refusal (sink : Sink) : IoError :=
  match sink.failure with
  | .error error => error
  | .takesNothing => stalled

/-- How many of the offered bytes the sink takes before it is full: what is left of `limit`,
    whatever `chunk` and `interrupts` are. -/
def room (sink : Sink) (offered : Nat) : Nat :=
  match sink.limit with
  | some limit => min offered (limit - sink.held.size)
  | none => offered

/-! ## One call -/

theorem room_le (sink : Sink) (offered : Nat) : sink.room offered ≤ offered := by
  unfold room
  split <;> omega

theorem room_of_isFull {sink : Sink} (h : sink.isFull = true) (offered : Nat) :
    sink.room offered = 0 := by
  unfold isFull at h
  unfold room
  split <;> simp_all

theorem share_le_room (sink : Sink) (offered : Nat) : sink.share offered ≤ sink.room offered := by
  obtain ⟨limit, chunk, _, _, _⟩ := sink
  cases limit <;> cases chunk <;> simp only [share, room] <;> omega

/-- A sink that is not full takes at least one byte of those that are offered, since `chunk` is
    positive. -/
theorem share_pos {sink : Sink} (h : sink.isFull = false) {offered : Nat} (positive : 0 < offered) :
    0 < sink.share offered := by
  have chunk_pos : ∀ chunk, sink.chunk = some chunk → 0 < chunk.val := fun chunk _ => chunk.property
  unfold isFull at h
  unfold share
  grind

/-- The three answers of `write`, told apart by what the sink does next. -/
theorem write_cases (sink : Sink) (bytes : List UInt8) :
    (∃ left, sink.interrupts = left + 1 ∧
        sink.write bytes = ({ sink with interrupts := left }, .interrupted)) ∨
      (sink.interrupts = 0 ∧ sink.isFull = true ∧
        sink.write bytes = (sink, match sink.failure with
          | .error error => .failed error
          | .takesNothing => .accepted 0)) ∨
      (sink.interrupts = 0 ∧ sink.isFull = false ∧
        sink.write bytes =
          ({ sink with held := sink.held ++ bytes.take (sink.share bytes.length) },
            .accepted (sink.share bytes.length))) := by
  unfold write
  split
  · rename_i left same
    exact .inl ⟨left, same, rfl⟩
  · rename_i none
    refine .inr ?_
    by_cases full : sink.isFull
    · refine .inl ⟨none, full, ?_⟩
      rw [if_pos full]
      cases sink.failure <;> rfl
    · refine .inr ⟨none, by simpa using full, ?_⟩
      rw [if_neg full]

theorem size_append_take (held : Array UInt8) (bytes : List UInt8) (count : Nat) :
    (held ++ bytes.take count).size = held.size + min count bytes.length := by
  rw [← Array.length_toList, Array.toList_appendList]
  simp

/-- After a call that takes `count` bytes there is `count` less room. -/
theorem room_push {sink : Sink} {bytes : List UInt8} {count : Nat}
    (h : count ≤ sink.room bytes.length) :
    ({ sink with held := sink.held ++ bytes.take count } : Sink).room (bytes.length - count) =
      sink.room bytes.length - count := by
  have bound := Nat.le_trans h (sink.room_le bytes.length)
  obtain ⟨limit, _, _, _, held⟩ := sink
  cases limit with
  | none => rfl
  | some limit =>
    simp only [room, size_append_take] at *
    omega

/-! ## Whole texts -/

/-- What becomes of `bytes`: the sink holds as many of them as there is `room` for, and the writer
    gets `refusal` if that is not all. Neither `chunk` nor `interrupts` occurs. -/
structure Wrote (sink : Sink) (bytes : List UInt8) (after : Sink) (result : Except IoError Unit) :
    Prop where
  held : after.held.toList = sink.held.toList ++ bytes.take (sink.room bytes.length)
  limit : after.limit = sink.limit
  failure : after.failure = sink.failure
  result : result =
    if sink.room bytes.length = bytes.length then .ok () else .error sink.refusal

theorem wrote_nil (sink : Sink) : Wrote sink [] sink (.ok ()) := by
  have none : sink.room 0 = 0 := Nat.le_zero.mp (sink.room_le 0)
  exact ⟨by simp, rfl, rfl, by simp [none]⟩

theorem wrote_writeAll (sink : Sink) (bytes : List UInt8) :
    Wrote sink bytes (sink.writeAll bytes).1 (sink.writeAll bytes).2 := by
  fun_induction writeAll sink bytes with
  | case1 sink => exact sink.wrote_nil
  | case2 sink byte rest after call ih =>
    rcases sink.write_cases (byte :: rest) with ⟨left, _, this⟩ | ⟨_, _, this⟩ | ⟨_, _, this⟩
    · rw [this, Prod.mk.injEq] at call
      rw [← call.1] at ih ⊢
      exact ⟨ih.held, ih.limit, ih.failure, ih.result⟩
    · rw [this, Prod.mk.injEq] at call
      split at call <;> simp at call
    · simp [this] at call
  | case3 sink byte rest after error call =>
    rcases sink.write_cases (byte :: rest) with ⟨left, _, this⟩ | ⟨_, full, this⟩ | ⟨_, _, this⟩
    · simp [this] at call
    · rw [this, Prod.mk.injEq] at call
      obtain ⟨rfl, failed⟩ := call
      have refused : sink.refusal = error := by
        unfold refusal
        split at failed <;> simp_all
      exact ⟨by simp [room_of_isFull full], rfl, rfl, by simp [room_of_isFull full, refused]⟩
    · simp [this] at call
  | case4 sink byte rest after call =>
    rcases sink.write_cases (byte :: rest) with ⟨left, _, this⟩ | ⟨_, full, this⟩ | ⟨_, free, this⟩
    · simp [this] at call
    · rw [this, Prod.mk.injEq] at call
      obtain ⟨rfl, failed⟩ := call
      have refused : sink.refusal = stalled := by
        unfold refusal
        split at failed <;> simp_all
      exact ⟨by simp [room_of_isFull full], rfl, rfl, by simp [room_of_isFull full, refused]⟩
    · simp only [this, Prod.mk.injEq, Reply.accepted.injEq] at call
      have := share_pos free (show 0 < (byte :: rest).length by simp)
      omega
  | case5 sink byte rest after count call ih =>
    rcases sink.write_cases (byte :: rest) with ⟨left, _, this⟩ | ⟨_, full, this⟩ | ⟨_, free, this⟩
    · simp [this] at call
    · rw [this, Prod.mk.injEq] at call
      split at call <;> simp at call
    · simp only [this, Prod.mk.injEq, Reply.accepted.injEq] at call
      obtain ⟨rfl, taken⟩ := call
      have fits := sink.share_le_room (byte :: rest).length
      rw [taken] at fits ih ⊢
      have less := room_push fits
      rw [← List.length_drop] at less
      have whole := sink.room_le (byte :: rest).length
      refine ⟨?_, ih.limit, ih.failure, ?_⟩
      · rw [ih.held, less, Array.toList_appendList, List.append_assoc, ← List.take_add]
        congr 2
        omega
      · rw [ih.result, less, List.length_drop]
        have same : sink.room (byte :: rest).length - (count + 1) =
            (byte :: rest).length - (count + 1) ↔
            sink.room (byte :: rest).length = (byte :: rest).length := by omega
        simp only [same]
        rfl

theorem refusal_congr {sink other : Sink} (h : other.failure = sink.failure) :
    other.refusal = sink.refusal := by
  unfold refusal
  rw [h]

/-! ## One text after another -/

namespace Wrote

variable {sink middle after : Sink} {bytes first second : List UInt8}
  {result result' : Except IoError Unit}

theorem size (wrote : Wrote sink bytes after result) :
    after.held.size = sink.held.size + sink.room bytes.length := by
  have held := congrArg List.length wrote.held
  have bound := sink.room_le bytes.length
  simp only [Array.length_toList, List.length_append, List.length_take] at held
  omega

/-- A text takes up the room that there is for it and leaves the rest to the next one, of `offered`
    bytes. -/
theorem room (wrote : Wrote sink bytes after result) (offered : Nat) :
    sink.room (bytes.length + offered) = sink.room bytes.length + after.room offered := by
  have size := wrote.size
  unfold Sink.room at *
  rw [wrote.limit]
  cases h : sink.limit with
  | none => rfl
  | some limit =>
    simp only [h] at size ⊢
    omega

theorem full (wrote : Wrote sink bytes after result)
    (short : sink.room bytes.length ≠ bytes.length) (offered : Nat) : after.room offered = 0 := by
  have size := wrote.size
  unfold Sink.room at *
  rw [wrote.limit]
  cases h : sink.limit with
  | none => simp [h] at short
  | some limit =>
    simp only [h] at size short ⊢
    omega

/-- Two texts one after the other are one text, `first ++ second`. The fault of the first is the
    fault of both; the sink has no room for `second` then, so nothing is said of whether that is
    tried. -/
theorem append (wrote : Wrote sink first middle result)
    (wrote' : Wrote middle second after result') :
    Wrote sink (first ++ second) after (result >>= fun _ => result') := by
  have room := wrote.room second.length
  rw [← List.length_append] at room
  by_cases whole : sink.room first.length = first.length
  · refine ⟨?_, wrote'.limit.trans wrote.limit, wrote'.failure.trans wrote.failure, ?_⟩
    · rw [wrote'.held, wrote.held, room, whole, List.take_length_add_append, List.take_length,
        List.append_assoc]
    · rw [wrote.result, if_pos whole, wrote'.result, refusal_congr wrote.failure, room, whole,
        List.length_append]
      simp only [Nat.add_left_cancel_iff]
      rfl
  · have none := wrote.full whole second.length
    have short := Nat.lt_of_le_of_ne (sink.room_le first.length) whole
    refine ⟨?_, wrote'.limit.trans wrote.limit, wrote'.failure.trans wrote.failure, ?_⟩
    · rw [wrote'.held, wrote.held, room, none, List.take_zero, List.append_nil, Nat.add_zero,
        List.take_append_of_le_length (Nat.le_of_lt short)]
    · rw [wrote.result, if_neg whole, if_neg (by rw [room, none, List.length_append]; omega)]
      rfl

/-- A text that was not taken whole may as well be the beginning of a longer one,
    `first ++ second`. -/
theorem stop {error : IoError} (wrote : Wrote sink first middle (.error error))
    (second : List UInt8) : Wrote sink (first ++ second) middle (.error error) := by
  have short : sink.room first.length ≠ first.length := by
    intro whole
    have ended := wrote.result
    rw [if_pos whole] at ended
    cases ended
  have none := wrote.full short second.length
  exact wrote.append ⟨by simp [none], rfl, rfl, rfl⟩

end Wrote

end Guarded.Sink
